import TagGuard.Proofs.Catalog.Enabled
import TagGuard.Proofs.Formula.Parse

namespace TagGuard

open Formula Text

namespace Rule

variable {r : Rule} {limits : Limits} {f : Formula}

-- The limits within which a rule was read do not show in it.
theorem ofSource_source (h : parse r.source limits = .ok f) : ofSource r.source limits = .ok r := by
  have ⟨_, hr⟩ := r.parsed
  obtain rfl := isExpression_unique (parse_eq_ok_iff.mp h).right (parse_eq_ok_iff.mp hr).right
  exact ofSource_of_parse_eq_ok h

end Rule

namespace Catalog

variable {c : Catalog} {entries : List (String × Rule)} {sources sources' : List (String × String)}
  {p : String × String} {name source : String} {rule : Rule} {e : SyntaxError}
  {a : Except DecodeError Catalog}

-- The document of plugins with these names and sources.

def memberOf (p : String × String) : String × Document :=
  (p.1, .record [("source", .text p.2)])

def documentOf (sources : List (String × String)) : Document :=
  .record [("plugins", .record (sources.map memberOf))]

-- What there is to be answered where plugins with these names and sources are read: a catalog with
-- all of them, or what is wrong with the first one, by its name, that is not well-formed.
inductive Restored (sources : List (String × String)) : Except DecodeError Catalog → Prop
  | all {c : Catalog} : (∀ p ∈ sources, ∃ f, parse p.2 = .ok f) →
    (∀ n rule, c.find? n = some rule ↔
      ∃ source, (n, source) ∈ sources ∧ Rule.ofSource source = .ok rule) →
    Restored sources (.ok c)
  | first {n source : String} {e : SyntaxError} :
    (n, source) ∈ sources → parse source = .error e →
    (∀ p ∈ sources, p.1 < n → ∃ f, parse p.2 = .ok f) →
    Restored sources (.error (.malformed e))

theorem Restored.of_perm (h : Restored sources a) (hp : sources.Perm sources') :
    Restored sources' a := by
  cases h
  case all ho hc =>
    exact .all (fun p hm => ho p (hp.mem_iff.mpr hm)) (by simpa only [hp.mem_iff] using hc)
  case first hm he hl =>
    exact .first (hp.mem_iff.mp hm) he fun p hm => hl p (hp.mem_iff.mpr hm)

theorem Restored.exists_eq_ok_iff (h : Restored sources a) :
    (∃ c, a = .ok c) ↔ ∀ p ∈ sources, ∃ f, parse p.2 = .ok f := by
  cases h
  case all ho _ => exact iff_of_true ⟨_, rfl⟩ ho
  case first hm he _ =>
    refine iff_of_false nofun fun ho => ?_
    have ⟨_, ho⟩ := ho _ hm
    exact nomatch he.symm.trans ho

theorem Restored.find?_eq_some_iff (h : Restored sources (.ok c)) {n : String} :
    c.find? n = some rule ↔
      ∃ source, (n, source) ∈ sources ∧ Rule.ofSource source = .ok rule := by
  cases h
  case all hc => exact hc n rule

theorem Restored.exists_first {e : DecodeError} (h : Restored sources (.error e)) :
    ∃ n source error, (n, source) ∈ sources ∧ parse source = .error error ∧
      (∀ p ∈ sources, bytes p.1 < bytes n → ∃ f, parse p.2 = .ok f) ∧ e = .malformed error ∧
      e.message = some ("Failed to parse expression: " ++ error.message) := by
  cases h
  case first hm he hl =>
    exact ⟨_, _, _, hm, he, fun p hp lt => hl p hp (bytes_lt_bytes_iff.mp lt), rfl, rfl⟩

theorem ofDocument_documentOf :
    ofDocument (documentOf sources) = ofMembers (byName (sources.map memberOf)) := by
  have h : ofDocument (documentOf sources) =
    ofMembers (byName (sources.map memberOf)) >>= pure := rfl
  rw [h, bind_pure]

theorem value_ofMembers_cons : (ofMembers ((p :: sources).map memberOf)).run.value =
    match Rule.ofSource p.2 with
    | .ok rule => (ofMembers (sources.map memberOf)).run.value.map (·.insert p.1 rule)
    | .error e => .error (.malformed e) := by
  have h : (Rule.ofDocument (memberOf p).2).run.value = (Rule.ofSource p.2).mapError .malformed :=
    rfl
  simp only [List.map_cons, memberOf, ofMembers, ExceptT.run_bind, Logged.value_bind] at h ⊢
  rw [h]
  cases Rule.ofSource p.2
  case error => rfl
  case ok    =>
    simp only [Except.mapError, Logged.value_bind]
    cases (ofMembers _).run.value <;> rfl

-- Reading one more plugin, whose name comes before all others.

theorem Restored.cons_of_error (hn : ∀ p ∈ sources, name < p.1)
    (hs : Rule.ofSource source = .error e) :
    Restored ((name, source) :: sources) (.error (.malformed e)) := by
  refine .first List.mem_cons_self (Rule.ofSource_eq_error_iff.mp hs) ?_
  refine List.forall_mem_cons.mpr ⟨fun lt => ?_, fun p hp lt => ?_⟩
  · exact absurd lt (lt_irrefl _)
  · exact absurd lt (hn p hp).asymm

theorem Restored.cons_of_ok (hn : ∀ p ∈ sources, name < p.1) (hs : Rule.ofSource source = .ok rule)
    (h : Restored sources a) :
    Restored ((name, source) :: sources) (a.map (·.insert name rule)) := by
  have hp : ∃ f, parse source = .ok f := ⟨_, Rule.parse_of_ofSource hs⟩
  cases h
  case all c ho hc =>
    have hm (s : String) : (name, s) ∉ sources := fun hm => lt_irrefl name (hn (name, s) hm)
    refine .all (List.forall_mem_cons.mpr ⟨hp, ho⟩) fun n rule' => ?_
    rw [find?_insert]
    split_ifs with h
    case pos => subst h; simp [hm, hs]
    case neg => simp [hc, Ne.symm h]
  case first hm he hl =>
    exact .first (List.mem_cons_of_mem _ hm) he (List.forall_mem_cons.mpr ⟨fun _ => hp, hl⟩)

theorem restored_of_pairwise (h : sources.Pairwise (·.1 < ·.1)) :
    Restored sources (ofMembers (sources.map memberOf)).run.value := by
  induction sources
  case nil            => exact .all (by simp) (by simp)
  case cons p r hi =>
    have ⟨hn, hr⟩ := List.pairwise_cons.mp h
    rw [value_ofMembers_cons]
    cases hs : Rule.ofSource p.2
    case error => exact .cons_of_error hn hs
    case ok    => exact .cons_of_ok hn hs (hi hr)

theorem exists_sorted (h : (sources.map (·.1)).Nodup) : ∃ sorted : List (String × String),
    sorted.Perm sources ∧ sorted.Pairwise (·.1 < ·.1) ∧
      byName (sources.map memberOf) = sorted.map memberOf := by
  have isLE_iff {m n : String} : (compare m n).isLE ↔ m ≤ n := by
    rw [← not_lt, ← compare_gt_iff_gt]
    cases compare m n <;> simp
  let le (p q : String × String) : Bool := (compare p.1 q.1).isLE
  have hs : (sources.mergeSort le).Pairwise (le · ·) := by
    apply List.pairwise_mergeSort
    · simp only [le, isLE_iff]
      exact fun _ _ _ => le_trans
    · simp only [le, Bool.or_eq_true, isLE_iff]
      exact fun p q => le_total p.1 q.1
  have hp : (sources.mergeSort le).Perm sources := List.mergeSort_perm ..
  have hn : (sources.mergeSort le).Pairwise (·.1 ≠ ·.1) :=
    List.pairwise_map.mp ((hp.map _).nodup_iff.mpr h)
  refine ⟨_, hp, hs.imp₂ (fun _ _ hl hne => lt_of_le_of_ne (isLE_iff.mp hl) hne) hn, ?_⟩
  rw [byName, List.map_mergeSort]
  exact fun _ _ _ _ => rfl

theorem restored (h : (sources.map (·.1)).Nodup) :
    Restored sources (ofDocument (documentOf sources)).run.value := by
  have ⟨sorted, hp, hs, he⟩ := exists_sorted h
  rw [ofDocument_documentOf, he]
  exact (restored_of_pairwise hs).of_perm hp

-- The names of the entries with the sources of their rules.
def sourcesOf (entries : List (String × Rule)) : List (String × String) :=
  entries.map fun (name, rule) => (name, rule.source)

theorem toDocument_eq_documentOf : c.toDocument = documentOf (sourcesOf c.rules.toList) := by
  simp [toDocument, documentOf, sourcesOf, memberOf, Rule.toDocument]

theorem Lists.mem_sourcesOf_iff (h : c.Lists entries) {n source : String} :
    (n, source) ∈ sourcesOf entries ↔ ∃ rule, c.find? n = some rule ∧ rule.source = source := by
  simp [sourcesOf, ← h.mem_iff]

-- Whatever the order in which the plugins are stored, they are all restored.
theorem Lists.exists_ofDocument (h : c.Lists entries)
    (hs : ∀ n rule, c.find? n = some rule → ∃ f, parse rule.source = .ok f) :
    ∃ d, (ofDocument (documentOf (sourcesOf entries))).run.value = .ok d ∧
      ∀ n, d.find? n = c.find? n := by
  have hn : ((sourcesOf entries).map (·.1)).Nodup := by
    simpa [sourcesOf, Function.comp_def] using h.nodup
  have hr := restored hn
  have ⟨d, hd⟩ := hr.exists_eq_ok_iff.mpr fun p hm => by
    have ⟨rule, hf, he⟩ := h.mem_sourcesOf_iff.mp hm
    exact he ▸ hs _ rule hf
  rw [hd] at hr
  refine ⟨d, hd, fun n => Option.ext fun rule => ?_⟩
  rw [hr.find?_eq_some_iff]
  constructor
  case mp =>
    intro ⟨_, hm, ho⟩
    have ⟨rule', hf, he⟩ := h.mem_sourcesOf_iff.mp hm
    have ⟨_, hp⟩ := hs n rule' hf
    obtain rfl := Except.ok.inj ((Rule.ofSource_source hp).symm.trans (he ▸ ho))
    exact hf
  case mpr =>
    intro hf
    have ⟨_, hp⟩ := hs n rule hf
    exact ⟨_, h.mem_sourcesOf_iff.mpr ⟨rule, hf, rfl⟩, Rule.ofSource_source hp⟩

theorem exists_ofDocument_toDocument
    (hs : ∀ n rule, c.find? n = some rule → ∃ f, parse rule.source = .ok f) :
    ∃ d, (ofDocument c.toDocument).run.value = .ok d ∧ (∀ n, d.find? n = c.find? n) ∧
      (∀ n ts, d.isEnabled n ts = c.isEnabled n ts) ∧ ∀ ts, d.enabled ts = c.enabled ts := by
  rw [toDocument_eq_documentOf]
  have ⟨d, hd, hf⟩ := lists_toList.exists_ofDocument hs
  refine ⟨d, hd, hf, fun n ts => ?_, fun ts => enabled_eq_of_find?_eq hf⟩
  rw [isEnabled, isEnabled, hf]

-- After every session the catalog can be stored and read back if the default limits are enough for
-- its sources, and answers as before. A document is read as a whole, or it shows what is wrong with
-- the first source, by the names' bytes, that is not well-formed.
theorem restored_from_document :
    (∀ qs, (∀ n rule, (after qs).find? n = some rule → ∃ f, parse rule.source = .ok f) →
      ∃ c, (ofDocument (after qs).toDocument).run.value = .ok c ∧
        (∀ n, c.find? n = (after qs).find? n) ∧
        (∀ n ts, c.isEnabled n ts = (after qs).isEnabled n ts) ∧
        ∀ ts, c.enabled ts = (after qs).enabled ts) ∧
    ∀ sources, (sources.map (·.1)).Nodup →
      ((∃ c, (ofDocument (documentOf sources)).run.value = .ok c) ↔
        ∀ p ∈ sources, ∃ f, parse p.2 = .ok f) ∧
      (∀ c, (ofDocument (documentOf sources)).run.value = .ok c → ∀ n rule,
        c.find? n = some rule ↔
          ∃ source, (n, source) ∈ sources ∧ Rule.ofSource source = .ok rule) ∧
      ∀ e, (ofDocument (documentOf sources)).run.value = .error e →
        ∃ n source error, (n, source) ∈ sources ∧ parse source = .error error ∧
          (∀ p ∈ sources, bytes p.1 < bytes n → ∃ f, parse p.2 = .ok f) ∧
          e = .malformed error ∧
          e.message = some ("Failed to parse expression: " ++ error.message) := by
  refine ⟨fun qs => exists_ofDocument_toDocument, fun sources hn => ?_⟩
  have hr := restored hn
  exact ⟨hr.exists_eq_ok_iff, fun c hc n rule => (hc ▸ hr).find?_eq_some_iff,
    fun e he => (he ▸ hr).exists_first⟩

-- A rule that was read within other limits is restored, and of two sources that are not well-formed
-- the one with the lesser name is reported, although it comes last.
theorem restored_from_document_lesser_name :
    (∃ c, (ofDocument (after [.addWithin { maxDepth := 1 } "p" "!A"]).toDocument).run.value =
      .ok c ∧ c.enabled none = ["p"]) ∧
    ∃ e, (ofDocument (documentOf [("p", "("), ("o", "A.")])).run.value = .error e ∧
      e.message = some "Failed to parse expression: 2: Expected \"term\" but found \"EOF\"" := by
  obtain ⟨stored, read⟩ := restored_from_document
  constructor
  · have hq : ∀ q ∈ [Request.addWithin { maxDepth := 1 } "p" "!A"], q.IsAddition := by
      simp [Request.IsAddition]
    have hp : parse "!A" { maxDepth := 1 } = .ok (.not (.word "A")) := by decide +kernel
    have ho := Rule.ofSource_of_parse_eq_ok (r := ⟨_, _, _, hp⟩) hp
    obtain ⟨c, hc, _, _, he⟩ := stored [.addWithin { maxDepth := 1 } "p" "!A"] fun n rule h => by
      rw [after, find?_run_of_isAddition hq] at h
      obtain ⟨_, rfl⟩ : "p" = n ∧ ⟨_, _, _, hp⟩ = rule := by
        simpa [Request.offers, ho, Except.toOption] using h
      have hd : parse "!A" = .ok (.not (.word "A")) := by decide +kernel
      exact ⟨_, hd⟩
    exact ⟨c, hc, (he none).trans (by decide +kernel)⟩
  · have ho : parse "A." = .error ⟨2, .unexpected .term none⟩ := by decide +kernel
    obtain ⟨hok, _, herr⟩ := read [("p", "("), ("o", "A.")] (by decide)
    cases h : (ofDocument (documentOf [("p", "("), ("o", "A.")])).run.value
    case ok c =>
      obtain ⟨_, hf⟩ := hok.mp ⟨c, h⟩ ("o", "A.") (by simp)
      cases ho.symm.trans hf
    case error e =>
      obtain ⟨n, source, error, hm, he, hl, _, hmsg⟩ := herr e h
      simp only [List.mem_cons, Prod.mk.injEq, List.not_mem_nil, or_false] at hm
      rcases hm with ⟨rfl, _⟩ | ⟨rfl, rfl⟩
      · obtain ⟨_, hf⟩ := hl ("o", "A.") (by simp) (by decide +kernel)
        cases ho.symm.trans hf
      · obtain rfl := Except.error.inj (he.symm.trans ho)
        exact ⟨e, rfl, hmsg⟩

end Catalog
end TagGuard
