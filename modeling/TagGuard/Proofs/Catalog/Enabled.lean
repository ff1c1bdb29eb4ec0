import TagGuard.Proofs.Catalog.Session
import TagGuard.Proofs.Text.ByteOrder

namespace TagGuard.Catalog

open Text

variable {c d : Catalog} {ts : Option Tags} {n : String} {rule : Rule} {q : Request}
  {qs qs' : List Request} {entries : List (String × Rule)} {names : List String}

-- The entries are what is bound in the catalog, each once and in any order.
structure Lists (c : Catalog) (entries : List (String × Rule)) : Prop where
  nodup   : (entries.map (·.1)).Nodup
  mem_iff : ∀ name rule, (name, rule) ∈ entries ↔ c.find? name = some rule

theorem lists_toList : c.Lists c.rules.toList where
  nodup := by
    rw [Std.TreeMap.map_fst_toList_eq_keys]
    exact Std.TreeMap.nodup_keys
  mem_iff _ _ := Std.TreeMap.mem_toList_iff_getElem?_eq_some

-- The names of the entries that are enabled for these tags.
def admitted (entries : List (String × Rule)) (ts : Option Tags) : List String :=
  (entries.filter (·.2.admits ts)).map (·.1)

theorem isEnabled_eq_true_iff :
    (c.isEnabled n ts).run.value = .ok true ↔ ∃ rule, c.find? n = some rule ∧ rule.admits ts := by
  rw [value_isEnabled]
  cases c.find? n <;> simp

theorem mem_enabled_iff_isEnabled :
    n ∈ c.enabled ts ↔ (c.isEnabled n ts).run.value = .ok true := by
  rw [mem_enabled_iff, isEnabled_eq_true_iff]

theorem nodup_enabled : (c.enabled ts).Nodup :=
  pairwise_enabled.imp ne_of_lt

theorem enabled_eq_of_find?_eq (h : ∀ n, c.find? n = d.find? n) : c.enabled ts = d.enabled ts := by
  apply pairwise_enabled.eq_of_mem_iff pairwise_enabled
  simp [mem_enabled_iff, h]

theorem Lists.mem_admitted (h : c.Lists entries) : n ∈ admitted entries ts ↔ n ∈ c.enabled ts := by
  simp [admitted, mem_enabled_iff, h.mem_iff]

theorem Lists.nodup_admitted (h : c.Lists entries) : (admitted entries ts).Nodup :=
  h.nodup.sublist (List.filter_sublist.map _)

-- However the entries are gone through, and however their names are sorted, the list is the same.
theorem Lists.eq_enabled (h : c.Lists entries) (hp : names.Perm (admitted entries ts))
    (hs : names.Pairwise fun m n => bytes m ≤ bytes n) : names = c.enabled ts := by
  have hn : names.Nodup := hp.nodup_iff.mpr h.nodup_admitted
  have lt {m n} (hb : bytes m ≤ bytes n) (ne : m ≠ n) : m < n := by
    apply lt_of_le_of_ne _ ne
    exact not_lt.mp fun gt => hb (bytes_lt_bytes_iff.mpr gt)
  apply (hs.imp₂ (fun _ _ => lt) hn).eq_of_mem_iff pairwise_enabled
  simp [hp.mem_iff, h.mem_admitted]

def Request.IsAddition : Request → Prop
  | .add .. | .addRule .. | .addWithin .. => True
  | _                                     => False

-- The rule that a request for a new plugin has for the name.
def Request.offers (n : String) : Request → Option Rule
  | .add name source              => if name = n then (Rule.ofSource source).toOption else none
  | .addRule name rule            => if name = n then some rule else none
  | .addWithin limits name source =>
    if name = n then (Rule.ofSource source limits).toOption else none
  | _                             => none

theorem Request.IsAddition.plain (h : q.IsAddition) : q.Plain := by
  cases q
  case save | load => exact h.elim
  all_goals trivial

theorem Request.name?_of_offers (h : q.offers n = some rule) : q.name? = some n := by
  cases q <;> simp_all [offers, name?]

section Addition

variable {m : Bindings} {name : String}

theorem lookup_insert_of_notMem (h : name ∉ m) :
    (m.insert name rule).lookup n = (m.lookup n).or (if name = n then some rule else none) := by
  by_cases hn : name = n
  case pos => subst hn; simp [Finmap.lookup_eq_none.mpr h]
  case neg => simp [hn, Finmap.lookup_insert_of_ne _ (Ne.symm hn)]

theorem lookup_of_mem {r : Option Rule} (h : name ∈ m) :
    m.lookup n = (m.lookup n).or (if name = n then r else none) := by
  have ⟨rule, h⟩ := Finmap.mem_iff.mp h
  by_cases hn : name = n
  case pos => subst hn; simp [h]
  case neg => simp [hn]

end Addition

-- A name keeps the first rule that it is bound to.
theorem find?_step_of_isAddition (hq : q.IsAddition) :
    (c.step q).value.2.find? n = (c.find? n).or (q.offers n) := by
  have h := step_bindings (c := c) hq.plain
  rw [← lookup_bindings, ← lookup_bindings]
  generalize (c.step q).value.1 = a, (c.step q).value.2.bindings = m at h
  cases h
  case add hn hs       => simp [lookup_insert_of_notMem hn, Request.offers, hs, Except.toOption]
  case addRule hn      => simp [lookup_insert_of_notMem hn, Request.offers]
  case addWithin hs hn => simp [lookup_insert_of_notMem hn, Request.offers, hs, Except.toOption]
  case addTaken hm | addRuleTaken hm | addWithinTaken hm => exact lookup_of_mem hm
  case addMalformed hs | addWithinMalformed hs => simp [Request.offers, hs, Except.toOption]
  all_goals exact hq.elim

theorem find?_run_of_isAddition (hq : ∀ q ∈ qs, q.IsAddition) :
    (c.run qs).value.2.find? n = (c.find? n).or (qs.findSome? (·.offers n)) := by
  induction qs generalizing c
  case nil          => simp [run]
  case cons q qs hi =>
    have h : (c.run (q :: qs)).value.2 = ((c.step q).value.2.run qs).value.2 := rfl
    rw [h, hi fun q h => hq q (List.mem_cons_of_mem _ h),
      find?_step_of_isAddition (hq q List.mem_cons_self), List.findSome?_cons]
    cases q.offers n <;> simp

-- Of requests about different plugins, at most one has a rule for the name.
theorem findSome?_offers_of_perm (hn : (qs.map (·.name?)).Nodup) (hp : qs'.Perm qs) :
    qs'.findSome? (·.offers n) = qs.findSome? (·.offers n) := by
  cases h : qs.findSome? (·.offers n)
  case none      => simpa [hp.mem_iff] using h
  case some rule =>
    have ⟨q, hq, ho⟩ := List.exists_of_findSome?_eq_some h
    cases h' : qs'.findSome? (·.offers n)
    case none       => simp_all [hp.mem_iff]
    case some rule' =>
      have ⟨q', hq', ho'⟩ := List.exists_of_findSome?_eq_some h'
      have he : q.name? = q'.name? := by
        rw [Request.name?_of_offers ho, Request.name?_of_offers ho']
      obtain rfl := List.inj_on_of_nodup_map hn hq (hp.mem_iff.mp hq') he
      exact ho'.symm.trans ho

theorem enabled_after_of_perm (hq : ∀ q ∈ qs, q.IsAddition) (hn : (qs.map (·.name?)).Nodup)
    (hp : qs'.Perm qs) : (after qs').enabled ts = (after qs).enabled ts := by
  have hq' : ∀ q ∈ qs', q.IsAddition := fun q h => hq q (hp.mem_iff.mp h)
  apply enabled_eq_of_find?_eq
  intro n
  rw [after, after, find?_run_of_isAddition hq, find?_run_of_isAddition hq',
    findSome?_offers_of_perm hn hp]

-- What the list of the enabled plugins says after a session, and on what it does not depend.
structure Enumerated (qs : List Request) (ts : Option Tags) : Prop where
  lists : (after qs).Lists (after qs).rules.toList
  any_order : ∀ entries names, (after qs).Lists entries → names.Perm (admitted entries ts) →
    names.Pairwise (fun m n => bytes m ≤ bytes n) → names = (after qs).enabled ts
  ascending : ((after qs).enabled ts).Pairwise (fun m n => bytes m < bytes n)
  bytes_lt_iff : ∀ m n : String, bytes m < bytes n ↔ m.toList < n.toList
  nodup : ((after qs).enabled ts).Nodup
  mem_iff_isEnabled : ∀ n,
    n ∈ (after qs).enabled ts ↔ ((after qs).isEnabled n ts).run.value = .ok true
  mem_iff_admits : ∀ n,
    n ∈ (after qs).enabled ts ↔ ∃ rule, (after qs).find? n = some rule ∧ rule.admits ts
  enabled_none : (after qs).enabled none = (after qs).enabled (some ∅)
  isEnabled_none : ∀ n, (after qs).isEnabled n none = (after qs).isEnabled n (some ∅)
  same_bindings : ∀ qs', (∀ n, (after qs').find? n = (after qs).find? n) →
    (after qs').enabled ts = (after qs).enabled ts
  reordered : (∀ q ∈ qs, q.IsAddition) → (qs.map (·.name?)).Nodup → ∀ qs', qs'.Perm qs →
    (after qs').enabled ts = (after qs).enabled ts

-- After every session the list has just the plugins that are enabled one by one, and neither the
-- order in which the catalog is gone through nor the one in which it came about shows in it.
theorem enabled_after (qs : List Request) (ts : Option Tags) : Enumerated qs ts where
  lists                  := lists_toList
  any_order _ _ h hp hs  := h.eq_enabled hp hs
  ascending              := pairwise_enabled.imp bytes_lt_bytes_iff.mpr
  bytes_lt_iff _ _       := bytes_lt_bytes_iff
  nodup                  := nodup_enabled
  mem_iff_isEnabled _    := mem_enabled_iff_isEnabled
  mem_iff_admits _       := mem_enabled_iff
  enabled_none           := rfl
  isEnabled_none _       := rfl
  same_bindings _        := enabled_eq_of_find?_eq
  reordered hq hn _      := enabled_after_of_perm hq hn

theorem enabled_after_two_orders :
    (after [.add "z" "*", .add "é" "!a"]).enabled none = ["z", "é"] ∧
    (after [.add "é" "!a", .add "z" "*"]).enabled none = ["z", "é"] := by
  have h : (after [.add "z" "*", .add "é" "!a"]).enabled none = ["z", "é"] := by decide +kernel
  have he := (enabled_after [.add "z" "*", .add "é" "!a"] none).reordered
    (by simp [Request.IsAddition]) (by decide) _ (.swap ..)
  exact ⟨h, he.trans h⟩

end TagGuard.Catalog
