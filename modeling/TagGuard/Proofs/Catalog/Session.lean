import TagGuard.Proofs.Catalog.Bindings

namespace TagGuard

namespace Catalog

variable {c : Catalog} {q : Request} {qs : List Request} {n : String}

def Request.IsQuery : Request → Prop
  | .find _ | .isEnabled .. | .enabled _ | .size | .isEmpty | .save => True
  | .add .. | .addRule .. | .addWithin .. | .erase _ | .load _      => False

def Answer.IsError : Answer → Prop
  | .refused _ | .unreadable _ => True
  | _                          => False

theorem step_of_isError (h : (c.step q).value.1.IsError) : (c.step q).value.2 = c := by
  have change {ε} (failure : ε → Answer) (r : Except ε Catalog)
      (h : (Answer.ofChange c failure r).1.IsError) : (Answer.ofChange c failure r).2 = c := by
    cases r
    case ok    => exact h.elim
    case error => rfl
  cases q
  case add | addRule | addWithin | load => exact change _ _ h
  case erase                            => exact h.elim
  all_goals rfl

theorem step_of_isQuery (h : q.IsQuery) : (c.step q).value.2 = c := by
  cases q
  case add | addRule | addWithin | erase | load => exact h.elim
  all_goals rfl

theorem find?_step_of_ne (hq : q.Plain) (hn : q.name? ≠ some n) :
    (c.step q).value.2.find? n = c.find? n := by
  simpa using (step_bindings hq).lookup_eq hn

-- What the answers of a catalog mean, and what becomes of what is bound in it.
structure Sound (c : Catalog) : Prop where
  taken_iff : ∀ name source rule,
    ((c.step (.add name source)).value.1 = .refused (.duplicate name) ↔ (c.find? name).isSome) ∧
    ((c.step (.addRule name rule)).value.1 = .refused (.duplicate name) ↔ (c.find? name).isSome)
  malformed_iff : ∀ name source e,
    (c.step (.add name source)).value.1 = .refused (.malformed e) ↔
      c.find? name = none ∧ Formula.parse source = .error e
  addRule : ∀ name rule, c.find? name = none → ∃ c',
    (c.step (.addRule name rule)).value = (.done, c') ∧ c'.find? name = some rule
  add : ∀ name source rule, c.find? name = none → Rule.ofSource source = .ok rule →
    (c.step (.add name source)).value = (c.step (.addRule name rule)).value
  erase : ∀ name, ∃ c', (c.step (.erase name)).value = (.found (c.find? name), c') ∧
    c'.find? name = none ∧ ∀ rule, (c'.step (.addRule name rule)).value.1 = .done
  missing_iff : ∀ name ts,
    (c.step (.isEnabled name ts)).value.1 = .refused (.missing name) ↔ c.find? name = none
  unchanged : ∀ q, q.IsQuery ∨ (c.step q).value.1.IsError → (c.step q).value.2 = c
  others : ∀ q n, q.Plain → q.name? ≠ some n → (c.step q).value.2.find? n = c.find? n

theorem sound (c : Catalog) : c.Sound where
  taken_iff name source rule := by
    cases h : c.find? name
    case some => simp [step_add_of_some h, step_addRule_of_some h]
    case none =>
      have ha : (c.step (.add name source)).value.1 ≠ .refused (.duplicate name) := by
        rw [step_add_of_none h]
        cases hs : Rule.ofSource source
        case ok    => simp [step_addWithin_of_ok hs, step_addRule_of_none h]
        case error => simp [step_addWithin_of_error hs]
      simp [ha, step_addRule_of_none h]
  malformed_iff name source e := by
    rw [← Rule.ofSource_eq_error_iff]
    cases h : c.find? name
    case some => simp [step_add_of_some h]
    case none =>
      rw [step_add_of_none h]
      cases hs : Rule.ofSource source
      case ok    => simp [step_addWithin_of_ok hs, step_addRule_of_none h]
      case error => simp [step_addWithin_of_error hs]
  addRule name rule h := by
    refine ⟨_, step_addRule_of_none h, ?_⟩
    simp [find?_insert]
  add name source rule h hs := by
    rw [step_add_of_none h, step_addWithin_of_ok hs]
  erase name := by
    have h : (c.erase name).find? name = none := by simp [find?_erase]
    refine ⟨c.erase name, rfl, h, fun rule => ?_⟩
    simp [step_addRule_of_none h]
  missing_iff name ts := by
    cases h : c.find? name
    case some => simp [step_isEnabled_of_some h]
    case none => simp [step_isEnabled_of_none h]
  unchanged q h := h.elim step_of_isQuery step_of_isError
  others q n hq hn := find?_step_of_ne hq hn

-- The answers of a session that begins with nothing registered, and the catalog that it leaves.

def answers (qs : List Request) : List Answer :=
  ((∅ : Catalog).run qs).value.1

def after (qs : List Request) : Catalog :=
  ((∅ : Catalog).run qs).value.2

-- A session is answered as the rules for what is bound say, and in no other way.
theorem runs_iff_answers (qs : List Request) (hq : ∀ q ∈ qs, q.Plain) :
    (∀ as m, Bindings.Runs ∅ qs as m ↔ answers qs = as ∧ (after qs).bindings = m) ∧
    (∀ n, (after qs).bindings.lookup n = (after qs).find? n) ∧
    (after qs).size = (after qs).bindings.keys.card ∧ (after qs).Sound := by
  have h : Bindings.Runs _ qs (answers qs) (after qs).bindings := run_bindings hq
  rw [bindings_empty] at h
  refine ⟨fun as m => ⟨h.deterministic, ?_⟩, fun n => lookup_bindings, size_eq_card, sound _⟩
  rintro ⟨rfl, rfl⟩
  exact h

-- A malformed source leaves the name free, a name that is taken comes before a malformed source,
-- and another spelling is another name.
theorem runs_iff_answers_two_spellings :
    answers [.add "a" "A.", .add "a" "*", .add "a" "A.", .isEnabled "A" none] =
      [.refused (.malformed ⟨2, .unexpected .term none⟩), .done, .refused (.duplicate "a"),
        .refused (.missing "A")] := by
  have he : Rule.ofSource "A." = .error ⟨2, .unexpected .term none⟩ :=
    Rule.ofSource_eq_error_iff.mpr (by decide +kernel)
  have hp : Formula.parse "*" {} = .ok .everybody := by decide +kernel
  have ho := Rule.ofSource_of_parse_eq_ok (r := ⟨_, _, _, hp⟩) hp
  let m : Bindings := Finmap.insert "a" ⟨_, _, _, hp⟩ ∅
  have hm : "a" ∈ m := by simp [m]
  have hn : "A" ∉ m := by simp [m, Finmap.notMem_empty]
  have ⟨h, _⟩ := runs_iff_answers
    [.add "a" "A.", .add "a" "*", .add "a" "A.", .isEnabled "A" none] (by simp [Request.Plain])
  have hr := (h _ m).mp <| .cons (.addMalformed Finmap.notMem_empty he) <|
    .cons (.add Finmap.notMem_empty ho) <| .cons (.addTaken hm) <| .cons (.isEnabledMissing hn) .nil
  exact hr.left

end Catalog
end TagGuard
