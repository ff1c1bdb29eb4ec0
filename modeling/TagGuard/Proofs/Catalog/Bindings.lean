import Mathlib.Data.Finmap
import Mathlib.Data.List.Sort
import Mathlib.Data.String.Basic
import TagGuard.Catalog.Session

namespace TagGuard

namespace Catalog.Request

-- Whether a request is about plugins, and not about the catalog as a document.
def Plain : Request → Prop
  | .save | .load _ => False
  | _               => True

-- The plugin that a request is about, if it is about one.
def name? : Request → Option String
  | .add name _ | .addRule name _ | .addWithin _ name _ => some name
  | .find name | .erase name | .isEnabled name _        => some name
  | .enabled _ | .size | .isEmpty | .save | .load _     => none

end Catalog.Request

-- What is bound in a catalog, apart from how the catalog keeps it.
abbrev Bindings := Finmap fun _ : String => Rule

namespace Bindings

open Catalog

-- `Step m q a m'`: where `m` is bound, the request `q` is answered by `a` and `m'` is bound then.
-- The name is looked at before the source by `add`, and after it by `addWithin`.
inductive Step (m : Bindings) : Request → Answer → Bindings → Prop
  | add {name source rule} : name ∉ m → Rule.ofSource source = .ok rule →
    Step m (.add name source) .done (m.insert name rule)
  | addTaken {name source} : name ∈ m →
    Step m (.add name source) (.refused (.duplicate name)) m
  | addMalformed {name source e} : name ∉ m → Rule.ofSource source = .error e →
    Step m (.add name source) (.refused (.malformed e)) m
  | addRule {name rule} : name ∉ m →
    Step m (.addRule name rule) .done (m.insert name rule)
  | addRuleTaken {name rule} : name ∈ m →
    Step m (.addRule name rule) (.refused (.duplicate name)) m
  | addWithin {limits name source rule} : Rule.ofSource source limits = .ok rule → name ∉ m →
    Step m (.addWithin limits name source) .done (m.insert name rule)
  | addWithinTaken {limits name source rule} : Rule.ofSource source limits = .ok rule → name ∈ m →
    Step m (.addWithin limits name source) (.refused (.duplicate name)) m
  | addWithinMalformed {limits name source e} : Rule.ofSource source limits = .error e →
    Step m (.addWithin limits name source) (.refused (.malformed e)) m
  | find {name} : Step m (.find name) (.found (m.lookup name)) m
  | erase {name} : Step m (.erase name) (.found (m.lookup name)) (m.erase name)
  | isEnabled {name ts rule} : m.lookup name = some rule →
    Step m (.isEnabled name ts) (.truth (rule.admits ts)) m
  | isEnabledMissing {name ts} : name ∉ m →
    Step m (.isEnabled name ts) (.refused (.missing name)) m
  | enabled {ts names} : names.Pairwise (· < ·) →
    (∀ name, name ∈ names ↔ ∃ rule ∈ m.lookup name, rule.admits ts) →
    Step m (.enabled ts) (.names names) m
  | size : Step m .size (.count m.keys.card) m
  | isEmpty {b : Bool} : (b ↔ m = ∅) → Step m .isEmpty (.truth b) m

inductive Runs : Bindings → List Request → List Answer → Bindings → Prop
  | nil {m} : Runs m [] [] m
  | cons {m m' m'' q qs a as} : Step m q a m' → Runs m' qs as m'' → Runs m (q :: qs) (a :: as) m''

variable {m m' m'' : Bindings} {q : Request} {qs : List Request} {a a' : Answer}
  {as as' : List Answer} {n : String}

theorem Step.deterministic (h : Step m q a m') (h' : Step m q a' m'') : a = a' ∧ m' = m'' := by
  cases h <;> cases h'
  case enabled.enabled hs hm _ hs' hm' =>
    have := hs.eq_of_mem_iff hs' fun name => (hm name).trans (hm' name).symm
    simp [this]
  case isEmpty.isEmpty hb _ hb' => simp [Bool.eq_iff_iff.mpr (hb.trans hb'.symm)]
  case isEnabled.isEnabledMissing hl hn | isEnabledMissing.isEnabled hn _ hl =>
    exact absurd (Finmap.mem_of_lookup_eq_some hl) hn
  all_goals simp_all

-- What is bound to the other names stays as it is.
theorem Step.lookup_eq (h : Step m q a m') (hn : q.name? ≠ some n) : m'.lookup n = m.lookup n := by
  cases h
  case add | addRule | addWithin =>
    apply Finmap.lookup_insert_of_ne
    rintro rfl
    exact hn rfl
  case erase =>
    apply Finmap.lookup_erase_ne
    rintro rfl
    exact hn rfl
  all_goals rfl

theorem Runs.deterministic (h : Runs m qs as m') (h' : Runs m qs as' m'') :
    as = as' ∧ m' = m'' := by
  induction h generalizing as'
  case nil =>
    cases h'
    exact ⟨rfl, rfl⟩
  case cons h _ hi =>
    cases h'
    case cons h' hr' =>
      have ⟨ha, hm⟩ := h.deterministic h'
      have ⟨has, hm⟩ := hi (hm ▸ hr')
      exact ⟨ha ▸ has ▸ rfl, hm⟩

end Bindings

namespace Catalog

variable {c : Catalog} {name n : String} {rule : Rule} {ts : Option Tags} {q : Request}

theorem mem_keys_iff : name ∈ c.rules.keys.toFinset ↔ (c.find? name).isSome := by
  simp [find?]

def bindings (c : Catalog) : Bindings :=
  Finmap.keysLookupEquiv.symm ⟨(c.rules.keys.toFinset, c.find?), fun _ => mem_keys_iff.symm⟩

@[simp]
theorem lookup_bindings : c.bindings.lookup name = c.find? name :=
  Finmap.keysLookupEquiv_symm_apply_lookup ..

theorem keys_bindings : c.bindings.keys = c.rules.keys.toFinset :=
  Finmap.keysLookupEquiv_symm_apply_keys ..

@[simp]
theorem mem_bindings : name ∈ c.bindings ↔ (c.find? name).isSome := by
  rw [← Finmap.mem_keys, keys_bindings, mem_keys_iff]

theorem size_eq_card : c.size = c.bindings.keys.card := by
  rw [keys_bindings, List.toFinset_card_of_nodup Std.TreeMap.nodup_keys, Std.TreeMap.length_keys]
  rfl

@[simp]
theorem bindings_empty : (∅ : Catalog).bindings = ∅ := by
  apply Finmap.ext_lookup
  simp

@[simp]
theorem bindings_insert : (c.insert name rule).bindings = c.bindings.insert name rule := by
  apply Finmap.ext_lookup
  intro n
  by_cases h : name = n
  case pos => subst h; simp [find?_insert]
  case neg => simp [h, Ne.symm h, find?_insert]

@[simp]
theorem bindings_erase : (c.erase name).bindings = c.bindings.erase name := by
  apply Finmap.ext_lookup
  intro n
  by_cases h : name = n
  case pos => subst h; simp [find?_erase]
  case neg => simp [h, Ne.symm h, find?_erase]

theorem bindings_eq_empty_iff : c.bindings = ∅ ↔ c.isEmpty := by
  constructor
  case mp =>
    intro h
    rw [isEmpty_iff_size_eq_zero, size_eq_card, h]
    rfl
  case mpr =>
    intro h
    apply Finmap.ext_lookup
    intro name
    simpa [find?] using Std.TreeMap.getElem?_of_isEmpty h

theorem pairwise_enabled : (c.enabled ts).Pairwise (· < ·) := by
  have h : c.rules.toList.Pairwise fun p q => p.1 < q.1 :=
    Std.TreeMap.ordered_keys_toList.imp compare_lt_iff_lt.mp
  rw [enabled, List.pairwise_map]
  exact h.filter _

section Step

variable {source : String} {limits : Limits} {e : SyntaxError}

theorem step_addRule_of_some (h : c.find? name = some rule) (r : Rule) :
    (c.step (.addRule name r)).value = (.refused (.duplicate name), c) := by
  simp [step, step.changed, Answer.ofChange, value_addRule, h]

theorem step_addRule_of_none (h : c.find? name = none) :
    (c.step (.addRule name rule)).value = (.done, c.insert name rule) := by
  simp [step, step.changed, Answer.ofChange, value_addRule, h]

theorem step_addWithin_of_ok (h : Rule.ofSource source limits = .ok rule) :
    (c.step (.addWithin limits name source)).value = (c.step (.addRule name rule)).value := by
  simp [step, step.changed, Answer.ofChange, value_addWithin, h]

theorem step_addWithin_of_error (h : Rule.ofSource source limits = .error e) :
    (c.step (.addWithin limits name source)).value = (.refused (.malformed e), c) := by
  simp [step, step.changed, Answer.ofChange, value_addWithin, h]

theorem step_add_of_some (h : c.find? name = some rule) :
    (c.step (.add name source)).value = (.refused (.duplicate name), c) := by
  simp [step, step.changed, Answer.ofChange, value_add, h]

theorem step_add_of_none (h : c.find? name = none) :
    (c.step (.add name source)).value = (c.step (.addWithin {} name source)).value := by
  simp [step, step.changed, value_add, h]

theorem step_isEnabled_of_some (h : c.find? name = some rule) :
    (c.step (.isEnabled name ts)).value = (.truth (rule.admits ts), c) := by
  simp [step, value_isEnabled, h, Answer.ofTruth]

theorem step_isEnabled_of_none (h : c.find? name = none) :
    (c.step (.isEnabled name ts)).value = (.refused (.missing name), c) := by
  simp [step, value_isEnabled, h, Answer.ofTruth]

end Step

-- One request on a catalog is one step of what is bound in it.
theorem step_bindings (hq : q.Plain) :
    c.bindings.Step q (c.step q).value.1 (c.step q).value.2.bindings := by
  have some_mem {name rule} (h : c.find? name = some rule) : name ∈ c.bindings := by simp [h]
  have none_mem {name} (h : c.find? name = none) : name ∉ c.bindings := by simp [h]
  cases q
  case add name source =>
    cases h : c.find? name
    case some => simpa [step_add_of_some h] using .addTaken (some_mem h)
    case none =>
      rw [step_add_of_none h]
      cases hs : Rule.ofSource source
      case error => simpa [step_addWithin_of_error hs] using .addMalformed (none_mem h) hs
      case ok    =>
        simpa [step_addWithin_of_ok hs, step_addRule_of_none h] using .add (none_mem h) hs
  case addRule name rule =>
    cases h : c.find? name
    case some => simpa [step_addRule_of_some h] using .addRuleTaken (some_mem h)
    case none => simpa [step_addRule_of_none h] using .addRule (none_mem h)
  case addWithin limits name source =>
    cases hs : Rule.ofSource source limits
    case error => simpa [step_addWithin_of_error hs] using .addWithinMalformed hs
    case ok    =>
      rw [step_addWithin_of_ok hs]
      cases h : c.find? name
      case some => simpa [step_addRule_of_some h] using .addWithinTaken hs (some_mem h)
      case none => simpa [step_addRule_of_none h] using .addWithin hs (none_mem h)
  case find name =>
    have h : c.bindings.Step (.find name) _ _ := .find
    simpa [step] using h
  case erase name =>
    have h : c.bindings.Step (.erase name) _ _ := .erase
    simpa [step] using h
  case isEnabled name ts =>
    cases h : c.find? name
    case some => simpa [step_isEnabled_of_some h] using .isEnabled (by simp [h])
    case none => simpa [step_isEnabled_of_none h] using .isEnabledMissing (none_mem h)
  case enabled ts =>
    apply Bindings.Step.enabled pairwise_enabled
    simp [mem_enabled_iff]
  case size =>
    have h : c.bindings.Step .size _ _ := .size
    simpa [step, size_eq_card] using h
  case isEmpty => exact .isEmpty bindings_eq_empty_iff.symm
  case save | load => exact hq.elim

theorem run_bindings {qs : List Request} (hq : ∀ q ∈ qs, q.Plain) :
    c.bindings.Runs qs (c.run qs).value.1 (c.run qs).value.2.bindings := by
  induction qs generalizing c
  case nil          => exact .nil
  case cons q qs hi =>
    apply Bindings.Runs.cons (step_bindings (hq q List.mem_cons_self))
    exact hi fun q h => hq q (List.mem_cons_of_mem _ h)

end Catalog
end TagGuard
