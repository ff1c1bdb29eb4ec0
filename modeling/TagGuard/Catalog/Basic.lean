import Std.Data.TreeMap.Lemmas
import TagGuard.Refusal
import TagGuard.Rule

namespace TagGuard

structure Catalog where
  rules : Std.TreeMap String Rule := ∅

namespace Catalog

variable {c : Catalog} {name n source : String} {rule : Rule} {limits : Limits} {ts : Option Tags}

instance : EmptyCollection Catalog where
  emptyCollection := {}

def find? (c : Catalog) (name : String) : Option Rule :=
  c.rules[name]?

@[simp]
theorem find?_empty : (∅ : Catalog).find? name = none :=
  Std.TreeMap.getElem?_emptyc

def size (c : Catalog) : Nat :=
  c.rules.size

def isEmpty (c : Catalog) : Bool :=
  c.rules.isEmpty

theorem isEmpty_iff_size_eq_zero : c.isEmpty ↔ c.size = 0 := by
  simp [isEmpty, size, Std.TreeMap.isEmpty_eq_size_eq_zero]

def insert (c : Catalog) (name : String) (rule : Rule) : Catalog where
  rules := c.rules.insert name rule

theorem find?_insert :
    (c.insert name rule).find? n = if name = n then some rule else c.find? n := by
  simp [find?, insert, Std.TreeMap.getElem?_insert]

def erase (c : Catalog) (name : String) : Catalog where
  rules := c.rules.erase name

theorem find?_erase : (c.erase name).find? n = if name = n then none else c.find? n := by
  simp [find?, erase, Std.TreeMap.getElem?_erase]

-- Registers a plugin under a name that is still free.
def addRule (c : Catalog) (name : String) (rule : Rule) : ExceptT Refusal Logged Catalog :=
  if (c.find? name).isSome then
    throw (.duplicate name)
  else do
    Logged.write (.registered name rule.source)
    return c.insert name rule

theorem value_addRule : (c.addRule name rule).run.value =
    if (c.find? name).isSome then .error (.duplicate name) else .ok (c.insert name rule) := by
  rw [addRule]
  split <;> rfl

-- Reads a rule and registers a plugin with it, whether the name is free or not.
def addWithin (c : Catalog) (limits : Limits) (name source : String) :
    ExceptT Refusal Logged Catalog := do
  let rule ← (Rule.read source limits).adapt .malformed
  c.addRule name rule

theorem value_addWithin : (c.addWithin limits name source).run.value =
    match Rule.ofSource source limits with
    | .ok rule => (c.addRule name rule).run.value
    | .error e => .error (.malformed e) := by
  simp only [addWithin, ExceptT.run_bind, Logged.value_bind, ExceptT.run_adapt, Logged.value_map,
    Rule.value_read]
  cases Rule.ofSource source limits <;> rfl

-- Registers a plugin by the source of its rule. The name comes first: if it is taken, the source
-- is not read at all.
def add (c : Catalog) (name source : String) : ExceptT Refusal Logged Catalog :=
  if (c.find? name).isSome then
    throw (.duplicate name)
  else
    c.addWithin {} name source

theorem value_add : (c.add name source).run.value =
    if (c.find? name).isSome then .error (.duplicate name)
    else (c.addWithin {} name source).run.value := by
  rw [add]
  split <;> rfl

def isEnabled (c : Catalog) (name : String) (ts : Option Tags) : ExceptT Refusal Logged Bool :=
  match c.find? name with
  | none      => throw (.missing name)
  | some rule => do
    Logged.write (.asked name (rule.admits ts))
    return rule.admits ts

theorem value_isEnabled : (c.isEnabled name ts).run.value =
    match c.find? name with
    | none      => .error (.missing name)
    | some rule => .ok (rule.admits ts) := by
  rw [isEnabled]
  cases c.find? name <;> rfl

-- The names of all plugins that are enabled for these tags, in ascending order.
def enabled (c : Catalog) (ts : Option Tags) : List String :=
  c.rules.toList.filter (·.2.admits ts) |>.map (·.1)

theorem mem_enabled_iff :
    name ∈ c.enabled ts ↔ ∃ rule, c.find? name = some rule ∧ rule.admits ts := by
  simp [enabled, find?, Std.TreeMap.mem_toList_iff_getElem?_eq_some]

end Catalog
end TagGuard
