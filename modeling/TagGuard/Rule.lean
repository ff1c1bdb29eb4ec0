import TagGuard.Formula.Parse
import TagGuard.Log

namespace TagGuard

structure Rule where
  source : String
  formula : Formula
  parsed : ∃ limits, Formula.parse source limits = .ok formula
deriving DecidableEq

namespace Rule

variable {r : Rule} {source : String} {limits : Limits} {e : SyntaxError}

def ofSource (source : String) (limits : Limits := {}) : Except SyntaxError Rule :=
  match h : Formula.parse source limits with
  | .ok formula => .ok ⟨source, formula, limits, h⟩
  | .error e    => .error e

theorem source_of_ofSource (h : ofSource source limits = .ok r) : r.source = source := by
  unfold ofSource at h
  split at h <;> cases h
  rfl

theorem parse_of_ofSource (h : ofSource source limits = .ok r) :
    Formula.parse source limits = .ok r.formula := by
  unfold ofSource at h
  split at h <;> cases h
  assumption

theorem ofSource_of_parse_eq_ok (h : Formula.parse r.source limits = .ok r.formula) :
    ofSource r.source limits = .ok r := by
  unfold ofSource
  split
  case h_1 h' =>
    obtain rfl := Except.ok.inj (h.symm.trans h')
    rfl
  case h_2 h' => exact nomatch h.symm.trans h'

theorem ofSource_of_parse_eq_error (h : Formula.parse source limits = .error e) :
    ofSource source limits = .error e := by
  unfold ofSource
  split
  case h_1 h' => exact nomatch h.symm.trans h'
  case h_2 h' => exact congrArg Except.error (Except.error.inj (h'.symm.trans h))

theorem ofSource_eq_error_iff :
    ofSource source limits = .error e ↔ Formula.parse source limits = .error e := by
  constructor
  case mpr => exact ofSource_of_parse_eq_error
  case mp  =>
    intro h
    unfold ofSource at h
    split at h <;> cases h
    assumption

-- Reading a rule, with a record of the attempt if it fails.
def read (source : String) (limits : Limits := {}) : ExceptT SyntaxError Logged Rule :=
  .mk {
    value := ofSource source limits
    log   := LogRecord.ofAttempt source (ofSource source limits)
  }

@[simp]
theorem value_read : (read source limits).run.value = ofSource source limits :=
  rfl

@[simp]
theorem log_read :
    (read source limits).run.log = LogRecord.ofAttempt source (ofSource source limits) :=
  rfl

-- A source that is missing is read as an empty one.
def readOption (source : Option String) (limits : Limits := {}) : ExceptT SyntaxError Logged Rule :=
  read (source.getD "") limits

def admits (r : Rule) (ts : Option Tags) : Bool :=
  r.formula.admits ts

def render (r : Rule) : String :=
  r.formula.render

end Rule
end TagGuard
