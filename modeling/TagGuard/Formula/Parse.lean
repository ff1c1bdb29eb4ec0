import TagGuard.Formula.Basic
import TagGuard.Grammar.Cursor
import TagGuard.Limits

namespace TagGuard.Formula

open Grammar

-- A formula that stands at a cursor, and the cursor behind it.
structure Reading (c : Cursor) where
  formula : Formula
  next : Cursor
  shorter : next.rest.length < c.rest.length

namespace Reading

variable {c d : Cursor}

theorem shorter_advance (r : Reading c) {x : Char} (h : r.next.peek? = some x) :
    r.next.advance.rest.length < c.rest.length :=
  Nat.lt_trans (Cursor.length_rest_advance_lt h) r.shorter

-- The same reading for a cursor further back.
def widen (r : Reading d) (h : d.rest.length ≤ c.rest.length) : Reading c :=
  { r with shorter := Nat.lt_of_lt_of_le r.shorter h }

def advance (r : Reading c) : Reading c where
  formula := r.formula
  next    := r.next.advance
  shorter := Nat.lt_of_le_of_lt Cursor.length_rest_advance_le r.shorter

def skipSeparators (r : Reading c) : Reading c where
  formula := r.formula
  next    := r.next.skipSeparators
  shorter := Nat.lt_of_le_of_lt Cursor.length_rest_skipSeparators_le r.shorter

end Reading

-- What is read one level deeper, unless that is deeper than the limit.
def nested (limit : Nat) (c : Cursor)
    (read : (d : Cursor) → d.rest = c.rest → Except SyntaxError (Reading d)) :
    Except SyntaxError (Reading c) :=
  if c.depth < limit then
    (read c.enter rfl).map fun r => ⟨r.formula, r.next.leave, r.shorter⟩
  else
    .error (c.fail (.nestingTooDeep limit))

def readWord (c : Cursor) : Except SyntaxError (Reading c) :=
  if h : c.run isWordChar = [] then
    .error (c.unexpected .value)
  else
    .ok ⟨word (String.ofList (c.run isWordChar)), c.skipRun isWordChar,
      Cursor.length_rest_skipRun_lt h⟩

-- disjunction := conjunction (',' conjunction)*
-- conjunction := term ('.' term)*
-- term        := '(' disjunction ')' | '!' term | '~' | '*' | word
--
-- A chain of operands leans to the right. A call that stays at its cursor goes down one level, so a
-- character that is still to be read weighs as much as the three levels together.
mutual

def readTerm (limit : Nat) (c : Cursor) : Except SyntaxError (Reading c) :=
  let start := c.skipSeparators
  have le : start.rest.length ≤ c.rest.length := Cursor.length_rest_skipSeparators_le
  have lt {x : Char} (h : start.peek? = some x) : start.advance.rest.length < c.rest.length :=
    Nat.lt_of_lt_of_le (Cursor.length_rest_advance_lt h) le
  match h : start.peek? with
  | none => .error (start.unexpected .term)
  | some '(' => do
    let r ← nested limit start.advance fun d hd =>
      have : d.rest.length < c.rest.length := hd ▸ lt h
      readDisjunction limit d
    if r.next.peek? = some ')' then
      return r.advance.widen (Nat.le_of_lt (lt h))
    else
      throw (r.next.unexpected .closeParenthesis)
  | some '!' => do
    let r ← nested limit start.advance fun d hd =>
      have : d.rest.length < c.rest.length := hd ▸ lt h
      readTerm limit d
    return { r.widen (Nat.le_of_lt (lt h)) with formula := not r.formula }
  | some '~' => return ⟨nobody, start.advance, lt h⟩
  | some '*' => return ⟨everybody, start.advance, lt h⟩
  | some _ => return (← readWord start).widen le
termination_by 3 * c.rest.length
decreasing_by all_goals omega

-- The cursor behind a conjunction or a disjunction is behind the separators after it as well.

def readConjunction (limit : Nat) (c : Cursor) : Except SyntaxError (Reading c) := do
  let l ← (readTerm limit c).map (·.skipSeparators)
  if h : l.next.peek? = some '.' then
    have lt := l.shorter_advance h
    let r ← readConjunction limit l.next.advance
    return { r.widen (Nat.le_of_lt lt) with formula := and l.formula r.formula }
  else
    return l
termination_by 3 * c.rest.length + 1
decreasing_by all_goals omega

def readDisjunction (limit : Nat) (c : Cursor) : Except SyntaxError (Reading c) := do
  let l ← readConjunction limit c
  if h : l.next.peek? = some ',' then
    have lt := l.shorter_advance h
    let r ← readDisjunction limit l.next.advance
    return { r.widen (Nat.le_of_lt lt) with formula := or l.formula r.formula }
  else
    return l
termination_by 3 * c.rest.length + 2
decreasing_by all_goals omega

end

-- The formula that a source is, within limits. The length is looked at before anything else.
def parse (source : String) (limits : Limits := {}) : Except SyntaxError Formula :=
  if source = "" then
    .error ⟨0, .empty⟩
  else do
    limits.checkLength source
    let r ← readDisjunction limits.maxDepth (.ofSource source)
    if r.next.atEnd then
      return r.formula
    else
      throw (r.next.unexpected .endOfExpression)

@[simp]
theorem parse_empty {limits : Limits} : parse "" limits = .error ⟨0, .empty⟩ :=
  rfl

end TagGuard.Formula
