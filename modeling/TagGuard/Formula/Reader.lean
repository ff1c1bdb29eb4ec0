import TagGuard.Formula.Parse
import TagGuard.Grammar.Derivation

namespace TagGuard.Formula

open Grammar

-- What takes up a level of nesting.
inductive Opening
  | group
  | negation
deriving DecidableEq

def Opening.level : Opening → Level
  | group    => .disjunction
  | negation => .term

namespace Reader

-- What is to be done with the formula that is read next.
inductive Frame
  -- It begins a conjunction.
  | conjunct
  -- It begins a disjunction.
  | disjunct
  -- It is what follows an operand of a chain.
  | and (left : Formula)
  | or (left : Formula)
  -- It stands in a group or a negation.
  | inside (opening : Opening)

def Frame.opening? : Frame → Option Opening
  | inside opening => some opening
  | _              => none

inductive Task
  | read (l : Level)
  -- A group or a negation is open behind its first character.
  | enter (opening : Opening)
  -- These characters of a word were passed.
  | spell (cs : List Char)
  -- The group of this formula is to be closed.
  | close (f : Formula)
  | deliver (f : Formula)
  | answer (a : Except SyntaxError Formula)

end Reader

-- A reader has a task, stands at a cursor, and keeps what else is to be done when the formula at
-- hand is read, the next first.
structure Reader where
  task : Reader.Task
  cursor : Cursor
  frames : List Reader.Frame := []

namespace Reader

def ofSource (source : String) : Reader where
  task   := .read .disjunction
  cursor := .ofSource source

-- The groups and negations that are open, the innermost first.
def openings (r : Reader) : List Opening :=
  r.frames.filterMap (·.opening?)

def turn (r : Reader) (task : Task) : Reader :=
  { r with task }

def pass (r : Reader) (task : Task) : Reader :=
  { r with task, cursor := r.cursor.advance }

def fail (r : Reader) (e : SyntaxError) : Reader :=
  r.turn (.answer (.error e))

def readTerm (r : Reader) : Reader :=
  match r.cursor.peek? with
  | none     => r.fail (r.cursor.unexpected .term)
  | some '(' => r.pass (.enter .group)
  | some '!' => r.pass (.enter .negation)
  | some '~' => r.pass (.deliver nobody)
  | some '*' => r.pass (.deliver everybody)
  | some x   => if isSeparator x then r.pass (.read .term) else r.turn (.spell [])

def read (r : Reader) : Level → Reader
  | .term        => r.readTerm
  | .conjunction => { r with task := .read .term, frames := .conjunct :: r.frames }
  | .disjunction => { r with task := .read .conjunction, frames := .disjunct :: r.frames }

def enter (limit : Nat) (r : Reader) (opening : Opening) : Reader :=
  if r.cursor.depth < limit then
    { task   := .read opening.level
      cursor := r.cursor.enter
      frames := .inside opening :: r.frames }
  else
    r.fail (r.cursor.fail (.nestingTooDeep limit))

def spell (r : Reader) (cs : List Char) : Reader :=
  match r.cursor.peek?.filter isWordChar with
  | some x => r.pass (.spell (cs ++ [x]))
  | none   =>
    if cs = [] then
      r.fail (r.cursor.unexpected .value)
    else
      r.turn (.deliver (word (String.ofList cs)))

def close (r : Reader) (f : Formula) : Reader :=
  if r.cursor.peek? = some ')' then
    r.pass (.deliver f)
  else
    r.fail (r.cursor.unexpected .closeParenthesis)

-- Behind the first operand of a conjunction. Only here separators after a formula are passed.
def continueConjunction (r : Reader) (f : Formula) (frames : List Frame) : Reader :=
  match r.cursor.peek? with
  | some '.' => { r.pass (.read .conjunction) with frames := .and f :: frames }
  | some x   => if isSeparator x then r.pass (.deliver f) else { r with frames }
  | none     => { r with frames }

def continueDisjunction (r : Reader) (f : Formula) (frames : List Frame) : Reader :=
  if r.cursor.peek? = some ',' then
    { r.pass (.read .disjunction) with frames := .or f :: frames }
  else
    { r with frames }

def leave (r : Reader) (f : Formula) (frames : List Frame) : Opening → Reader
  | .group    => { task := .close f, cursor := r.cursor.leave, frames }
  | .negation => { task := .deliver (not f), cursor := r.cursor.leave, frames }

def deliver (r : Reader) (f : Formula) : Reader :=
  match r.frames with
  | []                       =>
    if r.cursor.atEnd then
      r.turn (.answer (.ok f))
    else
      r.fail (r.cursor.unexpected .endOfExpression)
  | .conjunct :: frames       => r.continueConjunction f frames
  | .disjunct :: frames       => r.continueDisjunction f frames
  | .and g :: frames          => { r with task := .deliver (and g f), frames }
  | .or g :: frames           => { r with task := .deliver (or g f), frames }
  | .inside opening :: frames => r.leave f frames opening

-- A step passes at most one character, and enters or leaves at most one group or negation. With an
-- answer there is nothing left to do.
def step (limit : Nat) (r : Reader) : Option Reader :=
  match r.task with
  | .read l        => some (r.read l)
  | .enter opening => some (r.enter limit opening)
  | .spell cs      => some (r.spell cs)
  | .close f       => some (r.close f)
  | .deliver f     => some (r.deliver f)
  | .answer _      => none

end Reader
end TagGuard.Formula
