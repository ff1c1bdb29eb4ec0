import TagGuard.Tags

namespace TagGuard

open Text

inductive Formula
  | everybody
  | word (value : String)
  | not (inner : Formula)
  | and (left right : Formula)
  | or (left right : Formula)
deriving DecidableEq

namespace Formula

variable {ts : Tags}

-- What is said wherever a word is refused for being empty.
def emptyWordMessage : String :=
  "a word must not be empty"

def nobody : Formula :=
  not everybody

-- Whether a subject with these tags satisfies the formula. A word asks for a tag that is equal to
-- it ignoring case.
def eval (ts : Tags) : Formula → Bool
  | everybody  => true
  | word value => ts.toList.any (sameIgnoringCase · value)
  | not f      => !f.eval ts
  | and f g    => f.eval ts && g.eval ts
  | or f g     => f.eval ts || g.eval ts

theorem eval_word {value : String} : (word value).eval ts = ts.contains value :=
  rfl

-- A subject of which no tags are known counts as one that has none.
def admits (f : Formula) (ts : Option Tags) : Bool :=
  f.eval (ts.getD ∅)

-- Every operand stands in parentheses.
def render : Formula → String
  | everybody  => "1"
  | word value => value
  | not f      => "!(" ++ f.render ++ ")"
  | and f g    => "(" ++ f.render ++ ") and (" ++ g.render ++ ")"
  | or f g     => "(" ++ f.render ++ ") or (" ++ g.render ++ ")"

end Formula
end TagGuard
