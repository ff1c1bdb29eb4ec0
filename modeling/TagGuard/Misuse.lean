import TagGuard.Rule

namespace TagGuard

-- Errors of the host rather than of what it was given.
inductive Misuse
  | emptyWord
  -- A formula was taken for granted where the source was malformed.
  | malformed (error : SyntaxError)
deriving DecidableEq

namespace Misuse

def message : Misuse → String
  | emptyWord       => Formula.emptyWordMessage
  | malformed error => "cannot evaluate an expression that failed to parse: " ++ error.message

end Misuse

namespace Formula

def ofWord (value : String) : Except Misuse Formula :=
  if value = "" then .error .emptyWord else .ok (word value)

end Formula

-- Reads a rule that the host takes to be well formed.
def Rule.readTrusted (source : Option String) (limits : Limits := {}) :
    ExceptT Misuse Logged Rule :=
  (readOption source limits).adapt .malformed

end TagGuard
