import TagGuard.Document.Decode
import TagGuard.Refusal

namespace TagGuard

namespace Expectation

def toDocument : Expectation → Document
  | endOfExpression  => .text "EndOfExpression"
  | closeParenthesis => .text "CloseParenthesis"
  | term             => .text "Term"
  | value            => .text "Value"

def ofDocument (d : Document) : Except DecodeError Expectation := do
  match ← d.asTagged with
  | ("EndOfExpression", .null)  => return endOfExpression
  | ("CloseParenthesis", .null) => return closeParenthesis
  | ("Term", .null)             => return term
  | ("Value", .null)            => return value
  | _                           => throw .shape

end Expectation

namespace SyntaxError

def foundToDocument : Option Char → Document
  | some c => .tagged "Char" (.text c.toString)
  | none   => .text "Eof"

def foundOfDocument (d : Document) : Except DecodeError (Option Char) := do
  match ← d.asTagged with
  | ("Char", content) => return some (← content.asChar)
  | ("Eof", .null)    => return none
  | _                 => throw .shape

namespace Cause

def toDocument : Cause → Document
  | empty                     => .text "Empty"
  | unexpected expected found => .tagged "Unexpected" <| .record
    [("expected", expected.toDocument), ("found", foundToDocument found)]
  | nestingTooDeep limit      => .tagged "NestingTooDeep" (.record [("limit", .integer limit)])
  | tooLong limit             => .tagged "TooLong" (.record [("limit", .integer limit)])

def ofDocument (d : Document) : Except DecodeError Cause := do
  match ← d.asTagged with
  | ("Empty", .null)            => return empty
  | ("Unexpected", content)     =>
    let expected ← Expectation.ofDocument (← content.member "expected")
    let found ← foundOfDocument (← content.member "found")
    return unexpected expected found
  | ("NestingTooDeep", content) => return nestingTooDeep (← (← content.member "limit").asNat)
  | ("TooLong", content)        => return tooLong (← (← content.member "limit").asNat)
  | _                           => throw .shape

end Cause

def toDocument (e : SyntaxError) : Document :=
  .record [("position", .integer e.position), ("kind", e.cause.toDocument)]

def ofDocument (d : Document) : Except DecodeError SyntaxError := do
  let (position, cause) ← d.bothFields "position" "kind"
  return ⟨← position.asNat, ← Cause.ofDocument cause⟩

end SyntaxError

namespace Refusal

def toDocument : Refusal → Document
  | duplicate name  => .tagged "DuplicatePlugin" (.record [("plugin_name", .text name)])
  | missing name    => .tagged "MissingPlugin" (.record [("plugin_name", .text name)])
  | malformed error => .tagged "Parse" error.toDocument

def ofDocument (d : Document) : Except DecodeError Refusal := do
  match ← d.asTagged with
  | ("DuplicatePlugin", content) => return duplicate (← (← content.member "plugin_name").asText)
  | ("MissingPlugin", content)   => return missing (← (← content.member "plugin_name").asText)
  | ("Parse", content)           => return malformed (← SyntaxError.ofDocument content)
  | _                            => throw .shape

end Refusal
end TagGuard
