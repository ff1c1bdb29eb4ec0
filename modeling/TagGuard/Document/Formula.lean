import TagGuard.Document.Decode
import TagGuard.Formula.Basic

namespace TagGuard.Formula

def toDocument : Formula → Document
  | everybody  => .text "True"
  | word value => .tagged "Word" (.record [("value", .text value)])
  | not f      => .tagged "Negation" (.record [("inner", f.toDocument)])
  | and f g    => .tagged "And" (.record [("left", f.toDocument), ("right", g.toDocument)])
  | or f g     => .tagged "Or" (.record [("left", f.toDocument), ("right", g.toDocument)])

def wordOfText (value : String) : Except DecodeError Formula :=
  if value = "" then .error .emptyWord else .ok (word value)

-- The formula that a connective makes of its operands. That one of them is missing shows only after
-- both were read.
def operands (connective : Formula → Formula → Formula)
    (left right : Except DecodeError (Option Formula)) : Except DecodeError Formula := do
  let l ← left
  let r ← right
  return connective (← Document.required l) (← Document.required r)

mutual

def ofDocument : Document → Except DecodeError Formula
  | .text "True"              => .ok everybody
  | .record [(name, content)] => ofContent name content
  | _                         => .error .shape

-- The formula of a form given by its name, from what belongs to that form.
def ofContent (name : String) : Document → Except DecodeError Formula
  | .null           => if name = "True" then .ok everybody else .error .shape
  | .record members => do
    match name with
    | "Word"     => wordOfText (← (← Document.required (members.lookup "value")).asText)
    | "Negation" => return not (← Document.required (← ofMember "inner" members))
    | "And"      => operands and (ofMember "left" members) (ofMember "right" members)
    | "Or"       => operands or (ofMember "left" members) (ofMember "right" members)
    | _          => throw .shape
  | _               => .error .shape

def ofMember (name : String) : List (String × Document) → Except DecodeError (Option Formula)
  | []          => .ok none
  | (n, d) :: r => if n = name then some <$> ofDocument d else ofMember name r

end

end TagGuard.Formula
