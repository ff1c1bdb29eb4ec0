import TagGuard.Document.Basic
import TagGuard.Formula.Basic
import TagGuard.SyntaxError

namespace TagGuard

inductive DecodeError
  -- The document is of another form than the type asked for.
  | shape
  | emptyWord
  | malformed (error : SyntaxError)
deriving DecidableEq

namespace DecodeError

-- What there is to say apart from the document being of another form.
def message : DecodeError → Option String
  | shape           => none
  | emptyWord       => some Formula.emptyWordMessage
  | malformed error => some ("Failed to parse expression: " ++ error.message)

end DecodeError

namespace Document

-- One more than the greatest number in a document that can be read as a natural one.
def naturalBound : Nat :=
  0x10000000000000000

def asText : Document → Except DecodeError String
  | text s => .ok s
  | _      => .error .shape

theorem asText_eq_ok_iff {d : Document} {s : String} : d.asText = .ok s ↔ d = text s := by
  cases d <;> simp [asText]

def asChar : Document → Except DecodeError Char
  | text s => match s.toList with
    | [c] => .ok c
    | _   => .error .shape
  | _      => .error .shape

def asNat : Document → Except DecodeError Nat
  | integer n => if 0 ≤ n ∧ n < naturalBound then .ok n.toNat else .error .shape
  | _         => .error .shape

def asList : Document → Except DecodeError (List Document)
  | list items => .ok items
  | _          => .error .shape

def asRecord : Document → Except DecodeError (List (String × Document))
  | record members => .ok members
  | _              => .error .shape

-- The name of a form and what belongs to it; a bare name has nothing with it.
def asTagged : Document → Except DecodeError (String × Document)
  | text name                => .ok (name, null)
  | record [(name, content)] => .ok (name, content)
  | _                        => .error .shape

def required {α : Type} : Option α → Except DecodeError α
  | some a => .ok a
  | none   => .error .shape

theorem required_eq_ok_iff {α : Type} {o : Option α} {a : α} :
    required o = .ok a ↔ o = some a := by
  cases o <;> simp [required]

def member (d : Document) (name : String) : Except DecodeError Document := do
  required ((← d.asRecord).lookup name)

-- The field of a structure that has only one, and whether the structure ends there. A structure is
-- a record, whose other members nobody looks at, or the list of its fields.
def onlyField (name : String) : Document → Except DecodeError (Document × Bool)
  | list (d :: rest) => .ok (d, rest.isEmpty)
  | d                => do return (← d.member name, true)

def bothFields (first second : String) : Document → Except DecodeError (Document × Document)
  | list [d, e] => .ok (d, e)
  | d           => do return (← d.member first, ← d.member second)

end Document
end TagGuard
