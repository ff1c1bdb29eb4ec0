namespace TagGuard

inductive Document
  | null
  | bool (value : Bool)
  | integer (value : Int)
  -- A number with a fraction or an exponent, as it is written.
  | decimal (digits : String)
  | text (value : String)
  | list (items : List Document)
  -- The names of the members of a record differ.
  | record (members : List (String × Document))

namespace Document

-- A value that is told apart from the others of its type by a name.
def tagged (name : String) (content : Document) : Document :=
  record [(name, content)]

end Document
end TagGuard
