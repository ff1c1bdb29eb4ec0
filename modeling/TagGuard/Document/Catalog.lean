import TagGuard.Catalog.Basic
import TagGuard.Document.Decode

namespace TagGuard

namespace Rule

def toDocument (r : Rule) : Document :=
  .record [("source", .text r.source)]

def sourceOfDocument (d : Document) : Except DecodeError String := do
  let (source, alone) ← d.onlyField "source"
  let source ← source.asText
  if alone then return source else throw .shape

-- Only the source is stored, so it is read again, within the default limits.
def ofDocument (d : Document) : ExceptT DecodeError Logged Rule := do
  let source ← sourceOfDocument d
  (Rule.read source).adapt .malformed

end Rule

namespace Catalog

def toDocument (c : Catalog) : Document :=
  .record [("plugins", .record (c.rules.toList.map fun (name, rule) => (name, rule.toDocument)))]

-- The members of a record in ascending order of their names.
def byName (members : List (String × Document)) : List (String × Document) :=
  members.mergeSort fun m n => (compare m.1 n.1).isLE

def ofMembers : List (String × Document) → ExceptT DecodeError Logged Catalog
  | []             => return ∅
  | (name, d) :: r => do
    let rule ← Rule.ofDocument d
    return (← ofMembers r).insert name rule

-- All plugins are read, in ascending order of their names, or none is.
def ofDocument (d : Document) : ExceptT DecodeError Logged Catalog := do
  let (plugins, alone) ← d.onlyField "plugins"
  let c ← ofMembers (byName (← plugins.asRecord))
  if alone then return c else throw .shape

end Catalog
end TagGuard
