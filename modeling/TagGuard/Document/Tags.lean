import TagGuard.Document.Decode
import TagGuard.Tags

namespace TagGuard.Tags

def toDocument (ts : Tags) : Document :=
  .record [("tags", .list (ts.toList.map .text))]

def ofDocument (d : Document) : Except DecodeError Tags := do
  let (tags, alone) ← d.onlyField "tags"
  let tags ← (← tags.asList).mapM (·.asText)
  if alone then return ⟨tags⟩ else throw .shape

end TagGuard.Tags
