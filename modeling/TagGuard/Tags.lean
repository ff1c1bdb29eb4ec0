import TagGuard.Text.Lowercase
import TagGuard.Text.WhiteSpace

namespace TagGuard

open Text

structure Tags where
  toList : List String
deriving DecidableEq

namespace Tags

variable {ts : Tags} {tag : String}

instance : EmptyCollection Tags where
  emptyCollection := ⟨[]⟩

def insert (ts : Tags) (tag : String) : Tags where
  toList := ts.toList ++ [tag]

@[simp]
theorem toList_insert : (ts.insert tag).toList = ts.toList ++ [tag] :=
  rfl

def extend (ts : Tags) (tags : List String) : Tags where
  toList := ts.toList ++ tags

theorem extend_eq_foldl_insert {tags : List String} : ts.extend tags = tags.foldl insert ts := by
  induction tags generalizing ts with
  | nil          => simp [extend]
  | cons t ts hi => simp [← hi, extend]

def size (ts : Tags) : Nat :=
  ts.toList.length

def isEmpty (ts : Tags) : Bool :=
  ts.toList.isEmpty

-- Whether one of the tags is `tag`, ignoring case.
def contains (ts : Tags) (tag : String) : Bool :=
  ts.toList.any (sameIgnoringCase · tag)

theorem contains_iff : ts.contains tag ↔ ∃ t ∈ ts.toList, sameIgnoringCase t tag := by
  simp [contains]

theorem contains_insert {t : String} :
    (ts.insert t).contains tag = (ts.contains tag || sameIgnoringCase t tag) := by
  simp [contains]

-- The tags that are written in a text one after another with a delimiter between them. White space
-- around a tag does not belong to it, and where nothing else is left there is no tag.
def ofDelimited (text : String) (delimiter : Char) : Tags where
  toList := (text.toList.splitOn delimiter).map trim |>.filter (· ≠ []) |>.map String.ofList

-- Tag by tag, each by its characters; a list comes before those that it begins.
instance : Ord Tags where
  compare ts us := compare ts.toList us.toList

end Tags
end TagGuard
