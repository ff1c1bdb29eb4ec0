import TagGuard.Text.Lowercase.Table

namespace TagGuard.Text

-- The lower case form of a letter that has one of a single character, and else the character.
def lowerLetter (c : Char) : Char :=
  match caseRuns.find? (·.covers c.toNat) with
  | some r => Char.ofNat (r.lower c.toNat)
  | none   => c

-- The lower case form of a character, whatever its neighbours are: a capital sigma always has the
-- medial one. Only the dotted capital I needs two characters.
def lowercase (c : Char) : List Char :=
  if c = 'İ' then ['i', '\u0307'] else [lowerLetter c]

theorem lowercase_ne_nil {c : Char} : lowercase c ≠ [] := by
  unfold lowercase
  split <;> simp

-- What is left of a text when case does not count.
def foldCase (s : String) : List Char :=
  s.toList.flatMap lowercase

theorem foldCase_eq_nil_iff {s : String} : foldCase s = [] ↔ s = "" := by
  rw [foldCase, List.flatMap_eq_nil_iff]
  simp [lowercase_ne_nil, ← List.eq_nil_iff_forall_not_mem]

def sameIgnoringCase (s t : String) : Bool :=
  foldCase s == foldCase t

theorem sameIgnoringCase_iff {s t : String} : sameIgnoringCase s t ↔ foldCase s = foldCase t := by
  simp [sameIgnoringCase]

end TagGuard.Text
