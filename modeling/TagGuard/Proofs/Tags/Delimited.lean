import Mathlib.Data.List.DropRight
import Mathlib.Data.String.Basic
import TagGuard.Tags

namespace TagGuard

namespace Text

variable {delimiter c : Char} {cs ds p s t : List Char} {ps entries : List (List Char)}

def Blank (cs : List Char) : Prop :=
  ∀ c ∈ cs, isWhiteSpace c

instance : DecidablePred Blank :=
  List.decidableBAll _

theorem Blank.nil : Blank [] := by
  simp [Blank]

structure Trimmed (cs : List Char) : Prop where
  head : ∀ c ∈ cs.head?, isWhiteSpace c = false
  last : ∀ c ∈ cs.getLast?, isWhiteSpace c = false

instance : DecidablePred Trimmed := fun cs =>
  have (o : Option Char) : Decidable (∀ c ∈ o, isWhiteSpace c = false) :=
    Option.decidableForallMem o
  decidable_of_iff ((∀ c ∈ cs.head?, isWhiteSpace c = false) ∧
      ∀ c ∈ cs.getLast?, isWhiteSpace c = false)
    ⟨fun ⟨head, last⟩ => ⟨head, last⟩, fun ⟨head, last⟩ => ⟨head, last⟩⟩

theorem trim_eq_rdropWhile : trim cs = (trimStart cs).rdropWhile isWhiteSpace :=
  rfl

theorem exists_trim (cs : List Char) : ∃ s t, Blank s ∧ Blank t ∧ cs = s ++ trim cs ++ t := by
  refine ⟨cs.takeWhile isWhiteSpace, (trimStart cs).rtakeWhile isWhiteSpace,
    fun _ => List.mem_takeWhile_imp, fun _ => List.mem_rtakeWhile_imp, ?_⟩
  rw [trim_eq_rdropWhile, List.append_assoc, List.rdropWhile_append_rtakeWhile]
  exact List.takeWhile_append_dropWhile.symm

theorem infix_trim : trim cs <:+: cs :=
  have ⟨s, t, _, _, h⟩ := exists_trim cs
  ⟨s, t, h.symm⟩

theorem trimmed_trim (cs : List Char) : Trimmed (trim cs) where
  head c hc := by
    have ⟨t, ht⟩ := List.rdropWhile_prefix isWhiteSpace (trimStart cs)
    rw [← trim_eq_rdropWhile] at ht
    have h : (trimStart cs).head? = some c := by
      rw [← ht, List.head?_append, hc, Option.some_or]
    have := List.head?_dropWhile_not isWhiteSpace cs
    rwa [← trimStart, h] at this
  last c hc := by
    obtain ⟨hn, rfl⟩ := List.mem_getLast?_eq_getLast hc
    exact Bool.eq_false_iff.mpr (List.rdropWhile_last_not isWhiteSpace (trimStart cs) hn)

theorem Trimmed.trim_eq (h : Trimmed cs) : trim cs = cs := by
  have hd : trimStart cs = cs := by
    cases cs
    case nil      => rfl
    case cons c r => simp [trimStart, h.head c rfl]
  rw [trim_eq_rdropWhile, hd, List.rdropWhile_eq_self_iff]
  intro hn
  simp [h.last _ (List.getLast?_eq_some_getLast hn)]

-- White space around a text is trimmed with that of the text.
theorem trim_append (hs : Blank s) (ht : Blank t) : trim (s ++ cs ++ t) = trim cs := by
  have hr : (trimStart cs ++ t).rdropWhile isWhiteSpace = trim cs := by
    rw [List.rdropWhile, List.reverse_append,
      List.dropWhile_append_of_pos fun c hc => ht c (List.mem_reverse.mp hc)]
    rfl
  rw [trim_eq_rdropWhile, trimStart, List.append_assoc, List.dropWhile_append_of_pos hs,
    List.dropWhile_append]
  split
  case isFalse  => exact hr
  case isTrue h =>
    have h : trimStart cs = [] := List.isEmpty_iff.mp h
    rw [trim_eq_rdropWhile, h, List.dropWhile_eq_nil_iff.mpr ht]

theorem trim_eq_nil_iff : trim cs = [] ↔ Blank cs := by
  constructor
  case mp =>
    intro h
    have ⟨s, t, hs, ht, hc⟩ := exists_trim cs
    simp only [h, List.append_nil] at hc
    exact hc ▸ List.forall_mem_append.mpr ⟨hs, ht⟩
  case mpr =>
    intro h
    have ht : trim (cs ++ [] ++ []) = trim [] := trim_append h .nil
    simpa using ht

theorem notMem_of_mem_splitOn (h : p ∈ cs.splitOn delimiter) : delimiter ∉ p := by
  induction cs generalizing p
  case nil => simp_all
  case cons c r hi =>
    obtain ⟨q, qs, hq⟩ := List.exists_cons_of_ne_nil (List.splitOn_ne_nil delimiter r)
    simp only [List.splitOn_cons_eq_if_modifyHead, hq, List.modifyHead_cons] at h hi
    split at h <;> grind

-- What is left of the pieces of a text when they are trimmed, without those of which nothing is.
def trimmedPieces (delimiter : Char) (cs : List Char) : List (List Char) :=
  (cs.splitOn delimiter).map trim |>.filter (· ≠ [])

@[simp]
theorem trimmedPieces_nil : trimmedPieces delimiter [] = [] :=
  rfl

theorem trimmedPieces_append : trimmedPieces delimiter (cs ++ delimiter :: ds) =
    trimmedPieces delimiter cs ++ trimmedPieces delimiter ds := by
  simp [trimmedPieces, List.splitOn_append_cons_self]

theorem trimmedPieces_intercalate : trimmedPieces delimiter ([delimiter].intercalate entries) =
    entries.flatMap (trimmedPieces delimiter) := by
  induction entries
  case nil => simp
  case cons e es hi =>
    cases es
    case nil  => simp
    case cons => simp_all [trimmedPieces_append]

theorem trimmedPieces_cons (h : isWhiteSpace c) :
    trimmedPieces delimiter (c :: cs) = trimmedPieces delimiter cs := by
  have ht (p : List Char) : trim (c :: p) = trim p := by
    simpa using trim_append (s := [c]) (by simpa [Blank] using h) .nil
  rw [trimmedPieces, List.splitOn_cons_eq_if_modifyHead]
  split
  case isTrue  => simp [trimmedPieces]
  case isFalse =>
    obtain ⟨p, ps, hp⟩ := List.exists_cons_of_ne_nil (List.splitOn_ne_nil delimiter cs)
    simp [trimmedPieces, hp, ht]

theorem trimmedPieces_blank_append (h : Blank s) :
    trimmedPieces delimiter (s ++ cs) = trimmedPieces delimiter cs := by
  induction s
  case nil         => rfl
  case cons c r hi =>
    have ⟨hc, hr⟩ := List.forall_mem_cons.mp h
    rw [List.cons_append, trimmedPieces_cons hc, hi hr]

theorem trimmedPieces_of_blank (h : Blank s) : trimmedPieces delimiter s = [] := by
  rw [← List.append_nil s, trimmedPieces_blank_append h, trimmedPieces_nil]

-- White space goes with the tag that it stands next to, up to the first delimiter in it.
theorem trimmedPieces_padded (hs : Blank s) (ht : Blank t) (hn : cs ≠ [])
    (hd : delimiter ∉ cs) (hc : Trimmed cs) : trimmedPieces delimiter (s ++ cs ++ t) = [cs] := by
  have single {u : List Char} (hu : Blank u) (hd' : delimiter ∉ u) :
      trimmedPieces delimiter (cs ++ u) = [cs] := by
    have hp : (cs ++ u).splitOn delimiter = [cs ++ u] :=
      List.splitOn_eq_singleton (by simp [hd, hd'])
    have htrim : trim (cs ++ u) = cs := (trim_append .nil hu).trans hc.trim_eq
    simp [trimmedPieces, hp, htrim, hn]
  rw [List.append_assoc, trimmedPieces_blank_append hs]
  by_cases h : delimiter ∈ t
  case neg => exact single ht h
  case pos =>
    obtain ⟨u, v, rfl, hu⟩ := List.eq_append_cons_of_mem h
    have ⟨hbu, hbv⟩ := List.forall_mem_append.mp ht
    rw [← List.append_assoc, trimmedPieces_append, single hbu hu,
      trimmedPieces_of_blank (List.forall_mem_cons.mp hbv).right, List.append_nil]

end Text

namespace Tags

open Text

-- What can be a tag in a text with this delimiter.
structure Delimitable (delimiter : Char) (tag : String) : Prop where
  ne_empty : tag ≠ ""
  notMem   : delimiter ∉ tag.toList
  trimmed  : Trimmed tag.toList

instance {delimiter : Char} : DecidablePred (Delimitable delimiter) := fun tag =>
  decidable_of_iff (tag ≠ "" ∧ delimiter ∉ tag.toList ∧ Trimmed tag.toList)
    ⟨fun ⟨ne, notMem, trimmed⟩ => ⟨ne, notMem, trimmed⟩,
      fun ⟨ne, notMem, trimmed⟩ => ⟨ne, notMem, trimmed⟩⟩

-- `Spaced tags entries`: the entries are the tags in their order, each with any white space around
-- it, and there may be entries of white space alone among them.
inductive Spaced : List String → List String → Prop
  | nil : Spaced [] []
  | blank {tags entries s} : Blank s.toList → Spaced tags entries → Spaced tags (s :: entries)
  | tag {tag tags entries s t} : Blank s.toList → Blank t.toList → Spaced tags entries →
    Spaced (tag :: tags) ((s ++ tag ++ t) :: entries)

variable {delimiter : Char} {text tag : String} {tags entries : List String}

theorem Spaced.refl (tags : List String) : Spaced tags tags := by
  induction tags
  case nil              => exact .nil
  case cons tag tags hi =>
    have h : Spaced (tag :: tags) (("" ++ tag ++ "") :: tags) := hi.tag .nil .nil
    simpa using h

theorem ofDelimited_eq : ofDelimited text delimiter =
    ⟨(trimmedPieces delimiter text.toList).map String.ofList⟩ :=
  rfl

theorem spaced_trim (ps : List (List Char)) :
    Spaced (((ps.map trim).filter (· ≠ [])).map String.ofList) (ps.map String.ofList) := by
  induction ps
  case nil => exact .nil
  case cons p ps hi =>
    by_cases h : trim p = []
    case pos =>
      have hb := trim_eq_nil_iff.mp h
      simpa [h] using hi.blank (s := String.ofList p) (by simpa using hb)
    case neg =>
      have ⟨s, t, hs, ht, hp⟩ := exists_trim p
      have hc : Spaced (String.ofList (trim p) :: _)
          ((String.ofList s ++ String.ofList (trim p) ++ String.ofList t) :: _) :=
        hi.tag (by simpa using hs) (by simpa using ht)
      simpa [h, ← String.ofList_append, ← hp] using hc

theorem toList_join : (delimiter.toString.intercalate entries).toList =
    [delimiter].intercalate (entries.map String.toList) := by
  simp [Char.toString]

theorem delimitable_of_mem (h : tag ∈ (ofDelimited text delimiter).toList) :
    Delimitable delimiter tag := by
  rw [ofDelimited_eq, List.mem_map] at h
  obtain ⟨_, hm, rfl⟩ := h
  rw [trimmedPieces, List.mem_filter, List.mem_map, decide_eq_true_eq] at hm
  obtain ⟨⟨p, hp, rfl⟩, hn⟩ := hm
  refine ⟨by simpa using hn, ?_, by simpa using trimmed_trim p⟩
  rw [String.toList_ofList]
  exact fun hd => notMem_of_mem_splitOn hp (infix_trim.subset hd)

theorem flatMap_trimmedPieces (ht : ∀ tag ∈ tags, Delimitable delimiter tag)
    (h : Spaced tags entries) :
    (entries.map String.toList).flatMap (trimmedPieces delimiter) = tags.map String.toList := by
  induction h
  case nil           => rfl
  case blank hs _ hi => simp [trimmedPieces_of_blank hs, ← hi ht]
  case tag hs ht' _ hi =>
    have ⟨h, hr⟩ := List.forall_mem_cons.mp ht
    have hp := trimmedPieces_padded hs ht' (by simpa using h.ne_empty) h.notMem h.trimmed
    rw [List.map_cons, List.flatMap_cons, String.toList_append, String.toList_append, hp, hi hr]
    rfl

-- How the entries are spaced does not show in the tags.
theorem ofDelimited_of_spaced (ht : ∀ tag ∈ tags, Delimitable delimiter tag)
    (h : Spaced tags entries) :
    ofDelimited (delimiter.toString.intercalate entries) delimiter = ⟨tags⟩ := by
  rw [ofDelimited_eq, toList_join, trimmedPieces_intercalate, flatMap_trimmedPieces ht h]
  simp

theorem exists_spaced (text : String) (delimiter : Char) :
    ∃ entries, Spaced (ofDelimited text delimiter).toList entries ∧
      text = delimiter.toString.intercalate entries := by
  refine ⟨(text.toList.splitOn delimiter).map String.ofList, spaced_trim _, ?_⟩
  rw [← String.toList_inj, toList_join, List.map_map]
  simp [Function.comp_def]

theorem ofDelimited_append (a b : String) :
    ofDelimited (a ++ delimiter.toString ++ b) delimiter =
      (ofDelimited a delimiter).extend (ofDelimited b delimiter).toList := by
  simp [ofDelimited_eq, extend, Char.toString, trimmedPieces_append]

-- A text has the tags of which it is made up by spacing, and no others. So it does not matter how
-- the tags are spaced, and texts are put together like the lists of their tags.
theorem ofDelimited_normal_form (delimiter : Char) :
    (∀ text, ∀ tag ∈ (ofDelimited text delimiter).toList, Delimitable delimiter tag) ∧
    (∀ tags, (∀ tag ∈ tags, Delimitable delimiter tag) →
      ofDelimited (delimiter.toString.intercalate tags) delimiter = ⟨tags⟩ ∧
      ∀ entries, Spaced tags entries →
        ofDelimited (delimiter.toString.intercalate entries) delimiter = ⟨tags⟩) ∧
    (∀ text, ∃ entries, Spaced (ofDelimited text delimiter).toList entries ∧
      text = delimiter.toString.intercalate entries) ∧
    ∀ a b, ofDelimited (a ++ delimiter.toString ++ b) delimiter =
      (ofDelimited a delimiter).extend (ofDelimited b delimiter).toList := by
  refine ⟨fun _ _ => delimitable_of_mem, fun tags ht => ⟨?_, fun _ => ofDelimited_of_spaced ht⟩,
    fun text => exists_spaced text delimiter, ofDelimited_append⟩
  exact ofDelimited_of_spaced ht (.refl tags)

-- The delimiter is white space, and stands in the white space around a tag too.
theorem ofDelimited_normal_form_space :
    ofDelimited "PL a\u00a0b" ' ' = ⟨["PL", "a\u00a0b"]⟩ ∧
    ofDelimited "  PL\t \n a\u00a0b" ' ' = ⟨["PL", "a\u00a0b"]⟩ := by
  have ht : ∀ tag ∈ ["PL", "a\u00a0b"], Delimitable ' ' tag := by decide +kernel
  have blank : ∀ s ∈ ["", " ", "\t", "\n"], Blank s.toList := by decide +kernel
  have hs : Spaced ["PL", "a\u00a0b"] ["", " PL\t", "\n", "a\u00a0b"] :=
    .blank .nil <| .tag (s := " ") (t := "\t") (blank _ (by simp)) (blank _ (by simp)) <|
      .blank (blank _ (by simp)) (.refl _)
  have ⟨_, join, _⟩ := ofDelimited_normal_form ' '
  have ⟨h, hj⟩ := join _ ht
  exact ⟨h, hj _ hs⟩

end Tags
end TagGuard
