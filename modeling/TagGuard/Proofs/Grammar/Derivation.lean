import Mathlib.Data.List.TakeWhile
import TagGuard.Grammar.Derivation

namespace TagGuard.Grammar

variable {c x : Char} {s t u v w cs : List Char} {l : Level} {d e : Nat} {f : Formula}

theorem isReserved_of_mem {xs : List Char} (hx : x ∈ xs)
    (hxs : xs ⊆ [',', '.', '!', '*', '~', '(', ')'] := by simp) : isReserved x :=
  isReserved_iff.mpr (hxs hx)

theorem isSeparator_eq_false_of_isReserved (h : isReserved c) : isSeparator c = false := by
  by_contra hc
  simp [isReserved_eq_false_of_isSeparator (eq_true_of_ne_false hc)] at h

theorem isWordChar_eq_false_of_isReserved (h : isReserved c) : isWordChar c = false := by
  simp [isWordChar, h]

theorem isWordChar_eq_false_of_isSeparator (h : isSeparator c) : isWordChar c = false := by
  simp [isWordChar, h]

namespace Separators

theorem nil : Separators [] :=
  nofun

theorem append (hs : Separators s) (ht : Separators t) : Separators (s ++ t) := by
  simpa [Separators, or_imp, forall_and] using ⟨hs, ht⟩

theorem takeWhile (cs : List Char) : Separators (cs.takeWhile isSeparator) :=
  fun _ => List.mem_takeWhile_imp

theorem count_eq_zero (hs : Separators s) (h : isReserved c) : s.count c = 0 := by
  refine List.count_eq_zero.mpr fun hc => ?_
  simp [isReserved_eq_false_of_isSeparator (hs c hc)] at h

theorem isWordChar_head? (hs : Separators s) (hv : ∀ c ∈ v.head?, isWordChar c = false) :
    ∀ c ∈ (s ++ v).head?, isWordChar c = false := by
  cases s
  case nil      => exact hv
  case cons c s => simpa using isWordChar_eq_false_of_isSeparator (hs c List.mem_cons_self)

theorem dropWhile_append (hs : Separators s) :
    (s ++ v).dropWhile isSeparator = v.dropWhile isSeparator :=
  List.dropWhile_append_of_pos hs

end Separators

namespace IsWord

theorem singleton (hx : isWordChar x) : IsWord [x] :=
  ⟨by simp, by simpa using hx⟩

theorem count_eq_zero (hw : IsWord w) (h : isReserved c) : w.count c = 0 := by
  refine List.count_eq_zero.mpr fun hc => ?_
  simpa [isWordChar_eq_false_of_isReserved h] using hw.chars c hc

theorem isWordChar_getLast? (hw : IsWord w) : ∃ c ∈ w.getLast?, isWordChar c := by
  refine ⟨w.getLast hw.ne_nil, List.getLast?_eq_some_getLast hw.ne_nil, ?_⟩
  exact hw.chars _ (List.getLast_mem hw.ne_nil)

theorem isWordChar_head? (hw : IsWord w) : ∃ c r, w = c :: r ∧ isWordChar c := by
  have ⟨c, r, h⟩ := List.exists_cons_of_ne_nil hw.ne_nil
  exact ⟨c, r, h, hw.chars c (h ▸ List.mem_cons_self)⟩

end IsWord

-- The last character of a text apart from the separators after it.
def lastMark? (cs : List Char) : Option Char :=
  cs.reverse.find? (!isSeparator ·)

theorem lastMark?_append : lastMark? (u ++ v) = (lastMark? v).or (lastMark? u) := by
  simp [lastMark?]

theorem lastMark?_cons (h : isSeparator c = false) :
    lastMark? (c :: u) = (lastMark? u).or (some c) := by
  simp [lastMark?, h]

theorem Separators.lastMark? (hs : Separators s) : lastMark? s = none := by
  simpa [Grammar.lastMark?, Separators] using hs

theorem IsWord.lastMark? (hw : IsWord w) : ∃ c ∈ lastMark? w, isWordChar c := by
  have ⟨c, hc, h⟩ := hw.isWordChar_getLast?
  refine ⟨c, ?_, h⟩
  have ⟨r, hr⟩ := List.head?_eq_some_iff.mp (List.getLast?_eq_head?_reverse ▸ hc)
  simp [Grammar.lastMark?, hr, (isWordChar_iff.mp h).left]

-- Whether the text stops where an operand must come next.
def Dangling (cs : List Char) : Prop :=
  ∀ c ∈ lastMark? cs, c ∈ ['(', '!', ',', '.']

instance : Decidable (Dangling cs) :=
  inferInstanceAs (Decidable (∀ c ∈ lastMark? cs, _))

namespace Dangling

theorem of_separators (hs : Separators s) : Dangling s := by
  simp [Dangling, hs.lastMark?]

theorem append_separators (h : Dangling u) (hs : Separators s) : Dangling (u ++ s) := by
  simpa [Dangling, lastMark?_append, hs.lastMark?] using h

theorem append_cons (h : Dangling u) (hc : c ∈ ['(', '!', ',', '.']) : Dangling (v ++ c :: u) := by
  have hs : isSeparator c = false := isSeparator_eq_false_of_isReserved (isReserved_of_mem hc)
  simp only [Dangling, lastMark?_append, lastMark?_cons hs] at h ⊢
  cases hu : lastMark? u
  case none   => simpa using hc
  case some x => simpa [hu] using h

end Dangling

namespace Derives

theorem ne_nil (h : Derives l d u f) : u ≠ [] := by
  induction h
  case word _ w                 => simp [w.ne_nil]
  case term hi | conjunction hi => exact hi
  all_goals simp

theorem count_parentheses (h : Derives l d u f) : u.count '(' = u.count ')' := by
  induction h
  case word s w                 => simp [s.count_eq_zero, w.count_eq_zero, isReserved]
  case everybody s | nobody s   => simp [s.count_eq_zero, isReserved]
  case not s _ hi               => simp [s.count_eq_zero, isReserved, hi]
  case group s _ t hi           => simp [s.count_eq_zero, t.count_eq_zero, isReserved, hi]
  case term hi | conjunction hi => exact hi
  case and _ s _ hi hi'         => simp [s.count_eq_zero, isReserved, hi, hi']
  case or _ s _ hi hi'          => simp [s.count_eq_zero, isReserved, hi, hi']

theorem lastMark? (h : Derives l d u f) : ∃ c ∈ lastMark? u, c ∉ ['(', '!', ',', '.'] := by
  induction h
  case word _ w =>
    have ⟨c, hc, h⟩ := w.lastMark?
    refine ⟨c, by simp_all [lastMark?_append], fun hm => ?_⟩
    simp only [List.mem_cons, List.not_mem_nil, or_false] at hm
    rcases hm with rfl | rfl | rfl | rfl <;> contradiction
  case everybody                => exact ⟨'*', by rw [lastMark?_append]; rfl, by decide⟩
  case nobody                   => exact ⟨'~', by rw [lastMark?_append]; rfl, by decide⟩
  case group                    => exact ⟨')', by rw [lastMark?_append]; rfl, by decide⟩
  case term hi | conjunction hi => exact hi
  case not hi | and hi | or hi =>
    have ⟨c, hc, h⟩ := hi
    refine ⟨c, ?_, h⟩
    rw [lastMark?_append, lastMark?_cons rfl, hc]
    rfl

theorem of_term (h : Derives .term d u f) : Derives l d u f := by
  cases l
  case term        => exact h
  case conjunction => exact .term h
  case disjunction => exact .conjunction (.term h)

theorem isExpression (h : Derives l d u f) : IsExpression d u f := by
  refine ⟨u, [], by simp, ?_, .nil⟩
  cases l
  case term        => exact of_term h
  case conjunction => exact .conjunction h
  case disjunction => exact h

-- A single letter is a term wherever one can stand.
theorem letter (hs : Separators s) : Derives .term d (s ++ ['a']) (.word "a") :=
  .word hs (.singleton rfl)

theorem exists_opening (hs : Separators s) (hx : x ∈ ['(', '!']) :
    ∃ w f, Derives .term (d + 1) (s ++ x :: w) f := by
  have ha (l : Level) : Derives l d ['a'] (.word "a") := .of_term (.letter .nil)
  simp only [List.mem_cons, List.not_mem_nil, or_false] at hx
  rcases hx with rfl | rfl
  exacts [⟨['a', ')'], _, by simpa using Derives.group hs (ha .disjunction) .nil⟩,
    ⟨['a'], _, .not hs (ha .term)⟩]

theorem not_dangling (h : Derives l d u f) (hs : Separators s) : ¬Dangling (v ++ u ++ s) := by
  have ⟨c, hc, hn⟩ := h.lastMark?
  refine fun hd => hn (hd c ?_)
  simp [lastMark?_append, hs.lastMark?, Option.mem_def.mp hc]

end Derives

namespace IsExpression

theorem mono (h : IsExpression d cs f) (le : d ≤ e) : IsExpression e cs f :=
  have ⟨ds, s, hcs, hd, hs⟩ := h
  ⟨ds, s, hcs, hd.mono le, hs⟩

theorem ne_nil (h : IsExpression d cs f) : cs ≠ [] := by
  obtain ⟨ds, s, rfl, hd, _⟩ := h
  simp [hd.ne_nil]

end IsExpression

-- The operators between operands that a text of the level can consist of.
def Level.operators : Level → List Char
  | term        => []
  | conjunction => ['.']
  | disjunction => ['.', ',']

-- A text of the level ends before `v`: its last word does not go on there, and there is no
-- operator of the level.
structure Ends (l : Level) (u v : List Char) : Prop where
  word     : ∀ a ∈ u.getLast?, ∀ b ∈ v.head?, isWordChar a → isWordChar b = false
  operator : ∀ c ∈ (v.dropWhile isSeparator).head?, c ∉ l.operators

namespace Ends

-- At the end of a source and before a separator or a reserved character no word goes on.
theorem of_head? (hw : ∀ c ∈ v.head?, isWordChar c = false)
    (ho : ∀ c ∈ (v.dropWhile isSeparator).head?, c ∉ l.operators) : Ends l u v where
  word _ _ c hc _ := hw c hc
  operator        := ho

theorem term (h : ∀ c ∈ v.head?, isWordChar c = false) : Ends .term u v :=
  of_head? h (by simp [Level.operators])

-- Behind a reserved character there is no word that could go on.
theorem behind_reserved (hx : isReserved x) : Ends .term (u ++ [x]) v where
  word a ha _ _ hw := by
    obtain rfl : x = a := by simpa using ha
    exact absurd hw (by simp [isWordChar_eq_false_of_isReserved hx])
  operator := by simp [Level.operators]

theorem of_separators (hs : Separators s) : Ends l u s := by
  refine of_head? ?_ ?_
  · simpa using hs.isWordChar_head? (v := []) (by simp)
  · simp [List.dropWhile_eq_nil_iff.mpr hs]

theorem of_isReserved (hs : Separators s) (hx : isReserved x) (ho : x ∉ l.operators) :
    Ends l u (s ++ x :: v) := by
  refine of_head? (hs.isWordChar_head? (by simpa using isWordChar_eq_false_of_isReserved hx)) ?_
  simpa [hs.dropWhile_append, isSeparator_eq_false_of_isReserved hx] using ho

theorem word_of_getLast? (h : Ends l u v) (hu : ∃ c ∈ u.getLast?, isWordChar c) :
    ∀ c ∈ v.head?, isWordChar c = false :=
  have ⟨a, ha, hw⟩ := hu
  fun b hb => h.word a ha b hb hw

-- What comes last decides whether a text ends.
theorem suffix_iff (hw : w <:+ u) (ne : w ≠ []) : Ends l w v ↔ Ends l u v := by
  obtain ⟨t, rfl⟩ := hw
  have : (t ++ w).getLast? = w.getLast? := by
    simp [List.getLast?_append, List.getLast?_eq_some_getLast ne]
  exact ⟨fun ⟨hw, ho⟩ => ⟨this ▸ hw, ho⟩, fun ⟨hw, ho⟩ => ⟨this ▸ hw, ho⟩⟩

theorem of_append (h : Ends l (u ++ w) v) : Ends l w v where
  word a ha := h.word a (by simp_all [List.getLast?_append])
  operator  := h.operator

theorem cons (hx : isReserved x) (h : Ends l u v) : Ends l (s ++ x :: u) v := by
  cases u
  case nil  => exact ⟨(behind_reserved hx).word, h.operator⟩
  case cons => exact (suffix_iff ⟨s ++ [x], by simp⟩ (by simp)).mp h

-- What comes behind the separators after the text is no operator.
theorem operator_iff (hs : Separators s) (hv : ∀ c ∈ v.head?, isSeparator c = false) :
    (∀ c ∈ ((s ++ v).dropWhile isSeparator).head?, c ∉ l.operators) ↔
      ∀ c ∈ v.head?, c ∉ l.operators := by
  rw [hs.dropWhile_append]
  cases v <;> simp_all

-- Separators end a word wherever they are counted.
theorem append_separators_iff (hs : Separators s) :
    Ends .term (u ++ s) v ↔ Ends .term u (s ++ v) := by
  cases s
  case nil => simp
  case cons c s =>
    have hl : ∀ a ∈ (u ++ c :: s).getLast?, isWordChar a = false := by
      intro a ha
      refine isWordChar_eq_false_of_isSeparator (hs a ?_)
      exact List.mem_of_getLast? (by simpa [List.getLast?_append] using ha)
    have hh : isWordChar c = false := isWordChar_eq_false_of_isSeparator (hs c List.mem_cons_self)
    have he : Ends .term (u ++ c :: s) v :=
      ⟨fun a ha _ _ hw => by simp [hl a ha] at hw, by simp [Level.operators]⟩
    exact iff_of_true he (.term (by simpa using hh))

theorem mono {m : Level} (h : Ends l u v) (hl : m.operators ⊆ l.operators) : Ends m u v where
  word            := h.word
  operator c hc m := h.operator c hc (hl m)

end Ends

-- The text `u` is a disjunction with the separators after it, and nothing in `v` belongs to it.
inductive Complete (d : Nat) : List Char → List Char → Formula → Prop
  | intro {cs s v : List Char} {f : Formula} : Derives .disjunction d cs f → Separators s →
    (∀ c ∈ v.head?, isSeparator c = false) → Ends .disjunction cs (s ++ v) →
    Complete d (cs ++ s) v f

namespace Complete

theorem isExpression (h : Complete d u v f) : IsExpression d u f :=
  have ⟨hd, hs, _, _⟩ := h
  ⟨_, _, rfl, hd, hs⟩

theorem isExpression_iff : IsExpression d cs f ↔ Complete d cs [] f where
  mp  := fun ⟨_, _, h, hd, hs⟩ => h ▸ ⟨hd, hs, by simp, by simpa using .of_separators hs⟩
  mpr := isExpression

theorem isSeparator_head? (h : Complete d u v f) : ∀ c ∈ v.head?, isSeparator c = false :=
  have ⟨_, _, hv, _⟩ := h
  hv

theorem ends (h : Complete d u v f) : Ends .term u v := by
  have ⟨_, hs, _, he⟩ := h
  exact (Ends.append_separators_iff hs).mpr (he.mono (by simp [Level.operators]))

theorem group (h : Complete d u v f) (hs : Separators s) :
    Derives .term (d + 1) (s ++ '(' :: u ++ [')']) f := by
  have ⟨hd, ht, _, _⟩ := h
  simpa using Derives.group hs hd ht

theorem mono (h : Complete d u v f) (le : d ≤ e) : Complete e u v f :=
  have ⟨hd, hs, hv, he⟩ := h
  ⟨hd.mono le, hs, hv, he⟩

-- Only the first character after a disjunction says whether it ends.
theorem congr_right (h : Complete d u v f) (hh : v.head? = w.head?) : Complete d u w f := by
  have ⟨hd, hs, hv, he⟩ := h
  refine ⟨hd, hs, hh ▸ hv, ?_, ?_⟩
  · simpa [← hh] using he.word
  · have := he.operator
    rw [hs.dropWhile_append] at this ⊢
    cases v <;> cases w <;> simp_all

theorem count_parentheses (h : Complete d u v f) : u.count '(' = u.count ')' := by
  have ⟨hd, hs, _, _⟩ := h
  simp [hd.count_parentheses, hs.count_eq_zero, isReserved]

theorem not_dangling (h : Complete d u v f) : ¬Dangling (w ++ u) := by
  have ⟨hd, hs, _, _⟩ := h
  exact List.append_assoc w _ _ ▸ hd.not_dangling hs

end Complete

end TagGuard.Grammar
