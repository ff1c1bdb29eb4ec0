import TagGuard.Formula.Parse
import TagGuard.Proofs.Grammar.Derivation

namespace TagGuard.Formula

open Grammar

variable {c : Cursor} {l : Level} {limit : Nat}

-- The formula and the cursor of a reading, which have the same type wherever it began.
def Reading.result (r : Reading c) : Formula × Cursor :=
  (r.formula, r.next)

def readAt (l : Level) (limit : Nat) (c : Cursor) : Except SyntaxError (Formula × Cursor) :=
  match l with
  | .term        => (readTerm limit c).map (·.result)
  | .conjunction => (readConjunction limit c).map (·.result)
  | .disjunction => (readDisjunction limit c).map (·.result)

theorem length_rest_lt_of_readAt {f : Formula} {d : Cursor} (h : readAt l limit c = .ok (f, d)) :
    d.rest.length < c.rest.length := by
  have shorter {x : Except SyntaxError (Reading c)} (h : x.map (·.result) = .ok (f, d)) :
      d.rest.length < c.rest.length := by
    cases x
    case error => cases h
    case ok r  =>
      obtain rfl : r.next = d := congrArg Prod.snd (Except.ok.inj h)
      exact r.shorter
  cases l <;> exact shorter h

-- The levels at one cursor build on one another, and all else that is read begins behind it.
theorem readAt_induction {motive : Level → Cursor → Prop}
    (term : ∀ c, (∀ l d, d.rest.length < c.rest.length → motive l d) → motive .term c)
    (conjunction : ∀ c, motive .term c →
      (∀ d, d.rest.length < c.rest.length → motive .conjunction d) → motive .conjunction c)
    (disjunction : ∀ c, motive .conjunction c →
      (∀ d, d.rest.length < c.rest.length → motive .disjunction d) → motive .disjunction c)
    (l : Level) (c : Cursor) : motive l c := by
  induction h : c.rest.length using Nat.strong_induction_on generalizing l c
  case _ n hi =>
    have hi (l d) (hd : d.rest.length < c.rest.length) : motive l d := hi _ (h ▸ hd) l d rfl
    have ht := term c hi
    have hc := conjunction c ht (hi .conjunction)
    cases l
    exacts [ht, hc, disjunction c hc (hi .disjunction)]

-- What is read one level deeper, unless that is deeper than the limit.
def readNested (l : Level) (limit : Nat) (c : Cursor) : Except SyntaxError (Formula × Cursor) :=
  if c.depth < limit then
    (readAt l limit c.enter).map fun (f, d) => (f, d.leave)
  else
    .error (c.fail (.nestingTooDeep limit))

theorem result_nested_readTerm :
    (nested limit c fun d _ => readTerm limit d).map (·.result) = readNested .term limit c := by
  simp only [nested, readNested, readAt]
  split
  case isTrue  => cases readTerm limit c.enter <;> rfl
  case isFalse => rfl

theorem result_nested_readDisjunction :
    (nested limit c fun d _ => readDisjunction limit d).map (·.result) =
      readNested .disjunction limit c := by
  simp only [nested, readNested, readAt]
  split
  case isTrue  => cases readDisjunction limit c.enter <;> rfl
  case isFalse => rfl

theorem readAt_term_of_none (h : c.skipSeparators.peek? = none) :
    readAt .term limit c = .error (c.skipSeparators.unexpected .term) := by
  rw [readAt, readTerm]
  simp only
  split <;> simp_all [Except.map]

theorem readAt_term_of_group (h : c.skipSeparators.peek? = some '(') :
    readAt .term limit c = (do
      let (f, d) ← readNested .disjunction limit c.skipSeparators.advance
      if d.peek? = some ')' then return (f, d.advance)
      else throw (d.unexpected .closeParenthesis)) := by
  rw [← result_nested_readDisjunction, readAt, readTerm]
  simp only
  split <;> simp_all
  cases nested limit c.skipSeparators.advance fun d hd => readDisjunction limit d
  case error => rfl
  case ok r  =>
    by_cases hr : r.next.peek? = some ')' <;>
      simp only [bind, Except.bind, Except.map, Reading.result, hr, if_true, if_false] <;> rfl

theorem readAt_term_of_not (h : c.skipSeparators.peek? = some '!') :
    readAt .term limit c = (do
      let (f, d) ← readNested .term limit c.skipSeparators.advance
      return (.not f, d)) := by
  rw [← result_nested_readTerm, readAt, readTerm]
  simp only
  split <;> simp_all
  cases nested limit c.skipSeparators.advance fun d hd => readTerm limit d <;> rfl

theorem readAt_term_of_nobody (h : c.skipSeparators.peek? = some '~') :
    readAt .term limit c = .ok (nobody, c.skipSeparators.advance) := by
  rw [readAt, readTerm]
  simp only
  split <;> simp_all
  rfl

theorem readAt_term_of_everybody (h : c.skipSeparators.peek? = some '*') :
    readAt .term limit c = .ok (everybody, c.skipSeparators.advance) := by
  rw [readAt, readTerm]
  simp only
  split <;> simp_all
  rfl

theorem readAt_term_of_word {x : Char} (h : c.skipSeparators.peek? = some x)
    (hx : x ∉ ['(', '!', '~', '*']) :
    readAt .term limit c = (readWord c.skipSeparators).map (·.result) := by
  rw [readAt, readTerm]
  simp only
  split <;> simp_all
  case h_6 => cases readWord c.skipSeparators <;> rfl
  all_goals subst h; simp at hx

theorem readAt_conjunction : readAt .conjunction limit c = (do
    let (f, d) ← readAt .term limit c
    if d.skipSeparators.peek? = some '.' then
      let (g, e) ← readAt .conjunction limit d.skipSeparators.advance
      return (.and f g, e)
    else
      return (f, d.skipSeparators)) := by
  simp only [readAt]
  conv => lhs; unfold readConjunction
  cases readTerm limit c
  case error e => rfl
  case ok r =>
    by_cases hr : r.next.skipSeparators.peek? = some '.'
    · simp only [bind, Except.bind, Except.map, Reading.result, Reading.skipSeparators, hr,
        dite_true, if_true]
      cases readConjunction limit r.next.skipSeparators.advance <;> rfl
    · simp only [bind, Except.bind, Except.map, Reading.result, Reading.skipSeparators, hr,
        dite_false, if_false]
      rfl

theorem readAt_disjunction : readAt .disjunction limit c = (do
    let (f, d) ← readAt .conjunction limit c
    if d.peek? = some ',' then
      let (g, e) ← readAt .disjunction limit d.advance
      return (.or f g, e)
    else
      return (f, d)) := by
  simp only [readAt]
  conv => lhs; unfold readDisjunction
  cases readConjunction limit c
  case error e => rfl
  case ok r =>
    by_cases hr : r.next.peek? = some ','
    · simp only [bind, Except.bind, Except.map, Reading.result, hr, dite_true, if_true]
      cases readDisjunction limit r.next.advance <;> rfl
    · simp only [bind, Except.bind, Except.map, Reading.result, hr, dite_false, if_false]
      rfl

section Start

-- The cursor is before the separators before a character.
variable {s u : List Char} {x : Char} (hc : c.rest = s ++ x :: u) (hs : Separators s)
include hc hs

theorem skipSeparators_eq_skip (hx : isSeparator x = false) : c.skipSeparators = c.skip s.length :=
  Cursor.skipSeparators_eq hc hs (by simpa using hx)

theorem peek?_skipSeparators (hx : isSeparator x = false) : c.skipSeparators.peek? = some x := by
  rw [skipSeparators_eq_skip hc hs hx, Cursor.peek?_skip_length hc, List.head?_cons]

theorem advance_skipSeparators (hx : isSeparator x = false) :
    c.skipSeparators.advance = c.skip (s.length + 1) := by
  rw [skipSeparators_eq_skip hc hs hx, Cursor.advance_skip]

end Start

-- The cursor inside a group or a negation that begins behind the separators `s`.
def inside (c : Cursor) (s : List Char) : Cursor :=
  (c.skip (s.length + 1)).enter

section Inside

variable {s u v : List Char} {x : Char}

theorem rest_inside (hc : c.rest = s ++ x :: u) : (inside c s).rest = u := by
  simp [inside, Cursor.enter, hc]

theorem offset_inside (hc : c.rest = s ++ x :: (u ++ v)) :
    (inside c s).offset + u.length = c.offset + (s ++ x :: u).length := by
  have ho : (inside c s).offset = c.offset + (s.length + 1) := Cursor.offset_skip (by simp [hc])
  rw [ho, List.length_append, List.length_cons]
  omega

@[simp]
theorem depth_inside : (inside c s).depth = c.depth + 1 :=
  rfl

theorem leave_skip_inside {n : Nat} : ((inside c s).skip n).leave = c.skip (s.length + 1 + n) := by
  rw [inside, Cursor.leave_skip_enter, Cursor.skip_skip]

variable (hs : Separators s)
include hs

theorem readAt_term_not (hc : c.rest = s ++ '!' :: u) (hd : c.depth < limit) :
    readAt .term limit c =
      (readAt .term limit (inside c s)).map fun (f, d) => (.not f, d.leave) := by
  rw [readAt_term_of_not (peek?_skipSeparators hc hs rfl), advance_skipSeparators hc hs rfl,
    readNested, if_pos (by simpa using hd), inside]
  cases readAt .term limit (c.skip (s.length + 1)).enter <;> rfl

theorem readAt_term_group (hc : c.rest = s ++ '(' :: u) (hd : c.depth < limit) :
    readAt .term limit c = (do
      let (f, d) ← readAt .disjunction limit (inside c s)
      if d.peek? = some ')' then return (f, d.leave.advance)
      else throw (d.unexpected .closeParenthesis)) := by
  rw [readAt_term_of_group (peek?_skipSeparators hc hs rfl), advance_skipSeparators hc hs rfl,
    readNested, if_pos (by simpa using hd), inside]
  cases readAt .disjunction limit (c.skip (s.length + 1)).enter <;> rfl

theorem readAt_term_of_deep (hc : c.rest = s ++ x :: u) (hx : x ∈ ['(', '!'])
    (hd : limit ≤ c.depth) :
    readAt .term limit c = .error ((c.skip (s.length + 1)).fail (.nestingTooDeep limit)) := by
  have hn (l : Level) : readNested l limit (c.skip (s.length + 1)) =
      .error ((c.skip (s.length + 1)).fail (.nestingTooDeep limit)) :=
    if_neg (by simpa using hd)
  simp only [List.mem_cons, List.not_mem_nil, or_false] at hx
  rcases hx with rfl | rfl
  · rw [readAt_term_of_group (peek?_skipSeparators hc hs rfl), advance_skipSeparators hc hs rfl, hn]
    rfl
  · rw [readAt_term_of_not (peek?_skipSeparators hc hs rfl), advance_skipSeparators hc hs rfl, hn]
    rfl

end Inside

theorem readAt_term_word {s w v : List Char} (hc : c.rest = s ++ (w ++ v)) (hs : Separators s)
    (hw : IsWord w) (hv : ∀ x ∈ v.head?, isWordChar x = false) :
    readAt .term limit c = .ok (word (String.ofList w), c.skip (s ++ w).length) := by
  have ⟨x, r, hr, hx⟩ := hw.isWordChar_head?
  have ⟨hxs, hxr⟩ := isWordChar_iff.mp hx
  have hc' : c.rest = s ++ x :: (r ++ v) := by simpa [hr] using hc
  have hrun : (c.skip s.length).run isWordChar = w :=
    Cursor.run_eq (Cursor.rest_skip_length hc) hw.chars hv
  rw [readAt_term_of_word (peek?_skipSeparators hc' hs hxs) (by simp_all [isReserved]),
    skipSeparators_eq_skip hc' hs hxs]
  simp [readWord, hrun, hw.ne_nil, Except.map, Reading.result, Cursor.skipRun, Cursor.skip_skip]

-- Where reading a text of a level leaves the cursor that is at the end of the text.
def behind : Level → Cursor → Cursor
  | .term, c => c
  | _, c     => c.skipSeparators

section Behind

variable {s u v : List Char}

theorem peek?_skipSeparators_skip (hc : c.rest = u ++ v) :
    (c.skip u.length).skipSeparators.peek? = (v.dropWhile isSeparator).head? := by
  simp [Cursor.peek?, hc]

theorem skipSeparators_skip (hc : c.rest = u ++ (s ++ v)) (hs : Separators s)
    (hv : ∀ x ∈ v.head?, isSeparator x = false) :
    (c.skip u.length).skipSeparators = c.skip (u.length + s.length) := by
  rw [Cursor.skipSeparators_eq (Cursor.rest_skip_length hc) hs hv, Cursor.skip_skip]

variable {x : Char} (hc : c.rest = u ++ (s ++ x :: v)) (hs : Separators s)
include hc

theorem rest_skip_operator : (c.skip (u ++ s ++ [x]).length).rest = v :=
  Cursor.rest_skip_length (by simpa using hc)

theorem offset_skip_operator (w : List Char) :
    (c.skip (u ++ s ++ [x]).length).offset + w.length = c.offset + (u ++ s ++ x :: w).length := by
  rw [Cursor.offset_skip (by simp [hc])]
  simp [Nat.add_assoc, Nat.add_comm 1]

include hs

theorem peek?_operator (hx : isSeparator x = false) :
    (c.skip u.length).skipSeparators.peek? = some x := by
  rw [peek?_skipSeparators_skip hc, hs.dropWhile_append]
  simp [hx]

theorem advance_operator (hx : isSeparator x = false) :
    (c.skip u.length).skipSeparators.advance = c.skip (u ++ s ++ [x]).length := by
  rw [skipSeparators_skip hc hs (by simpa using hx), Cursor.advance_skip]
  simp [Nat.add_assoc]

omit hc

-- Behind the operator a chain is read like one that begins there.
theorem readAt_conjunction_of_operand {f : Formula} (hc : c.rest = u ++ (s ++ '.' :: v))
    (hf : readAt .term limit c = .ok (f, c.skip u.length)) :
    readAt .conjunction limit c =
      (readAt .conjunction limit (c.skip (u ++ s ++ ['.']).length)).map
        fun (g, d) => (.and f g, d) := by
  rw [readAt_conjunction, hf]
  simp only [bind, Except.bind, peek?_operator hc hs rfl, if_true, advance_operator hc hs rfl]
  cases readAt .conjunction limit (c.skip (u ++ s ++ ['.']).length) <;> rfl

theorem readAt_disjunction_of_operand {f : Formula} (hc : c.rest = u ++ (s ++ ',' :: v))
    (hf : readAt .conjunction limit c = .ok (f, (c.skip u.length).skipSeparators)) :
    readAt .disjunction limit c =
      (readAt .disjunction limit (c.skip (u ++ s ++ [',']).length)).map
        fun (g, d) => (.or f g, d) := by
  rw [readAt_disjunction, hf]
  simp only [bind, Except.bind, peek?_operator hc hs rfl, if_true, advance_operator hc hs rfl]
  cases readAt .disjunction limit (c.skip (u ++ s ++ [',']).length) <;> rfl

end Behind

end TagGuard.Formula
