import TagGuard.Grammar.Alphabet
import TagGuard.SyntaxError

namespace TagGuard

open Grammar

structure Cursor where
  rest : List Char
  -- Number of characters before the cursor.
  offset : Nat := 0
  -- Number of bytes before the cursor, in UTF-8.
  bytes : Nat := 0
  depth : Nat := 0
deriving DecidableEq

namespace Cursor

variable {c : Cursor} {p : Char → Bool}

def ofSource (source : String) : Cursor where
  rest := source.toList

def peek? (c : Cursor) : Option Char :=
  c.rest.head?

def atEnd (c : Cursor) : Bool :=
  c.rest.isEmpty

theorem atEnd_iff_peek?_eq_none : c.atEnd ↔ c.peek? = none := by
  simp [atEnd, peek?]

-- The cursor `n` characters further on, or at the end if there are not so many.
def skip (c : Cursor) (n : Nat) : Cursor where
  rest   := c.rest.drop n
  offset := c.offset + (c.rest.take n).length
  bytes  := c.bytes + (String.ofList (c.rest.take n)).utf8ByteSize
  depth  := c.depth

@[simp]
theorem rest_skip {n : Nat} : (c.skip n).rest = c.rest.drop n :=
  rfl

@[simp]
theorem depth_skip {n : Nat} : (c.skip n).depth = c.depth :=
  rfl

theorem skip_skip {m n : Nat} : (c.skip m).skip n = c.skip (m + n) := by
  simp [skip, List.take_add, Nat.add_assoc]

@[simp]
theorem skip_zero : c.skip 0 = c := by
  simp [skip]

theorem offset_skip {n : Nat} (h : n ≤ c.rest.length) : (c.skip n).offset = c.offset + n := by
  simp [skip, Nat.min_eq_left h]

variable {u v : List Char}

theorem rest_skip_length (h : c.rest = u ++ v) : (c.skip u.length).rest = v := by
  simp [h]

theorem peek?_skip_length (h : c.rest = u ++ v) : (c.skip u.length).peek? = v.head? := by
  simp [peek?, h]

def advance (c : Cursor) : Cursor :=
  c.skip 1

@[simp]
theorem rest_advance : c.advance.rest = c.rest.tail :=
  List.drop_one

theorem advance_skip {n : Nat} : (c.skip n).advance = c.skip (n + 1) :=
  skip_skip

theorem length_rest_advance_le : c.advance.rest.length ≤ c.rest.length := by
  simp

theorem length_rest_advance_lt {x : Char} (h : c.peek? = some x) :
    c.advance.rest.length < c.rest.length := by
  obtain ⟨r, h⟩ := List.head?_eq_some_iff.mp h
  simp [h]

-- The characters from the cursor on that satisfy `p`, up to the first that does not.
def run (c : Cursor) (p : Char → Bool) : List Char :=
  c.rest.takeWhile p

def skipRun (c : Cursor) (p : Char → Bool) : Cursor :=
  c.skip (c.run p).length

@[simp]
theorem rest_skipRun : (c.skipRun p).rest = c.rest.dropWhile p := by
  rw [skipRun, rest_skip, run]
  induction c.rest with
  | nil         => rfl
  | cons x r hi => by_cases h : p x <;> simp [h, hi]

theorem length_rest_skipRun_le : (c.skipRun p).rest.length ≤ c.rest.length := by
  rw [rest_skipRun]
  exact (List.dropWhile_sublist p).length_le

theorem length_rest_skipRun_lt (h : c.run p ≠ []) : (c.skipRun p).rest.length < c.rest.length := by
  have := List.length_pos_iff.mpr h
  have : (c.run p).length ≤ c.rest.length := (List.takeWhile_sublist p).length_le
  rw [skipRun, rest_skip, List.length_drop]
  omega

theorem run_eq (h : c.rest = u ++ v) (hu : ∀ x ∈ u, p x) (hv : ∀ x ∈ v.head?, p x = false) :
    c.run p = u := by
  rw [run, h, List.takeWhile_append_of_pos hu]
  cases v <;> simp_all

section Run

variable {x : Char}

theorem run_of_peek? (h : c.peek? = some x) (hx : p x) : c.run p = x :: c.advance.run p := by
  obtain ⟨r, h⟩ := List.head?_eq_some_iff.mp h
  simp [run, h, hx]

theorem run_of_not (h : ∀ x ∈ c.peek?, p x = false) : c.run p = [] :=
  run_eq (List.nil_append c.rest).symm nofun h

theorem peek?_skipRun (h : (c.skipRun p).peek? = some x) : p x = false := by
  have := List.head?_dropWhile_not p c.rest
  simp_all [peek?]

theorem skipRun_of_peek? (h : c.peek? = some x) (hx : p x) :
    c.skipRun p = c.advance.skipRun p := by
  rw [skipRun, skipRun, run_of_peek? h hx, List.length_cons, advance, skip_skip, Nat.add_comm]

theorem skipRun_of_not (h : ∀ x ∈ c.peek?, p x = false) : c.skipRun p = c := by
  rw [skipRun, run_of_not h, List.length_nil, skip_zero]

end Run

def skipSeparators (c : Cursor) : Cursor :=
  c.skipRun isSeparator

@[simp]
theorem rest_skipSeparators : c.skipSeparators.rest = c.rest.dropWhile isSeparator :=
  rest_skipRun

theorem skipSeparators_eq (h : c.rest = u ++ v) (hu : ∀ x ∈ u, isSeparator x)
    (hv : ∀ x ∈ v.head?, isSeparator x = false) : c.skipSeparators = c.skip u.length := by
  rw [skipSeparators, skipRun, run_eq h hu hv]

theorem length_rest_skipSeparators_le : c.skipSeparators.rest.length ≤ c.rest.length :=
  length_rest_skipRun_le

-- Into a group or a negation.
def enter (c : Cursor) : Cursor :=
  { c with depth := c.depth + 1 }

-- Out of the innermost group or negation.
def leave (c : Cursor) : Cursor :=
  { c with depth := c.depth - 1 }

theorem leave_skip_enter {n : Nat} : (c.enter.skip n).leave = c.skip n :=
  rfl

def fail (c : Cursor) (cause : SyntaxError.Cause) : SyntaxError where
  position := c.offset
  cause    := cause

-- The error of finding what stands at the cursor in place of what was expected.
def unexpected (c : Cursor) (expected : Expectation) : SyntaxError :=
  c.fail (.unexpected expected c.peek?)

end Cursor
end TagGuard
