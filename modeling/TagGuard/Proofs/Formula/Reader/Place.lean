import Mathlib.Data.String.Basic
import TagGuard.Proofs.Formula.Reader.Effect
import TagGuard.Proofs.Formula.Reader.Run

namespace TagGuard

namespace Cursor

variable {c : Cursor}

theorem length_le_utf8ByteSize (cs : List Char) :
    cs.length ≤ (String.ofList cs).utf8ByteSize := by
  rw [String.utf8ByteSize_ofList]
  induction cs
  case nil          => rfl
  case cons c cs hi => exact Nat.add_le_add hi c.utf8Size_pos

theorem enter_leave (h : 0 < c.depth) : c.leave.enter = c := by
  simp [leave, enter, Nat.sub_add_cancel h]

-- One more than the greatest number that fits into a word.
def wordBound : Nat :=
  0x10000000000000000

-- A sum as it is kept in a word, where the greatest number stands for all that are too great.
def saturatingSum (m n : Nat) : Nat :=
  min (m + n) (wordBound - 1)

theorem saturatingSum_eq {m n : Nat} (h : m + n < wordBound) : saturatingSum m n = m + n :=
  Nat.min_eq_left (Nat.le_sub_one_of_lt h)

structure Fits (c : Cursor) : Prop where
  offset : c.offset < wordBound
  bytes  : c.bytes < wordBound
  depth  : c.depth < wordBound

end Cursor

namespace Formula.Reader

open Grammar Cursor

-- What a step does with the place of a reader and with the groups and negations that are open
-- there. Numbers are added by `add`. Nothing is left that was not entered, so that there always is
-- a level to be taken off.
inductive Move (add : Nat → Nat → Nat) (limit : Nat) :
    Cursor × List Opening → Cursor × List Opening → Prop
  | stay {c os} : Move add limit (c, os) (c, os)
  | pass {x v n b d os} :
    Move add limit (⟨x :: v, n, b, d⟩, os) (⟨v, add n 1, add b x.utf8Size, d⟩, os)
  | enter {v n b d o os} : d < limit →
    Move add limit (⟨v, n, b, d⟩, os) (⟨v, n, b, add d 1⟩, o :: os)
  | leave {v n b d o os} :
    Move add limit (⟨v, n, b, d + 1⟩, o :: os) (⟨v, n, b, d⟩, os)

structure Located (source : String) (limit : Nat) (r : Reader) : Prop where
  offset_le   : r.cursor.offset ≤ source.length
  bytes       : r.cursor.bytes = (String.ofList (source.toList.take r.cursor.offset)).utf8ByteSize
  boundary    : (String.Pos.Raw.mk r.cursor.bytes).IsValid source
  bytes_le    : r.cursor.bytes ≤ source.utf8ByteSize
  peek?       : r.cursor.peek? = source.toList[r.cursor.offset]?
  peek?_bytes : r.cursor.peek? = String.Pos.Raw.get? source ⟨r.cursor.bytes⟩
  peek?_none  : r.cursor.peek? = none ↔ r.cursor.atEnd
  atEnd       : r.cursor.atEnd ↔ source.utf8ByteSize ≤ r.cursor.bytes
  depth       : r.cursor.depth = r.openings.length
  depth_le    : r.cursor.depth ≤ limit
  move s      : r.step limit = some s →
    Move (· + ·) limit (r.cursor, r.openings) (s.cursor, s.openings)
  saturating s : source.utf8ByteSize < wordBound → limit < wordBound → r.step limit = some s →
    Move saturatingSum limit (r.cursor, r.openings) (s.cursor, s.openings)

variable {source : String} {limit : Nat} {c d : Cursor} {os os' : List Opening} {r s : Reader}

theorem Move.saturating (h : Move (· + ·) limit (c, os) (d, os')) (hd : d.Fits) :
    Move saturatingSum limit (c, os) (d, os') := by
  cases h
  case stay => exact .stay
  case pass x v n b d =>
    have hm : Move saturatingSum limit (⟨x :: v, n, b, d⟩, os)
        (⟨v, saturatingSum n 1, saturatingSum b x.utf8Size, d⟩, os) := .pass
    rwa [saturatingSum_eq hd.offset, saturatingSum_eq hd.bytes] at hm
  case enter v n b d o lt =>
    have hm : Move saturatingSum limit (⟨v, n, b, d⟩, os)
        (⟨v, n, b, saturatingSum d 1⟩, o :: os) := .enter lt
    rwa [saturatingSum_eq hd.depth] at hm
  case leave => exact .leave

theorem move_of_step (hd : r.cursor.depth = r.openings.length) (h : r.step limit = some s) :
    Move (· + ·) limit (r.cursor, r.openings) (s.cursor, s.openings) := by
  cases effect_of_step h
  case pass x hx hc ho _ =>
    obtain ⟨task, ⟨rest, n, b, d⟩, frames⟩ := r
    obtain ⟨v, rfl⟩ := List.head?_eq_some_iff.mp hx
    rw [hc, ho]
    simpa [Cursor.advance, Cursor.skip, String.utf8ByteSize_ofList] using Move.pass
  case stay hc ho _         => exact hc ▸ ho ▸ .stay
  case enter lt hc ho _     => exact hc ▸ ho ▸ .enter lt
  case leave o f ht hc ho _ =>
    have hp : 0 < r.cursor.depth := by simp [hd, ho]
    rw [hc, ho, ← Cursor.enter_leave hp]
    exact .leave

-- What every move keeps.
structure Placed (source : String) (limit : Nat) (c : Cursor) (os : List Opening) : Prop where
  split    : ∃ u, source.toList = u ++ c.rest ∧ c.offset = u.length ∧
    c.bytes = (String.ofList u).utf8ByteSize
  depth    : c.depth = os.length
  depth_le : c.depth ≤ limit

namespace Placed

theorem start : Placed source limit (.ofSource source) [] where
  split    := ⟨[], rfl, rfl, rfl⟩
  depth    := rfl
  depth_le := Nat.zero_le limit

theorem move (h : Placed source limit c os) (hm : Move (· + ·) limit (c, os) (d, os')) :
    Placed source limit d os' := by
  have ⟨⟨u, hs, hn, hb⟩, hd, le⟩ := h
  cases hm
  case stay => exact h
  case pass x v n b d =>
    refine ⟨⟨u ++ [x], by simpa using hs, ?_, ?_⟩, hd, le⟩
    · simpa using hn
    · simpa [String.utf8ByteSize_ofList] using hb
  case enter lt => exact ⟨⟨u, hs, hn, hb⟩, by simpa using hd, lt⟩
  case leave    => exact ⟨⟨u, hs, hn, hb⟩, by simpa using hd, Nat.le_of_succ_le le⟩

theorem of_steps (h : Steps limit (.ofSource source) r) :
    Placed source limit r.cursor r.openings := by
  induction h
  case refl            => exact start
  case tail r s _ h hi => exact hi.move (move_of_step hi.depth h)

theorem fits (h : Placed source limit c os) (hs : source.utf8ByteSize < wordBound)
    (hl : limit < wordBound) : c.Fits := by
  have ⟨⟨u, hu, hn, hb⟩, _, le⟩ := h
  have le' : u.length ≤ (String.ofList u).utf8ByteSize := length_le_utf8ByteSize u
  have size : source.utf8ByteSize =
      (String.ofList u).utf8ByteSize + (String.ofList c.rest).utf8ByteSize := by
    rw [← String.ofList_toList (s := source), hu, String.ofList_append,
      String.utf8ByteSize_append]
  constructor <;> omega

theorem boundary {u v : List Char} :
    (String.Pos.Raw.mk (String.utf8Len u)).IsValid (String.ofList (u ++ v)) :=
  String.Pos.Raw.isValid_iff_exists_append.mpr
    ⟨.ofList u, .ofList v, String.ofList_append, (String.rawEndPos_ofList u).symm⟩

theorem located (h : Placed source limit r.cursor r.openings) : Located source limit r := by
  have ⟨⟨u, hu, hn, hb⟩, hd, le⟩ := h
  obtain rfl : source = String.ofList (u ++ r.cursor.rest) := by rw [← hu, String.ofList_toList]
  rw [String.utf8ByteSize_ofList] at hb
  exact {
    offset_le   := by simp [hn]
    bytes       := by simp [hn, hb, String.utf8ByteSize_ofList]
    boundary    := hb ▸ boundary
    bytes_le    := by simp [hb, String.utf8ByteSize_ofList]
    peek?       := by simp [hn, Cursor.peek?, List.head?_eq_getElem?, List.getElem?_append_right]
    peek?_bytes := by rw [hb, String.get?_of_valid, Cursor.peek?]
    peek?_none  := Cursor.atEnd_iff_peek?_eq_none.symm
    atEnd       := by simp [hb, String.utf8ByteSize_ofList, Cursor.atEnd]
    depth       := hd
    depth_le    := le
    move _      := move_of_step hd
    saturating _ hs hl hr :=
      have hm := move_of_step hd hr
      hm.saturating ((h.move hm).fits hs hl)
  }

end Placed

-- Every state between the beginning of a source and its answer.
theorem located_of_steps (source : String) (limits : Limits) :
    (source ≠ "" → limits.checkLength source = .ok () →
      ∀ r, Steps limits.maxDepth (.ofSource source) r →
        ∃ s, Steps limits.maxDepth r s ∧ s.task = .answer (parse source limits)) ∧
    ∀ r, Steps limits.maxDepth (.ofSource source) r → Located source limits.maxDepth r :=
  ⟨fun ne hl _ => exists_answer_of_steps ne hl, fun _ h => (Placed.of_steps h).located⟩

theorem located_of_steps_two_bytes :
    let r : Reader := ⟨.read .term, ⟨['ü'], 4, 5, 2⟩,
      [.inside .negation, .conjunct, .disjunct, .inside .group, .conjunct, .and (.word "é"),
        .disjunct]⟩
    Steps 256 (.ofSource "é.(!ü") r ∧ Located "é.(!ü" 256 r ∧
    ∃ s, Steps 256 r s ∧ s.task = .answer (.error ⟨5, .unexpected .closeParenthesis none⟩) := by
  intro r
  have ⟨ha, hl⟩ := located_of_steps "é.(!ü" {}
  have h : Steps 256 (.ofSource "é.(!ü") r :=
    .head rfl <| .head rfl <| .head rfl <| .head rfl <| .head rfl <| .head rfl <| .head rfl <|
    .head rfl <| .head rfl <| .head rfl <| .head rfl <| .head rfl <| .head rfl <| .refl
  have hp : parse "é.(!ü" {} = .error ⟨5, .unexpected .closeParenthesis none⟩ := by decide +kernel
  exact ⟨h, hl r h, hp ▸ ha (by decide) rfl r h⟩

end Formula.Reader
end TagGuard
