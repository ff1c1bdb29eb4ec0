import TagGuard.Formula.Reader

namespace TagGuard.Formula.Reader

open Grammar

-- How many steps a task takes at most, with those to deliver the frames that it adds, until the
-- next character is passed.
@[simp]
def Task.effort : Task → Nat
  | enter _             => 9
  | read .disjunction   => 7
  | read .conjunction   => 5
  | read .term          => 3
  | spell _             => 2
  | close _ | deliver _ => 1
  | answer _            => 0

def effort (r : Reader) : Nat :=
  r.task.effort + r.frames.length

-- All that a step can do. Where a character is passed, it makes up for what is to be done then.
inductive Effect (limit : Nat) (r s : Reader) : Prop
  | pass {x} : r.cursor.peek? = some x → s.cursor = r.cursor.advance →
    s.openings = r.openings → s.effort < r.effort + 8 → Effect limit r s
  | stay : s.cursor = r.cursor → s.openings = r.openings → s.effort < r.effort → Effect limit r s
  | enter {opening} : r.task = .enter opening → r.cursor.depth < limit →
    s.cursor = r.cursor.enter → s.openings = opening :: r.openings → s.effort < r.effort →
    Effect limit r s
  | leave {opening f} : r.task = .deliver f → s.cursor = r.cursor.leave →
    r.openings = opening :: s.openings → s.effort < r.effort → Effect limit r s

variable {limit : Nat} {r s : Reader} {l : Level} {opening : Opening} {frame : Frame}
  {frames : List Frame} {task : Task} {f : Formula} {cs : List Char} {x : Char} {e : SyntaxError}

theorem openings_of_cons (h : r.frames = frame :: frames) (ho : frame.opening? = none) :
    frames.filterMap (·.opening?) = r.openings := by
  simp [openings, h, ho]

theorem openings_of_inside (h : r.frames = .inside opening :: frames) :
    r.openings = opening :: frames.filterMap (·.opening?) := by
  simp [openings, h, Frame.opening?]

namespace Effect

theorem of_pass (h : r.cursor.peek? = some x) (lt : task.effort < r.task.effort + 8) :
    Effect limit r (r.pass task) := by
  refine .pass h rfl rfl ?_
  simp only [effort, Reader.pass]
  omega

theorem of_turn (lt : task.effort < r.task.effort) : Effect limit r (r.turn task) :=
  .stay rfl rfl (Nat.add_lt_add_right lt _)

theorem of_fail (lt : 0 < r.task.effort) : Effect limit r (r.fail e) :=
  of_turn lt

-- The frame of a formula that is delivered is done with, and the next one gets a formula as well.
theorem of_deliver (ht : r.task = .deliver f) (hf : r.frames = frame :: frames)
    (ho : frame.opening? = none) {g : Formula} : Effect limit r ⟨.deliver g, r.cursor, frames⟩ := by
  refine .stay rfl (openings_of_cons hf ho) ?_
  simp [effort, ht, hf]

-- The frame of an operand is replaced by one for what follows the operator.
theorem of_operator {frame' : Frame} (h : r.cursor.peek? = some x) (ht : r.task = .deliver f)
    (hf : r.frames = frame :: frames) (ho : frame.opening? = none) (ho' : frame'.opening? = none) :
    Effect limit r { r.pass (.read l) with frames := frame' :: frames } := by
  refine .pass h rfl ?_ ?_
  · rw [← openings_of_cons hf ho]
    exact (openings_of_cons rfl ho').symm
  · cases l <;> simp +arith [effort, Reader.pass, ht, hf]

theorem of_read_term (ht : r.task = .read .term) : Effect limit r r.readTerm := by
  simp only [readTerm]
  split
  case h_1 => exact of_fail (by simp [ht])
  case h_6 =>
    split
    case isTrue  => exact of_pass ‹_› (by simp [ht])
    case isFalse => exact of_turn (by simp [ht])
  all_goals exact of_pass ‹_› (by simp [ht])

theorem of_read (ht : r.task = .read l) : Effect limit r (r.read l) := by
  cases l
  case term => exact of_read_term ht
  all_goals
    refine .stay rfl (openings_of_cons rfl rfl).symm ?_
    simp +arith [read, effort, ht]

theorem of_enter (ht : r.task = .enter opening) : Effect limit r (r.enter limit opening) := by
  rw [Reader.enter]
  split
  case isTrue hd =>
    refine .enter ht hd rfl (openings_of_inside rfl) ?_
    cases opening <;> simp +arith [effort, ht, Opening.level]
  case isFalse => exact of_fail (by simp [ht])

theorem of_spell (ht : r.task = .spell cs) : Effect limit r (r.spell cs) := by
  rw [spell]
  split
  case h_1 h =>
    exact of_pass (Option.filter_eq_some_iff.mp h).left (by simp)
  case h_2 =>
    split
    case isTrue  => exact of_fail (by simp [ht])
    case isFalse => exact of_turn (by simp [ht])

theorem of_close (ht : r.task = .close f) : Effect limit r (r.close f) := by
  rw [close]
  split
  case isTrue hp => exact of_pass hp (by simp)
  case isFalse   => exact of_fail (by simp [ht])

theorem of_continueConjunction (ht : r.task = .deliver f) (hf : r.frames = .conjunct :: frames) :
    Effect limit r (r.continueConjunction f frames) := by
  have hd : Effect limit r { r with frames } := ht ▸ of_deliver ht hf rfl
  simp only [continueConjunction]
  split
  case h_1 hp => exact of_operator hp ht hf rfl rfl
  case h_2 =>
    split
    case isTrue  => exact of_pass ‹_› (by simp)
    case isFalse => exact hd
  case h_3 => exact hd

theorem of_leave (ht : r.task = .deliver f) (hf : r.frames = .inside opening :: frames) :
    Effect limit r (r.leave f frames opening) := by
  cases opening <;>
    exact .leave ht rfl (openings_of_inside hf) (by simp [Reader.leave, effort, ht, hf])

theorem of_deliver_frames (ht : r.task = .deliver f) : Effect limit r (r.deliver f) := by
  simp only [deliver]
  split
  case h_1 =>
    split
    case isTrue  => exact of_turn (by simp [ht])
    case isFalse => exact of_fail (by simp [ht])
  case h_2 hf => exact of_continueConjunction ht hf
  case h_3 hf =>
    rw [continueDisjunction]
    split
    case isTrue hp => exact of_operator hp ht hf rfl rfl
    case isFalse   => exact ht ▸ of_deliver ht hf rfl
  case h_4 hf => exact of_deliver ht hf rfl
  case h_5 hf => exact of_deliver ht hf rfl
  case h_6 hf => exact of_leave ht hf

end Effect

theorem effect_of_step (h : r.step limit = some s) : Effect limit r s := by
  cases ht : r.task <;> simp only [step, ht, Option.some.injEq, reduceCtorEq] at h
  all_goals subst h
  case read l        => exact .of_read ht
  case enter opening => exact .of_enter ht
  case spell cs      => exact .of_spell ht
  case close f       => exact .of_close ht
  case deliver f     => exact .of_deliver_frames ht

end TagGuard.Formula.Reader
