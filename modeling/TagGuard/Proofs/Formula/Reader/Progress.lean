import TagGuard.Extensions.Except
import TagGuard.Proofs.Formula.Reader.Effect
import TagGuard.Proofs.Formula.Reader.Run

namespace TagGuard

open Grammar

namespace Cursor

theorem skip_eq_skip_min {c : Cursor} {n : Nat} : c.skip n = c.skip (min n c.rest.length) := by
  simp only [skip, ← List.take_eq_take_min, ← List.drop_eq_drop_min]

-- The cursor `d` is the cursor `c` after some of the characters that are left.
def Reaches (c d : Cursor) : Prop :=
  ∃ n, d = c.skip n

namespace Reaches

variable {c d e : Cursor}

theorem refl (c : Cursor) : c.Reaches c :=
  ⟨0, skip_zero.symm⟩

theorem trans (h : c.Reaches d) (h' : d.Reaches e) : c.Reaches e := by
  have ⟨m, hm⟩ := h
  have ⟨n, hn⟩ := h'
  exact ⟨m + n, by rw [hn, hm, skip_skip]⟩

theorem skipRun (c : Cursor) (p : Char → Bool) : c.Reaches (c.skipRun p) :=
  ⟨_, rfl⟩

theorem advance (h : c.Reaches d) : c.Reaches d.advance :=
  h.trans ⟨1, rfl⟩

theorem skipSeparators (h : c.Reaches d) : c.Reaches d.skipSeparators :=
  h.trans (skipRun d _)

-- Passing characters leaves the depth as it is, so that what was entered before is left behind.
theorem leave (h : c.enter.Reaches d) : c.Reaches d.leave := by
  have ⟨n, hn⟩ := h
  exact ⟨n, by rw [hn, leave_skip_enter]⟩

theorem depth (h : c.Reaches d) : d.depth = c.depth := by
  have ⟨n, hn⟩ := h
  rw [hn, depth_skip]

theorem exists_skip (h : c.Reaches d) (lt : d.rest.length < c.rest.length) :
    ∃ n, 0 < n ∧ n ≤ c.rest.length ∧ d = c.skip n := by
  have ⟨n, hn⟩ := h
  have hl : d.rest.length = c.rest.length - n := by rw [hn, rest_skip, List.length_drop]
  exact ⟨min n c.rest.length, by omega, Nat.min_le_right .., hn.trans skip_eq_skip_min⟩

end Reaches
end Cursor

namespace Formula

variable {l : Level} {limit : Nat} {c d : Cursor} {f : Formula}

section Chain

variable {a : Except SyntaxError (Formula × Cursor)} {t : Cursor → Cursor} {x : Char}
  {read : Cursor → Except SyntaxError (Formula × Cursor)} {join : Formula → Formula → Formula}

-- A chain goes on behind its operator `x` and ends elsewhere.
theorem exists_of_chain
    (h : (do
      let (g, e) ← a
      if (t e).peek? = some x then
        let (k, e) ← read (t e).advance
        return (join g k, e)
      else
        return (g, t e)) = .ok (f, d)) :
    ∃ g e, a = .ok (g, e) ∧ (((t e).peek? ≠ some x ∧ d = t e) ∨
      ((t e).peek? = some x ∧ ∃ k, read (t e).advance = .ok (k, d))) := by
  rw [bind_eq_ok_iff] at h
  have ⟨⟨g, e⟩, hg, h⟩ := h
  refine ⟨g, e, hg, ?_⟩
  simp only at h
  split at h
  case isTrue hp =>
    have ⟨⟨k, d⟩, hk, h⟩ := bind_eq_ok_iff.mp h
    cases h
    exact .inr ⟨hp, k, hk⟩
  case isFalse hp =>
    cases h
    exact .inl ⟨hp, rfl⟩

-- What follows an operator begins where fewer characters are left than at the first operand.
theorem exists_of_readAt_conjunction (h : readAt .conjunction limit c = .ok (f, d)) :
    ∃ g e, readAt .term limit c = .ok (g, e) ∧
      ((e.skipSeparators.peek? ≠ some '.' ∧ d = e.skipSeparators) ∨
        ∃ k, e.skipSeparators.advance.rest.length < c.rest.length ∧
          readAt .conjunction limit e.skipSeparators.advance = .ok (k, d)) := by
  rw [readAt_conjunction] at h
  have ⟨g, e, hg, h⟩ := exists_of_chain h
  refine ⟨g, e, hg, h.imp_right ?_⟩
  rintro ⟨hp, k, hk⟩
  have lt := Cursor.length_rest_advance_lt hp
  have le : e.skipSeparators.rest.length ≤ e.rest.length := Cursor.length_rest_skipSeparators_le
  have lt' := length_rest_lt_of_readAt hg
  exact ⟨k, by omega, hk⟩

theorem exists_of_readAt_disjunction (h : readAt .disjunction limit c = .ok (f, d)) :
    ∃ g e, readAt .conjunction limit c = .ok (g, e) ∧
      ((e.peek? ≠ some ',' ∧ d = e) ∨
        ∃ k, e.advance.rest.length < c.rest.length ∧
          readAt .disjunction limit e.advance = .ok (k, d)) := by
  rw [readAt_disjunction] at h
  have ⟨g, e, hg, h⟩ := exists_of_chain (t := id) h
  refine ⟨g, e, hg, h.imp_right ?_⟩
  rintro ⟨(hp : e.peek? = some ','), k, hk⟩
  have lt := Cursor.length_rest_advance_lt hp
  have lt' := length_rest_lt_of_readAt hg
  exact ⟨k, by omega, hk⟩

-- A chain ends where its last operand does. The induction is on the operators.
theorem end_of_readAt_conjunction (h : readAt .conjunction limit c = .ok (f, d)) :
    d.peek? ≠ some '.' ∧ ∃ e, d = Cursor.skipSeparators e := by
  induction hn : c.rest.length using Nat.strong_induction_on generalizing c f
  case _ n hi =>
    have ⟨g, e, hg, h⟩ := exists_of_readAt_conjunction h
    cases h
    case inl h =>
      have ⟨hp, hd⟩ := h
      exact ⟨hd ▸ hp, e, hd⟩
    case inr h =>
      have ⟨k, lt, hk⟩ := h
      exact hi _ (hn ▸ lt) hk rfl

theorem end_of_readAt_disjunction (h : readAt .disjunction limit c = .ok (f, d)) :
    d.peek? ≠ some ',' ∧ ∃ c g, readAt .conjunction limit c = .ok (g, d) := by
  induction hn : c.rest.length using Nat.strong_induction_on generalizing c f
  case _ n hi =>
    have ⟨g, e, hg, h⟩ := exists_of_readAt_disjunction h
    cases h
    case inl h =>
      have ⟨hp, hd⟩ := h
      exact ⟨hd ▸ hp, c, g, hd ▸ hg⟩
    case inr h =>
      have ⟨k, lt, hk⟩ := h
      exact hi _ (hn ▸ lt) hk rfl

end Chain

section Reach

theorem reaches_of_readNested
    (hi : ∀ f d, readAt l limit c.enter = .ok (f, d) → c.enter.Reaches d)
    (h : readNested l limit c = .ok (f, d)) : c.Reaches d := by
  rw [readNested] at h
  split at h
  case isTrue =>
    cases ha : readAt l limit c.enter
    case error e => simp [ha, Except.map] at h
    case ok a    =>
      obtain ⟨rfl, rfl⟩ : a.1 = f ∧ a.2.leave = d := by simpa [ha, Except.map] using h
      exact (hi a.1 a.2 ha).leave
  case isFalse => cases h

theorem reaches_of_readAt_term
    (hi : ∀ l f d, readNested l limit c.skipSeparators.advance = .ok (f, d) →
      ∀ x, c.skipSeparators.peek? = some x → c.skipSeparators.advance.Reaches d)
    (h : readAt .term limit c = .ok (f, d)) : c.Reaches d := by
  have hs : c.Reaches c.skipSeparators := (Cursor.Reaches.refl c).skipSeparators
  cases hc : c.skipSeparators.peek?
  case none =>
    rw [readAt_term_of_none hc] at h
    cases h
  case some x =>
    by_cases hx : x ∈ ['(', '!', '~', '*']
    case pos =>
      simp only [List.mem_cons, List.not_mem_nil, or_false] at hx
      rcases hx with rfl | rfl | rfl | rfl
      · rw [readAt_term_of_group hc, bind_eq_ok_iff] at h
        have ⟨⟨g, e⟩, hg, h⟩ := h
        simp only at h
        split at h <;> cases h
        exact (hs.advance.trans (hi _ _ _ hg _ hc)).advance
      · rw [readAt_term_of_not hc, bind_eq_ok_iff] at h
        have ⟨⟨g, e⟩, hg, h⟩ := h
        cases h
        exact hs.advance.trans (hi _ _ _ hg _ hc)
      · rw [readAt_term_of_nobody hc] at h
        cases h
        exact hs.advance
      · rw [readAt_term_of_everybody hc] at h
        cases h
        exact hs.advance
    case neg =>
      rw [readAt_term_of_word hc hx, readWord] at h
      split at h <;> cases h
      exact hs.trans (.skipRun ..)

theorem reaches_of_readAt (h : readAt l limit c = .ok (f, d)) : c.Reaches d := by
  induction l, c using readAt_induction generalizing f d
  case term c hi =>
    refine reaches_of_readAt_term (fun l _ _ h x hc => ?_) h
    have lt := Nat.lt_of_lt_of_le (Cursor.length_rest_advance_lt hc)
      Cursor.length_rest_skipSeparators_le
    exact reaches_of_readNested (fun _ _ => hi l c.skipSeparators.advance.enter lt) h
  case conjunction c ht hi =>
    have ⟨g, e, hg, h⟩ := exists_of_readAt_conjunction h
    cases h
    case inl h =>
      obtain ⟨_, rfl⟩ := h
      exact (ht hg).skipSeparators
    case inr h =>
      have ⟨k, lt, hk⟩ := h
      exact (ht hg).skipSeparators.advance.trans (hi _ lt hk)
  case disjunction c hc hi =>
    have ⟨g, e, hg, h⟩ := exists_of_readAt_disjunction h
    cases h
    case inl h =>
      obtain ⟨_, rfl⟩ := h
      exact hc hg
    case inr h =>
      have ⟨k, lt, hk⟩ := h
      exact (hc hg).advance.trans (hi _ lt hk)

end Reach

section Behind

-- Where the cursor is when something of the level was read that began at `c`. Behind a term there
-- can be separators and anything else.
structure Behind (l : Level) (c d : Cursor) : Prop where
  passed    : ∃ n, 0 < n ∧ n ≤ c.rest.length ∧ d = c.skip n
  depth     : d.depth = c.depth
  separator : l ≠ .term → ∀ x ∈ d.peek?, isSeparator x = false
  operator  : ∀ x ∈ d.peek?, x ∉ l.operators

theorem separator_of_readAt (h : readAt l limit c = .ok (f, d)) (hl : l ≠ .term) :
    ∀ x ∈ d.peek?, isSeparator x = false := by
  have hc {f c} (h : readAt .conjunction limit c = .ok (f, d)) :
      ∀ x ∈ d.peek?, isSeparator x = false := by
    obtain ⟨_, e, rfl⟩ := end_of_readAt_conjunction h
    exact fun _ => Cursor.peek?_skipRun
  cases l
  case term        => contradiction
  case conjunction => exact hc h
  case disjunction =>
    have ⟨_, _, _, h⟩ := end_of_readAt_disjunction h
    exact hc h

theorem operator_of_readAt (h : readAt l limit c = .ok (f, d)) :
    ∀ x ∈ d.peek?, x ∉ l.operators := by
  intro x hx
  have ne {y : Char} (h : d.peek? ≠ some y) : x ≠ y := fun he => h (he ▸ hx)
  cases l
  case term        => exact List.not_mem_nil
  case conjunction =>
    have hp := ne (end_of_readAt_conjunction h).left
    simpa [Level.operators] using hp
  case disjunction =>
    obtain ⟨hp', _, _, h⟩ := end_of_readAt_disjunction h
    have hp := ne (end_of_readAt_conjunction h).left
    simpa [Level.operators] using ⟨hp, ne hp'⟩

theorem behind_of_readAt (h : readAt l limit c = .ok (f, d)) : Behind l c d where
  passed    := (reaches_of_readAt h).exists_skip (length_rest_lt_of_readAt h)
  depth     := (reaches_of_readAt h).depth
  separator := separator_of_readAt h
  operator  := operator_of_readAt h

end Behind

namespace Reader

open Relation

variable {r s : Reader}

-- What goes down with every step: passing a character makes up for all that is added then.
def remaining (r : Reader) : Nat :=
  8 * r.cursor.rest.length + r.effort

theorem remaining_lt_of_step (h : r.step limit = some s) : s.remaining < r.remaining := by
  rw [remaining, remaining]
  cases effect_of_step h
  case pass x hx hc _ lt =>
    have := Cursor.length_rest_advance_lt hx
    rw [hc]
    omega
  case stay hc _ lt      => exact hc ▸ Nat.add_lt_add_left lt _
  case enter _ _ hc _ lt => exact hc ▸ Nat.add_lt_add_left lt _
  case leave _ hc _ lt   => exact hc ▸ Nat.add_lt_add_left lt _

theorem remaining_lt_of_steps (h : TransGen (fun r s => r.step limit = some s) r s) :
    s.remaining < r.remaining := by
  induction h
  case single h    => exact remaining_lt_of_step h
  case tail _ h lt => exact Nat.lt_trans (remaining_lt_of_step h) lt

-- `Again t u`: the task `u` begins another round of a loop that is at `t`, or a call that is made
-- in the course of `t`.
inductive Task.Again : Task → Task → Prop
  -- An operand of a chain, a separator before a token, or the term of a negation.
  | read {m} : Again (.read m) (.read m)
  -- What a group or a negation holds.
  | inside {opening : Opening} : Again (.read .term) (.read opening.level)
  -- A character of a word.
  | spell {cs ds} : Again (.spell cs) (.spell ds)
  -- A separator or an operator behind an operand.
  | deliver {g k} : Again (.deliver g) (.deliver k)

theorem Task.Again.effort_le {t u : Task} (h : t.Again u) : t.effort ≤ u.effort := by
  cases h
  case inside opening => cases opening <;> decide
  all_goals rfl

-- As long as there are not fewer frames than at `r`, what the task at `r` began is not over.
theorem progress (limit : Nat) :
    (WellFounded fun s r : Reader => r.step limit = some s) ∧
    (∀ r s : Reader, TransGen (fun r s => r.step limit = some s) r s → r.task.Again s.task →
      r.frames.length ≤ s.frames.length → s.cursor.rest.length < r.cursor.rest.length) ∧
    ∀ l c frames,
      (∃ e d inner, readAt l limit c = .error e ∧
        Steps limit ⟨.read l, c, frames⟩ ⟨.answer (.error e), d, inner⟩) ∨
      ∃ f d, readAt l limit c = .ok (f, d) ∧
        Steps limit ⟨.read l, c, frames⟩ ⟨.deliver f, d, frames⟩ ∧ Behind l c d := by
  refine ⟨?_, fun r s h ha le => ?_, fun l c frames => ?_⟩
  · exact Subrelation.wf remaining_lt_of_step (measure remaining).wf
  · have lt := remaining_lt_of_steps h
    have le' := ha.effort_le
    simp only [remaining, effort] at lt
    omega
  · have h := follows_read limit l c frames
    cases ha : readAt l limit c
    case error e =>
      obtain ⟨d, inner, h⟩ := (ha ▸ h :)
      exact .inl ⟨e, d, inner, rfl, h⟩
    case ok a =>
      exact .inr ⟨a.1, a.2, rfl, (ha ▸ h :), behind_of_readAt ha⟩

theorem progress_unfinished_disjunction :
    let c : Cursor := ⟨['a', ' ', '.', 'b', ' ', ',', '('], 3, 5, 1⟩
    let s : Reader :=
      ⟨.read .conjunction, ⟨['b', ' ', ',', '('], 6, 8, 1⟩, [.and (.word "a"), .disjunct]⟩
    TransGen (fun r s => r.step 256 = some s) ⟨.read .conjunction, c, [.disjunct]⟩ s ∧
    s.cursor.rest.length < c.rest.length ∧
    Behind .conjunction c ⟨[',', '('], 8, 10, 1⟩ := by
  intro c s
  have ⟨_, hl, hr⟩ := progress 256
  have h : TransGen (fun r s => r.step 256 = some s) ⟨.read .conjunction, c, [.disjunct]⟩ s :=
    .head rfl <| .head rfl <| .head rfl <| .head rfl <| .head rfl <| .single rfl
  have ha : readAt .conjunction 256 c =
      .ok (.and (.word "a") (.word "b"), ⟨[',', '('], 8, 10, 1⟩) := by decide +kernel
  refine ⟨h, hl _ s h .read (by decide), ?_⟩
  rcases hr .conjunction c [.disjunct] with ⟨e, _, _, he, _⟩ | ⟨f, d, hf, _, hb⟩
  · cases ha.symm.trans he
  · cases ha.symm.trans hf
    exact hb

end Reader
end Formula
end TagGuard
