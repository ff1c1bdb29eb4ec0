import Mathlib.Logic.Relation
import TagGuard.Formula.Reader
import TagGuard.Proofs.Formula.Parse

namespace TagGuard.Formula.Reader

open Grammar Relation

variable {limit : Nat} {c d : Cursor} {l : Level} {f : Formula} {r s : Reader}
  {frames inner : List Frame} {x : Char} {opening : Opening}

abbrev Steps (limit : Nat) : Reader → Reader → Prop :=
  ReflTransGen fun r s => r.step limit = some s

-- The reader comes to where the formula of a reading is to be delivered, or answers its error.
def Follows (limit : Nat) (r : Reader) (frames : List Frame) :
    Except SyntaxError (Formula × Cursor) → Prop
  | .ok (f, c) => Steps limit r ⟨.deliver f, c, frames⟩
  | .error e   => ∃ c inner, Steps limit r ⟨.answer (.error e), c, inner⟩

namespace Follows

variable {a : Except SyntaxError (Formula × Cursor)}
  {p : Formula × Cursor → Except SyntaxError (Formula × Cursor)} {e : SyntaxError}

theorem of_steps (h : Steps limit r s) (hs : Follows limit s frames a) :
    Follows limit r frames a := by
  cases a
  case ok    => exact h.trans hs
  case error =>
    have ⟨c, inner, hs⟩ := hs
    exact ⟨c, inner, h.trans hs⟩

theorem of_step (h : r.step limit = some s) (hs : Follows limit s frames a) :
    Follows limit r frames a :=
  of_steps (.single h) hs

theorem fail (r : Reader) (e : SyntaxError) : Follows limit (r.fail e) frames (.error e) :=
  ⟨r.cursor, r.frames, .refl⟩

theorem bind (h : Follows limit r inner a)
    (hp : ∀ f c, a = .ok (f, c) → Follows limit ⟨.deliver f, c, inner⟩ frames (p (f, c))) :
    Follows limit r frames (a >>= p) := by
  cases a
  case ok    => exact of_steps h (hp _ _ rfl)
  case error => exact h

end Follows

-- A run of characters is passed one by one.
theorem steps_run {p : Char → Bool} {q : List Char → Cursor → Reader}
    (h : ∀ cs c x, c.peek? = some x → p x →
      (q cs c).step limit = some (q (cs ++ [x]) c.advance)) (cs : List Char) (c : Cursor) :
    Steps limit (q cs c) (q (cs ++ c.run p) (c.skipRun p)) := by
  induction hr : c.rest generalizing cs c
  case nil =>
    have hn : ∀ x ∈ c.peek?, p x = false := by simp [Cursor.peek?, hr]
    rw [Cursor.run_of_not hn, Cursor.skipRun_of_not hn, List.append_nil]
  case cons x v hi =>
    have hc : c.peek? = some x := by simp [Cursor.peek?, hr]
    by_cases hx : p x
    case pos =>
      rw [Cursor.run_of_peek? hc hx, Cursor.skipRun_of_peek? hc hx, ← List.singleton_append,
        ← List.append_assoc]
      exact .head (h cs c x hc hx) (hi (cs ++ [x]) c.advance (by simp [hr]))
    case neg =>
      have hn : ∀ y ∈ c.peek?, p y = false := by simpa [hc] using hx
      rw [Cursor.run_of_not hn, Cursor.skipRun_of_not hn, List.append_nil]

section Separators

theorem step_read_term_of_separator (hc : c.peek? = some x) (hx : isSeparator x) :
    (⟨.read .term, c, frames⟩ : Reader).step limit = some ⟨.read .term, c.advance, frames⟩ := by
  simp only [isSeparator_iff, List.mem_cons, List.not_mem_nil, or_false] at hx
  rcases hx with rfl | rfl | rfl | rfl <;> simp [step, read, readTerm, hc, pass, isSeparator]

theorem step_deliver_of_separator (hc : c.peek? = some x) (hx : isSeparator x) :
    (⟨.deliver f, c, .conjunct :: frames⟩ : Reader).step limit =
      some ⟨.deliver f, c.advance, .conjunct :: frames⟩ := by
  simp only [isSeparator_iff, List.mem_cons, List.not_mem_nil, or_false] at hx
  rcases hx with rfl | rfl | rfl | rfl <;>
    simp [step, deliver, continueConjunction, hc, pass, isSeparator]

theorem steps_read_term (c : Cursor) (frames : List Frame) :
    Steps limit ⟨.read .term, c, frames⟩ ⟨.read .term, c.skipSeparators, frames⟩ :=
  steps_run (q := fun _ c => ⟨.read .term, c, frames⟩)
    (fun _ _ _ hc hx => step_read_term_of_separator hc hx) [] c

theorem steps_deliver (f : Formula) (c : Cursor) (frames : List Frame) :
    Steps limit ⟨.deliver f, c, .conjunct :: frames⟩
      ⟨.deliver f, c.skipSeparators, .conjunct :: frames⟩ :=
  steps_run (q := fun _ c => ⟨.deliver f, c, .conjunct :: frames⟩)
    (fun _ _ _ hc hx => step_deliver_of_separator hc hx) [] c

end Separators

section Spell

variable {cs : List Char}

theorem spell_of_isWordChar (hc : r.cursor.peek? = some x) (hx : isWordChar x) :
    r.spell cs = r.pass (.spell (cs ++ [x])) := by
  rw [spell, hc, Option.filter_some_pos hx]

theorem spell_of_not (cs : List Char) (h : ∀ x ∈ r.cursor.peek?, isWordChar x = false) :
    r.spell cs =
      if cs = [] then r.fail (r.cursor.unexpected .value)
      else r.turn (.deliver (word (String.ofList cs))) := by
  have hn : r.cursor.peek?.filter isWordChar = none := by simpa using h
  rw [spell, hn]

theorem follows_spell (c : Cursor) (frames : List Frame) :
    Follows limit ⟨.spell [], c, frames⟩ frames ((readWord c).map (·.result)) := by
  have hs : Steps limit ⟨.spell [], c, frames⟩
      ⟨.spell (c.run isWordChar), c.skipRun isWordChar, frames⟩ := by
    refine steps_run (q := fun cs c => ⟨.spell cs, c, frames⟩) ?_ [] c
    intro cs c x hc hx
    exact congrArg some (spell_of_isWordChar hc hx)
  have he := spell_of_not (r := ⟨.spell (c.run isWordChar), c.skipRun isWordChar, frames⟩)
    (c.run isWordChar) fun _ => Cursor.peek?_skipRun
  refine .of_steps hs (.of_step (congrArg some he) ?_)
  by_cases h : c.run isWordChar = []
  case pos =>
    have hc : c.skipRun isWordChar = c := by
      rw [Cursor.skipRun, h, List.length_nil, Cursor.skip_zero]
    rw [readWord, dif_pos h, if_pos h, hc]
    exact .fail ..
  case neg =>
    rw [readWord, dif_neg h, if_neg h]
    exact .refl

end Spell

theorem follows_enter
    {p : Formula × Cursor → Except SyntaxError (Formula × Cursor)}
    (h : Follows limit ⟨.read opening.level, c.enter, .inside opening :: frames⟩
      (.inside opening :: frames) (readAt opening.level limit c.enter))
    (hp : ∀ f d, Follows limit ⟨.deliver f, d, .inside opening :: frames⟩ frames (p (f, d.leave))) :
    Follows limit ⟨.enter opening, c, frames⟩ frames (readNested opening.level limit c >>= p) := by
  rw [readNested]
  split
  case isTrue hd =>
    refine .of_step (s := ⟨.read opening.level, c.enter, .inside opening :: frames⟩) ?_ ?_
    · simp [step, enter, hd]
    · cases ha : readAt opening.level limit c.enter
      case ok a    => exact .of_steps (ha ▸ h :) (hp a.1 a.2)
      case error e => exact (ha ▸ h :)
  case isFalse hd =>
    refine .of_step ?_ (.fail ⟨.enter opening, c, frames⟩ _)
    simp [step, enter, hd]

section Operators

theorem step_deliver_of_period (hc : c.peek? = some '.') :
    (⟨.deliver f, c, .conjunct :: frames⟩ : Reader).step limit =
      some ⟨.read .conjunction, c.advance, .and f :: frames⟩ := by
  simp [step, deliver, continueConjunction, hc, pass]

theorem step_deliver_conjunct (hs : ∀ x ∈ c.peek?, isSeparator x = false)
    (hc : c.peek? ≠ some '.') :
    (⟨.deliver f, c, .conjunct :: frames⟩ : Reader).step limit = some ⟨.deliver f, c, frames⟩ := by
  simp only [step, deliver, continueConjunction]
  split <;> simp_all

end Operators

section Term

theorem follows_group (hc : c.skipSeparators.peek? = some '(')
    (hi : Follows limit
      ⟨.read .disjunction, c.skipSeparators.advance.enter, .inside .group :: frames⟩
      (.inside .group :: frames) (readAt .disjunction limit c.skipSeparators.advance.enter)) :
    Follows limit ⟨.read .term, c.skipSeparators, frames⟩ frames (readAt .term limit c) := by
  rw [readAt_term_of_group hc]
  refine .of_step (s := ⟨.enter .group, c.skipSeparators.advance, frames⟩) ?_ ?_
  · simp [step, read, readTerm, hc, pass]
  · refine follows_enter hi fun f d => .of_step (s := ⟨.close f, d.leave, frames⟩) rfl ?_
    simp only
    split
    case isTrue hp =>
      refine .of_step (s := ⟨.deliver f, d.leave.advance, frames⟩) ?_ .refl
      simp [step, close, hp, pass]
    case isFalse hp =>
      refine .of_step ?_ (.fail ⟨.close f, d.leave, frames⟩ _)
      simp [step, close, hp]

theorem follows_not (hc : c.skipSeparators.peek? = some '!')
    (hi : Follows limit ⟨.read .term, c.skipSeparators.advance.enter, .inside .negation :: frames⟩
      (.inside .negation :: frames) (readAt .term limit c.skipSeparators.advance.enter)) :
    Follows limit ⟨.read .term, c.skipSeparators, frames⟩ frames (readAt .term limit c) := by
  rw [readAt_term_of_not hc]
  refine .of_step (s := ⟨.enter .negation, c.skipSeparators.advance, frames⟩) ?_ ?_
  · simp [step, read, readTerm, hc, pass]
  · exact follows_enter hi fun f d => .of_step rfl .refl

theorem follows_word (hc : c.skipSeparators.peek? = some x) (hx : x ∉ ['(', '!', '~', '*']) :
    Follows limit ⟨.read .term, c.skipSeparators, frames⟩ frames (readAt .term limit c) := by
  have hs : isSeparator x = false := Cursor.peek?_skipRun hc
  rw [readAt_term_of_word hc hx]
  refine .of_step (s := ⟨.spell [], c.skipSeparators, frames⟩) ?_ (follows_spell ..)
  simp only [step, read, readTerm, hc]
  split <;> simp_all [turn]

end Term

-- Every call of the reading functions is a task whose outcome is delivered to the same frames.
theorem follows_read (limit : Nat) (l : Level) (c : Cursor) (frames : List Frame) :
    Follows limit ⟨.read l, c, frames⟩ frames (readAt l limit c) := by
  induction l, c using readAt_induction generalizing frames
  case term c hi =>
    have hi (opening : Opening) {x : Char} (h : c.skipSeparators.peek? = some x) :=
      hi opening.level c.skipSeparators.advance.enter
        (Nat.lt_of_lt_of_le (Cursor.length_rest_advance_lt h) Cursor.length_rest_skipSeparators_le)
        (.inside opening :: frames)
    refine .of_steps (steps_read_term c frames) ?_
    cases hc : c.skipSeparators.peek?
    case none =>
      rw [readAt_term_of_none hc]
      refine .of_step ?_ (.fail ⟨.read .term, c.skipSeparators, frames⟩ _)
      simp [step, read, readTerm, hc]
    case some x =>
      by_cases hx : x ∈ ['(', '!', '~', '*']
      case pos =>
        simp only [List.mem_cons, List.not_mem_nil, or_false] at hx
        rcases hx with rfl | rfl | rfl | rfl
        · exact follows_group hc (hi .group hc)
        · exact follows_not hc (hi .negation hc)
        · rw [readAt_term_of_nobody hc]
          refine .of_step ?_ .refl
          simp [step, read, readTerm, hc, pass]
        · rw [readAt_term_of_everybody hc]
          refine .of_step ?_ .refl
          simp [step, read, readTerm, hc, pass]
      case neg => exact follows_word hc hx
  case conjunction c ht hi =>
    rw [readAt_conjunction]
    refine .of_step rfl (.bind (ht (.conjunct :: frames)) fun f d hf => ?_)
    refine .of_steps (steps_deliver f d frames) ?_
    simp only
    split
    case isTrue hp =>
      have lt := Cursor.length_rest_advance_lt hp
      have le : d.skipSeparators.rest.length ≤ d.rest.length := Cursor.length_rest_skipSeparators_le
      have hd := length_rest_lt_of_readAt hf
      refine .of_step (step_deliver_of_period hp) ?_
      refine .bind (hi _ (by omega) (.and f :: frames)) fun g e hg => .of_step rfl ?_
      exact .refl
    case isFalse hp =>
      have hs : ∀ x ∈ d.skipSeparators.peek?, isSeparator x = false := fun _ => Cursor.peek?_skipRun
      refine .of_step (step_deliver_conjunct hs hp) .refl
  case disjunction c hc hi =>
    rw [readAt_disjunction]
    refine .of_step rfl (.bind (hc (.disjunct :: frames)) fun f d hf => ?_)
    simp only
    split
    case isTrue hp =>
      have lt := Cursor.length_rest_advance_lt hp
      have hd := length_rest_lt_of_readAt hf
      refine .of_step (s := ⟨.read .disjunction, d.advance, .or f :: frames⟩) ?_ ?_
      · simp [step, deliver, continueDisjunction, hp, pass]
      · refine .bind (hi _ (by omega) (.or f :: frames)) fun g e hg => .of_step rfl ?_
        exact .refl
    case isFalse hp =>
      refine .of_step (s := ⟨.deliver f, d, frames⟩) ?_ .refl
      simp [step, deliver, continueDisjunction, hp]

section Answer

variable {source : String} {limits : Limits}

theorem steps_answer (ne : source ≠ "") (hl : limits.checkLength source = .ok ()) :
    ∃ r, Steps limits.maxDepth (.ofSource source) r ∧ r.task = .answer (parse source limits) := by
  have h := follows_read limits.maxDepth .disjunction (.ofSource source) []
  rw [parse_eq_readAt ne hl]
  cases ha : readAt .disjunction limits.maxDepth (.ofSource source)
  case error e =>
    have ⟨c, inner, h⟩ := (ha ▸ h :)
    exact ⟨_, h, rfl⟩
  case ok a =>
    have h : Steps limits.maxDepth (.ofSource source) ⟨.deliver a.1, a.2, []⟩ := (ha ▸ h :)
    refine ⟨_, h.tail rfl, ?_⟩
    by_cases he : a.2.atEnd <;> simp [deliver, he, bind, Except.bind, turn, fail] <;> rfl

theorem rightUnique_step : Relator.RightUnique fun r s : Reader => r.step limit = some s :=
  fun _ _ _ h h' => Option.some.inj (h.symm.trans h')

-- There is only one way to go on, and it ends with the answer.
theorem exists_answer_of_steps (ne : source ≠ "") (hl : limits.checkLength source = .ok ())
    (h : Steps limits.maxDepth (.ofSource source) r) :
    ∃ s, Steps limits.maxDepth r s ∧ s.task = .answer (parse source limits) := by
  have ⟨s, hs, ha⟩ := steps_answer ne hl
  cases h.total_of_right_unique rightUnique_step hs
  case inl h => exact ⟨s, h, ha⟩
  case inr h =>
    cases h.cases_head
    case inl he => exact ⟨r, .refl, he ▸ ha⟩
    case inr he =>
      have ⟨t, ht, _⟩ := he
      simp [step, ha] at ht

end Answer

end TagGuard.Formula.Reader
