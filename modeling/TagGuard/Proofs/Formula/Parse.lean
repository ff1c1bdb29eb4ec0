import TagGuard.Proofs.Formula.Reading
import TagGuard.Proofs.Grammar.Dichotomy

namespace TagGuard.Formula

open Grammar

-- What the grammar and the limits say of a source.
inductive Verdict (source : String) (limits : Limits) : Except SyntaxError Formula → Prop
  | empty : source = "" → Verdict source limits (.error ⟨0, .empty⟩)
  | tooLong {n} : limits.maxLength = some n → n < source.length →
    Verdict source limits (.error ⟨n, .tooLong n⟩)
  | formula {f} : limits.checkLength source = .ok () →
    IsExpression limits.maxDepth source.toList f → Verdict source limits (.ok f)
  | stops {p cause} : source ≠ "" → limits.checkLength source = .ok () → p ≤ source.length →
    Stops limits.maxDepth (source.toList.take p) (source.toList.drop p) cause →
    Verdict source limits (.error ⟨p, cause⟩)

variable {source : String} {limits : Limits} {a : Except SyntaxError Formula} {d p : Nat}
  {u r cs : List Char} {f g : Formula} {cause : SyntaxError.Cause}

theorem parse_eq_readAt (ne : source ≠ "") (hl : limits.checkLength source = .ok ()) :
    parse source limits = (do
      let (f, c) ← readAt .disjunction limits.maxDepth (.ofSource source)
      if c.atEnd then return f else throw (c.unexpected .endOfExpression)) := by
  rw [parse, if_neg ne, hl, readAt]
  simp only [bind, Except.bind]
  cases readDisjunction limits.maxDepth (.ofSource source) <;> rfl

theorem parse_of_isExpression (hl : limits.checkLength source = .ok ())
    (h : IsExpression limits.maxDepth source.toList f) : parse source limits = .ok f := by
  have hc : (Cursor.ofSource source).rest = source.toList ++ [] := by simp [Cursor.ofSource]
  have ne : source ≠ "" := by
    rintro rfl
    exact h.ne_nil rfl
  rw [parse_eq_readAt ne hl,
    readAt_of_complete (Complete.isExpression_iff.mp h) hc (by simp [Cursor.ofSource])]
  simp [bind, Except.bind, Cursor.atEnd, hc]
  rfl

theorem parse_of_stops (ne : source ≠ "") (hl : limits.checkLength source = .ok ())
    (hs : source.toList = u ++ r) (h : Stops limits.maxDepth u r cause) :
    parse source limits = .error ⟨u.length, cause⟩ := by
  have hc : (Cursor.ofSource source).rest = u ++ r := hs
  have hd : (Cursor.ofSource source).depth + limits.maxDepth = limits.maxDepth := Nat.zero_add _
  rw [parse_eq_readAt ne hl]
  cases h
  case blocked e u v hp hb =>
    have hv (k : Cursor) (hk : k.rest = v ++ r) (hm : k.offset = u.length)
        (hd : k.depth + e = limits.maxDepth) :
        readAt .term limits.maxDepth k = .error ⟨(u ++ v).length, cause⟩ := by
      rw [readAt_of_blocked hb hk hd, hm, List.length_append]
    rw [readAt_of_pending hp hv (hc.trans (List.append_assoc ..)) (Nat.zero_add _) hd]
    rfl
  case leftover x r f h =>
    have hp := Cursor.peek?_skip_length hc
    have ho : ((Cursor.ofSource source).skip u.length).offset = u.length := by
      rw [Cursor.offset_skip (by simp [hc])]
      exact Nat.zero_add _
    have he : ((Cursor.ofSource source).skip u.length).atEnd = false := by
      simp [Cursor.atEnd, hc]
    rw [readAt_of_complete h hc hd.le]
    simp only [bind, Except.bind, he, Bool.false_eq_true, if_false, Cursor.unexpected, Cursor.fail,
      hp, ho]
    rfl

theorem parse_of_tooLong {n : Nat} (hl : limits.maxLength = some n) (h : n < source.length) :
    parse source limits = .error ⟨n, .tooLong n⟩ := by
  have ne : source ≠ "" := by rintro rfl; simp at h
  rw [parse, if_neg ne, Limits.checkLength, hl]
  simp only [if_neg (Nat.not_le_of_lt h)]
  rfl

theorem exists_verdict (source : String) (limits : Limits) : ∃ a, Verdict source limits a := by
  by_cases ne : source = ""
  case pos => exact ⟨_, .empty ne⟩
  case neg =>
    by_cases hl : limits.checkLength source = .ok ()
    case pos =>
      cases isExpression_or_stops limits.maxDepth source.toList
      case inl h =>
        have ⟨f, h⟩ := h
        exact ⟨_, .formula hl h⟩
      case inr h =>
        have ⟨u, r, cause, hs, h⟩ := h
        have le : u.length ≤ source.length := by
          rw [← String.length_toList, hs, List.length_append]
          exact Nat.le_add_right ..
        exact ⟨_, .stops ne hl le (by simpa [hs] using h)⟩
    case neg =>
      simp only [Limits.checkLength_eq_ok_iff, not_forall, not_le] at hl
      have ⟨n, hn, h⟩ := hl
      exact ⟨_, .tooLong hn h⟩

theorem parse_eq_of_verdict (h : Verdict source limits a) : parse source limits = a := by
  cases h
  case empty h      => rw [h, parse_empty]
  case tooLong hn h => exact parse_of_tooLong hn h
  case formula hl h => exact parse_of_isExpression hl h
  case stops p cause ne hl le h =>
    have hp := parse_of_stops ne hl (List.take_append_drop ..).symm h
    rwa [List.length_take_of_le (source.length_toList ▸ le)] at hp

-- Every source is answered in the one way that the grammar and the limits give.
theorem parse_eq_iff : parse source limits = a ↔ Verdict source limits a := by
  refine ⟨?_, parse_eq_of_verdict⟩
  rintro rfl
  have ⟨a, h⟩ := exists_verdict source limits
  exact parse_eq_of_verdict h ▸ h

-- Apart from the errors on a source as a whole, an error says that the source stops at its
-- position.
theorem stops_of_parse (h : parse source limits = .error ⟨p, cause⟩) (he : cause ≠ .empty)
    (hl : ∀ n, cause ≠ .tooLong n) : p ≤ source.length ∧
    Stops limits.maxDepth (source.toList.take p) (source.toList.drop p) cause := by
  cases parse_eq_iff.mp h
  case empty      => exact absurd rfl he
  case tooLong    => exact absurd rfl (hl _)
  case stops le h => exact ⟨le, h⟩

theorem parse_eq_ok_iff : parse source limits = .ok f ↔
    limits.checkLength source = .ok () ∧ IsExpression limits.maxDepth source.toList f where
  mp h := by
    cases parse_eq_iff.mp h
    case formula hl h => exact ⟨hl, h⟩
  mpr := fun ⟨hl, h⟩ => parse_of_isExpression hl h

-- Without a limit on the length only the grammar counts.
theorem parse_maxDepth_eq_ok_iff :
    parse source { maxDepth := d } = .ok f ↔ IsExpression d source.toList f := by
  simp [parse_eq_ok_iff, Limits.checkLength]

theorem parse_ofList_eq_ok_iff :
    parse (String.ofList cs) { maxDepth := d } = .ok f ↔ IsExpression d cs f := by
  simp [parse_maxDepth_eq_ok_iff]

theorem isExpression_unique {e : Nat} (hf : IsExpression d cs f) (hg : IsExpression e cs g) :
    f = g := by
  have hf := parse_ofList_eq_ok_iff.mpr (hf.mono (Nat.le_max_left d e))
  have hg := parse_ofList_eq_ok_iff.mpr (hg.mono (Nat.le_max_right d e))
  exact Except.ok.inj (hf.symm.trans hg)

-- The sources that are accepted are those that the grammar derives within the limits, and what is
-- answered is the formula that it derives; no text is derived for two formulas.
theorem parse_eq_ok_iff_isExpression :
    (parse source limits = .ok f ↔
      source ≠ "" ∧ (∀ n ∈ limits.maxLength, source.length ≤ n) ∧
        IsExpression limits.maxDepth source.toList f) ∧
    ∀ cs d e g g', IsExpression d cs g → IsExpression e cs g' → g = g' := by
  refine ⟨?_, fun cs d e g g' => isExpression_unique⟩
  rw [parse_eq_ok_iff, Limits.checkLength_eq_ok_iff]
  refine ⟨fun ⟨hl, h⟩ => ⟨?_, hl, h⟩, fun ⟨_, hl, h⟩ => ⟨hl, h⟩⟩
  rintro rfl
  exact h.ne_nil rfl

end TagGuard.Formula
