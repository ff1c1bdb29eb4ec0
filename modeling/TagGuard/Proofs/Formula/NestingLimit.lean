import TagGuard.Proofs.Formula.ErrorPosition

namespace TagGuard.Formula

open Grammar

-- The limit `d` on the depth cuts the source off before `p`: what comes before it can become a
-- formula with one more level, and no earlier place is at fault under any greater limit.
structure CutOff (source : String) (d p : Nat) : Prop where
  pos         : 1 ≤ p
  opening     : ∃ x ∈ source.toList[p - 1]?, x ∈ ['(', '!']
  viable      : Viable d (source.toList.take (p - 1))
  not_viable  : ¬Viable d (source.toList.take p)
  viable_succ : Viable (d + 1) (source.toList.take p)
  later       : ∀ e > d, ∀ q cause, parse source { maxDepth := e } = .error ⟨q, cause⟩ →
    p ≤ q ∧ ∀ n, cause = .nestingTooDeep n → p < q

variable {source : String} {limits : Limits} {a : Except SyntaxError Formula} {d e n p q : Nat}
  {f : Formula} {cause : SyntaxError.Cause}

theorem Verdict.mono (h : Verdict source limits a) (le : limits.maxDepth ≤ e)
    (hn : ∀ p n, a ≠ .error ⟨p, .nestingTooDeep n⟩) :
    Verdict source { limits with maxDepth := e } a := by
  cases h
  case empty h          => exact .empty h
  case tooLong hl h     => exact .tooLong hl h
  case formula hl h     => exact .formula hl (h.mono le)
  case stops ne hl hp h =>
    refine .stops ne hl hp (h.mono ?_ le)
    rintro n rfl
    exact hn _ n rfl

theorem parse_eq_of_le (le : d ≤ e)
    (h : ∀ p n, parse source { maxDepth := d } ≠ .error ⟨p, .nestingTooDeep n⟩) :
    parse source { maxDepth := e } = parse source { maxDepth := d } :=
  parse_eq_iff.mpr ((parse_eq_iff.mp rfl).mono le h)

theorem not_viable_of_nestingTooDeep (h : parse source limits = .error ⟨p, .nestingTooDeep n⟩) :
    ¬Viable limits.maxDepth (source.toList.take p) := by
  have ⟨_, hs⟩ := stops_of_parse h nofun nofun
  rw [viable_iff]
  rintro ⟨k, f, hf⟩
  exact not_isExpression_of_stops hs.congr_right_of_nestingTooDeep hf

-- No error is found in what can still become a formula.
theorem le_of_viable (h : parse source { maxDepth := e } = .error ⟨q, cause⟩) (ne : source ≠ "")
    (hp : p ≤ source.length) (hv : Viable e (source.toList.take p)) :
    p ≤ q ∧ ∀ n, cause = .nestingTooDeep n → p < q := by
  have hq (k : Nat) (hk : k ≤ p) : Viable e (source.toList.take k) := by
    have ⟨t, ht⟩ := List.take_prefix_take_left (l := source.toList) hk
    exact .of_append (ht ▸ hv)
  constructor
  · by_contra lt
    cases parse_eq_iff.mp h
    case empty he     => exact absurd he ne
    case tooLong hl _ => cases hl
    case stops hs     => exact not_viable_of_stops hs (by omega) (hq _ (by omega))
  · rintro n rfl
    by_contra le
    exact not_viable_of_nestingTooDeep h (hq _ (by omega))

theorem cutOff_of_nestingTooDeep
    (h : parse source { maxDepth := d } = .error ⟨p, .nestingTooDeep n⟩) : CutOff source d p := by
  have ⟨le, hs⟩ := stops_of_parse h nofun nofun
  have ⟨u, x, ht, hx, hv, hv'⟩ := hs.exists_opening
  have hl : p = u.length + 1 := by
    have := List.length_take_of_le (source.length_toList ▸ le)
    simpa [ht] using this.symm
  have hc : source.toList = u ++ x :: source.toList.drop p := by
    have := List.take_append_drop p source.toList
    simpa [ht] using this.symm
  have hb : source.toList.take (p - 1) = u := by
    rw [hc, hl, Nat.add_sub_cancel, List.take_left]
  have ne : source ≠ "" := by
    rintro rfl
    simp at hc
  have hv : Viable d (source.toList.take (p - 1)) := viable_iff.mpr (hb ▸ hv)
  have hv' : Viable (d + 1) (source.toList.take p) := viable_iff.mpr hv'
  exact {
    pos         := hl ▸ Nat.le_add_left ..
    opening     := ⟨x, by rw [hc, hl]; simp, hx⟩
    viable      := hv
    not_viable  := not_viable_of_nestingTooDeep h
    viable_succ := hv'
    later       := fun e gt q cause he => le_of_viable he ne le (hv'.mono gt)
  }

-- A formula is refused only where it is cut off.
theorem exists_cutOff (hf : IsExpression e source.toList f) (hn : ¬IsExpression d source.toList f) :
    ∃ p, CutOff source d p ∧ parse source { maxDepth := d } = .error ⟨p, .nestingTooDeep d⟩ := by
  by_cases h : ∃ p n, parse source { maxDepth := d } = .error ⟨p, .nestingTooDeep n⟩
  case pos =>
    have ⟨p, n, h⟩ := h
    have ⟨_, hs⟩ := stops_of_parse h nofun nofun
    obtain rfl : n = d := hs.limit_eq
    exact ⟨p, cutOff_of_nestingTooDeep h, h⟩
  case neg =>
    -- A greater limit would change nothing then, but under it the source is a formula.
    have he := parse_eq_of_le (Nat.le_max_left d e) (fun p n hp => h ⟨p, n, hp⟩)
    rw [parse_maxDepth_eq_ok_iff.mpr (hf.mono (Nat.le_max_right d e))] at he
    exact absurd (parse_maxDepth_eq_ok_iff.mp he.symm) hn

theorem not_nestingTooDeep_of_openings (le : openings source.toList ≤ d) :
    parse source { maxDepth := d } ≠ .error ⟨p, .nestingTooDeep n⟩ := by
  intro h
  have ⟨_, hs⟩ := stops_of_parse h nofun nofun
  have := (List.take_sublist p source.toList).countP_le (p := fun c => c = '(' || c = '!')
  exact absurd hs.lt_openings (Nat.not_lt_of_le (Nat.le_trans this le))

theorem parse_maxLength : parse source { maxDepth := d, maxLength := some n } =
    if source.length ≤ n then parse source { maxDepth := d } else .error ⟨n, .tooLong n⟩ := by
  split_ifs with h
  case pos => simp [parse, Limits.checkLength, h]
  case neg => exact parse_of_tooLong rfl (Nat.lt_of_not_le h)

-- The limits only ever cut parsing short.
theorem limits_cut_short (source : String) (d : Nat) :
    (∀ e ≥ d, (∀ p n, parse source { maxDepth := d } ≠ .error ⟨p, .nestingTooDeep n⟩) →
      parse source { maxDepth := e } = parse source { maxDepth := d }) ∧
    (∀ p n, parse source { maxDepth := d } = .error ⟨p, .nestingTooDeep n⟩ →
      n = d ∧ CutOff source d p) ∧
    (openings source.toList ≤ d → ∀ p n,
      parse source { maxDepth := d } ≠ .error ⟨p, .nestingTooDeep n⟩) ∧
    ∀ n, parse source { maxDepth := d, maxLength := some n } =
      if source.length ≤ n then parse source { maxDepth := d } else .error ⟨n, .tooLong n⟩ := by
  refine ⟨?_, ?_, ?_, ?_⟩
  · intro e le
    exact parse_eq_of_le le
  · intro p n h
    have ⟨_, hs⟩ := stops_of_parse h nofun nofun
    exact ⟨hs.limit_eq, cutOff_of_nestingTooDeep h⟩
  · intro le p n
    exact not_nestingTooDeep_of_openings le
  · intro n
    exact parse_maxLength

theorem limits_cut_short_second_negation :
    parse "!!A" { maxDepth := 1 } = .error ⟨2, .nestingTooDeep 1⟩ ∧ CutOff "!!A" 1 2 := by
  have h : parse "!!A" { maxDepth := 1 } = .error ⟨2, .nestingTooDeep 1⟩ := by decide +kernel
  have ⟨_, hc, _⟩ := limits_cut_short "!!A" 1
  exact ⟨h, (hc 2 1 h).right⟩

end TagGuard.Formula
