import TagGuard.Proofs.Formula.Parse

namespace TagGuard.Formula

open Grammar

-- Whether a source that begins with these characters can be a formula in which groups and
-- negations are nested at most `d` deep.
def Viable (d : Nat) (cs : List Char) : Prop :=
  ∃ k f, parse (String.ofList (cs ++ k)) { maxDepth := d } = .ok f

variable {source : String} {limits : Limits} {d e n p : Nat} {u v r cs : List Char} {x : Char}
  {f : Formula} {cause : SyntaxError.Cause} {expected : Expectation} {found : Option Char}

theorem viable_iff : Viable d cs ↔ ∃ k f, IsExpression d (cs ++ k) f := by
  simp only [Viable, parse_ofList_eq_ok_iff]

namespace Viable

theorem mono (h : Viable d cs) (le : d ≤ e) : Viable e cs := by
  rw [viable_iff] at h ⊢
  have ⟨k, f, h⟩ := h
  exact ⟨k, f, h.mono le⟩

theorem of_append (h : Viable d (u ++ v)) : Viable d u :=
  have ⟨k, f, h⟩ := h
  ⟨v ++ k, f, List.append_assoc u v k ▸ h⟩

end Viable

-- A source does not both stop to make sense and be a formula.
theorem not_isExpression_of_stops (h : Stops d u r cause) : ¬IsExpression d (u ++ r) f := by
  intro hf
  have ne : String.ofList (u ++ r) ≠ "" := by simpa using hf.ne_nil
  have hs : parse (String.ofList (u ++ r)) { maxDepth := d } = .error ⟨u.length, cause⟩ :=
    parse_of_stops ne rfl (by simp) h
  exact nomatch (parse_ofList_eq_ok_iff.mpr hf).symm.trans hs

theorem not_viable_of_stops
    (h : Stops d (source.toList.take p) (source.toList.drop p) cause) (lt : p < source.length) :
    ¬Viable d (source.toList.take (p + 1)) := by
  have lt : p < source.toList.length := source.length_toList ▸ lt
  rw [List.drop_eq_getElem_cons lt] at h
  rw [List.take_succ_eq_append_getElem lt, viable_iff]
  rintro ⟨k, f, hf⟩
  rw [List.append_assoc] at hf
  have hs := h.congr_right (w := [source.toList[p]] ++ k) rfl
  exact not_isExpression_of_stops hs hf

-- More levels do not help where something unexpected stands, and less do not either.
theorem not_viable_of_unexpected (h : parse source limits = .error ⟨p, .unexpected expected found⟩)
    (lt : p < source.length) : ¬Viable d (source.toList.take (p + 1)) := by
  have ⟨_, h⟩ := stops_of_parse h nofun nofun
  have hs := h.mono nofun (Nat.le_max_left limits.maxDepth d)
  exact fun hv => not_viable_of_stops hs lt (hv.mono (Nat.le_max_right ..))

-- What is unexpected is so at the first place that shows that no formula can be made of the source.
-- What was read up to there says what was expected.
theorem position_of_unexpected
    (h : parse source limits = .error ⟨p, .unexpected expected found⟩) :
    p ≤ source.length ∧ found = source.toList[p]? ∧ (found = none ↔ p = source.length) ∧
    Viable limits.maxDepth (source.toList.take p) ∧
    (p < source.length → ∀ d, ¬Viable d (source.toList.take (p + 1))) ∧
    (Dangling (source.toList.take p) → expected = if found = none then .term else .value) ∧
    (¬Dangling (source.toList.take p) →
      ((source.toList.take p).count ')' < (source.toList.take p).count '(' ∧
        expected = .closeParenthesis) ∨
      ((source.toList.take p).count '(' = (source.toList.take p).count ')' ∧
        expected = .endOfExpression ∧ found ≠ none)) := by
  have ⟨le, hs⟩ := stops_of_parse h nofun nofun
  have hf : source.toList[p]? = found := List.head?_drop ▸ hs.head?_eq
  refine ⟨le, hf.symm, ?_, viable_iff.mpr hs.exists_isExpression, ?_, hs.expected_iff⟩
  · have : source.toList.length = source.length := source.length_toList
    rw [← hf, List.getElem?_eq_none_iff]
    omega
  · exact fun lt _ => not_viable_of_unexpected h lt

theorem position_of_unexpected_second_comma :
    parse "A.(B,,C)" {} = .error ⟨5, .unexpected .value (some ',')⟩ ∧
    Viable 256 "A.(B,".toList ∧ ∀ d, ¬Viable d "A.(B,,".toList := by
  have h : parse "A.(B,,C)" {} = .error ⟨5, .unexpected .value (some ',')⟩ := by decide +kernel
  have ⟨_, _, _, hv, hn, _⟩ := position_of_unexpected h
  exact ⟨h, hv, hn (by decide +kernel)⟩

end TagGuard.Formula
