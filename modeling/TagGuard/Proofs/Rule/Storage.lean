import TagGuard.Document.Catalog
import TagGuard.Proofs.Formula.NestingLimit

namespace TagGuard.Rule

open Grammar Formula

variable {r : Rule} {source : String} {limits : Limits}

theorem value_ofDocument_toDocument :
    (ofDocument r.toDocument).run.value = (ofSource r.source).mapError .malformed :=
  rfl

-- A stored rule is read back as it was if its groups and negations are nested no deeper than the
-- default limit allows, whatever the limits were within which it was read. If they are nested
-- deeper, the document is refused.
theorem ofDocument_toDocument (h : ofSource source limits = .ok r) :
    (limits.maxDepth ≤ 256 → IsExpression 256 source.toList r.formula) ∧
    (IsExpression 256 source.toList r.formula → (ofDocument r.toDocument).run.value = .ok r) ∧
    (¬IsExpression 256 source.toList r.formula → ∃ p, CutOff source 256 p ∧
      (ofDocument r.toDocument).run.value = .error (.malformed ⟨p, .nestingTooDeep 256⟩)) := by
  have ⟨_, he⟩ := parse_eq_ok_iff.mp (parse_of_ofSource h)
  obtain rfl := source_of_ofSource h
  rw [value_ofDocument_toDocument]
  refine ⟨he.mono, fun hd => ?_, fun hd => ?_⟩
  · rw [ofSource_of_parse_eq_ok (parse_maxDepth_eq_ok_iff.mpr hd)]
    rfl
  · have ⟨p, hc, hp⟩ := exists_cutOff he hd
    rw [ofSource_of_parse_eq_error hp]
    exact ⟨p, hc, rfl⟩

theorem ofDocument_toDocument_nested_twice :
    ∃ r, ofSource "A.(B,!C)" { maxDepth := 2 } = .ok r ∧
      (ofDocument r.toDocument).run.value = .ok r := by
  have hp : parse "A.(B,!C)" { maxDepth := 2 } =
      .ok (.and (.word "A") (.or (.word "B") (.not (.word "C")))) := by decide +kernel
  have h := ofSource_of_parse_eq_ok (r := ⟨_, _, _, hp⟩) hp
  have ⟨hd, ho, _⟩ := ofDocument_toDocument h
  exact ⟨_, h, ho (hd (by decide))⟩

theorem isExpression_negations (n : Nat) :
    IsExpression n (.replicate n '!' ++ ['A']) (Nat.repeat .not n (.word "A")) := by
  have h : Derives .term n (.replicate n '!' ++ ['A']) (Nat.repeat .not n (.word "A")) := by
    induction n
    case zero      => exact .word (s := []) .nil (.singleton rfl)
    case succ n hi => exact .not (s := []) .nil hi
  exact h.isExpression

theorem parse_negations (n : Nat) :
    parse (String.ofList (.replicate (n + 1) '!' ++ ['A'])) { maxDepth := n } =
      .error ⟨n + 1, .nestingTooDeep n⟩ := by
  have hp : Pending .term n (.replicate n '!') 0 := by
    induction n
    case zero      => exact .here
    case succ n hi => exact .not (s := []) .nil hi
  have hs : Stops n (.replicate (n + 1) '!') ['A'] (.nestingTooDeep n) := by
    rw [List.replicate_succ']
    exact .blocked (.conjunction (.term hp)) (.deep (s := []) .nil (by simp))
  have h : parse (String.ofList (.replicate (n + 1) '!' ++ ['A'])) { maxDepth := n } = _ :=
    parse_of_stops (by simp) rfl String.toList_ofList hs
  simpa using h

-- A rule that was read within other limits than the default ones can be lost.
theorem ofDocument_toDocument_nested_257 :
    ∃ r, ofSource (String.ofList (.replicate 257 '!' ++ ['A'])) { maxDepth := 300 } = .ok r ∧
      (ofDocument r.toDocument).run.value = .error (.malformed ⟨257, .nestingTooDeep 256⟩) := by
  have hp : parse (String.ofList (.replicate 257 '!' ++ ['A'])) { maxDepth := 300 } =
      .ok (Nat.repeat .not 257 (.word "A")) :=
    parse_ofList_eq_ok_iff.mpr ((isExpression_negations 257).mono (by decide))
  have h := ofSource_of_parse_eq_ok (r := ⟨_, _, _, hp⟩) hp
  refine ⟨_, h, ?_⟩
  rw [value_ofDocument_toDocument, ofSource_of_parse_eq_error (parse_negations 256)]
  rfl

end TagGuard.Rule
