import TagGuard.Document.Catalog
import TagGuard.Extensions.Except
import TagGuard.Proofs.Formula.Parse

namespace TagGuard

open Formula Grammar

-- The limits let a source pass or not, but they do not change what it says.
theorem Formula.parse_unique {source : String} {limits limits' : Limits} {f g : Formula}
    (hf : parse source limits = .ok f) (hg : parse source limits' = .ok g) : f = g :=
  isExpression_unique (parse_eq_ok_iff.mp hf).right (parse_eq_ok_iff.mp hg).right

namespace Rule

-- The ways in which a host comes by a rule: it is read from a source, within the default limits or
-- others, or from a document.
inductive Obtained : Rule → Prop
  | read {source limits r} : (read source limits).run.value = .ok r → Obtained r
  | ofDocument {d r} : (ofDocument d).run.value = .ok r → Obtained r

variable {d : Document} {r r' : Rule}

theorem value_ofDocument : (ofDocument d).run.value =
    (do (ofSource (← sourceOfDocument d)).mapError .malformed) := by
  rw [ofDocument]
  cases sourceOfDocument d <;> rfl

theorem value_ofDocument_eq_ok_iff : (ofDocument d).run.value = .ok r ↔
    ∃ source, sourceOfDocument d = .ok source ∧ ofSource source = .ok r := by
  rw [value_ofDocument, bind_eq_ok_iff]
  simp only [mapError_eq_ok_iff]

namespace Obtained

theorem exists_ofSource (h : Obtained r) : ∃ source limits, ofSource source limits = .ok r := by
  cases h
  case read h       => exact ⟨_, _, h⟩
  case ofDocument h =>
    have ⟨source, _, h⟩ := value_ofDocument_eq_ok_iff.mp h
    exact ⟨source, {}, h⟩

theorem exists_parse (h : Obtained r) : ∃ limits, parse r.source limits = .ok r.formula := by
  have ⟨_, limits, h⟩ := h.exists_ofSource
  exact ⟨limits, source_of_ofSource h ▸ parse_of_ofSource h⟩

theorem formula_eq (h : Obtained r) {limits : Limits} {f : Formula}
    (hf : parse r.source limits = .ok f) : f = r.formula := by
  have ⟨_, hp⟩ := h.exists_parse
  exact parse_unique hf hp

theorem eq_of_source_eq (h : Obtained r) (h' : Obtained r') (hs : r.source = r'.source) :
    r = r' := by
  have ⟨_, hp⟩ := h.exists_parse
  have hf : r.formula = r'.formula := h'.formula_eq (hs ▸ hp)
  cases r
  cases r'
  cases hs
  cases hf
  rfl

end Obtained

-- A rule has no other formula than its source has, so it answers like all rules with its source.
theorem eq_iff_source_eq (h : Obtained r) (h' : Obtained r') :
    (r = r' ↔ r.source = r'.source) ∧
    (r.source = r'.source → r.formula = r'.formula ∧ ∀ ts, r.admits ts = r'.admits ts) ∧
    (∃ limits, parse r.source limits = .ok r.formula) ∧
    ∀ limits f, parse r.source limits = .ok f → f = r.formula := by
  refine ⟨⟨congrArg source, h.eq_of_source_eq h'⟩, fun hs => ?_, h.exists_parse, fun _ _ => ?_⟩
  · obtain rfl := h.eq_of_source_eq h' hs
    exact ⟨rfl, fun _ => rfl⟩
  · exact h.formula_eq

-- The limits of the first rule were just enough. The third has the same formula, and yet is another
-- rule.
theorem eq_iff_source_eq_three_origins : ∃ r r' r'',
    (read "A.(B,!C)" { maxDepth := 2, maxLength := some 8 }).run.value = .ok r ∧
    (ofDocument (.record [("id", .null), ("source", .text "A.(B,!C)")])).run.value = .ok r' ∧
    (read "A . (B,!C)").run.value = .ok r'' ∧ r = r' ∧ r' ≠ r'' ∧ r'.formula = r''.formula := by
  have hp : parse "A.(B,!C)" { maxDepth := 2, maxLength := some 8 } =
      .ok (.and (.word "A") (.or (.word "B") (.not (.word "C")))) := by decide +kernel
  have hp' : parse "A.(B,!C)" = .ok (.and (.word "A") (.or (.word "B") (.not (.word "C")))) := by
    decide +kernel
  have hp'' : parse "A . (B,!C)" =
      .ok (.and (.word "A") (.or (.word "B") (.not (.word "C")))) := by decide +kernel
  have h := ofSource_of_parse_eq_ok (r := ⟨_, _, _, hp⟩) hp
  have h' := ofSource_of_parse_eq_ok (r := ⟨_, _, _, hp'⟩) hp'
  have h'' := ofSource_of_parse_eq_ok (r := ⟨_, _, _, hp''⟩) hp''
  have hs : sourceOfDocument (.record [("id", .null), ("source", .text "A.(B,!C)")]) =
      .ok "A.(B,!C)" := rfl
  have hd := value_ofDocument_eq_ok_iff.mpr ⟨_, hs, h'⟩
  refine ⟨_, _, _, h, hd, h'', ?_, ?_, rfl⟩
  · exact (eq_iff_source_eq (.read h) (.ofDocument hd)).left.mpr rfl
  · exact mt (eq_iff_source_eq (.ofDocument hd) (.read h'')).left.mp (by simp)

end Rule
end TagGuard
