import TagGuard.Proofs.Formula.Notation

namespace TagGuard

namespace Grammar

variable {l : Level} {d : Nat} {s u v : List Char} {f g : Formula}

-- The second chain goes on behind the last operand of the first.
theorem Derives.exists_or (h : Derives l d u f) (hl : l = .disjunction) (hs : Separators s)
    (hg : Derives .disjunction d v g) : ∃ k, Derives .disjunction d (u ++ s ++ ',' :: v) k ∧
      ∀ ts, k.eval ts = (f.eval ts || g.eval ts) := by
  induction h
  case conjunction h _ => exact ⟨_, .or h hs hg, fun _ => rfl⟩
  case or h ht _ _ hi  =>
    have ⟨k, hk, he⟩ := hi rfl hg
    refine ⟨.or _ k, by simpa using Derives.or h ht hk, fun ts => ?_⟩
    simp [Formula.eval, he, Bool.or_assoc]
  all_goals contradiction

theorem IsExpression.exists_or (hf : IsExpression d u f) (hg : IsExpression d v g) :
    ∃ k, IsExpression d (u ++ ',' :: v) k ∧ ∀ ts, k.eval ts = (f.eval ts || g.eval ts) := by
  obtain ⟨u, s, rfl, hu, hs⟩ := hf
  obtain ⟨v, t, rfl, hv, ht⟩ := hg
  have ⟨k, hk, he⟩ := hu.exists_or rfl hs hv
  exact ⟨k, ⟨_, t, by simp, hk, ht⟩, he⟩

end Grammar

namespace Formula

open Grammar

variable {a b : String} {d : Nat} {f g : Formula}

theorem parse_composed (ha : parse a { maxDepth := d } = .ok f)
    (hb : parse b { maxDepth := d } = .ok g) :
    parse ("(" ++ a ++ ")") { maxDepth := d + 1 } = .ok f ∧
    parse ("!(" ++ a ++ ")") { maxDepth := d + 2 } = .ok (.not f) ∧
    parse ("(" ++ a ++ ").(" ++ b ++ ")") { maxDepth := d + 1 } = .ok (.and f g) ∧
    parse ("(" ++ a ++ "),(" ++ b ++ ")") { maxDepth := d + 1 } = .ok (.or f g) ∧
    ∃ k, parse (a ++ "," ++ b) { maxDepth := d } = .ok k ∧
      ∀ ts, k.eval ts = (f.eval ts || g.eval ts) := by
  simp only [parse_maxDepth_eq_ok_iff, String.toList_append] at ha hb ⊢
  have hf := derives_grouped ha
  have hg := derives_grouped hb
  refine ⟨?_, ?_, ?_, ?_, ?_⟩
  · exact hf.isExpression
  · exact (Derives.not .nil hf).isExpression
  · simpa [grouped] using (Derives.and hf .nil (.term hg)).isExpression
  · simpa [grouped] using (Derives.or (.term hf) .nil (.conjunction (.term hg))).isExpression
  · simpa using ha.exists_or hb

-- The formula of the joined chains is another one than that of the chains in parentheses.
theorem parse_composed_two_chains :
    parse " A,B" { maxDepth := 1 } = .ok (.or (.word "A") (.word "B")) ∧
    parse "!C\n" { maxDepth := 1 } = .ok (.not (.word "C")) ∧
    parse "( A,B).(!C\n)" { maxDepth := 2 } =
      .ok (.and (.or (.word "A") (.word "B")) (.not (.word "C"))) ∧
    parse " A,B,!C\n" { maxDepth := 1 } =
      .ok (.or (.word "A") (.or (.word "B") (.not (.word "C")))) ∧
    ∀ ts, (or (.word "A") (.or (.word "B") (.not (.word "C")))).eval ts =
      ((or (.word "A") (.word "B")).eval ts || (not (.word "C")).eval ts) := by
  have ha : parse " A,B" { maxDepth := 1 } = .ok (.or (.word "A") (.word "B")) := by
    decide +kernel
  have hb : parse "!C\n" { maxDepth := 1 } = .ok (.not (.word "C")) := by decide +kernel
  have hk : parse " A,B,!C\n" { maxDepth := 1 } =
      .ok (.or (.word "A") (.or (.word "B") (.not (.word "C")))) := by decide +kernel
  obtain ⟨_, _, hand, _, k, hj, he⟩ := parse_composed ha hb
  obtain rfl := Except.ok.inj (hj.symm.trans hk)
  exact ⟨ha, hb, hand, hk, he⟩

end Formula
end TagGuard
