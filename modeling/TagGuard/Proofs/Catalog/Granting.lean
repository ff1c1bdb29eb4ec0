import TagGuard.Proofs.Catalog.Session
import TagGuard.Proofs.Formula.Parse
import TagGuard.Proofs.Formula.Polarity

namespace TagGuard

open Text

namespace Grammar

variable {l : Level} {d : Nat} {u : List Char} {f : Formula}

theorem Derives.wordsUnder_eq_nil (h : Derives l d u f) (hn : '!' ∉ u) :
    f.wordsUnder true = [] := by
  induction h
  case word | everybody | nobody => rfl
  case not                       => simp at hn
  case group hi                  => exact hi (by simp_all)
  case term hi | conjunction hi  => exact hi hn
  case and hi hi' | or hi hi'    =>
    simp only [List.mem_append, List.mem_cons, not_or] at hn
    simp [Formula.wordsUnder, hi hn.left.left, hi' hn.right.right]

theorem IsExpression.wordsUnder_eq_nil (h : IsExpression d u f) (hn : '!' ∉ u) :
    f.wordsUnder true = [] := by
  obtain ⟨_, _, rfl, hd, _⟩ := h
  exact hd.wordsUnder_eq_nil fun hm => hn (List.mem_append_left _ hm)

end Grammar

theorem Rule.wordsUnder_eq_nil {r : Rule} (hn : '!' ∉ r.source.toList) :
    r.formula.wordsUnder true = [] := by
  have ⟨_, hp⟩ := r.parsed
  exact (Formula.parse_eq_ok_iff.mp hp).right.wordsUnder_eq_nil hn

namespace Catalog

variable {c : Catalog} {n : String} {rule : Rule} {ts us : Option Tags}

theorem mem_enabled_of_subset (hf : c.find? n = some rule) (hn : '!' ∉ rule.source.toList)
    (hs : ts.getD ∅ ⊆ us.getD ∅) (h : n ∈ c.enabled ts) : n ∈ c.enabled us := by
  have ⟨rule', hf', ha⟩ := mem_enabled_iff.mp h
  obtain rfl := Option.some.inj (hf.symm.trans hf')
  refine mem_enabled_iff.mpr ⟨rule, hf, ?_⟩
  apply Formula.eval_of_subset hs _ ha
  simp [Rule.wordsUnder_eq_nil hn]

-- Tags are only ever held against a subject by negations of words.
theorem enabled_stays_enabled :
    (∀ (f : Formula) (ts us : Tags), ts ⊆ us →
      (∀ t ∈ us.toList, ts.contains t = false →
        ∀ value ∈ f.wordsUnder true, sameIgnoringCase t value = false) →
      f.eval ts → f.eval us) ∧
    ∀ (c : Catalog) (n : String) (rule : Rule) (ts us : Option Tags), c.find? n = some rule →
      '!' ∉ rule.source.toList → ts.getD ∅ ⊆ us.getD ∅ → n ∈ c.enabled ts → n ∈ c.enabled us :=
  ⟨fun _ _ _ => Formula.eval_of_subset, fun _ _ _ _ _ => mem_enabled_of_subset⟩

-- The one new tag is a word under two negations, and no word is under the one in `~`.
theorem enabled_stays_enabled_other_case :
    ((Formula.and (.word "A") (.not (.and (.word "B") (.not (.word "C"))))).eval ⟨["A"]⟩ ∧
      (Formula.and (.word "A") (.not (.and (.word "B") (.not (.word "C"))))).eval ⟨["C", "a"]⟩) ∧
    "p" ∈ (after [.add "p" "~,( A . B)"]).enabled (some ⟨["a", "B"]⟩) ∧
    "p" ∈ (after [.add "p" "~,( A . B)"]).enabled (some ⟨["b", "c", "A"]⟩) := by
  obtain ⟨formula, catalog⟩ := enabled_stays_enabled
  constructor
  · have hs : (⟨["A"]⟩ : Tags) ⊆ ⟨["C", "a"]⟩ := by decide +kernel
    have he : (Formula.and (.word "A") (.not (.and (.word "B") (.not (.word "C"))))).eval
        ⟨["A"]⟩ := by decide +kernel
    exact ⟨he, formula _ _ _ hs (by decide +kernel) he⟩
  · obtain ⟨rule, hf, hn⟩ : ∃ rule ∈ (after [.add "p" "~,( A . B)"]).find? "p",
        '!' ∉ rule.source.toList := by decide +kernel
    have hs : (⟨["a", "B"]⟩ : Tags) ⊆ ⟨["b", "c", "A"]⟩ := by decide +kernel
    have he : "p" ∈ (after [.add "p" "~,( A . B)"]).enabled (some ⟨["a", "B"]⟩) := by
      decide +kernel
    exact ⟨he, catalog _ _ rule (some _) (some _) hf hn hs he⟩

end Catalog
end TagGuard
