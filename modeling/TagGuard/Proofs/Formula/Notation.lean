import TagGuard.Formula.Notation
import TagGuard.Proofs.Formula.Parse

namespace TagGuard.Formula

open Grammar

variable {l : Level} {d : Nat} {cs : List Char} {f g : Formula}

section Depth

theorem depthAt_not (h : f ≠ everybody) : (not f).depthAt l = f.depthAt .term + 1 := by
  cases f <;> first | contradiction | rfl

theorem depthAt_not_le : (not f).depthAt l ≤ f.depthAt .term + 1 := by
  cases f <;> simp [depthAt]

-- Every level below takes at most as much, and a group makes up for all levels.
theorem depthAt_le (f : Formula) :
    f.depthAt .disjunction ≤ f.depthAt .conjunction ∧ f.depthAt .conjunction ≤ f.depthAt .term ∧
      f.depthAt .term ≤ f.depthAt .disjunction + 1 := by
  cases f
  case not f => cases f <;> simp [depthAt]
  all_goals simp [depthAt]

theorem depthAt_le_of_derives (h : Derives l d cs f) : f.depthAt l ≤ d := by
  induction h
  case word | everybody | nobody => simp [nobody, depthAt]
  case not hi                    => exact depthAt_not_le.trans (Nat.succ_le_succ hi)
  case group f _ _ _ hi          => exact (depthAt_le f).right.right.trans (Nat.succ_le_succ hi)
  case term f _ hi               => exact (depthAt_le f).right.left.trans hi
  case conjunction f _ hi        => exact (depthAt_le f).left.trans hi
  case and hi hi' | or hi hi'    => simpa [depthAt] using Nat.max_le.mpr ⟨hi, hi'⟩

end Depth

theorem writable_of_derives (h : Derives l d cs f) : f.Writable := by
  induction h
  case word hw                             => simpa using hw
  case everybody | nobody                  => simp [nobody]
  case not hi                              => simpa using hi
  case group hi | term hi | conjunction hi => exact hi
  case and hi hi' | or hi hi'              => simpa using ⟨hi, hi'⟩

theorem writable_of_parse {source : String} {limits : Limits} (h : parse source limits = .ok f) :
    f.Writable := by
  have ⟨_, _, _, _, hd, _⟩ := parse_eq_ok_iff.mp h
  exact writable_of_derives hd

section Source

theorem sourceAt_not (h : f ≠ everybody) : (not f).sourceAt l = '!' :: f.sourceAt .term := by
  cases f <;> first | contradiction | rfl

theorem derives_grouped (h : IsExpression d cs f) : Derives .term (d + 1) (grouped cs) f :=
  (Complete.isExpression_iff.mp h).group .nil

theorem derives_sourceAt_not (h : Derives .term (f.depthAt .term) (f.sourceAt .term) f)
    (l : Level) : Derives l ((not f).depthAt l) ((not f).sourceAt l) (not f) := by
  apply Derives.of_term
  by_cases he : f = everybody
  case pos => exact he ▸ .nobody .nil
  case neg =>
    rw [depthAt_not he, sourceAt_not he]
    exact .not .nil h

theorem derives_sourceAt_and (hf : Derives .term (f.depthAt .term) (f.sourceAt .term) f)
    (hg : Derives .conjunction (g.depthAt .conjunction) (g.sourceAt .conjunction) g) (l : Level) :
    Derives l ((and f g).depthAt l) ((and f g).sourceAt l) (and f g) := by
  have hf := hf.mono (Nat.le_max_left _ (g.depthAt .conjunction))
  have hg := hg.mono (Nat.le_max_right (f.depthAt .term) _)
  have h := Derives.and hf .nil hg
  rw [List.append_nil] at h
  cases l
  case term        => exact derives_grouped h.isExpression
  case conjunction => exact h
  case disjunction => exact .conjunction h

theorem derives_sourceAt_or
    (hf : Derives .conjunction (f.depthAt .conjunction) (f.sourceAt .conjunction) f)
    (hg : Derives .disjunction (g.depthAt .disjunction) (g.sourceAt .disjunction) g) (l : Level) :
    Derives l ((or f g).depthAt l) ((or f g).sourceAt l) (or f g) := by
  have hf := hf.mono (Nat.le_max_left _ (g.depthAt .disjunction))
  have hg := hg.mono (Nat.le_max_right (f.depthAt .conjunction) _)
  have h := Derives.or hf .nil hg
  rw [List.append_nil] at h
  cases l
  case term        => exact derives_grouped h.isExpression
  case conjunction => exact .term (derives_grouped h.isExpression)
  case disjunction => exact h

theorem derives_sourceAt (hf : f.Writable) (l : Level) :
    Derives l (f.depthAt l) (f.sourceAt l) f := by
  induction f generalizing l
  case everybody => exact .of_term (.everybody .nil)
  case word      => simpa [sourceAt] using Derives.of_term (.word .nil (writable_word.mp hf))
  case not hi    => exact derives_sourceAt_not (hi hf .term) l
  case and hi hi' =>
    have ⟨hf, hg⟩ := writable_and.mp hf
    exact derives_sourceAt_and (hi hf .term) (hi' hg .conjunction) l
  case or hi hi' =>
    have ⟨hf, hg⟩ := writable_or.mp hf
    exact derives_sourceAt_or (hi hf .conjunction) (hi' hg .disjunction) l

end Source

theorem parse_source (hf : f.Writable) (le : f.depth ≤ d) :
    parse f.source { maxDepth := d } = .ok f :=
  parse_ofList_eq_ok_iff.mpr ((derives_sourceAt hf .disjunction).mono le).isExpression

example :
    (not (and (or (word "A") (word "B")) (and nobody everybody))).source = "!((A,B).~.*)" := by
  decide

-- A formula has a source if its words can be written, and none needs more depth than it takes.
theorem exists_parse_eq_ok_iff (d : Nat) (f : Formula) :
    (∃ source, parse source { maxDepth := d } = .ok f) ↔ f.Writable ∧ f.depth ≤ d := by
  refine ⟨?_, fun ⟨hf, le⟩ => ⟨_, parse_source hf le⟩⟩
  rintro ⟨source, h⟩
  have ⟨_, _, _, hd, _⟩ := parse_maxDepth_eq_ok_iff.mp h
  exact ⟨writable_of_derives hd, depthAt_le_of_derives hd⟩

end TagGuard.Formula
