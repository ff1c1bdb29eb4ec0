import TagGuard.Formula.Words

namespace TagGuard

open Text

namespace Tags

variable {ts us : Tags} {tag : String}

-- Every tag is also among the others, in whatever case.
instance : HasSubset Tags where
  Subset ts us := ∀ t ∈ ts.toList, us.contains t

instance : Decidable (ts ⊆ us) :=
  inferInstanceAs (Decidable (∀ t ∈ ts.toList, us.contains t))

theorem contains_congr {t : String} (h : sameIgnoringCase t tag) :
    ts.contains t = ts.contains tag := by
  have h := sameIgnoringCase_iff.mp h
  simp [contains, sameIgnoringCase, h]

theorem contains_of_subset (hs : ts ⊆ us) (h : ts.contains tag) : us.contains tag := by
  have ⟨t, ht, he⟩ := contains_iff.mp h
  exact contains_congr he ▸ hs t ht

end Tags

namespace Formula

variable {f : Formula} {ts us : Tags}

-- Under a negation the two lists of tags change places, and so do the two kinds of words.
theorem eval_mono (hp : ∀ value ∈ f.wordsUnder false, ts.contains value → us.contains value)
    (hn : ∀ value ∈ f.wordsUnder true, us.contains value → ts.contains value) (h : f.eval ts) :
    f.eval us := by
  induction f generalizing ts us
  case everybody => rfl
  case word      =>
    rw [eval_word] at h ⊢
    exact hp _ (by simp [wordsUnder]) h
  case not hi    =>
    simp only [eval, Bool.not_eq_true', ← Bool.not_eq_true] at h ⊢
    exact mt (hi hn hp) h
  case and hi hi' =>
    simp only [wordsUnder, List.mem_append, or_imp, forall_and] at hp hn
    have h := Bool.and_eq_true_iff.mp h
    exact Bool.and_eq_true_iff.mpr ⟨hi hp.left hn.left h.left, hi' hp.right hn.right h.right⟩
  case or hi hi' =>
    simp only [wordsUnder, List.mem_append, or_imp, forall_and] at hp hn
    have h := Bool.or_eq_true_iff.mp h
    exact Bool.or_eq_true_iff.mpr (h.imp (hi hp.left hn.left) (hi' hp.right hn.right))

-- Of the tags only those that are words of the formula count.
theorem eval_congr (h : ∀ value ∈ f.words, ts.contains value = us.contains value) :
    f.eval ts = f.eval us := by
  have hw {odd value} (hv : value ∈ f.wordsUnder odd) : ts.contains value ↔ us.contains value :=
    Bool.eq_iff_iff.mp (h value (mem_words_iff.mpr ⟨odd, hv⟩))
  apply Bool.eq_iff_iff.mpr
  constructor
  · exact eval_mono (fun _ hv => (hw hv).mp) (fun _ hv => (hw hv).mpr)
  · exact eval_mono (fun _ hv => (hw hv).mpr) (fun _ hv => (hw hv).mp)

-- More tags do no harm if none of the new ones is asked for under an odd number of negations.
theorem eval_of_subset (hs : ts ⊆ us)
    (hn : ∀ t ∈ us.toList, ts.contains t = false →
      ∀ value ∈ f.wordsUnder true, sameIgnoringCase t value = false) (h : f.eval ts) :
    f.eval us := by
  refine eval_mono (fun _ _ => Tags.contains_of_subset hs) (fun value hv hc => ?_) h
  have ⟨t, ht, he⟩ := Tags.contains_iff.mp hc
  rw [← Tags.contains_congr he]
  cases hf : ts.contains t
  case true  => rfl
  case false => simp [hn t ht hf value hv] at he

end Formula
end TagGuard
