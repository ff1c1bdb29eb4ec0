import Mathlib.Logic.Relation
import TagGuard.Proofs.Formula.IgnoringCase

namespace TagGuard.Formula

open Text Relation

-- One change of the tags of a subject that the formula does not see.
inductive IdleChange (f : Formula) : Tags → Tags → Prop
  | reorder {ts us : Tags} : ts.toList.Perm us.toList → IdleChange f ts us
  | duplicate {ts : Tags} {t} : t ∈ ts.toList → IdleChange f ts (ts.insert t)
  | recase {before after t u} : List.Forall₂ (lowercase · = lowercase ·) t.toList u.toList →
    IdleChange f ⟨before ++ t :: after⟩ ⟨before ++ u :: after⟩
  | replace {before after t u} : sameIgnoringCase t u →
    IdleChange f ⟨before ++ t :: after⟩ ⟨before ++ u :: after⟩
  | add {ts t} : (∀ value ∈ f.words, sameIgnoringCase t value = false) →
    IdleChange f ts (ts.insert t)

variable {f : Formula} {ts us : Tags} {before after : List String} {t u value : String}

theorem contains_replace (h : sameIgnoringCase t u) :
    (Tags.mk (before ++ t :: after)).contains value =
      (Tags.mk (before ++ u :: after)).contains value :=
  contains_congr_case (by simp [sameIgnoringCase_iff.mp h]) value

theorem sameIgnoringCase_of_letters
    (h : List.Forall₂ (lowercase · = lowercase ·) t.toList u.toList) : sameIgnoringCase t u := by
  rw [forall₂_iff_map_eq] at h
  rw [sameIgnoringCase_iff, foldCase, foldCase, List.flatMap_def, h, ← List.flatMap_def]

namespace IdleChange

theorem contains_eq (h : f.IdleChange ts us) (hv : value ∈ f.words) :
    ts.contains value = us.contains value := by
  cases h
  case reorder hp        => exact hp.any_eq
  case duplicate t ht    =>
    have hc : sameIgnoringCase t value → ts.contains value :=
      fun he => Tags.contains_iff.mpr ⟨t, ht, he⟩
    rw [Tags.contains_insert, Bool.eq_iff_iff, Bool.or_eq_true, or_iff_left_of_imp hc]
  case recase hl         => exact contains_replace (sameIgnoringCase_of_letters hl)
  case replace he        => exact contains_replace he
  case add t hn          => rw [Tags.contains_insert, hn value hv, Bool.or_false]

-- A tag may be added if the tags have it in another case, or else if no word asks for it.
theorem insert (h : ts.contains t ∨ ∀ value ∈ f.words, sameIgnoringCase t value = false) :
    EqvGen f.IdleChange ts (ts.insert t) := by
  cases h
  case inl hc =>
    have ⟨s, hs, he⟩ := Tags.contains_iff.mp hc
    exact .trans _ _ _ (.rel _ _ (duplicate hs)) (.rel _ _ (replace he))
  case inr hn => exact .rel _ _ (add hn)

theorem extend {tags : List String} (h : ∀ t ∈ tags,
    ts.contains t ∨ ∀ value ∈ f.words, sameIgnoringCase t value = false) :
    EqvGen f.IdleChange ts (ts.extend tags) := by
  rw [Tags.extend_eq_foldl_insert]
  induction tags generalizing ts
  case nil            => exact .refl _
  case cons t tags hi =>
    rw [List.forall_mem_cons] at h
    refine .trans _ _ _ (insert h.left) (hi fun u hu => (h.right u hu).imp_left fun hc => ?_)
    rw [Tags.contains_insert, hc, Bool.true_or]

end IdleChange

theorem contains_or_not_asked
    (h : ∀ value ∈ f.words, ts.contains value = us.contains value) (ht : t ∈ us.toList) :
    ts.contains t ∨ ∀ value ∈ f.words, sameIgnoringCase t value = false := by
  by_contra! hn
  have ⟨hc, value, hv, he⟩ := hn
  have he : sameIgnoringCase t value := by simpa using he
  rw [Tags.contains_congr he, h value hv] at hc
  exact hc (Tags.contains_iff.mpr ⟨t, ht, he⟩)

-- Both lists of tags can be put together into one without a change that the formula sees.
theorem idleChanges_iff : EqvGen f.IdleChange ts us ↔
    ∀ value ∈ f.words, ts.contains value = us.contains value where
  mp h  := by
    intro value hv
    induction h
    case rel h             => exact h.contains_eq hv
    case refl              => rfl
    case symm hi           => exact hi.symm
    case trans hi hi'      => exact hi.trans hi'
  mpr h := by
    have ht : EqvGen f.IdleChange ts (ts.extend us.toList) :=
      IdleChange.extend fun _ => contains_or_not_asked h
    have hu : EqvGen f.IdleChange us (us.extend ts.toList) :=
      IdleChange.extend fun _ => contains_or_not_asked fun value hv => (h value hv).symm
    have hp : f.IdleChange (ts.extend us.toList) (us.extend ts.toList) :=
      .reorder List.perm_append_comm
    exact .trans _ _ _ ht (.trans _ _ _ (.rel _ _ hp) (.symm _ _ hu))

theorem only_mentioned_tags_count (f : Formula) :
    (∀ ts us : Tags, (∀ value ∈ f.words, ts.contains value = us.contains value) →
      f.eval ts = f.eval us) ∧
    (∀ ts us : Tags, EqvGen f.IdleChange ts us → f.eval ts = f.eval us) ∧
    ∀ (ts : Tags) (value : String), ts.contains value = (word value).eval ts := by
  refine ⟨fun ts us h => ?_, fun ts us h => ?_, fun ts value => ?_⟩
  · exact eval_congr h
  · exact eval_congr (idleChanges_iff.mp h)
  · exact eval_word.symm

-- The doctor becomes a nurse, and the other tag is there in two spellings.
theorem only_mentioned_tags_count_nurse :
    (and (word "PL") (not (word "VIP"))).eval ⟨["doctor", "pl"]⟩ =
      (and (word "PL") (not (word "VIP"))).eval ⟨["PL", "Nurse", "pL"]⟩ ∧
    EqvGen (and (word "PL") (not (word "VIP"))).IdleChange ⟨["doctor", "pl"]⟩ ⟨["Nurse", "PL"]⟩ ∧
    (and (word "PL") (not (word "VIP"))).eval ⟨["doctor", "pl"]⟩ =
      (and (word "PL") (not (word "VIP"))).eval ⟨["Nurse", "PL"]⟩ ∧
    Tags.contains ⟨["Nurse", "PL"]⟩ "pl" = true := by
  let f := and (word "PL") (not (word "VIP"))
  obtain ⟨hc, he, hw⟩ := only_mentioned_tags_count f
  have hn : f.IdleChange ⟨["doctor", "pl"]⟩ ⟨["doctor", "pl", "Nurse"]⟩ := .add (by decide +kernel)
  have hp : f.IdleChange ⟨["doctor", "pl", "Nurse"]⟩ ⟨["Nurse", "pl", "doctor"]⟩ :=
    .reorder (by decide)
  have hd : f.IdleChange ⟨["Nurse", "pl"]⟩ ⟨["Nurse", "pl", "doctor"]⟩ := .add (by decide +kernel)
  have hr : f.IdleChange ⟨["Nurse"] ++ "pl" :: []⟩ ⟨["Nurse"] ++ "PL" :: []⟩ :=
    .recase (.cons (by decide +kernel) (.cons (by decide +kernel) .nil))
  have h : EqvGen f.IdleChange ⟨["doctor", "pl"]⟩ ⟨["Nurse", "PL"]⟩ :=
    .trans _ _ _ (.rel _ _ hn) (.trans _ _ _ (.rel _ _ hp)
      (.trans _ _ _ (.symm _ _ (.rel _ _ hd)) (.rel _ _ hr)))
  refine ⟨hc _ _ (by decide +kernel), h, he _ _ h, ?_⟩
  rw [hw]
  decide +kernel

-- The other tag is the first one in upper case, where the sharp s becomes two letters.
theorem upper_case_of_sharp_s_changes_eval :
    (word "straße").eval ⟨["straße"]⟩ = true ∧ (word "straße").eval ⟨["STRASSE"]⟩ = false := by
  decide +kernel

end TagGuard.Formula
