import Mathlib.Data.List.Forall2
import TagGuard.Proofs.Formula.Letters
import TagGuard.Proofs.Formula.Polarity
import TagGuard.Proofs.Text.Lowercase

namespace TagGuard

open Text Grammar

section Letters

variable {c x : Char}

-- One and the same character for all those that have the same lower case form.
noncomputable def caseForm (c : Char) : Char :=
  Function.invFun lowercase (lowercase c)

theorem lowercase_caseForm (c : Char) : lowercase (caseForm c) = lowercase c :=
  Function.invFun_eq ⟨c, rfl⟩

theorem caseForm_eq_iff : caseForm c = caseForm x ↔ lowercase c = lowercase x where
  mp h  := by rw [← lowercase_caseForm, h, lowercase_caseForm]
  mpr h := congrArg (Function.invFun lowercase) h

theorem relettering_caseForm : Relettering caseForm where
  eq_self c hc := (lowercase_eq_iff hc).mp (lowercase_caseForm c)
  letter c hc := by
    by_contra hn
    have hn : isWordChar (caseForm c) = false := by simpa using hn
    have h : c = caseForm c := (lowercase_eq_iff hn).mp (lowercase_caseForm c).symm
    rw [← h, hc] at hn
    contradiction

end Letters

-- The causes differ at most in the case of the letter that was found.
inductive SyntaxError.Cause.SameIgnoringCase : Cause → Cause → Prop
  | refl {cause} : SameIgnoringCase cause cause
  | found {expected x y} : lowercase x = lowercase y →
    SameIgnoringCase (unexpected expected (some x)) (unexpected expected (some y))

namespace Formula

variable {f g : Formula} {ts us : Tags} {m : Char → Char} {source source' : String}
  {cause cause' : SyntaxError.Cause}

theorem contains_congr_case (h : ts.toList.map foldCase = us.toList.map foldCase)
    (value : String) : ts.contains value = us.contains value := by
  have hc (ts : Tags) : ts.contains value = (ts.toList.map foldCase).any (· == foldCase value) := by
    simp [Tags.contains, sameIgnoringCase, Function.comp_def]
  rw [hc, hc, h]

theorem foldCase_map (h : ∀ c, lowercase (m c) = lowercase c) (s : String) :
    foldCase (s.map m) = foldCase s := by
  simp [foldCase, List.flatMap_map, h]

theorem eval_mapChars (h : ∀ c, lowercase (m c) = lowercase c) :
    (f.mapChars m).eval ts = f.eval ts := by
  induction f
  case everybody              => rfl
  case word value             =>
    have h : sameIgnoringCase (value.map m) value :=
      sameIgnoringCase_iff.mpr (foldCase_map h value)
    rw [mapChars, eval_word, eval_word, Tags.contains_congr h]
  case not hi                 => simp [mapChars, eval, hi]
  case and hi hi' | or hi hi' => simp [mapChars, eval, hi, hi']

theorem map_caseForm_eq (h : source.toList.map lowercase = source'.toList.map lowercase) :
    source.map caseForm = source'.map caseForm := by
  have hc (s : String) :
      (s.map caseForm).toList = (s.toList.map lowercase).map (Function.invFun lowercase) := by
    rw [String.toList_map, List.map_map]
    rfl
  rw [← String.toList_inj, hc, hc, h]

theorem sameIgnoringCase_of_mapFound (h : cause.mapFound caseForm = cause'.mapFound caseForm) :
    cause.SameIgnoringCase cause' := by
  cases cause <;> cases cause' <;> simp [SyntaxError.Cause.mapFound] at h
  case unexpected.unexpected found _ found' =>
    cases found <;> cases found' <;> simp_all
    case none.none => exact .refl
    case some.some => exact .found (caseForm_eq_iff.mp h.right)
  all_goals
    subst_vars
    exact .refl

-- Two lists agree place by place if their images do.
theorem forall₂_iff_map_eq {α β : Type} {p : α → β} {xs ys : List α} :
    List.Forall₂ (p · = p ·) xs ys ↔ xs.map p = ys.map p := by
  rw [← List.forall₂_eq_eq_eq, List.forall₂_map_left_iff, List.forall₂_map_right_iff]

-- In a source the case of letters only shows in the letter that an error is about, and for the
-- meaning of what is read neither the case of the source nor that of the tags counts.
theorem parse_ignores_case
    (hs : List.Forall₂ (lowercase · = lowercase ·) source.toList source'.toList)
    (ht : List.Forall₂ (sameIgnoringCase · ·) ts.toList us.toList) (limits : Limits) :
    (∃ f g, parse source limits = .ok f ∧ parse source' limits = .ok g ∧ f.eval ts = g.eval us) ∨
    ∃ p cause cause', parse source limits = .error ⟨p, cause⟩ ∧
      parse source' limits = .error ⟨p, cause'⟩ ∧ cause.SameIgnoringCase cause' := by
  rw [forall₂_iff_map_eq] at hs
  simp only [sameIgnoringCase_iff, forall₂_iff_map_eq] at ht
  have hm (s : String) : parse (s.map caseForm) limits = mapAnswer caseForm (parse s limits) :=
    parse_eq_of_verdict ((parse_eq_iff.mp rfl).map relettering_caseForm)
  have h : mapAnswer caseForm (parse source limits) =
      mapAnswer caseForm (parse source' limits) := by
    rw [← hm, ← hm, map_caseForm_eq hs]
  cases hf : parse source limits <;> cases hg : parse source' limits <;> rw [hf, hg] at h
  case ok.ok f g =>
    have h : f.mapChars caseForm = g.mapChars caseForm := Except.ok.inj h
    have he : f.eval ts = g.eval us := by
      rw [← eval_mapChars lowercase_caseForm, h, eval_mapChars lowercase_caseForm]
      exact eval_congr fun value _ => contains_congr_case ht value
    exact .inl ⟨f, g, rfl, rfl, he⟩
  case error.error e e' =>
    have ⟨hp, hc⟩ := SyntaxError.mk.inj (Except.error.inj h)
    exact .inr ⟨e.position, e.cause, e'.cause, rfl, by rw [hp], sameIgnoringCase_of_mapFound hc⟩
  case ok.error | error.ok => contradiction

theorem parse_ignores_case_kelvin :
    parse "K.!(Ä,b)" {} = .ok (.and (.word "K") (.not (.or (.word "Ä") (.word "b")))) ∧
    ∃ g, parse "\u212a.!(ä,B)" {} = .ok g ∧
      (and (word "K") (not (or (word "Ä") (word "b")))).eval ⟨["k", "İ"]⟩ =
        g.eval ⟨["K", "i\u0307"]⟩ := by
  let ts : Tags := ⟨["k", "İ"]⟩
  let us : Tags := ⟨["K", "i\u0307"]⟩
  have h : parse "K.!(Ä,b)" {} = .ok (.and (.word "K") (.not (.or (.word "Ä") (.word "b")))) := by
    decide +kernel
  have hs : "K.!(Ä,b)".toList.map lowercase = "\u212a.!(ä,B)".toList.map lowercase := by
    decide +kernel
  have ht : List.Forall₂ (sameIgnoringCase · ·) ts.toList us.toList :=
    .cons (by decide +kernel) (.cons (by decide +kernel) .nil)
  cases parse_ignores_case (forall₂_iff_map_eq.mpr hs) ht {}
  case inl hp =>
    have ⟨f, g, hf, hg, he⟩ := hp
    obtain rfl := Except.ok.inj (h.symm.trans hf)
    exact ⟨h, g, hg, he⟩
  case inr hp =>
    have ⟨_, _, _, hf, _⟩ := hp
    exact nomatch h.symm.trans hf

end Formula
end TagGuard
