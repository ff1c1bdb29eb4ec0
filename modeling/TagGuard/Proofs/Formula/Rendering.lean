import TagGuard.Proofs.Formula.Notation
import TagGuard.Proofs.Grammar.Token

namespace TagGuard

namespace Grammar

variable {w w' u v : List Char}

-- Where a word ends is where the first other character stands.
theorem IsWord.append_inj (hw : IsWord w) (hw' : IsWord w')
    (hu : ∀ c ∈ u.head?, isWordChar c = false) (hv : ∀ c ∈ v.head?, isWordChar c = false)
    (h : w ++ u = w' ++ v) : w = w' ∧ u = v := by
  have ht : tokens (w ++ u) = .word w :: tokens u := tokens_word .nil hw hu
  have ht' : tokens (w' ++ v) = .word w' :: tokens v := tokens_word .nil hw' hv
  rw [h, ht'] at ht
  obtain rfl : w' = w := Token.word.inj (List.cons.inj ht).left
  exact ⟨rfl, List.append_cancel_left h⟩

end Grammar

namespace Formula

open Grammar

variable {f g : Formula} {u v w : List Char}

section Append

-- What a rendering is in front of another text, down to the renderings of the operands.

theorem render_not_append :
    (not f).render.toList ++ u = '!' :: '(' :: (f.render.toList ++ ')' :: u) := by
  simp [render]

theorem render_and_append : (and f g).render.toList ++ u =
    '(' :: (f.render.toList ++ ')' :: (" and (".toList ++ (g.render.toList ++ ')' :: u))) := by
  simp [render]

theorem render_or_append : (or f g).render.toList ++ u =
    '(' :: (f.render.toList ++ ')' :: (" or (".toList ++ (g.render.toList ++ ')' :: u))) := by
  simp [render]

end Append

theorem writable_spellOut (h : f.Writable) : f.spellOut.Writable := by
  induction f
  case everybody              => exact writable_word.mpr (.singleton rfl)
  case word                   => exact h
  case not hi                 => exact hi h
  case and hi hi' | or hi hi' => simp_all [spellOut]

-- Nothing but a word, or the wildcard in place of `1`, begins with a character of words.
theorem spellOut_of_word_append {value : String} (hs : f.spellOut = word value) (hf : f.Writable)
    (hg : g.Writable) (h : f.render.toList ++ ')' :: u = g.render.toList ++ ')' :: v) :
    f.spellOut = g.spellOut ∧ u = v := by
  have hw : IsWord value.toList := writable_word.mp (hs ▸ writable_spellOut hf)
  have hr : f.render = value := by rw [← render_spellOut, hs, render]
  have inj {w' : List Char} (hw' : IsWord w') (h : value.toList ++ ')' :: u = w' ++ ')' :: v) :
      value.toList = w' ∧ u = v := by
    simpa using hw.append_inj hw' (by simp [isWordChar, isReserved])
      (by simp [isWordChar, isReserved]) h
  rw [hr] at h
  rw [hs]
  obtain ⟨x, r, hx, hc⟩ := hw.isWordChar_head?
  cases g
  case everybody =>
    obtain ⟨hv, hu⟩ := inj (.singleton (x := '1') rfl) h
    exact ⟨congrArg word (String.toList_inj.mp hv), hu⟩
  case word value' =>
    obtain ⟨hv, hu⟩ := inj (writable_word.mp hg) h
    exact ⟨congrArg word (String.toList_inj.mp hv), hu⟩
  all_goals
    simp only [render_not_append, render_and_append, render_or_append, hx] at h
    obtain ⟨rfl, _⟩ := List.cons.inj h
    contradiction

theorem spellOut_of_append_word {value : String} (hs : g.spellOut = word value) (hf : f.Writable)
    (hg : g.Writable) (h : f.render.toList ++ ')' :: u = g.render.toList ++ ')' :: v) :
    f.spellOut = g.spellOut ∧ u = v :=
  have ⟨hs, hu⟩ := spellOut_of_word_append hs hg hf h.symm
  ⟨hs.symm, hu.symm⟩

-- The parenthesis that closes a rendering tells where it ends, whatever follows.
theorem spellOut_of_render_append (hf : f.Writable) (hg : g.Writable)
    (h : f.render.toList ++ ')' :: u = g.render.toList ++ ')' :: v) :
    f.spellOut = g.spellOut ∧ u = v := by
  induction f generalizing g u v
  case everybody | word => exact spellOut_of_word_append rfl hf hg h
  case not f hi =>
    cases g
    case everybody | word => exact spellOut_of_append_word rfl hf hg h
    case and | or         => simp [render_not_append, render_and_append, render_or_append] at h
    case not g =>
      simp only [render_not_append, List.cons.injEq, true_and] at h
      have ⟨hs, hu⟩ := hi (writable_not.mp hf) (writable_not.mp hg) h
      exact ⟨congrArg not hs, (List.cons.inj hu).right⟩
  case and f f' hi hi' =>
    cases g
    case everybody | word => exact spellOut_of_append_word rfl hf hg h
    case not              => simp [render_not_append, render_and_append] at h
    case and g g' =>
      have ⟨hf, hf'⟩ := writable_and.mp hf
      have ⟨hg, hg'⟩ := writable_and.mp hg
      rw [render_and_append, render_and_append] at h
      have ⟨hs, ht⟩ := hi hf hg (List.cons.inj h).right
      have ⟨hs', hu⟩ := hi' hf' hg' (List.append_cancel_left ht)
      exact ⟨congrArg₂ and hs hs', (List.cons.inj hu).right⟩
    case or g g' =>
      have ⟨hf, _⟩ := writable_and.mp hf
      have ⟨hg, _⟩ := writable_or.mp hg
      rw [render_and_append, render_or_append] at h
      have ⟨_, ht⟩ := hi hf hg (List.cons.inj h).right
      simp at ht
  case or f f' hi hi' =>
    cases g
    case everybody | word => exact spellOut_of_append_word rfl hf hg h
    case not              => simp [render_not_append, render_or_append] at h
    case and g g' =>
      have ⟨hf, _⟩ := writable_or.mp hf
      have ⟨hg, _⟩ := writable_and.mp hg
      rw [render_or_append, render_and_append] at h
      have ⟨_, ht⟩ := hi hf hg (List.cons.inj h).right
      simp at ht
    case or g g' =>
      have ⟨hf, hf'⟩ := writable_or.mp hf
      have ⟨hg, hg'⟩ := writable_or.mp hg
      rw [render_or_append, render_or_append] at h
      have ⟨hs, ht⟩ := hi hf hg (List.cons.inj h).right
      have ⟨hs', hu⟩ := hi' hf' hg' (List.append_cancel_left ht)
      exact ⟨congrArg₂ or hs hs', (List.cons.inj hu).right⟩

theorem render_eq_iff (hf : f.Writable) (hg : g.Writable) :
    f.render = g.render ↔ f.spellOut = g.spellOut := by
  constructor
  case mp =>
    intro h
    have h : f.render.toList ++ [')'] = g.render.toList ++ [')'] := by rw [h]
    exact (spellOut_of_render_append hf hg h).left
  case mpr =>
    intro h
    rw [← render_spellOut f, h, render_spellOut]

-- A rendering tells everything about a formula but whether a `1` is the wildcard, although the
-- operators are rendered as words that a source can have as well.
theorem render_eq_iff_spellOut_eq :
    (∀ f g : Formula, f.Writable → g.Writable →
      (f.render = g.render ↔ f.spellOut = g.spellOut)) ∧
    ∀ source source' limits limits' f g, parse source limits = .ok f →
      parse source' limits' = .ok g → (f.render = g.render ↔ f.spellOut = g.spellOut) := by
  constructor
  · intro f g hf hg
    exact render_eq_iff hf hg
  · intro _ _ _ _ f g hf hg
    exact render_eq_iff (writable_of_parse hf) (writable_of_parse hg)

theorem render_eq_iff_spellOut_eq_operator_words :
    (not (word "1")).render = nobody.render ∧
    ∃ f g k, parse "(and,*).!or" = .ok f ∧ parse "( and , 1 ).!or" = .ok g ∧
      parse "and,(*.!or)" = .ok k ∧ f ≠ g ∧ f.render = g.render ∧ f.render ≠ k.render := by
  obtain ⟨writable, parsed⟩ := render_eq_iff_spellOut_eq
  constructor
  · have hw : (not (word "1")).Writable := writable_word.mpr (.singleton (x := '1') rfl)
    exact (writable _ nobody hw writable_everybody).mpr rfl
  · have hf : parse "(and,*).!or" =
        .ok (.and (.or (.word "and") .everybody) (.not (.word "or"))) := by decide +kernel
    have hg : parse "( and , 1 ).!or" =
        .ok (.and (.or (.word "and") (.word "1")) (.not (.word "or"))) := by decide +kernel
    have hk : parse "and,(*.!or)" =
        .ok (.or (.word "and") (.and .everybody (.not (.word "or")))) := by decide +kernel
    refine ⟨_, _, _, hf, hg, hk, by decide, (parsed _ _ _ _ _ _ hf hg).mpr rfl, ?_⟩
    exact mt (parsed _ _ _ _ _ _ hf hk).mp (by decide)

end Formula
end TagGuard
