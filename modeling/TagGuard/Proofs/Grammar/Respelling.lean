import TagGuard.Proofs.Grammar.Token

namespace TagGuard.Grammar

variable {l : Level} {d e limit : Nat} {x : Char} {u v w r : List Char} {ts us : List Token}
  {f : Formula} {cause : SyntaxError.Cause}

-- What every spelling of the first tokens is before its last separators stands in front of `x`.
theorem Spells.exists_operand {P : List Char → Prop}
    (hp : ∀ {u}, Spells ts u → ∃ w s, u = w ++ s ∧ Separators s ∧ P w)
    (h : Spells (ts ++ .reserved x :: us) v) :
    ∃ u s w, v = u ++ s ++ x :: w ∧ P u ∧ Separators s ∧ Spells us w := by
  obtain ⟨_, s, w, rfl, hu, hs, hw⟩ := h.exists_append_reserved
  obtain ⟨u, t, rfl, ht, hu⟩ := hp hu
  exact ⟨u, t ++ s, w, by simp, hu, ht.append hs, hw⟩

-- Separators at the end are not part of a text that is derived.
theorem Derives.respell (h : Derives l d u f) (hv : Spells (tokens u) v) :
    ∃ w s, v = w ++ s ∧ Separators s ∧ Derives l d w f := by
  induction h generalizing v
  case word hs hw =>
    rw [tokens_of_isWord hs hw] at hv
    obtain ⟨s, t, rfl, hs, ht⟩ := hv.exists_word
    exact ⟨s ++ _, t, by simp, ht.separators, .word hs hw⟩
  case everybody hs =>
    rw [tokens_reserved hs rfl, tokens_nil] at hv
    obtain ⟨s, t, rfl, hs, ht⟩ := hv.exists_reserved
    exact ⟨s ++ ['*'], t, by simp, ht.separators, .everybody hs⟩
  case nobody hs =>
    rw [tokens_reserved hs rfl, tokens_nil] at hv
    obtain ⟨s, t, rfl, hs, ht⟩ := hv.exists_reserved
    exact ⟨s ++ ['~'], t, by simp, ht.separators, .nobody hs⟩
  case not hs _ hi =>
    rw [tokens_reserved hs rfl] at hv
    obtain ⟨s, v, rfl, hs, hv⟩ := hv.exists_reserved
    obtain ⟨w, t, rfl, ht, hd⟩ := hi hv
    exact ⟨s ++ '!' :: w, t, by simp, ht, .not hs hd⟩
  case group hs _ ht hi =>
    rw [tokens_append_reserved ht rfl, tokens_reserved hs rfl, tokens_nil] at hv
    obtain ⟨_, t, r, rfl, hu, ht, hr⟩ := hv.exists_append_reserved
    obtain ⟨s, v, rfl, hs, hv⟩ := hu.exists_reserved
    obtain ⟨w, t', rfl, ht', hd⟩ := hi hv
    exact ⟨s ++ '(' :: w ++ (t' ++ t) ++ [')'], r, by simp, hr.separators,
      .group hs hd (ht'.append ht)⟩
  case term hi =>
    obtain ⟨w, s, rfl, hs, hd⟩ := hi hv
    exact ⟨w, s, rfl, hs, .term hd⟩
  case conjunction hi =>
    obtain ⟨w, s, rfl, hs, hd⟩ := hi hv
    exact ⟨w, s, rfl, hs, .conjunction hd⟩
  case and hs _ hi hi' =>
    rw [tokens_append_reserved hs rfl] at hv
    obtain ⟨u, s, _, rfl, hd, hs, hw⟩ := hv.exists_operand hi
    obtain ⟨w, t, rfl, ht, hd'⟩ := hi' hw
    exact ⟨u ++ s ++ '.' :: w, t, by simp, ht, .and hd hs hd'⟩
  case or hs _ hi hi' =>
    rw [tokens_append_reserved hs rfl] at hv
    obtain ⟨u, s, _, rfl, hd, hs, hw⟩ := hv.exists_operand hi
    obtain ⟨w, t, rfl, ht, hd'⟩ := hi' hw
    exact ⟨u ++ s ++ ',' :: w, t, by simp, ht, .or hd hs hd'⟩

theorem IsExpression.respell (h : IsExpression d u f) (ht : tokens u = tokens v) :
    IsExpression d v f := by
  obtain ⟨u, s, rfl, hd, hs⟩ := h
  rw [tokens_append_separators hs] at ht
  obtain ⟨w, s, rfl, hs, hd⟩ := hd.respell (spells_iff.mpr ht.symm)
  exact ⟨w, s, rfl, hd, hs⟩

theorem Pending.respell (h : Pending l d u e) (hv : Spells (tokens u) v) :
    ∃ w s, v = w ++ s ∧ Separators s ∧ Pending l d w e := by
  induction h generalizing v
  case here =>
    rw [tokens_nil] at hv
    exact ⟨[], v, rfl, hv.separators, .here⟩
  case not hs _ hi =>
    rw [tokens_reserved hs rfl] at hv
    obtain ⟨s, v, rfl, hs, hv⟩ := hv.exists_reserved
    obtain ⟨w, t, rfl, ht, hp⟩ := hi hv
    exact ⟨s ++ '!' :: w, t, by simp, ht, .not hs hp⟩
  case group hs _ hi =>
    rw [tokens_reserved hs rfl] at hv
    obtain ⟨s, v, rfl, hs, hv⟩ := hv.exists_reserved
    obtain ⟨w, t, rfl, ht, hp⟩ := hi hv
    exact ⟨s ++ '(' :: w, t, by simp, ht, .group hs hp⟩
  case term hi =>
    obtain ⟨w, s, rfl, hs, hp⟩ := hi hv
    exact ⟨w, s, rfl, hs, .term hp⟩
  case conjunction hi =>
    obtain ⟨w, s, rfl, hs, hp⟩ := hi hv
    exact ⟨w, s, rfl, hs, .conjunction hp⟩
  case and hd hs _ hi =>
    rw [tokens_append_reserved hs rfl] at hv
    obtain ⟨u, s, _, rfl, hd, hs, hw⟩ := hv.exists_operand hd.respell
    obtain ⟨w, t, rfl, ht, hp⟩ := hi hw
    exact ⟨u ++ s ++ '.' :: w, t, by simp, ht, .and hd hs hp⟩
  case or hd hs _ hi =>
    rw [tokens_append_reserved hs rfl] at hv
    obtain ⟨u, s, _, rfl, hd, hs, hw⟩ := hv.exists_operand hd.respell
    obtain ⟨w, t, rfl, ht, hp⟩ := hi hw
    exact ⟨u ++ s ++ ',' :: w, t, by simp, ht, .or hd hs hp⟩

theorem Complete.respell (h : Complete d u r f) (hv : Spells (tokens u ++ tokens r) v) :
    ∃ u' r', v = u' ++ r' ∧ Complete d u' r' f ∧ tokens u' = tokens u ∧ r'.head? = r.head? := by
  obtain ⟨hd, hs, hr, he⟩ := h
  rw [tokens_append_separators hs] at hv ⊢
  obtain ⟨_, v, rfl, he', hu, hw⟩ := hv.exists_append
  obtain ⟨w, t, rfl, ht, hd⟩ := hd.respell hu
  obtain ⟨t', r', rfl, ht', hr'⟩ := exists_separators v
  rw [spells_iff, tokens_separators_append ht'] at hw
  rw [spells_iff, tokens_append_separators ht] at hu
  have hh : r'.head? = r.head? := by
    rw [head?_eq_of_tokens hr, head?_eq_of_tokens hr', hw]
  have htt := ht.append ht'
  -- The separators that the cut left on either side belong to the disjunction together.
  refine ⟨w ++ (t ++ t'), r', by simp, ⟨hd, htt, hr', ?_, ?_⟩, ?_, hh⟩
  · rw [List.append_assoc]
    exact ((Ends.append_separators_iff ht).mp he').word
  · rw [Ends.operator_iff htt hr', hh]
    exact (Ends.operator_iff hs hr).mp he.operator
  · rw [tokens_append_separators htt, hu]

theorem Blocked.respell (h : Blocked limit d v r cause) (hw : Spells (tokens (v ++ r)) w) :
    ∃ v' r', w = v' ++ r' ∧ Blocked limit d v' r' cause ∧ tokens v' = tokens v := by
  cases h
  case ended hs =>
    rw [List.append_nil, tokens_of_separators hs] at hw
    refine ⟨w, [], by simp, .ended hw.separators, ?_⟩
    rw [hw.tokens_eq, tokens_of_separators hs]
  case operand x r hx hs =>
    have hx' := isReserved_of_mem hx
    rw [tokens_reserved hs hx'] at hw
    obtain ⟨t, r', rfl, ht, _⟩ := hw.exists_reserved
    refine ⟨t, x :: r', rfl, .operand ht hx, ?_⟩
    rw [tokens_of_separators hs, tokens_of_separators ht]
  case unclosed hs hc hr =>
    rw [List.append_assoc, List.cons_append, tokens_reserved hs rfl, tokens_append hc.ends] at hw
    obtain ⟨t, w, rfl, ht, hw⟩ := hw.exists_reserved
    obtain ⟨u', r', rfl, hc', hu, hh⟩ := hc.respell hw
    refine ⟨t ++ '(' :: u', r', by simp, hh ▸ .unclosed ht hc' (hh ▸ hr), ?_⟩
    rw [tokens_reserved hs rfl, tokens_reserved ht rfl, hu]
  case deep x hs hx =>
    have hx' := isReserved_of_mem hx
    rw [List.append_assoc, List.singleton_append, tokens_reserved hs hx'] at hw
    obtain ⟨t, r', rfl, ht, _⟩ := hw.exists_reserved
    refine ⟨t ++ [x], r', by simp, .deep ht hx, ?_⟩
    rw [tokens_reserved hs hx', tokens_reserved ht hx']

theorem Stops.respell (h : Stops limit u r cause) (hw : tokens (u ++ r) = tokens w) :
    ∃ u' r', w = u' ++ r' ∧ Stops limit u' r' cause ∧ tokens u' = tokens u := by
  cases h
  case blocked u v hp hb =>
    rw [List.append_assoc, tokens_append hp.ends, eq_comm, ← spells_iff] at hw
    obtain ⟨_, _, rfl, _, hu, hv⟩ := hw.exists_append
    obtain ⟨u', s, rfl, hs, hp'⟩ := hp.respell hu
    obtain ⟨v', r', rfl, hb', hv'⟩ := hb.respell hv
    refine ⟨u' ++ (s ++ v'), r', by simp, .blocked hp' (hb'.separators_append hs), ?_⟩
    rw [spells_iff, tokens_append_separators hs] at hu
    rw [tokens_append hp'.ends, tokens_append hp.ends, tokens_separators_append hs, hu, hv']
  case leftover hc =>
    rw [tokens_append hc.ends, eq_comm, ← spells_iff] at hw
    obtain ⟨u', r', rfl, hc', hu, hh⟩ := hc.respell hw
    obtain ⟨r, rfl⟩ := List.head?_eq_some_iff.mp hh
    exact ⟨u', _, rfl, .leftover hc', hu⟩

end TagGuard.Grammar
