import TagGuard.Proofs.Formula.Step
import TagGuard.Proofs.Grammar.Stop

namespace TagGuard.Formula

open Grammar

variable {c : Cursor} {l : Level} {limit : Nat}

-- What follows is another text for each part of a derivation, and so is where the cursor stands.
theorem readAt_of_derives {d : Nat} {u v : List Char} {f : Formula} (h : Derives l d u f)
    (hc : c.rest = u ++ v) (he : Ends l u v) (hd : c.depth + d ≤ limit) :
    readAt l limit c = .ok (f, behind l (c.skip u.length)) := by
  induction h generalizing c v
  case word s w hs hw =>
    have he' := (Ends.suffix_iff (List.suffix_append s w) hw.ne_nil).mpr he
    exact readAt_term_word (by simpa using hc) hs hw (he'.word_of_getLast? hw.isWordChar_getLast?)
  case everybody s hs =>
    have hc' : c.rest = s ++ '*' :: v := by simpa using hc
    rw [readAt_term_of_everybody (peek?_skipSeparators hc' hs rfl),
      advance_skipSeparators hc' hs rfl]
    simp [behind]
  case nobody s hs =>
    have hc' : c.rest = s ++ '~' :: v := by simpa using hc
    rw [readAt_term_of_nobody (peek?_skipSeparators hc' hs rfl), advance_skipSeparators hc' hs rfl]
    simp [behind]
  case not s cs f hs h hi =>
    have hc' : c.rest = s ++ '!' :: (cs ++ v) := by simpa using hc
    have he' : Ends .term cs v := (Ends.suffix_iff ⟨s ++ ['!'], by simp⟩ h.ne_nil).mpr he
    rw [readAt_term_not hs hc' (by omega), hi (rest_inside hc') he' (by simp; omega)]
    simp only [behind, Except.map, leave_skip_inside, List.length_append, List.length_cons]
    ac_rfl
  case group s t cs f hs h ht hi =>
    have hc' : c.rest = s ++ '(' :: (cs ++ (t ++ ')' :: v)) := by simpa using hc
    have hr := rest_inside hc'
    have he' : Ends .disjunction cs (t ++ ')' :: v) := .of_isReserved ht rfl (by decide)
    have hb : behind .disjunction ((inside c s).skip cs.length) =
      (inside c s).skip (cs.length + t.length) := skipSeparators_skip hr ht (by simp [isSeparator])
    have hp := Cursor.peek?_skip_length (u := cs ++ t) (hr.trans (List.append_assoc ..).symm)
    rw [List.length_append] at hp
    rw [readAt_term_group hs hc' (by omega), hi hr he' (by simp; omega), hb]
    simp [bind, Except.bind, hp, leave_skip_inside, Cursor.advance_skip, behind, pure, Except.pure]
    ac_rfl
  case term cs f h hi =>
    have ho := peek?_skipSeparators_skip hc ▸ he.operator
    rw [readAt_conjunction, hi hc (he.mono (by simp [Level.operators])) hd]
    exact if_neg fun hp => ho _ hp (by simp [Level.operators])
  case conjunction cs f h hi =>
    have ho := peek?_skipSeparators_skip hc ▸ he.operator
    rw [readAt_disjunction, hi hc (he.mono (by simp [Level.operators])) hd]
    exact if_neg fun hp => ho _ hp (by simp [Level.operators])
  case and s cs ds f g h hs h' hi hi' =>
    have hc' : c.rest = cs ++ (s ++ '.' :: (ds ++ v)) := by simpa using hc
    have he' := (Ends.suffix_iff ⟨cs ++ s ++ ['.'], by simp⟩ h'.ne_nil).mpr he
    have hf := hi hc' (.of_isReserved hs rfl (by simp [Level.operators])) hd
    rw [readAt_conjunction_of_operand hs hc' hf, hi' (rest_skip_operator hc') he' hd,
      Cursor.skip_skip]
    simp [behind, Except.map, Nat.add_assoc, Nat.add_comm 1]
  case or s cs ds f g h hs h' hi hi' =>
    have hc' : c.rest = cs ++ (s ++ ',' :: (ds ++ v)) := by simpa using hc
    have he' := (Ends.suffix_iff ⟨cs ++ s ++ [','], by simp⟩ h'.ne_nil).mpr he
    have hf := hi hc' (.of_isReserved hs rfl (by simp [Level.operators])) hd
    rw [readAt_disjunction_of_operand hs hc' hf, hi' (rest_skip_operator hc') he' hd,
      Cursor.skip_skip]
    simp [behind, Except.map, Nat.add_assoc, Nat.add_comm 1]

theorem readAt_of_complete {d : Nat} {u v : List Char} {f : Formula} (h : Complete d u v f)
    (hc : c.rest = u ++ v) (hd : c.depth + d ≤ limit) :
    readAt .disjunction limit c = .ok (f, c.skip u.length) := by
  obtain ⟨h, hs, hv, he⟩ := h
  have hc' := hc.trans (List.append_assoc ..)
  rw [readAt_of_derives h hc' he hd, behind, skipSeparators_skip hc' hs hv, List.length_append]
  exact nofun

-- What stands in the way of a term is what reading it fails for.
theorem readAt_of_blocked {d : Nat} {v r : List Char} {cause : SyntaxError.Cause}
    (h : Blocked limit d v r cause) (hc : c.rest = v ++ r) (hd : c.depth + d = limit) :
    readAt .term limit c = .error ⟨c.offset + v.length, cause⟩ := by
  have ho : (c.skip v.length).offset = c.offset + v.length := Cursor.offset_skip (by simp [hc])
  have hp : (c.skip v.length).peek? = r.head? := Cursor.peek?_skip_length hc
  cases h
  case ended hs =>
    have hk := Cursor.skipSeparators_eq hc hs (by simp)
    rw [readAt_term_of_none (hk ▸ hp), hk, Cursor.unexpected, Cursor.fail, hp, ho]
    rfl
  case operand x r hx hs =>
    have ⟨hr, hn⟩ : isReserved x ∧ x ∉ ['(', '!', '~', '*'] := by
      simp only [List.mem_cons, List.not_mem_nil, or_false] at hx
      rcases hx with rfl | rfl | rfl <;> decide
    have hs' := isSeparator_eq_false_of_isReserved hr
    have hw : (c.skip v.length).run isWordChar = [] :=
      Cursor.run_eq (Cursor.rest_skip_length hc) nofun
        (by simpa using isWordChar_eq_false_of_isReserved hr)
    rw [readAt_term_of_word (peek?_skipSeparators hc hs hs') hn, skipSeparators_eq_skip hc hs hs',
      readWord, dif_pos hw, Cursor.unexpected, Cursor.fail, hp, ho]
    rfl
  case unclosed s u f hs hu hr =>
    have hc' : c.rest = s ++ '(' :: (u ++ r) := by simpa using hc
    have hi := rest_inside hc'
    have hk : ((inside c s).skip u.length).offset = c.offset + (s ++ '(' :: u).length := by
      rw [Cursor.offset_skip (by simp [hi]), offset_inside hc']
    rw [readAt_term_group hs hc' (by omega), readAt_of_complete hu hi (by simp; omega)]
    simp only [bind, Except.bind, Cursor.peek?_skip_length hi, hr, if_false, Cursor.unexpected,
      Cursor.fail, hk]
    rfl
  case deep s x hs hx =>
    have hc' : c.rest = s ++ x :: r := by simpa using hc
    rw [readAt_term_of_deep hs hc' hx (by omega), Cursor.fail, ← ho]
    simp

-- A term that cannot be read stops the reading of all that it is part of.
theorem readAt_of_pending {d e m : Nat} {u v : List Char} {error : SyntaxError}
    (h : Pending l d u e)
    (hv : ∀ k : Cursor, k.rest = v → k.offset = m → k.depth + e = limit →
      readAt .term limit k = .error error)
    (hc : c.rest = u ++ v) (hm : c.offset + u.length = m) (hd : c.depth + d = limit) :
    readAt l limit c = .error error := by
  induction h generalizing c
  case here => exact hv c hc hm hd
  case not s u e hs h hi =>
    have hc' : c.rest = s ++ '!' :: (u ++ v) := by simpa using hc
    have hm' := (offset_inside hc').trans hm
    rw [readAt_term_not hs hc' (by omega), hi hv (rest_inside hc') hm' (by simp; omega)]
    rfl
  case group s u e hs h hi =>
    have hc' : c.rest = s ++ '(' :: (u ++ v) := by simpa using hc
    have hm' := (offset_inside hc').trans hm
    rw [readAt_term_group hs hc' (by omega), hi hv (rest_inside hc') hm' (by simp; omega)]
    rfl
  case term h hi =>
    rw [readAt_conjunction, hi hv hc hm hd]
    rfl
  case conjunction h hi =>
    rw [readAt_disjunction, hi hv hc hm hd]
    rfl
  case and d cs f s u e h hs _ hi =>
    have hc' : c.rest = cs ++ (s ++ '.' :: (u ++ v)) := by simpa using hc
    have hm' := (offset_skip_operator hc' u).trans hm
    have hf := readAt_of_derives h hc' (.of_isReserved hs rfl (by simp [Level.operators])) hd.le
    rw [readAt_conjunction_of_operand hs hc' hf, hi hv (rest_skip_operator hc') hm' hd]
    rfl
  case or d cs f s u e h hs _ hi =>
    have hc' : c.rest = cs ++ (s ++ ',' :: (u ++ v)) := by simpa using hc
    have hm' := (offset_skip_operator hc' u).trans hm
    have hf := readAt_of_derives h hc' (.of_isReserved hs rfl (by simp [Level.operators])) hd.le
    rw [readAt_disjunction_of_operand hs hc' hf, hi hv (rest_skip_operator hc') hm' hd]
    rfl

end TagGuard.Formula
