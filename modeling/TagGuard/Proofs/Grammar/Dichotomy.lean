import TagGuard.Proofs.Grammar.Stop

namespace TagGuard.Grammar

-- A text begins with one of the level that ends before the rest, or it comes to where nothing fits.
inductive Settled (limit : Nat) (l : Level) (d : Nat) : List Char → Prop
  | begins {u v f} : Derives l d u f → Ends l u v → Settled limit l d (u ++ v)
  | fails {u v r e cause} : Pending l d u e → Blocked limit e v r cause →
    Settled limit l d (u ++ (v ++ r))

variable {limit d : Nat} {l : Level} {s u cs : List Char} {x : Char}

theorem exists_separators (cs : List Char) :
    ∃ s v, cs = s ++ v ∧ Separators s ∧ ∀ c ∈ v.head?, isSeparator c = false := by
  have h : ∀ c ∈ (cs.dropWhile isSeparator).head?, isSeparator c = false := by
    intro c hc
    have := List.head?_dropWhile_not isSeparator cs
    simp_all
  exact ⟨_, _, List.takeWhile_append_dropWhile.symm, .takeWhile cs, h⟩

theorem exists_word (hx : isWordChar x) (cs : List Char) :
    ∃ w v, x :: cs = w ++ v ∧ IsWord w ∧ ∀ c ∈ v.head?, isWordChar c = false := by
  refine ⟨x :: cs.takeWhile isWordChar, cs.dropWhile isWordChar, by simp, ⟨by simp, ?_⟩, ?_⟩
  · intro c hc
    rcases List.mem_cons.mp hc with rfl | hc
    exacts [hx, List.mem_takeWhile_imp hc]
  · intro c hc
    have := List.head?_dropWhile_not isWordChar cs
    simp_all

theorem exists_complete {v : List Char} {f : Formula} (h : Derives .disjunction d u f)
    (he : Ends .disjunction u v) : ∃ s w, v = s ++ w ∧ Complete d (u ++ s) w f := by
  obtain ⟨s, w, rfl, hs, hw⟩ := exists_separators v
  exact ⟨s, w, rfl, h, hs, hw, he⟩

namespace Settled

theorem of_derives (v : List Char) {f : Formula} (h : Derives l d u f) (he : Ends l u v)
    (hcs : cs = u ++ v) : Settled limit l d cs :=
  hcs ▸ .begins h he

theorem of_blocked {e : Nat} {v : List Char} (r : List Char) {cause : SyntaxError.Cause}
    (h : Pending l d u e) (hb : Blocked limit e v r cause) (hcs : cs = u ++ (v ++ r)) :
    Settled limit l d cs :=
  hcs ▸ .fails h hb

-- A term that begins with a word character is the word up to the next other character.
theorem word (hs : Separators s) (hx : isWordChar x) : Settled limit .term d (s ++ x :: u) := by
  obtain ⟨w, v, h, hw, hv⟩ := exists_word hx u
  exact of_derives v (.word hs hw) (.term hv) (by simp [h])

theorem not (hs : Separators s) (h : ∀ d, Settled limit .term d u) :
    Settled limit .term d (s ++ '!' :: u) := by
  cases d
  case zero => exact of_blocked u .here (.deep hs (x := '!') (by simp)) (by simp)
  case succ d =>
    cases h d
    case begins u v f hd he =>
      exact of_derives v (.not hs hd) (he.cons rfl) (by simp)
    case fails hp hb => exact of_blocked _ (.not hs hp) hb (by simp)

theorem group (hs : Separators s) (h : ∀ d, Settled limit .disjunction d u) :
    Settled limit .term d (s ++ '(' :: u) := by
  cases d
  case zero => exact of_blocked u .here (.deep hs (x := '(') (by simp)) (by simp)
  case succ d =>
    cases h d
    case begins hd he =>
      obtain ⟨t, w, rfl, hc⟩ := exists_complete hd he
      by_cases hw : w.head? = some ')'
      case pos =>
        obtain ⟨w, rfl⟩ := List.head?_eq_some_iff.mp hw
        exact of_derives w (hc.group hs) (.behind_reserved rfl) (by simp)
      case neg => exact of_blocked w .here (.unclosed hs hc hw) (by simp)
    case fails hp hb => exact of_blocked _ (.group hs hp) hb (by simp)

theorem term (h : ∀ d l r, r.length < cs.length → Settled limit l d r) :
    Settled limit .term d cs := by
  obtain ⟨s, v, rfl, hs, hv⟩ := exists_separators cs
  cases v
  case nil => exact of_blocked [] .here (.ended hs) (by simp)
  case cons x u =>
    have hr : u.length < (s ++ x :: u).length := by simp; omega
    by_cases hx : isReserved x
    case neg => exact word hs (by simp_all [isWordChar])
    case pos =>
      have hx : x = '!' ∨ x = '(' ∨ x = '*' ∨ x = '~' ∨ x ∈ [',', '.', ')'] := by
        simp only [isReserved_iff, List.mem_cons, List.not_mem_nil, or_false] at hx ⊢
        tauto
      rcases hx with rfl | rfl | rfl | rfl | hx
      · exact not hs fun d => h d .term u hr
      · exact group hs fun d => h d .disjunction u hr
      · exact of_derives u (.everybody hs) (.behind_reserved rfl) (by simp)
      · exact of_derives u (.nobody hs) (.behind_reserved rfl) (by simp)
      · exact of_blocked _ .here (.operand hs hx) rfl

theorem conjunction (ht : Settled limit .term d cs)
    (h : ∀ r, r.length < cs.length → Settled limit .conjunction d r) :
    Settled limit .conjunction d cs := by
  cases ht
  case fails hp hb => exact .fails (.term hp) hb
  case begins u v f hd he =>
    obtain ⟨s, w, rfl, hs, hw⟩ := exists_separators v
    by_cases hp : w.head? = some '.'
    case pos =>
      obtain ⟨r, rfl⟩ := List.head?_eq_some_iff.mp hp
      cases h r (by simp; omega)
      case begins u' v g hd' he' =>
        exact of_derives v (.and hd hs hd') (he'.cons rfl) (by simp)
      case fails hp' hb => exact of_blocked _ (.and hd hs hp') hb (by simp)
    case neg =>
      refine .begins (.term hd) ⟨he.word, (Ends.operator_iff hs hw).mpr fun c hc ho => hp ?_⟩
      simp_all [Level.operators]

theorem disjunction (ht : Settled limit .conjunction d cs)
    (h : ∀ r, r.length < cs.length → Settled limit .disjunction d r) :
    Settled limit .disjunction d cs := by
  cases ht
  case fails hp hb => exact .fails (.conjunction hp) hb
  case begins u v f hd he =>
    obtain ⟨s, w, rfl, hs, hw⟩ := exists_separators v
    by_cases hp : w.head? = some ','
    case pos =>
      obtain ⟨r, rfl⟩ := List.head?_eq_some_iff.mp hp
      cases h r (by simp; omega)
      case begins u' v g hd' he' =>
        exact of_derives v (.or hd hs hd') (he'.cons rfl) (by simp)
      case fails hp' hb => exact of_blocked _ (.or hd hs hp') hb (by simp)
    case neg =>
      refine .begins (.conjunction hd) ⟨he.word, (Ends.operator_iff hs hw).mpr fun c hc ho => hp ?_⟩
      have := (Ends.operator_iff hs hw).mp he.operator c hc
      simp_all [Level.operators]

end Settled

-- The induction is on the length: the levels at one length build on one another.
theorem settled (l : Level) (d : Nat) (cs : List Char) : Settled limit l d cs := by
  induction h : cs.length using Nat.strong_induction_on generalizing l d cs
  case _ n hi =>
    have hi (d l r) (hr : r.length < cs.length) : Settled limit l d r := hi _ (h ▸ hr) l d r rfl
    have ht := Settled.term (d := d) hi
    have hc := ht.conjunction (hi d .conjunction)
    cases l
    exacts [ht, hc, hc.disjunction (hi d .disjunction)]

theorem isExpression_or_stops (limit : Nat) (cs : List Char) :
    (∃ f, IsExpression limit cs f) ∨ ∃ u r cause, cs = u ++ r ∧ Stops limit u r cause := by
  have h : Settled limit .disjunction limit cs := settled ..
  cases h
  case begins hd he =>
    obtain ⟨s, w, rfl, hc⟩ := exists_complete hd he
    cases w
    case nil => exact .inl ⟨_, by simpa using hc.isExpression⟩
    case cons => exact .inr ⟨_, _, _, by simp, .leftover hc⟩
  case fails hp hb => exact .inr ⟨_, _, _, (List.append_assoc ..).symm, .blocked hp hb⟩

end TagGuard.Grammar
