import TagGuard.Grammar.Token
import TagGuard.Proofs.Grammar.Dichotomy

namespace TagGuard.Grammar

-- `Spells ts cs`: the text `cs` consists of the tokens `ts` and separators. A word is not followed
-- by a character that could go on with it.
inductive Spells : List Token → List Char → Prop
  | nil {s} : Separators s → Spells [] s
  | reserved {s x ts cs} : Separators s → isReserved x → Spells ts cs →
    Spells (.reserved x :: ts) (s ++ x :: cs)
  | word {s w ts cs} : Separators s → IsWord w → (∀ c ∈ cs.head?, isWordChar c = false) →
    Spells ts cs → Spells (.word w :: ts) (s ++ (w ++ cs))

variable {x : Char} {s u v w cs : List Char} {ts us : List Token} {m n : Nat}

-- The induction is on the length, as a word is taken off the text as a whole.
theorem exists_spells (cs : List Char) : ∃ ts, Spells ts cs := by
  induction h : cs.length using Nat.strong_induction_on generalizing cs
  case _ n hi =>
    obtain ⟨s, v, rfl, hs, hv⟩ := exists_separators cs
    cases v
    case nil => exact ⟨[], by simpa using .nil hs⟩
    case cons x u =>
      by_cases hx : isReserved x
      case pos =>
        obtain ⟨ts, ht⟩ := hi u.length (by simp at h; omega) u rfl
        exact ⟨.reserved x :: ts, .reserved hs hx ht⟩
      case neg =>
        have hx : isWordChar x := by simp_all [isWordChar]
        obtain ⟨w, v, hu, hw, hv⟩ := exists_word hx u
        have := List.length_pos_iff.mpr hw.ne_nil
        have hl := congrArg List.length hu
        obtain ⟨ts, ht⟩ := hi v.length (by simp at h hl; omega) v rfl
        exact ⟨.word w :: ts, hu ▸ .word hs hw hv ht⟩

theorem tokensFrom_separators (hs : Separators s) :
    tokensFrom n (s ++ cs) = tokensFrom (n + s.length) cs := by
  induction s generalizing n
  case nil          => rfl
  case cons c s hi =>
    have hc : isSeparator c := hs c List.mem_cons_self
    rw [List.cons_append, tokensFrom, if_pos hc, hi fun c h => hs c (List.mem_cons_of_mem _ h)]
    simp [Nat.add_assoc, Nat.add_comm 1]

theorem tokensFrom_of_separators (hs : Separators s) : tokensFrom n s = [] := by
  have h : tokensFrom n (s ++ []) = _ := tokensFrom_separators hs
  simpa [tokensFrom] using h

theorem tokensFrom_reserved (hs : Separators s) (hx : isReserved x) :
    tokensFrom n (s ++ x :: cs) =
      (n + s.length, .reserved x) :: tokensFrom (n + s.length + 1) cs := by
  have h := isSeparator_eq_false_of_isReserved hx
  rw [tokensFrom_separators hs, tokensFrom]
  simp [h, hx]

theorem tokensFrom_word (hs : Separators s) (hw : IsWord w)
    (hc : ∀ c ∈ cs.head?, isWordChar c = false) :
    tokensFrom n (s ++ (w ++ cs)) =
      (n + s.length, .word w) :: tokensFrom (n + s.length + w.length) cs := by
  obtain ⟨x, r, rfl, hx⟩ := hw.isWordChar_head?
  have ⟨h, h'⟩ := isWordChar_iff.mp hx
  have hr : ∀ c ∈ r, isWordChar c := fun c h => hw.chars c (List.mem_cons_of_mem _ h)
  have ht : (r ++ cs).takeWhile isWordChar = r := by
    rw [List.takeWhile_append_of_pos hr]
    cases cs <;> simp_all
  have hd : (r ++ cs).dropWhile isWordChar = cs := by
    rw [List.dropWhile_append_of_pos hr]
    cases cs <;> simp_all
  rw [tokensFrom_separators hs, List.cons_append, tokensFrom]
  simp [h, h', ht, hd]

theorem map_tokensFrom (n : Nat) (cs : List Char) : (tokensFrom n cs).map (·.2) = tokens cs := by
  rw [tokens]
  generalize 0 = m
  have ⟨ts, h⟩ := exists_spells cs
  induction h generalizing m n
  case nil hs              => simp [tokensFrom_of_separators hs]
  case reserved hs hx _ hi => simpa [tokensFrom_reserved hs hx] using hi ..
  case word hs hw hc _ hi  => simpa [tokensFrom_word hs hw hc] using hi ..

theorem tokens_of_separators (hs : Separators s) : tokens s = [] := by
  simp [tokens, tokensFrom_of_separators hs]

theorem tokens_nil : tokens [] = [] :=
  tokens_of_separators .nil

theorem tokens_separators_append (hs : Separators s) : tokens (s ++ v) = tokens v := by
  rw [tokens, tokensFrom_separators hs, map_tokensFrom]

theorem tokens_reserved (hs : Separators s) (hx : isReserved x) :
    tokens (s ++ x :: cs) = .reserved x :: tokens cs := by
  rw [tokens, tokensFrom_reserved hs hx, List.map_cons, map_tokensFrom]

theorem tokens_word (hs : Separators s) (hw : IsWord w)
    (hc : ∀ c ∈ cs.head?, isWordChar c = false) :
    tokens (s ++ (w ++ cs)) = .word w :: tokens cs := by
  rw [tokens, tokensFrom_word hs hw hc, List.map_cons, map_tokensFrom]

theorem tokens_of_isWord (hs : Separators s) (hw : IsWord w) : tokens (s ++ w) = [.word w] := by
  have h : tokens (s ++ (w ++ [])) = _ := tokens_word hs hw (by simp)
  simpa [tokens_nil] using h

-- Tokens are not joined where a text ends.
theorem tokensFrom_append (h : Ends .term u v) :
    tokensFrom n (u ++ v) = tokensFrom n u ++ tokensFrom (n + u.length) v := by
  have ⟨ts, hu⟩ := exists_spells u
  induction hu generalizing n
  case nil hs => rw [tokensFrom_separators hs, tokensFrom_of_separators hs, List.nil_append]
  case reserved s x ts cs hs hx _ hi =>
    have h' : Ends .term cs v := .of_append (u := s ++ [x]) (by simpa using h)
    rw [List.append_assoc, List.cons_append, tokensFrom_reserved hs hx, tokensFrom_reserved hs hx,
      hi h']
    simp [Nat.add_assoc, Nat.add_comm 1]
  case word s w ts cs hs hw hc _ hi =>
    have he : Ends .term (w ++ cs) v := .of_append h
    have hv : ∀ c ∈ (cs ++ v).head?, isWordChar c = false := by
      cases cs
      case nil  => exact (List.append_nil w ▸ he).word_of_getLast? hw.isWordChar_getLast?
      case cons => exact hc
    rw [List.append_assoc, List.append_assoc, tokensFrom_word hs hw hv, tokensFrom_word hs hw hc,
      hi he.of_append]
    simp [Nat.add_assoc]

theorem tokens_append (h : Ends .term u v) : tokens (u ++ v) = tokens u ++ tokens v := by
  rw [tokens, tokensFrom_append h, List.map_append, map_tokensFrom, map_tokensFrom]

theorem tokens_append_reserved (hs : Separators s) (hx : isReserved x) :
    tokens (u ++ s ++ x :: v) = tokens u ++ .reserved x :: tokens v := by
  have he : Ends .term u (s ++ x :: v) := .of_isReserved hs hx (by simp [Level.operators])
  rw [List.append_assoc, tokens_append he, tokens_reserved hs hx]

theorem tokens_append_separators (hs : Separators s) : tokens (u ++ s) = tokens u := by
  rw [tokens_append (.of_separators hs), tokens_of_separators hs, List.append_nil]

-- The token that stands behind a text is counted behind those of the text.
theorem getElem?_tokensFrom_append (h : Ends .term u v) :
    (tokensFrom n (u ++ v))[(tokens u).length]? = (tokensFrom (n + u.length) v).head? := by
  have hl : (tokens u).length = (tokensFrom n u).length := by simp [← map_tokensFrom n]
  rw [tokensFrom_append h, hl, List.getElem?_append_right (Nat.le_refl _), Nat.sub_self,
    List.head?_eq_getElem?]

theorem Spells.tokens_eq (h : Spells ts cs) : tokens cs = ts := by
  induction h
  case nil hs              => exact tokens_of_separators hs
  case reserved hs hx _ hi => rw [tokens_reserved hs hx, hi]
  case word hs hw hc _ hi  => rw [tokens_word hs hw hc, hi]

theorem spells_iff : Spells ts cs ↔ tokens cs = ts where
  mp  := Spells.tokens_eq
  mpr := by
    rintro rfl
    have ⟨ts, h⟩ := exists_spells cs
    exact h.tokens_eq ▸ h

-- Where a text does not begin with a separator, its first token does.
theorem exists_head?_tokensFrom (n : Nat) (cs : List Char) (hx : isSeparator x = false) :
    ∃ t, (tokensFrom n (x :: cs)).head? = some (n, t) ∧ t.chars.head? = some x := by
  rw [tokensFrom, if_neg (by simp [hx])]
  split_ifs
  exacts [⟨_, rfl, rfl⟩, ⟨_, rfl, rfl⟩]

theorem head?_eq_of_tokens (hc : ∀ c ∈ cs.head?, isSeparator c = false) :
    cs.head? = (tokens cs).head?.bind (·.chars.head?) := by
  cases cs
  case nil       => simp [tokens, tokensFrom]
  case cons x cs =>
    obtain ⟨t, h, ht⟩ := exists_head?_tokensFrom 0 cs (hc x rfl)
    simp [tokens, h, ht]

namespace Spells

theorem separators (h : Spells [] v) : Separators v := by
  cases h
  assumption

theorem exists_reserved (h : Spells (.reserved x :: ts) v) :
    ∃ s w, v = s ++ x :: w ∧ Separators s ∧ Spells ts w := by
  cases h
  case reserved hs _ hw => exact ⟨_, _, rfl, hs, hw⟩

theorem exists_word (h : Spells (.word w :: ts) v) :
    ∃ s u, v = s ++ (w ++ u) ∧ Separators s ∧ Spells ts u := by
  cases h
  case word hs _ _ hu => exact ⟨_, _, rfl, hs, hu⟩

-- A spelling can be cut where the list of its tokens is.
theorem exists_append (h : Spells (ts ++ us) cs) :
    ∃ u v, cs = u ++ v ∧ Ends .term u v ∧ Spells ts u ∧ Spells us v := by
  induction ts generalizing cs
  case nil => exact ⟨[], cs, rfl, ⟨by simp, by simp [Level.operators]⟩, .nil .nil, h⟩
  case cons t ts hi =>
    cases h
    case reserved s x cs hs hx hc =>
      obtain ⟨u, v, rfl, he, hu, hv⟩ := hi hc
      exact ⟨s ++ x :: u, v, by simp, he.cons hx, .reserved hs hx hu, hv⟩
    case word s w cs hs hw hw' hc =>
      obtain ⟨u, v, rfl, he, hu, hv⟩ := hi hc
      refine ⟨s ++ (w ++ u), v, by simp, ?_, .word hs hw ?_ hu, hv⟩
      · cases u
        case nil  => exact .term hw'
        case cons => exact (Ends.suffix_iff ⟨s ++ w, by simp⟩ (by simp)).mp he
      · cases u
        case nil  => simp
        case cons => exact hw'

theorem exists_append_reserved (h : Spells (ts ++ .reserved x :: us) v) :
    ∃ u s w, v = u ++ s ++ x :: w ∧ Spells ts u ∧ Separators s ∧ Spells us w := by
  obtain ⟨u, _, rfl, _, hu, h⟩ := h.exists_append
  obtain ⟨s, w, rfl, hs, hw⟩ := h.exists_reserved
  exact ⟨u, s, w, (List.append_assoc ..).symm, hu, hs, hw⟩

end Spells
end TagGuard.Grammar
