import TagGuard.Proofs.Formula.Parse
import TagGuard.Proofs.Grammar.Respelling

namespace TagGuard.Formula

open Grammar

-- `AtToken cs i e`: the error `e` on the text `cs` is about the token with the index `i`, which is
-- the number of tokens where it is about the end.
inductive AtToken (cs : List Char) : Nat → SyntaxError → Prop
  | ended {expected} : AtToken cs (Grammar.tokens cs).length ⟨cs.length, .unexpected expected none⟩
  | unexpected {i n t x expected} : (tokensFrom 0 cs)[i]? = some (n, t) → t.chars.head? = some x →
    AtToken cs i ⟨n, .unexpected expected (some x)⟩
  | nestingTooDeep {i n x limit} : (tokensFrom 0 cs)[i]? = some (n, .reserved x) → x ∈ ['(', '!'] →
    AtToken cs i ⟨n + 1, .nestingTooDeep limit⟩

variable {source source' : String} {d k limit : Nat} {u v r w : List Char}
  {cause : SyntaxError.Cause} {expected : Expectation} {found : Option Char}

namespace AtToken

theorem of_unexpected (h : Stops limit u r (.unexpected expected found)) :
    AtToken (u ++ r) (Grammar.tokens u).length ⟨u.length, .unexpected expected found⟩ := by
  have ⟨he, hr⟩ := h.ends
  obtain rfl := h.head?_eq
  cases r
  case nil =>
    rw [List.append_nil]
    exact .ended
  case cons x r =>
    have ⟨t, ht, hx⟩ := exists_head?_tokensFrom u.length r (hr x rfl)
    exact .unexpected ((getElem?_tokensFrom_append he).trans (by simpa using ht)) hx

theorem of_nestingTooDeep (h : Stops limit u r (.nestingTooDeep k)) :
    ∃ i, (Grammar.tokens u).length = i + 1 ∧ AtToken (u ++ r) i ⟨u.length, .nestingTooDeep k⟩ := by
  obtain ⟨v, x, rfl, hx, _⟩ := h.exists_opening
  have hr := isReserved_of_mem hx
  have he {w} : Ends .term v (x :: w) := .of_isReserved .nil hr (by simp [Level.operators])
  refine ⟨(Grammar.tokens v).length, ?_, ?_⟩
  · have hx : Grammar.tokens [x] = [.reserved x] := tokens_nil ▸ tokens_reserved .nil hr
    simp [tokens_append he, hx]
  · rw [List.append_assoc, List.length_append]
    have hv : tokensFrom v.length ([] ++ x :: r) = _ := tokensFrom_reserved .nil hr
    refine .nestingTooDeep ((getElem?_tokensFrom_append he).trans ?_) hx
    simpa using congrArg List.head? hv

-- Two sources that stop with the same tokens before them stop at the same token.
theorem exists_of_stops (h : Stops limit u r cause) (h' : Stops limit v w cause)
    (ht : Grammar.tokens u = Grammar.tokens v) :
    ∃ i, AtToken (u ++ r) i ⟨u.length, cause⟩ ∧ AtToken (v ++ w) i ⟨v.length, cause⟩ := by
  cases cause
  case unexpected     => exact ⟨_, of_unexpected h, ht ▸ of_unexpected h'⟩
  case nestingTooDeep =>
    have ⟨i, hi, ha⟩ := of_nestingTooDeep h
    have ⟨j, hj, ha'⟩ := of_nestingTooDeep h'
    obtain rfl : i = j := by rw [ht] at hi; omega
    exact ⟨i, ha, ha'⟩
  case empty | tooLong =>
    cases h
    case blocked hb => cases hb

end AtToken

-- Where separators stand makes no difference but to positions.
theorem parse_congr_tokens (ne : source ≠ "") (ne' : source' ≠ "")
    (ht : Grammar.tokens source.toList = Grammar.tokens source'.toList) (d : Nat) :
    (∃ f, parse source { maxDepth := d } = .ok f ∧ parse source' { maxDepth := d } = .ok f) ∨
    ∃ i p q cause, parse source { maxDepth := d } = .error ⟨p, cause⟩ ∧
      parse source' { maxDepth := d } = .error ⟨q, cause⟩ ∧
      AtToken source.toList i ⟨p, cause⟩ ∧ AtToken source'.toList i ⟨q, cause⟩ := by
  cases isExpression_or_stops d source.toList
  case inl h =>
    have ⟨f, h⟩ := h
    exact .inl ⟨f, parse_maxDepth_eq_ok_iff.mpr h, parse_maxDepth_eq_ok_iff.mpr (h.respell ht)⟩
  case inr h =>
    have ⟨u, r, cause, hc, h⟩ := h
    have ⟨v, w, hc', h', hv⟩ := h.respell (hc ▸ ht)
    have ⟨i, ha, ha'⟩ := AtToken.exists_of_stops h h' hv.symm
    exact .inr ⟨i, u.length, v.length, cause, parse_of_stops ne rfl hc h,
      parse_of_stops ne' rfl hc' h', hc ▸ ha, hc' ▸ ha'⟩

theorem parse_congr_tokens_two_commas :
    parse "A,,B" { maxDepth := 1 } = .error ⟨2, .unexpected .value (some ',')⟩ ∧
    parse "A\n, , B" { maxDepth := 1 } = .error ⟨4, .unexpected .value (some ',')⟩ ∧
    ∃ i, AtToken "A,,B".toList i ⟨2, .unexpected .value (some ',')⟩ ∧
      AtToken "A\n, , B".toList i ⟨4, .unexpected .value (some ',')⟩ := by
  have h : parse "A,,B" { maxDepth := 1 } = .error ⟨2, .unexpected .value (some ',')⟩ := by
    decide +kernel
  have h' : parse "A\n, , B" { maxDepth := 1 } = .error ⟨4, .unexpected .value (some ',')⟩ := by
    decide +kernel
  have ht : Grammar.tokens "A,,B".toList = Grammar.tokens "A\n, , B".toList := by decide +kernel
  obtain ⟨f, hf, _⟩ | ⟨i, p, q, cause, hp, hq, ha, ha'⟩ :=
    parse_congr_tokens (by decide) (by decide) ht 1
  case inl => exact nomatch h.symm.trans hf
  case inr =>
    obtain ⟨rfl, rfl⟩ := SyntaxError.mk.inj (Except.error.inj (h.symm.trans hp))
    obtain ⟨rfl, _⟩ := SyntaxError.mk.inj (Except.error.inj (h'.symm.trans hq))
    exact ⟨h, h', i, ha, ha'⟩

end TagGuard.Formula
