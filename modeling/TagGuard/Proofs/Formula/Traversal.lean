import TagGuard.Proofs.Formula.Notation
import TagGuard.Proofs.Grammar.Token

namespace TagGuard

namespace Grammar

-- What a token of a source becomes among the tokens of its formula.
def Token.inFormula : Token → List Token
  | reserved '(' | reserved ')' => []
  | reserved '~'                => [reserved '!', reserved '*']
  | t                           => [t]

theorem Derives.flatMap_tokens {l : Level} {d : Nat} {u : List Char} {f : Formula}
    (h : Derives l d u f) : (tokens u).flatMap Token.inFormula = f.tokens := by
  induction h
  case word hs hw =>
    rw [tokens_of_isWord hs hw]
    simp [Formula.tokens, Token.inFormula]
  case everybody hs | nobody hs =>
    rw [tokens_reserved hs rfl, tokens_nil]
    rfl
  case not hs _ hi =>
    rw [tokens_reserved hs rfl, List.flatMap_cons, hi]
    rfl
  case group hs _ ht hi =>
    rw [tokens_append_reserved ht rfl, tokens_reserved hs rfl, tokens_nil]
    simpa [Token.inFormula] using hi
  case term hi | conjunction hi => exact hi
  case and hs _ hi hi' | or hs _ hi hi' =>
    rw [tokens_append_reserved hs rfl, List.flatMap_append, List.flatMap_cons, hi, hi']
    rfl

end Grammar

namespace Formula

open Grammar

variable {source : String} {limits : Limits} {f : Formula}

theorem tokens_of_parse (h : parse source limits = .ok f) :
    (Grammar.tokens source.toList).flatMap Token.inFormula = f.tokens := by
  have ⟨_, u, s, hu, hd, hs⟩ := parse_eq_ok_iff.mp h
  rw [hu, tokens_append_separators hs, hd.flatMap_tokens]

theorem tokens_of_parse_mixed_chain :
    parse "~ ,(é.!( B ))\n" {} = .ok (.or nobody (.and (.word "é") (.not (.word "B")))) ∧
    (Grammar.tokens "~ ,(é.!( B ))\n".toList).flatMap Token.inFormula =
      [.reserved '!', .reserved '*', .reserved ',', .word ['é'], .reserved '.', .reserved '!',
        .word ['B']] := by
  have h : parse "~ ,(é.!( B ))\n" {} =
      .ok (.or nobody (.and (.word "é") (.not (.word "B")))) := by decide +kernel
  exact ⟨h, tokens_of_parse h⟩

end Formula
end TagGuard
