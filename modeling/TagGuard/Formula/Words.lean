import TagGuard.Formula.Basic

namespace TagGuard.Formula

def words : Formula → List String
  | everybody  => []
  | word value => [value]
  | not f      => f.words
  | and f g    => f.words ++ g.words
  | or f g     => f.words ++ g.words

-- The words under an even number of negations, or those under an odd number.
def wordsUnder (odd : Bool) : Formula → List String
  | everybody  => []
  | word value => if odd then [] else [value]
  | not f      => f.wordsUnder (!odd)
  | and f g    => f.wordsUnder odd ++ g.wordsUnder odd
  | or f g     => f.wordsUnder odd ++ g.wordsUnder odd

theorem mem_words_iff {f : Formula} {value : String} :
    value ∈ f.words ↔ ∃ odd, value ∈ f.wordsUnder odd := by
  induction f with
  | everybody          => simp [words, wordsUnder]
  | word               => simp [words, wordsUnder]
  | not f hi           => simp [words, wordsUnder, hi, or_comm]
  | and f g hi hi'     => simp [words, wordsUnder, hi, hi', or_or_or_comm]
  | or f g hi hi'      => simp [words, wordsUnder, hi, hi', or_or_or_comm]

-- The formula with every character of every word replaced.
def mapChars (m : Char → Char) : Formula → Formula
  | everybody  => everybody
  | word value => word (value.map m)
  | not f      => not (f.mapChars m)
  | and f g    => and (f.mapChars m) (g.mapChars m)
  | or f g     => or (f.mapChars m) (g.mapChars m)

-- The formula with the wildcard replaced by the word that it is rendered as.
def spellOut : Formula → Formula
  | everybody  => word "1"
  | word value => word value
  | not f      => not f.spellOut
  | and f g    => and f.spellOut g.spellOut
  | or f g     => or f.spellOut g.spellOut

theorem render_spellOut (f : Formula) : f.spellOut.render = f.render := by
  induction f <;> simp_all [spellOut, render]

end TagGuard.Formula
