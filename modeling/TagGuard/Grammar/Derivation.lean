import TagGuard.Formula.Basic
import TagGuard.Grammar.Alphabet

namespace TagGuard.Grammar

-- The levels of the grammar, from the one whose operands bind closest.
inductive Level
  | term
  | conjunction
  | disjunction
deriving DecidableEq

def Separators (s : List Char) : Prop :=
  ∀ c ∈ s, isSeparator c

structure IsWord (w : List Char) : Prop where
  ne_nil : w ≠ []
  chars  : ∀ c ∈ w, isWordChar c

-- `Derives l d cs f`: the text `cs` is the formula `f` at level `l`, with groups and negations
-- nested at most `d` deep. Separators stand before tokens.
inductive Derives : Level → Nat → List Char → Formula → Prop
  | word {d s w} : Separators s → IsWord w → Derives .term d (s ++ w) (.word (String.ofList w))
  | everybody {d s} : Separators s → Derives .term d (s ++ ['*']) .everybody
  | nobody {d s} : Separators s → Derives .term d (s ++ ['~']) .nobody
  | not {d s cs f} : Separators s → Derives .term d cs f →
    Derives .term (d + 1) (s ++ '!' :: cs) (.not f)
  | group {d s t cs f} : Separators s → Derives .disjunction d cs f → Separators t →
    Derives .term (d + 1) (s ++ '(' :: cs ++ t ++ [')']) f
  | term {d cs f} : Derives .term d cs f → Derives .conjunction d cs f
  | and {d s cs ds f g} : Derives .term d cs f → Separators s → Derives .conjunction d ds g →
    Derives .conjunction d (cs ++ s ++ '.' :: ds) (.and f g)
  | conjunction {d cs f} : Derives .conjunction d cs f → Derives .disjunction d cs f
  | or {d s cs ds f g} : Derives .conjunction d cs f → Separators s → Derives .disjunction d ds g →
    Derives .disjunction d (cs ++ s ++ ',' :: ds) (.or f g)

namespace Derives

variable {l : Level} {d e : Nat} {cs : List Char} {f : Formula}

theorem mono (h : Derives l d cs f) (le : d ≤ e) : Derives l e cs f := by
  induction h generalizing e with
  | word s w         => exact .word s w
  | everybody s      => exact .everybody s
  | nobody s         => exact .nobody s
  | term _ hi        => exact .term (hi le)
  | conjunction _ hi => exact .conjunction (hi le)
  | and _ s _ hi hi' => exact .and (hi le) s (hi' le)
  | or _ s _ hi hi'  => exact .or (hi le) s (hi' le)
  | not s _ hi =>
    cases e with
    | zero   => contradiction
    | succ e => exact .not s (hi (Nat.le_of_succ_le_succ le))
  | group s _ t hi =>
    cases e with
    | zero   => contradiction
    | succ e => exact .group s (hi (Nat.le_of_succ_le_succ le)) t

end Derives

-- A source as a whole: a disjunction with separators after it.
def IsExpression (d : Nat) (cs : List Char) (f : Formula) : Prop :=
  ∃ ds s, cs = ds ++ s ∧ Derives .disjunction d ds f ∧ Separators s

end TagGuard.Grammar
