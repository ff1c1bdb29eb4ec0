import TagGuard.Grammar.Alphabet

namespace TagGuard.Grammar

inductive Token
  | reserved (c : Char)
  | word (cs : List Char)
deriving DecidableEq

namespace Token

def chars : Token → List Char
  | reserved c => [c]
  | word cs    => cs

end Token

-- The tokens of a text that has `offset` characters before it, each with its own offset.
def tokensFrom (offset : Nat) : List Char → List (Nat × Token)
  | []     => []
  | c :: r =>
    if isSeparator c then
      tokensFrom (offset + 1) r
    else if isReserved c then
      (offset, .reserved c) :: tokensFrom (offset + 1) r
    else
      let cs := c :: r.takeWhile isWordChar
      (offset, .word cs) :: tokensFrom (offset + cs.length) (r.dropWhile isWordChar)
termination_by cs => cs.length
decreasing_by
  · simp
  · simp
  · exact Nat.lt_succ_of_le (List.dropWhile_sublist _).length_le

def tokens (cs : List Char) : List Token :=
  (tokensFrom 0 cs).map (·.2)

end TagGuard.Grammar
