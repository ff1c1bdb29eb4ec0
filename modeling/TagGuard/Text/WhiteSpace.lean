namespace TagGuard.Text

-- First and last code point of each range of white space.
def whiteSpaceRanges : List (Nat × Nat) := [
  (0x09, 0x0D), (0x20, 0x20), (0x85, 0x85), (0xA0, 0xA0), (0x1680, 0x1680), (0x2000, 0x200A),
  (0x2028, 0x2029), (0x202F, 0x202F), (0x205F, 0x205F), (0x3000, 0x3000)]

def isWhiteSpace (c : Char) : Bool :=
  whiteSpaceRanges.any fun (first, last) => first ≤ c.toNat && c.toNat ≤ last

def trimStart (cs : List Char) : List Char :=
  cs.dropWhile isWhiteSpace

-- The text without the white space at its ends. White space inside stays.
def trim (cs : List Char) : List Char :=
  (trimStart (trimStart cs).reverse).reverse

@[simp]
theorem trim_nil : trim [] = [] :=
  rfl

end TagGuard.Text
