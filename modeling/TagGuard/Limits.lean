import TagGuard.SyntaxError

namespace TagGuard

structure Limits where
  -- How deep groups and negations may be nested. Operands in a chain are not nested.
  maxDepth : Nat := 256
  -- How many characters a source may have, if there is a bound.
  maxLength : Option Nat := none
deriving DecidableEq

namespace Limits

-- A source that is too long is so from the first character that is too many.
def checkLength (limits : Limits) (source : String) : Except SyntaxError Unit :=
  match limits.maxLength with
  | none       => .ok ()
  | some limit => if source.length ≤ limit then .ok () else .error ⟨limit, .tooLong limit⟩

theorem checkLength_eq_ok_iff {limits : Limits} {source : String} :
    limits.checkLength source = .ok () ↔ ∀ limit ∈ limits.maxLength, source.length ≤ limit := by
  cases h : limits.maxLength <;> simp [checkLength, h]

end Limits
end TagGuard
