namespace TagGuard

-- What a source could have gone on with.
inductive Expectation
  | endOfExpression
  | closeParenthesis
  -- An operand is missing: the source ends too early, or has a character that begins none.
  | term
  | value
deriving DecidableEq

namespace Expectation

def text : Expectation → String
  | endOfExpression  => "end of expression"
  | closeParenthesis => ")"
  | term             => "term"
  | value            => "value"

end Expectation

namespace SyntaxError

inductive Cause
  | empty
  -- The source ends where `found` is `none`.
  | unexpected (expected : Expectation) (found : Option Char)
  | nestingTooDeep (limit : Nat)
  | tooLong (limit : Nat)
deriving DecidableEq

def foundText : Option Char → String
  | some c => c.toString
  | none   => "EOF"

def Cause.message : Cause → String
  | empty                     => "expression is empty"
  | unexpected expected found =>
    "Expected \"" ++ expected.text ++ "\" but found \"" ++ foundText found ++ "\""
  | nestingTooDeep limit      => "Nesting deeper than " ++ limit.repr ++ " levels"
  | tooLong limit             => "Expression longer than " ++ limit.repr ++ " characters"

namespace Cause

variable {expected : Expectation} {found : Option Char} {limit : Nat}

@[simp]
theorem message_empty : empty.message = "expression is empty" :=
  rfl

@[simp]
theorem message_unexpected : (unexpected expected found).message =
    "Expected \"" ++ expected.text ++ "\" but found \"" ++ foundText found ++ "\"" :=
  rfl

@[simp]
theorem message_nestingTooDeep : (nestingTooDeep limit).message =
    "Nesting deeper than " ++ limit.repr ++ " levels" :=
  rfl

@[simp]
theorem message_tooLong : (tooLong limit).message =
    "Expression longer than " ++ limit.repr ++ " characters" :=
  rfl

end Cause

end SyntaxError

structure SyntaxError where
  position : Nat
  cause : SyntaxError.Cause
deriving DecidableEq

namespace SyntaxError

def message (e : SyntaxError) : String :=
  e.position.repr ++ ": " ++ e.cause.message

end SyntaxError
end TagGuard
