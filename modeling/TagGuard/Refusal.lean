import TagGuard.SyntaxError

namespace TagGuard

inductive Refusal
  | duplicate (name : String)
  | missing (name : String)
  | malformed (error : SyntaxError)
deriving DecidableEq

namespace Refusal

def message : Refusal → String
  | duplicate name  => "Plugin already registered: " ++ name
  | missing name    => "Plugin not found: " ++ name
  | malformed error => error.message

variable {name : String} {error : SyntaxError}

@[simp]
theorem message_duplicate : (duplicate name).message = "Plugin already registered: " ++ name :=
  rfl

@[simp]
theorem message_missing : (missing name).message = "Plugin not found: " ++ name :=
  rfl

@[simp]
theorem message_malformed : (malformed error).message = error.message :=
  rfl

end Refusal
end TagGuard
