import TagGuard.SyntaxError
import TagGuard.Text.Quoted

namespace TagGuard

open Text

inductive LogRecord
  | emptySource
  | malformed (source : String) (error : SyntaxError)
  | registered (name source : String)
  | asked (name : String) (enabled : Bool)
deriving DecidableEq

namespace LogRecord

def level : LogRecord → String
  | emptySource | malformed ..  => "DEBUG"
  | registered .. | asked ..    => "TRACE"

def message : LogRecord → String
  | emptySource            => "Rejected empty tag expression"
  | malformed source error =>
    "Failed to parse tag expression " ++ quote source ++ ": " ++ error.message
  | registered name source => "Registered plugin " ++ quote name ++ " gated by " ++ quote source
  | asked name enabled     =>
    "Plugin " ++ quote name ++ " enabled: " ++ (if enabled then "true" else "false")

section Message

variable {name source : String} {e : SyntaxError} {b : Bool}

@[simp]
theorem message_emptySource : emptySource.message = "Rejected empty tag expression" :=
  rfl

@[simp]
theorem message_malformed : (malformed source e).message =
    "Failed to parse tag expression " ++ quote source ++ ": " ++ e.message :=
  rfl

@[simp]
theorem message_registered : (registered name source).message =
    "Registered plugin " ++ quote name ++ " gated by " ++ quote source :=
  rfl

@[simp]
theorem message_asked : (asked name b).message =
    "Plugin " ++ quote name ++ " enabled: " ++ (if b then "true" else "false") :=
  rfl

end Message

-- The line of the log that a record makes.
def line (r : LogRecord) : String :=
  r.level ++ " " ++ r.message

-- The records of an attempt to read `source`: only failures leave one.
def ofAttempt {α : Type} (source : String) : Except SyntaxError α → List LogRecord
  | .ok _              => []
  | .error ⟨_, .empty⟩ => [emptySource]
  | .error e           => [malformed source e]

end LogRecord

-- A value and the records written on the way to it, the oldest first.
structure Logged (α : Type) where
  value : α
  log : List LogRecord := []

namespace Logged

variable {α β : Type}

instance : Monad Logged where
  pure a := { value := a }
  bind x f := { value := (f x.value).value, log := x.log ++ (f x.value).log }

@[simp]
theorem value_pure (a : α) : (pure a : Logged α).value = a :=
  rfl

@[simp]
theorem log_pure (a : α) : (pure a : Logged α).log = [] :=
  rfl

@[simp]
theorem value_bind (x : Logged α) (f : α → Logged β) : (x >>= f).value = (f x.value).value :=
  rfl

@[simp]
theorem value_map (f : α → β) (x : Logged α) : (f <$> x).value = f x.value :=
  rfl

@[simp]
theorem log_bind (x : Logged α) (f : α → Logged β) : (x >>= f).log = x.log ++ (f x.value).log :=
  rfl

@[simp]
theorem log_map (f : α → β) (x : Logged α) : (f <$> x).log = x.log :=
  List.append_nil _

instance : LawfulMonad Logged := LawfulMonad.mk' Logged
  (fun x => congrArg (mk x.value) (List.append_nil _))
  (fun _ _ => rfl)
  (fun x f g => congrArg (mk (g (f x.value).value).value) (List.append_assoc ..))

def write (r : LogRecord) : Logged Unit where
  value := ()
  log   := [r]

end Logged
end TagGuard
