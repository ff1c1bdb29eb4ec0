namespace TagGuard

variable {ε ε' α β : Type} {x : Except ε α} {a : α}

theorem bind_eq_ok_iff {p : α → Except ε β} {b : β} :
    x >>= p = .ok b ↔ ∃ a, x = .ok a ∧ p a = .ok b := by
  cases x <;> simp [bind, Except.bind]

theorem mapError_eq_ok_iff {m : ε → ε'} : x.mapError m = .ok a ↔ x = .ok a := by
  cases x
  case ok    => constructor <;> rintro ⟨⟩ <;> rfl
  case error => constructor <;> rintro ⟨⟩

end TagGuard
