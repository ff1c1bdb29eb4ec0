namespace TagGuard.Grammar

def isSeparator (c : Char) : Bool :=
  c = ' ' || c = '\t' || c = '\r' || c = '\n'

def isReserved (c : Char) : Bool :=
  c = ',' || c = '.' || c = '!' || c = '*' || c = '~' || c = '(' || c = ')'

def isWordChar (c : Char) : Bool :=
  !isSeparator c && !isReserved c

variable {c : Char}

theorem isSeparator_iff : isSeparator c ↔ c ∈ [' ', '\t', '\r', '\n'] := by
  simp [isSeparator, or_assoc]

theorem isReserved_iff : isReserved c ↔ c ∈ [',', '.', '!', '*', '~', '(', ')'] := by
  simp [isReserved, or_assoc]

theorem isWordChar_iff : isWordChar c ↔ isSeparator c = false ∧ isReserved c = false := by
  simp [isWordChar]

theorem isWordChar_eq_false_iff : isWordChar c = false ↔ isSeparator c ∨ isReserved c := by
  cases h : isSeparator c <;> simp [isWordChar, h]

theorem isReserved_eq_false_of_isSeparator (h : isSeparator c) : isReserved c = false := by
  simp only [isSeparator_iff, List.mem_cons, List.not_mem_nil, or_false] at h
  rcases h with rfl | rfl | rfl | rfl <;> rfl

end TagGuard.Grammar
