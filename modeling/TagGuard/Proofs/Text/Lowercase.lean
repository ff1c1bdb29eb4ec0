import Mathlib.Data.String.Basic
import TagGuard.Grammar.Alphabet
import TagGuard.Text.Lowercase

namespace TagGuard.Text

open Grammar

variable {r : CaseRun} {c x : Char} {n : Nat}

-- Neither a letter nor a lower case form is a mark: all of those come before `A`, but for `~`.
theorem caseRun_bounds (h : r ∈ caseRuns) :
    64 < r.first ∧ 64 < r.first + r.shift ∧ (r.last < 126 ∨ 126 < r.first) ∧
      (r.last + r.shift < 126 ∨ 126 < r.first + r.shift) := by
  revert r
  decide +kernel

theorem toNat_of_not_isWordChar (h : isWordChar x = false) :
    0 < x.toNat ∧ (x.toNat ≤ 64 ∨ x.toNat = 126) := by
  have hm : ∀ x ∈ [' ', '\t', '\r', '\n'] ++ [',', '.', '!', '*', '~', '(', ')'],
      0 < x.toNat ∧ (x.toNat ≤ 64 ∨ x.toNat = 126) := by simp
  rw [isWordChar_eq_false_iff, isSeparator_iff, isReserved_iff] at h
  exact hm x (List.mem_append.mpr h)

theorem lowerLetter_cases (c : Char) : lowerLetter c = c ∨
    ∃ r ∈ caseRuns, r.covers c.toNat ∧ lowerLetter c = Char.ofNat (r.lower c.toNat) := by
  unfold lowerLetter
  split
  case h_1 r h =>
    have hc : r.covers c.toNat := by simpa using List.find?_some h
    exact .inr ⟨r, List.mem_of_find?_eq_some h, hc, rfl⟩
  case h_2     => exact .inl rfl

theorem toNat_ofNat_lower (h : r ∈ caseRuns) (hn : r.covers n) :
    (Char.ofNat (r.lower n)).toNat = 0 ∨ 64 < (Char.ofNat (r.lower n)).toNat ∧
      (Char.ofNat (r.lower n)).toNat ≠ 126 := by
  rw [Char.ofNat]
  by_cases hv : (r.lower n).isValidChar
  case pos =>
    have := caseRun_bounds h
    have := CaseRun.covers_iff.mp hn
    have hl : (Char.ofNatAux (r.lower n) hv).toNat = (n + r.shift).toNat := rfl
    rw [dif_pos hv]
    omega
  case neg =>
    rw [dif_neg hv]
    exact .inl rfl

theorem lowerLetter_eq_iff (hx : isWordChar x = false) : lowerLetter c = x ↔ c = x := by
  have hb := toNat_of_not_isWordChar hx
  constructor
  case mp =>
    rintro rfl
    cases lowerLetter_cases c
    case inl h => exact h.symm
    case inr h =>
      have ⟨r, hr, hc, h⟩ := h
      have := toNat_ofNat_lower hr hc
      rw [h] at hb
      omega
  case mpr =>
    rintro rfl
    cases lowerLetter_cases c
    case inl h => exact h
    case inr h =>
      have ⟨r, hr, hc, _⟩ := h
      have := caseRun_bounds hr
      have := CaseRun.covers_iff.mp hc
      omega

theorem lowercase_of_not_isWordChar (hx : isWordChar x = false) : lowercase x = [x] := by
  have ne : x ≠ 'İ' := by rintro rfl; contradiction
  rw [lowercase, if_neg ne, (lowerLetter_eq_iff hx).mpr rfl]

-- No lower case form has a mark in it but that of the mark itself.
theorem mem_lowercase_iff (hx : isWordChar x = false) : x ∈ lowercase c ↔ c = x := by
  by_cases h : c = 'İ'
  case pos =>
    have ne {y : Char} (hy : isWordChar y) : x ≠ y := by
      rintro rfl
      simp [hy] at hx
    subst h
    simp [lowercase, ne (y := 'i') rfl, ne (y := '\u0307') rfl, (ne (y := 'İ') rfl).symm]
  case neg => simpa [lowercase, h, eq_comm (a := x)] using lowerLetter_eq_iff hx

theorem lowercase_eq_iff (hx : isWordChar x = false) : lowercase c = lowercase x ↔ c = x where
  mp h  := by
    rw [lowercase_of_not_isWordChar hx] at h
    exact (mem_lowercase_iff hx).mp (h ▸ List.mem_singleton_self x)
  mpr h := congrArg lowercase h

theorem mem_foldCase_iff {s : String} (hx : isWordChar x = false) :
    x ∈ foldCase s ↔ x ∈ s.toList := by
  simp [foldCase, mem_lowercase_iff hx]

end TagGuard.Text
