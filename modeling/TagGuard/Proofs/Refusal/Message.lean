import Mathlib.Logic.Function.Basic
import Std.Data.String.ToNat
import TagGuard.Refusal

namespace TagGuard

-- A number ends before the first character that is no digit.
theorem Text.repr_append_inj {m n : Nat} {s t : String} (h : m.repr ++ s = n.repr ++ t)
    (hs : ∀ c ∈ s.toList.head?, c.isDigit = false) (ht : ∀ c ∈ t.toList.head?, c.isDigit = false) :
    m = n ∧ s = t := by
  have digits {k : Nat} {u : String} (hu : ∀ c ∈ u.toList.head?, c.isDigit = false) :
      (k.repr ++ u).toList.takeWhile (·.isDigit) = k.repr.toList := by
    have hk : ∀ c ∈ k.repr.toList, c.isDigit := by
      intro c hc
      exact Nat.isDigit_of_mem_toDigits (by decide) (by decide) (Nat.toList_repr ▸ hc)
    rw [String.toList_append, List.takeWhile_append_of_pos hk]
    cases hc : u.toList <;> simp_all
  have hd : m.repr.toList = n.repr.toList := by rw [← digits hs, h, digits ht]
  obtain rfl : m = n := Nat.repr_inj.mp (String.toList_inj.mp hd)
  exact ⟨rfl, (String.append_right_inj m.repr).mp h⟩

-- The texts differ in their first characters.
theorem Expectation.text_append_inj {e e' : Expectation} {s t : String}
    (h : e.text ++ s = e'.text ++ t) : e = e' ∧ s = t := by
  have hl := congrArg String.toList h
  obtain rfl : e = e' := by cases e <;> cases e' <;> simp [text] at hl ⊢
  exact ⟨rfl, (String.append_right_inj e.text).mp h⟩

namespace SyntaxError

variable {e : SyntaxError}

-- The end of a source does not read like a character.
theorem foundText_injective : Function.Injective foundText := by
  intro found found' h
  have hl := congrArg String.toList h
  cases found <;> cases found' <;> simp [foundText, Char.toString] at hl ⊢
  exact hl

theorem Cause.message_injective : Function.Injective message := by
  intro cause cause' h
  have hl := congrArg String.toList h
  cases cause <;> cases cause'
  case unexpected.unexpected expected found expected' found' =>
    simp only [message_unexpected, String.append_assoc, String.append_right_inj] at h
    have ⟨he, h⟩ := Expectation.text_append_inj h
    have hf : foundText found = foundText found' := by simpa using h
    rw [he, foundText_injective hf]
  case nestingTooDeep.nestingTooDeep limit limit' | tooLong.tooLong limit limit' =>
    have hn : limit.repr = limit'.repr := by simpa using h
    rw [Nat.repr_inj.mp hn]
  case empty.empty => rfl
  all_goals simp at hl

theorem message_injective : Function.Injective message := by
  intro ⟨position, cause⟩ ⟨position', cause'⟩ h
  simp only [message, String.append_assoc] at h
  have ⟨hp, h⟩ := Text.repr_append_inj h (by simp) (by simp)
  have hc : cause.message = cause'.message := by simpa using h
  rw [hp, Cause.message_injective hc]

-- A message begins with the position, so that no other text is one.
theorem message_ne {s : String} (hs : ∀ c ∈ s.toList.head?, c.isDigit = false) :
    e.message ≠ s := by
  rintro rfl
  have ⟨c, r, hd⟩ := List.exists_cons_of_ne_nil (Nat.toDigits_ne_nil (n := e.position) (b := 10))
  have hc : c.isDigit := Nat.isDigit_of_mem_toDigits (b := 10) (by decide) (by decide)
    (hd ▸ List.mem_cons_self : c ∈ Nat.toDigits 10 e.position)
  have hn : c.isDigit = false := hs c (by simp [message, hd])
  simp [hc] at hn

end SyntaxError

theorem Refusal.message_injective : Function.Injective message := by
  intro refusal refusal' h
  cases refusal <;> cases refusal' <;>
    simp only [message_duplicate, message_missing, message_malformed] at h
  case duplicate.duplicate | missing.missing => rw [(String.append_right_inj _).mp h]
  case malformed.malformed => rw [SyntaxError.message_injective h]
  case malformed.duplicate | malformed.missing => exact absurd h (SyntaxError.message_ne (by simp))
  case duplicate.malformed | missing.malformed =>
    exact absurd h.symm (SyntaxError.message_ne (by simp))
  case duplicate.missing | missing.duplicate =>
    have hl := congrArg String.toList h
    simp at hl

-- Whoever keeps only what a host was told can still tell the errors apart.
theorem messages_injective :
    Function.Injective SyntaxError.message ∧ Function.Injective Refusal.message :=
  ⟨SyntaxError.message_injective, Refusal.message_injective⟩

-- A plugin that is named like an error on a source, and characters that stand in a message anyway.
theorem messages_injective_quotation_mark :
    (SyntaxError.mk 4 (.unexpected .value (some '"'))).message ≠
      (SyntaxError.mk 4 (.unexpected .value none)).message ∧
    (Refusal.missing "1: expression is empty").message ≠
      (Refusal.malformed ⟨1, .empty⟩).message ∧
    (Refusal.duplicate "a").message ≠ (Refusal.missing "a").message := by
  have ⟨he, hr⟩ := messages_injective
  exact ⟨he.ne (by decide), hr.ne (by decide), hr.ne (by decide)⟩

end TagGuard
