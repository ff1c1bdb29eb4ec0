import Mathlib.Data.String.Basic

namespace TagGuard.Text

open String

variable {a b : Char} {cs ds : List Char} {m n : Nat} {s t : String}

def bytes (s : String) : List UInt8 :=
  s.toUTF8.data.toList

theorem bytes_eq_flatMap : bytes s = s.toList.flatMap utf8EncodeChar := by
  rw [bytes, toUTF8_eq_toByteArray, ← utf8Encode_toList, List.utf8Encode,
    List.toList_data_toByteArray]

theorem ofNat_lt_ofNat_iff (hm : m < 256) (hn : n < 256) :
    UInt8.ofNat m < UInt8.ofNat n ↔ m < n := by
  simp [UInt8.lt_iff_toNat_lt, Nat.mod_eq_of_lt hm, Nat.mod_eq_of_lt hn]

theorem ofNat_eq_ofNat_iff (hm : m < 256) (hn : n < 256) :
    UInt8.ofNat m = UInt8.ofNat n ↔ m = n := by
  simp [← UInt8.toNat_inj, Nat.mod_eq_of_lt hm, Nat.mod_eq_of_lt hn]

-- An encoding is longer only if its first byte is greater, and encodings of the same length are
-- compared digit by digit. No encoding begins another, so it does not matter what follows.
theorem utf8EncodeChar_append_lt (h : a < b) (u v : List UInt8) :
    utf8EncodeChar a ++ u < utf8EncodeChar b ++ v := by
  have lt : a.val.toNat < b.val.toNat := h
  have bound : b.val.toNat < 0x110000 := by
    have := b.valid
    simp only [UInt32.isValidChar, Nat.isValidChar] at this
    omega
  have digits (n : Nat) : n / 4096 = n / 64 / 64 ∧ n / 262144 = n / 64 / 64 / 64 := by omega
  simp only [utf8EncodeChar, digits]
  generalize a.val.toNat = m at *
  generalize b.val.toNat = n at *
  split_ifs <;>
    simp (disch := omega) only [List.cons_append, List.nil_append, List.cons_lt_cons_iff,
      ofNat_lt_ofNat_iff, ofNat_eq_ofNat_iff] <;>
    omega

theorem flatMap_utf8EncodeChar_lt (h : List.Lex (· < ·) cs ds) :
    cs.flatMap utf8EncodeChar < ds.flatMap utf8EncodeChar := by
  induction h
  case nil a l =>
    have ⟨x, r, hx⟩ := List.exists_cons_of_ne_nil (utf8EncodeChar_ne_nil (c := a))
    simp [hx]
  case rel h      => simpa using utf8EncodeChar_append_lt h ..
  case cons _ hi  => simpa using List.append_left_lt hi

theorem bytes_lt_bytes_of_lt (h : s < t) : bytes s < bytes t := by
  rw [bytes_eq_flatMap, bytes_eq_flatMap]
  exact flatMap_utf8EncodeChar_lt (List.lex_lt.mpr h)

theorem bytes_lt_bytes_iff : bytes s < bytes t ↔ s < t := by
  constructor
  case mpr => exact bytes_lt_bytes_of_lt
  case mp  =>
    intro h
    by_contra hn
    rcases (not_lt.mp hn).eq_or_lt with rfl | hn
    · exact List.lt_irrefl _ h
    · exact List.lt_asymm h (bytes_lt_bytes_of_lt hn)

end TagGuard.Text
