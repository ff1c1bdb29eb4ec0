import TagGuard.Formula.Words
import TagGuard.Proofs.Grammar.Stop

namespace TagGuard

namespace SyntaxError

-- The cause with another letter in place of the one that was found.
def Cause.mapFound (m : Char → Char) : Cause → Cause
  | unexpected expected found => unexpected expected (found.map m)
  | cause                     => cause

def mapFound (m : Char → Char) (e : SyntaxError) : SyntaxError where
  position := e.position
  cause    := e.cause.mapFound m

end SyntaxError

namespace Grammar

open SyntaxError

-- A change of the letters of words to letters of words. All other characters stay as they are.
structure Relettering (m : Char → Char) : Prop where
  eq_self : ∀ c, isWordChar c = false → m c = c
  letter  : ∀ c, isWordChar c → isWordChar (m c)

variable {m : Char → Char} {l : Level} {d e limit : Nat} {c x : Char} {s u v w r cs : List Char}
  {f : Formula} {cause : Cause}

namespace Relettering

theorem replace {a b : Char} (ha : isWordChar a) (hb : isWordChar b) :
    Relettering fun c => if c = a then b else c where
  eq_self c hc := by
    have ne : c ≠ a := by rintro rfl; simp [ha] at hc
    exact if_neg ne
  letter c hc := by
    split
    case isTrue  => exact hb
    case isFalse => exact hc

variable (hm : Relettering m)
include hm

theorem isWordChar_eq (c : Char) : isWordChar (m c) = isWordChar c := by
  cases h : isWordChar c
  case false => rw [hm.eq_self c h, h]
  case true  => exact hm.letter c h

theorem isSeparator_eq (c : Char) : isSeparator (m c) = isSeparator c := by
  cases h : isWordChar c
  case false => rw [hm.eq_self c h]
  case true  =>
    have ⟨hs, _⟩ := isWordChar_iff.mp h
    have ⟨hs', _⟩ := isWordChar_iff.mp (hm.letter c h)
    rw [hs, hs']

theorem eq_self_of_isReserved (hx : isReserved x) : m x = x :=
  hm.eq_self x (isWordChar_eq_false_of_isReserved hx)

-- No letter becomes a reserved character.
theorem eq_iff_of_isReserved (hx : isReserved x) : m c = x ↔ c = x where
  mp  := by
    rintro rfl
    exact (hm.eq_self c (hm.isWordChar_eq c ▸ isWordChar_eq_false_of_isReserved hx)).symm
  mpr := by
    rintro rfl
    exact hm.eq_self_of_isReserved hx

theorem mem_operators_iff : m c ∈ l.operators ↔ c ∈ l.operators := by
  cases l <;> simp [Level.operators, hm.eq_iff_of_isReserved (x := '.') rfl,
    hm.eq_iff_of_isReserved (x := ',') rfl]

end Relettering

theorem Separators.map_eq (hs : Separators s) (hm : Relettering m) : s.map m = s := by
  have h (c : Char) (hc : c ∈ s) : m c = c :=
    hm.eq_self c (isWordChar_eq_false_of_isSeparator (hs c hc))
  simpa using List.map_congr_left h

theorem IsWord.map (hw : IsWord w) (hm : Relettering m) : IsWord (w.map m) where
  ne_nil := by simpa using hw.ne_nil
  chars  := by simpa [hm.isWordChar_eq] using hw.chars

theorem Derives.map (h : Derives l d u f) (hm : Relettering m) :
    Derives l d (u.map m) (f.mapChars m) := by
  have hr {x} (hx : isReserved x) : m x = x := hm.eq_self_of_isReserved hx
  induction h
  case word w hs hw =>
    have h : (String.ofList w).map m = String.ofList (w.map m) := by simp [← String.toList_inj]
    rw [List.map_append, hs.map_eq hm, Formula.mapChars, h]
    exact .word hs (hw.map hm)
  case everybody hs => simpa [hs.map_eq hm, hr (x := '*') rfl] using .everybody hs
  case nobody hs    => simpa [hs.map_eq hm, hr (x := '~') rfl] using .nobody hs
  case not hs _ hi  => simpa [hs.map_eq hm, hr (x := '!') rfl] using .not hs hi
  case group hs _ ht hi =>
    simpa [hs.map_eq hm, ht.map_eq hm, hr (x := '(') rfl, hr (x := ')') rfl] using
      Derives.group hs hi ht
  case term hi        => exact .term hi
  case conjunction hi => exact .conjunction hi
  case and hs _ hi hi' =>
    simpa [hs.map_eq hm, hr (x := '.') rfl, Formula.mapChars] using Derives.and hi hs hi'
  case or hs _ hi hi' =>
    simpa [hs.map_eq hm, hr (x := ',') rfl, Formula.mapChars] using Derives.or hi hs hi'

theorem IsExpression.map (h : IsExpression d u f) (hm : Relettering m) :
    IsExpression d (u.map m) (f.mapChars m) := by
  have ⟨v, s, hu, hd, hs⟩ := h
  exact ⟨v.map m, s, by rw [hu, List.map_append, hs.map_eq hm], hd.map hm, hs⟩

theorem Pending.map (h : Pending l d u e) (hm : Relettering m) : Pending l d (u.map m) e := by
  have hr {x} (hx : isReserved x) : m x = x := hm.eq_self_of_isReserved hx
  induction h
  case here           => exact .here
  case not hs _ hi    => simpa [hs.map_eq hm, hr (x := '!') rfl] using Pending.not hs hi
  case group hs _ hi  => simpa [hs.map_eq hm, hr (x := '(') rfl] using Pending.group hs hi
  case term hi        => exact .term hi
  case conjunction hi => exact .conjunction hi
  case and hd hs _ hi =>
    simpa [hs.map_eq hm, hr (x := '.') rfl] using Pending.and (hd.map hm) hs hi
  case or hd hs _ hi  =>
    simpa [hs.map_eq hm, hr (x := ',') rfl] using Pending.or (hd.map hm) hs hi

theorem Ends.map (h : Ends l u v) (hm : Relettering m) : Ends l (u.map m) (v.map m) where
  word     := by simpa [hm.isWordChar_eq] using h.word
  operator := by
    have hd : isSeparator ∘ m = isSeparator := funext hm.isSeparator_eq
    simpa [List.dropWhile_map, hd, hm.mem_operators_iff] using h.operator

theorem Complete.map (h : Complete d u v f) (hm : Relettering m) :
    Complete d (u.map m) (v.map m) (f.mapChars m) := by
  have ⟨hd, hs, hv, he⟩ := h
  rw [List.map_append, hs.map_eq hm]
  refine ⟨hd.map hm, hs, by simpa [hm.isSeparator_eq] using hv, ?_⟩
  simpa [hs.map_eq hm] using he.map hm

theorem Blocked.map (h : Blocked limit d v r cause) (hm : Relettering m) :
    Blocked limit d (v.map m) (r.map m) (cause.mapFound m) := by
  have hr {x} (hx : isReserved x) : m x = x := hm.eq_self_of_isReserved hx
  cases h
  case ended hs => simpa [hs.map_eq hm] using .ended hs
  case operand x r hx hs =>
    have hx' := hr (isReserved_of_mem hx)
    simpa [hs.map_eq hm, Cause.mapFound, hx'] using Blocked.operand hs hx
  case unclosed u f hs hc hn =>
    have hn : (r.map m).head? ≠ some ')' := by
      simpa [hm.eq_iff_of_isReserved (x := ')') rfl] using hn
    simpa [hs.map_eq hm, Cause.mapFound, hr (x := '(') rfl] using
      Blocked.unclosed hs (hc.map hm) hn
  case deep x hs hx =>
    simpa [hs.map_eq hm, Cause.mapFound, hr (isReserved_of_mem hx)] using .deep hs hx

theorem Stops.map (h : Stops limit u r cause) (hm : Relettering m) :
    Stops limit (u.map m) (r.map m) (cause.mapFound m) := by
  cases h
  case blocked hp hb =>
    rw [List.map_append]
    exact .blocked (hp.map hm) (hb.map hm)
  case leftover hc => exact .leftover (hc.map hm)

end Grammar
end TagGuard
