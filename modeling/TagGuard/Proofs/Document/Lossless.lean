import TagGuard.Document.Errors
import TagGuard.Document.Tags

namespace TagGuard

-- All values with `p` are read back as they were written, so that no two are written alike.
structure Lossless {α : Type} (write : α → Document) (read : Document → Except DecodeError α)
    (p : α → Prop := fun _ => True) : Prop where
  read_write : ∀ a, p a → read (write a) = .ok a
  injective  : ∀ a b, p a → p b → write a = write b → a = b

theorem Lossless.of_read_write {α : Type} {write : α → Document}
    {read : Document → Except DecodeError α} {p : α → Prop}
    (h : ∀ a, p a → read (write a) = .ok a) : Lossless write read p where
  read_write := h
  injective a b ha hb he := by
    have hr : Except.ok a = Except.ok b := (h a ha).symm.trans (he ▸ h b hb)
    exact Except.ok.inj hr

namespace Document

@[simp]
theorem asNat_integer {n : Nat} (h : n < naturalBound) : (integer n).asNat = .ok n := by
  simp [asNat, h]

@[simp]
theorem asChar_toString (c : Char) : (text c.toString).asChar = .ok c := by
  simp [asChar, Char.toString]

theorem mapM_asText (tags : List String) : (tags.map text).mapM (·.asText) = .ok tags := by
  induction tags
  case nil => rfl
  case cons t ts hi =>
    rw [List.map_cons, List.mapM_cons, hi]
    rfl

end Document

theorem Expectation.ofDocument_toDocument_eq (e : Expectation) :
    ofDocument e.toDocument = .ok e := by
  cases e <;> rfl

namespace SyntaxError

theorem foundOfDocument_foundToDocument (found : Option Char) :
    foundOfDocument (foundToDocument found) = .ok found := by
  cases found
  case none   => rfl
  case some c =>
    have h : foundOfDocument (foundToDocument (some c)) =
      some <$> (Document.text c.toString).asChar := rfl
    rw [h, Document.asChar_toString]
    rfl

-- The limit that a cause names, if it names one, is a number that can be read back.
def Cause.Representable : Cause → Prop
  | nestingTooDeep limit | tooLong limit => limit < Document.naturalBound
  | empty | unexpected ..                => True

structure Representable (e : SyntaxError) : Prop where
  position : e.position < Document.naturalBound
  cause    : e.cause.Representable

namespace Cause

variable {cause : Cause} {d e : Document}

-- How the forms that have something with them are read, whatever that is.

theorem ofDocument_unexpected :
    ofDocument (.tagged "Unexpected" (.record [("expected", d), ("found", e)])) = (do
      let expected ← Expectation.ofDocument d
      return unexpected expected (← foundOfDocument e)) :=
  rfl

theorem ofDocument_nestingTooDeep :
    ofDocument (.tagged "NestingTooDeep" (.record [("limit", d)])) = nestingTooDeep <$> d.asNat :=
  rfl

theorem ofDocument_tooLong :
    ofDocument (.tagged "TooLong" (.record [("limit", d)])) = tooLong <$> d.asNat :=
  rfl

theorem ofDocument_toDocument_eq (h : cause.Representable) :
    ofDocument cause.toDocument = .ok cause := by
  cases cause
  case empty => rfl
  case unexpected expected found =>
    rw [toDocument, ofDocument_unexpected, expected.ofDocument_toDocument_eq,
      foundOfDocument_foundToDocument]
    rfl
  case nestingTooDeep limit =>
    rw [toDocument, ofDocument_nestingTooDeep, Document.asNat_integer h]
    rfl
  case tooLong limit =>
    rw [toDocument, ofDocument_tooLong, Document.asNat_integer h]
    rfl

end Cause

theorem ofDocument_record {d d' : Document} :
    ofDocument (.record [("position", d), ("kind", d')]) = (do
      let position ← d.asNat
      return ⟨position, ← Cause.ofDocument d'⟩) :=
  rfl

theorem ofDocument_toDocument_eq {e : SyntaxError} (h : e.Representable) :
    ofDocument e.toDocument = .ok e := by
  rw [toDocument, ofDocument_record, Document.asNat_integer h.position,
    Cause.ofDocument_toDocument_eq h.cause]
  rfl

end SyntaxError

namespace Refusal

def Representable : Refusal → Prop
  | malformed error         => error.Representable
  | duplicate _ | missing _ => True

theorem ofDocument_malformed {d : Document} :
    ofDocument (.tagged "Parse" d) = malformed <$> SyntaxError.ofDocument d :=
  rfl

theorem ofDocument_toDocument_eq {refusal : Refusal} (h : refusal.Representable) :
    ofDocument refusal.toDocument = .ok refusal := by
  cases refusal
  case duplicate | missing => rfl
  case malformed error     =>
    rw [toDocument, ofDocument_malformed, SyntaxError.ofDocument_toDocument_eq h]
    rfl

end Refusal

theorem Tags.ofDocument_toDocument_eq (ts : Tags) : ofDocument ts.toDocument = .ok ts := by
  have hd : ofDocument ts.toDocument =
    Tags.mk <$> (ts.toList.map Document.text).mapM (·.asText) := rfl
  rw [hd, Document.mapM_asText]
  rfl

-- Whoever stores what a host was told, or the tags that it asked with, has all there is to know.
theorem lossless_errors_and_tags :
    Lossless Expectation.toDocument Expectation.ofDocument ∧
    Lossless SyntaxError.foundToDocument SyntaxError.foundOfDocument ∧
    Lossless SyntaxError.Cause.toDocument SyntaxError.Cause.ofDocument
      SyntaxError.Cause.Representable ∧
    Lossless SyntaxError.toDocument SyntaxError.ofDocument SyntaxError.Representable ∧
    Lossless Refusal.toDocument Refusal.ofDocument Refusal.Representable ∧
    Lossless Tags.toDocument Tags.ofDocument :=
  ⟨.of_read_write fun e _ => e.ofDocument_toDocument_eq,
    .of_read_write fun found _ => SyntaxError.foundOfDocument_foundToDocument found,
    .of_read_write fun _ => SyntaxError.Cause.ofDocument_toDocument_eq,
    .of_read_write fun _ => SyntaxError.ofDocument_toDocument_eq,
    .of_read_write fun _ => Refusal.ofDocument_toDocument_eq,
    .of_read_write fun ts _ => ts.ofDocument_toDocument_eq⟩

theorem lossless_errors_and_tags_greatest_numbers :
    let e : SyntaxError := ⟨0xffffffffffffffff, .tooLong 0xffffffffffffffff⟩
    let e' : SyntaxError := ⟨0xffffffffffffffff, .unexpected .value (some '\x00')⟩
    Refusal.ofDocument (Refusal.malformed e).toDocument = .ok (.malformed e) ∧
    SyntaxError.ofDocument e'.toDocument = .ok e' ∧ e.toDocument ≠ e'.toDocument ∧
    Tags.ofDocument (Tags.mk ["", "a,b", ""]).toDocument = .ok ⟨["", "a,b", ""]⟩ := by
  intro e e'
  have ⟨_, _, _, he, hr, ht⟩ := lossless_errors_and_tags
  have hn : 0xffffffffffffffff < Document.naturalBound := by decide
  have re : e.Representable := ⟨hn, hn⟩
  have re' : e'.Representable := ⟨hn, trivial⟩
  have ne : e ≠ e' := by simp [e, e']
  exact ⟨hr.read_write _ re, he.read_write e' re', mt (he.injective e e' re re') ne,
    ht.read_write _ trivial⟩

end TagGuard
