import Mathlib.Data.String.Basic
import TagGuard.Document.Formula
import TagGuard.Extensions.Except
import TagGuard.Formula.Words

namespace TagGuard.Formula

-- `Denotes d f`: the document `d` is one of those that stand for the formula `f`. In a record with
-- the parts of a formula there may be members that nobody looks at.
inductive Denotes : Document → Formula → Prop
  | name : Denotes (.text "True") everybody
  | everybody : Denotes (.tagged "True" .null) everybody
  | word {members value} : members.lookup "value" = some (.text value) → value ≠ "" →
    Denotes (.tagged "Word" (.record members)) (word value)
  | not {members d f} : members.lookup "inner" = some d → Denotes d f →
    Denotes (.tagged "Negation" (.record members)) (not f)
  | and {members d e f g} : members.lookup "left" = some d → members.lookup "right" = some e →
    Denotes d f → Denotes e g → Denotes (.tagged "And" (.record members)) (and f g)
  | or {members d e f g} : members.lookup "left" = some d → members.lookup "right" = some e →
    Denotes d f → Denotes e g → Denotes (.tagged "Or" (.record members)) (or f g)

variable {d : Document} {f g : Formula} {name value : String}
  {members : List (String × Document)}

theorem wordOfText_eq_ok_iff : wordOfText value = .ok f ↔ value ≠ "" ∧ f = word value := by
  unfold wordOfText
  split <;> simp_all [eq_comm]

theorem ofMember_eq : ofMember name members =
    match members.lookup name with
    | none   => .ok none
    | some d => some <$> ofDocument d := by
  induction members
  case nil         => simp [ofMember]
  case cons m _ hi =>
    rw [ofMember, List.lookup_cons, hi]
    by_cases h : m.1 = name
    case pos => simp [h]
    case neg => simp [h, beq_eq_false_iff_ne.mpr (Ne.symm h)]

theorem ofMember_eq_ok_some_iff : ofMember name members = .ok (some f) ↔
    ∃ d, members.lookup name = some d ∧ ofDocument d = .ok f := by
  rw [ofMember_eq]
  cases members.lookup name
  case none   => simp
  case some d => cases h : ofDocument d <;> simp [h]

theorem operands_eq_ok_iff {p : Formula → Formula → Formula}
    {left right : Except DecodeError (Option Formula)} : operands p left right = .ok f ↔
    ∃ g h, left = .ok (some g) ∧ right = .ok (some h) ∧ f = p g h := by
  simp only [operands, bind_eq_ok_iff, Document.required_eq_ok_iff]
  constructor
  case mp =>
    rintro ⟨_, hl, _, hr, g, rfl, h, rfl, hf⟩
    exact ⟨g, h, hl, hr, (Except.ok.inj hf).symm⟩
  case mpr =>
    rintro ⟨g, h, hl, hr, rfl⟩
    exact ⟨some g, hl, some h, hr, g, rfl, h, rfl, rfl⟩

theorem ofContent_word_eq_ok_iff : ofContent "Word" (.record members) = .ok f ↔
    ∃ value, members.lookup "value" = some (.text value) ∧ value ≠ "" ∧ f = word value := by
  simp only [ofContent, bind_eq_ok_iff, Document.required_eq_ok_iff, Document.asText_eq_ok_iff,
    wordOfText_eq_ok_iff]
  constructor
  case mp  => exact fun ⟨_, hl, value, hd, h⟩ => ⟨value, hd ▸ hl, h⟩
  case mpr => exact fun ⟨value, hl, h⟩ => ⟨_, hl, value, rfl, h⟩

theorem ofContent_not_eq_ok_iff : ofContent "Negation" (.record members) = .ok f ↔
    ∃ g, (∃ d, members.lookup "inner" = some d ∧ ofDocument d = .ok g) ∧ f = not g := by
  simp only [ofContent, bind_eq_ok_iff, Document.required_eq_ok_iff, ← ofMember_eq_ok_some_iff]
  constructor
  case mp =>
    rintro ⟨_, hm, g, rfl, h⟩
    exact ⟨g, hm, (Except.ok.inj h).symm⟩
  case mpr =>
    rintro ⟨g, hm, rfl⟩
    exact ⟨some g, hm, g, rfl, rfl⟩

theorem ofContent_and_eq_ok_iff : ofContent "And" (.record members) = .ok f ↔
    ∃ g h, (∃ d, members.lookup "left" = some d ∧ ofDocument d = .ok g) ∧
      (∃ e, members.lookup "right" = some e ∧ ofDocument e = .ok h) ∧ f = and g h := by
  rw [ofContent, operands_eq_ok_iff]
  simp only [ofMember_eq_ok_some_iff]

theorem ofContent_or_eq_ok_iff : ofContent "Or" (.record members) = .ok f ↔
    ∃ g h, (∃ d, members.lookup "left" = some d ∧ ofDocument d = .ok g) ∧
      (∃ e, members.lookup "right" = some e ∧ ofDocument e = .ok h) ∧ f = or g h := by
  rw [ofContent, operands_eq_ok_iff]
  simp only [ofMember_eq_ok_some_iff]

theorem Denotes.ofDocument_eq (h : Denotes d f) : ofDocument d = .ok f := by
  induction h
  case name             => rfl
  case everybody        => rfl
  case word value hl hn => exact ofContent_word_eq_ok_iff.mpr ⟨value, hl, hn, rfl⟩
  case not hl _ hi      => exact ofContent_not_eq_ok_iff.mpr ⟨_, ⟨_, hl, hi⟩, rfl⟩
  case and hl hr _ _ hi hi' =>
    exact ofContent_and_eq_ok_iff.mpr ⟨_, _, ⟨_, hl, hi⟩, ⟨_, hr, hi'⟩, rfl⟩
  case or hl hr _ _ hi hi' =>
    exact ofContent_or_eq_ok_iff.mpr ⟨_, _, ⟨_, hl, hi⟩, ⟨_, hr, hi'⟩, rfl⟩

-- The name of the form that a formula is stored in.
def formName : Formula → String
  | everybody => "True"
  | word _    => "Word"
  | not _     => "Negation"
  | and ..    => "And"
  | or ..     => "Or"

theorem name_eq_of_ok (h : ofContent name (.record members) = .ok f) : name = f.formName := by
  have hn : name = "Word" ∨ name = "Negation" ∨ name = "And" ∨ name = "Or" := by
    unfold ofContent at h
    split at h <;> simp_all [throw, throwThe, MonadExceptOf.throw]
  obtain rfl | rfl | rfl | rfl := hn
  · obtain ⟨_, _, _, rfl⟩ := ofContent_word_eq_ok_iff.mp h
    rfl
  · obtain ⟨_, _, rfl⟩ := ofContent_not_eq_ok_iff.mp h
    rfl
  · obtain ⟨_, _, _, _, rfl⟩ := ofContent_and_eq_ok_iff.mp h
    rfl
  · obtain ⟨_, _, _, _, rfl⟩ := ofContent_or_eq_ok_iff.mp h
    rfl

theorem form_of_ok (h : ofDocument d = .ok f) :
    f = everybody ∧ (d = .text "True" ∨ d = .tagged "True" .null) ∨
    ∃ members, d = .tagged f.formName (.record members) ∧
      ofContent f.formName (.record members) = .ok f := by
  unfold ofDocument at h
  split at h
  · exact .inl ⟨(Except.ok.inj h).symm, .inl rfl⟩
  next name content =>
    cases content
    case null           =>
      have hn : name = "True" := by
        by_contra hn
        simp [ofContent, hn] at h
      subst hn
      exact .inl ⟨(Except.ok.inj h).symm, .inr rfl⟩
    case record members =>
      obtain rfl := name_eq_of_ok h
      exact .inr ⟨members, rfl, h⟩
    all_goals cases h
  · cases h

-- The parts of a document are read as the parts of its formula, so the induction is on the formula.
theorem denotes_of_ok (h : ofDocument d = .ok f) : Denotes d f := by
  induction f generalizing d
  case everybody =>
    obtain ⟨_, rfl | rfl⟩ | ⟨_, _, h⟩ := form_of_ok h
    exacts [.name, .everybody, nomatch h]
  case word value =>
    obtain ⟨⟨⟩, _⟩ | ⟨members, rfl, h⟩ := form_of_ok h
    obtain ⟨_, hl, hn, ⟨⟩⟩ := ofContent_word_eq_ok_iff.mp h
    exact .word hl hn
  case not hi =>
    obtain ⟨⟨⟩, _⟩ | ⟨members, rfl, h⟩ := form_of_ok h
    obtain ⟨_, ⟨_, hl, hd⟩, ⟨⟩⟩ := ofContent_not_eq_ok_iff.mp h
    exact .not hl (hi hd)
  case and hi hi' =>
    obtain ⟨⟨⟩, _⟩ | ⟨members, rfl, h⟩ := form_of_ok h
    obtain ⟨_, _, ⟨_, hl, hd⟩, ⟨_, hr, he⟩, ⟨⟩⟩ := ofContent_and_eq_ok_iff.mp h
    exact .and hl hr (hi hd) (hi' he)
  case or hi hi' =>
    obtain ⟨⟨⟩, _⟩ | ⟨members, rfl, h⟩ := form_of_ok h
    obtain ⟨_, _, ⟨_, hl, hd⟩, ⟨_, hr, he⟩, ⟨⟩⟩ := ofContent_or_eq_ok_iff.mp h
    exact .or hl hr (hi hd) (hi' he)

theorem ofDocument_eq_ok_iff : ofDocument d = .ok f ↔ Denotes d f :=
  ⟨denotes_of_ok, Denotes.ofDocument_eq⟩

theorem Denotes.empty_notMem_words (h : Denotes d f) : "" ∉ f.words := by
  induction h
  case name | everybody       => simp [words]
  case word hn                => simpa [words] using hn.symm
  case not hi                 => exact hi
  case and hi hi' | or hi hi' => simp [words, hi, hi']

-- What reading a formula back answers.
def readBack (f : Formula) : Except DecodeError Formula :=
  if "" ∈ f.words then .error .emptyWord else .ok f

theorem operands_readBack {p : Formula → Formula → Formula} :
    operands p (some <$> f.readBack) (some <$> g.readBack) =
      if "" ∈ f.words ++ g.words then .error .emptyWord else .ok (p f g) := by
  simp only [operands, readBack]
  by_cases h : "" ∈ f.words <;> by_cases h' : "" ∈ g.words <;> simp [h, h'] <;> rfl

theorem ofDocument_toDocument_eq (f : Formula) : ofDocument f.toDocument = f.readBack := by
  induction f
  case everybody => rfl
  case word value =>
    have h : ofDocument (word value).toDocument = wordOfText value := rfl
    simp [h, wordOfText, readBack, words, eq_comm]
  case not f hi =>
    rw [toDocument, Document.tagged, ofDocument, ofContent, ofMember, if_pos rfl, hi, readBack,
      readBack, words]
    split <;> rfl
  case and f g hi hi' =>
    have h : ofDocument (and f g).toDocument =
        operands and (some <$> ofDocument f.toDocument) (some <$> ofDocument g.toDocument) := rfl
    rw [h, hi, hi', operands_readBack, readBack, words]
  case or f g hi hi' =>
    have h : ofDocument (or f g).toDocument =
        operands or (some <$> ofDocument f.toDocument) (some <$> ofDocument g.toDocument) := rfl
    rw [h, hi, hi', operands_readBack, readBack, words]

-- A formula is read back as it was stored, but for one with an empty word, which no document that
-- is read has.
theorem read_back_unless_empty_word (f : Formula) :
    ofDocument f.toDocument = (if "" ∈ f.words then .error .emptyWord else .ok f) ∧
    DecodeError.emptyWord.message = some "a word must not be empty" ∧
    ∀ d, ofDocument d = .ok f → "" ∉ f.words ∧ ofDocument f.toDocument = .ok f := by
  have h := ofDocument_toDocument_eq f
  refine ⟨h, rfl, fun d hd => ?_⟩
  have hn := (ofDocument_eq_ok_iff.mp hd).empty_notMem_words
  exact ⟨hn, h.trans (if_neg hn)⟩

-- Under the negation there are members that nobody looks at, next to those that are read.
theorem read_back_unless_empty_word_unknown_member :
    let d := Document.tagged "Negation" (.record [("inner", .tagged "And" (.record [
      ("note", .list [.null]), ("left", .tagged "True" .null),
      ("right", .tagged "Word" (.record [("value", .text "a"), ("inner", .text "")]))]))])
    let f := not (and everybody (word "a"))
    ofDocument d = .ok f ∧ "" ∉ f.words ∧ ofDocument f.toDocument = .ok f ∧ f.toDocument ≠ d := by
  intro d f
  have h : ofDocument d = .ok f := rfl
  have ⟨_, _, hd⟩ := read_back_unless_empty_word f
  have ⟨hn, hr⟩ := hd d h
  refine ⟨h, hn, hr, ?_⟩
  simp [d, f, toDocument, Document.tagged]

end TagGuard.Formula
