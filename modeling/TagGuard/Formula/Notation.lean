import TagGuard.Formula.Words
import TagGuard.Grammar.Derivation
import TagGuard.Grammar.Token

namespace TagGuard.Formula

open Grammar

-- How deep a source of the formula at a level of the grammar must be nested.
def depthAt : Formula → Level → Nat
  | everybody, _ | word _, _ | not everybody, _ => 0
  | not f, _   => f.depthAt .term + 1
  | and f g, l =>
    max (f.depthAt .term) (g.depthAt .conjunction) + if l = .term then 1 else 0
  | or f g, l  =>
    max (f.depthAt .conjunction) (g.depthAt .disjunction) + if l = .disjunction then 0 else 1

def depth (f : Formula) : Nat :=
  f.depthAt .disjunction

def grouped (cs : List Char) : List Char :=
  '(' :: cs ++ [')']

def sourceAt : Formula → Level → List Char
  | everybody, _     => ['*']
  | word value, _    => value.toList
  | not everybody, _ => ['~']
  | not f, _         => '!' :: f.sourceAt .term
  | and f g, l       =>
    let cs := f.sourceAt .term ++ '.' :: g.sourceAt .conjunction
    if l = .term then grouped cs else cs
  | or f g, l        =>
    let cs := f.sourceAt .conjunction ++ ',' :: g.sourceAt .disjunction
    if l = .disjunction then cs else grouped cs

def source (f : Formula) : String :=
  String.ofList (f.sourceAt .disjunction)

-- The tokens of the formula in the order of a source, without those of groups.
def tokens : Formula → List Token
  | everybody  => [.reserved '*']
  | word value => [.word value.toList]
  | not f      => .reserved '!' :: f.tokens
  | and f g    => f.tokens ++ .reserved '.' :: g.tokens
  | or f g     => f.tokens ++ .reserved ',' :: g.tokens

-- Whether every word of the formula can be written in a source.
def Writable (f : Formula) : Prop :=
  ∀ value ∈ f.words, IsWord value.toList

variable {f g : Formula} {value : String}

@[simp]
theorem writable_everybody : everybody.Writable := by
  simp [Writable, words]

@[simp]
theorem writable_word : (word value).Writable ↔ IsWord value.toList := by
  simp [Writable, words]

@[simp]
theorem writable_not : (not f).Writable ↔ f.Writable :=
  Iff.rfl

@[simp]
theorem writable_and : (and f g).Writable ↔ f.Writable ∧ g.Writable := by
  simp [Writable, words, or_imp, forall_and]

@[simp]
theorem writable_or : (or f g).Writable ↔ f.Writable ∧ g.Writable := by
  simp [Writable, words, or_imp, forall_and]

end TagGuard.Formula
