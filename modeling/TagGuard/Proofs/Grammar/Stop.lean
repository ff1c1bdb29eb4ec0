import Mathlib.Data.List.Count
import TagGuard.Proofs.Grammar.Derivation
import TagGuard.SyntaxError

namespace TagGuard.Grammar

open SyntaxError

-- `Pending l d u e`: the text `u` begins a text of level `l` with groups and negations nested at
-- most `d` deep, a term comes next, and in this term they can be nested `e` deep.
inductive Pending : Level → Nat → List Char → Nat → Prop
  | here {d} : Pending .term d [] d
  | not {d s u e} : Separators s → Pending .term d u e → Pending .term (d + 1) (s ++ '!' :: u) e
  | group {d s u e} : Separators s → Pending .disjunction d u e →
    Pending .term (d + 1) (s ++ '(' :: u) e
  | term {d u e} : Pending .term d u e → Pending .conjunction d u e
  | and {d cs f s u e} : Derives .term d cs f → Separators s → Pending .conjunction d u e →
    Pending .conjunction d (cs ++ s ++ '.' :: u) e
  | conjunction {d u e} : Pending .conjunction d u e → Pending .disjunction d u e
  | or {d cs f s u e} : Derives .conjunction d cs f → Separators s → Pending .disjunction d u e →
    Pending .disjunction d (cs ++ s ++ ',' :: u) e

-- `Blocked limit d v r cause`: where a term should come next in which groups and negations can be
-- nested `d` deep, there is no way beyond `v` if `r` follows.
inductive Blocked (limit : Nat) : Nat → List Char → List Char → Cause → Prop
  | ended {d s} : Separators s → Blocked limit d s [] (.unexpected .term none)
  | operand {d s x r} : Separators s → x ∈ [',', '.', ')'] →
    Blocked limit d s (x :: r) (.unexpected .value (some x))
  | unclosed {d s u r f} : Separators s → Complete d u r f → r.head? ≠ some ')' →
    Blocked limit (d + 1) (s ++ '(' :: u) r (.unexpected .closeParenthesis r.head?)
  | deep {s x r} : Separators s → x ∈ ['(', '!'] →
    Blocked limit 0 (s ++ [x]) r (.nestingTooDeep limit)

-- `Stops limit u r cause`: a source in which groups and negations can be nested `limit` deep makes
-- sense up to `u`, but not if `r` follows.
inductive Stops (limit : Nat) : List Char → List Char → Cause → Prop
  | blocked {d u v r cause} : Pending .disjunction limit u d → Blocked limit d v r cause →
    Stops limit (u ++ v) r cause
  | leftover {u x r f} : Complete limit u (x :: r) f →
    Stops limit u (x :: r) (.unexpected .endOfExpression (some x))

variable {l : Level} {d e k limit limit' : Nat} {s u v w r : List Char} {x : Char} {f g : Formula}
  {expected : Expectation} {found : Option Char} {cause : Cause}

-- How many groups and negations a text begins.
def openings (cs : List Char) : Nat :=
  cs.countP fun c => c = '(' || c = '!'

namespace Pending

theorem mono (h : Pending l d u e) (k : Nat) : Pending l (d + k) u (e + k) := by
  induction h
  case here             => exact .here
  case not s _ hi       => exact Nat.add_right_comm .. ▸ .not s hi
  case group s _ hi     => exact Nat.add_right_comm .. ▸ .group s hi
  case term hi          => exact .term hi
  case and h s _ hi     => exact .and (h.mono (Nat.le_add_right ..)) s hi
  case conjunction hi   => exact .conjunction hi
  case or h s _ hi      => exact .or (h.mono (Nat.le_add_right ..)) s hi

-- Whatever term comes next, the groups around it can be closed.
theorem fill (h : Pending l d u e) (hw : Derives .term e w g) :
    ∃ v f, Derives l d (u ++ w ++ v) f := by
  induction h
  case here =>
    exact ⟨[], g, by simpa using hw⟩
  case not s _ hi =>
    have ⟨v, f, hd⟩ := hi hw
    exact ⟨v, _, by simpa using Derives.not s hd⟩
  case group s _ hi =>
    have ⟨v, f, hd⟩ := hi hw
    exact ⟨v ++ [')'], _, by simpa using Derives.group s hd .nil⟩
  case term hi =>
    have ⟨v, f, hd⟩ := hi hw
    exact ⟨v, f, .term hd⟩
  case and h s _ hi =>
    have ⟨v, f, hd⟩ := hi hw
    exact ⟨v, _, by simpa using Derives.and h s hd⟩
  case conjunction hi =>
    have ⟨v, f, hd⟩ := hi hw
    exact ⟨v, f, .conjunction hd⟩
  case or h s _ hi =>
    have ⟨v, f, hd⟩ := hi hw
    exact ⟨v, _, by simpa using Derives.or h s hd⟩

theorem exists_isExpression (h : Pending .disjunction d u e) (hw : Derives .term e w g) :
    ∃ v f, IsExpression d (u ++ w ++ v) f :=
  have ⟨v, f, hd⟩ := h.fill hw
  ⟨v, f, _, [], by simp, hd, .nil⟩

theorem dangling (h : Pending l d u e) : Dangling u := by
  induction h
  case here                     => exact .of_separators .nil
  case term hi | conjunction hi => exact hi
  all_goals exact .append_cons ‹_› (by simp)

theorem ends (h : Pending l d u e) : Ends .term u v := by
  induction h
  case here                     => exact ⟨by simp, by simp [Level.operators]⟩
  case term hi | conjunction hi => exact hi
  case not hi | group hi        => exact hi.cons rfl
  case and hi | or hi           => exact hi.cons rfl

theorem count_parentheses (h : Pending l d u e) : u.count ')' ≤ u.count '(' := by
  induction h
  case here                     => rfl
  case not s _ hi               => simpa [s.count_eq_zero, isReserved] using hi
  case group s _ hi             => simpa [s.count_eq_zero, isReserved] using Nat.le_succ_of_le hi
  case term hi | conjunction hi => exact hi
  case and h s _ hi | or h s _ hi =>
    simpa [s.count_eq_zero, h.count_parentheses, isReserved] using hi

theorem le_add_openings (h : Pending l d u e) : d ≤ e + openings u := by
  induction h
  case here                     => rfl
  case term hi | conjunction hi => exact hi
  all_goals
    simp only [openings, List.countP_append, List.countP_cons] at *
    simp
    omega

end Pending

namespace Blocked

-- Only the character at which a term is blocked says why.
theorem congr_right (h : Blocked limit d v r cause) (hh : r.head? = w.head?) :
    Blocked limit d v w cause := by
  cases h
  case deep s hx        => exact .deep s hx
  case ended s          => exact List.head?_eq_none_iff.mp hh.symm ▸ .ended s
  case operand hx s     =>
    have ⟨_, hw⟩ := List.head?_eq_some_iff.mp hh.symm
    exact hw ▸ .operand s hx
  case unclosed s hc hr => exact hh ▸ .unclosed s (hc.congr_right hh) (hh ▸ hr)

theorem separators_append (h : Blocked limit d v r cause) (hs : Separators s) :
    Blocked limit d (s ++ v) r cause := by
  cases h
  case ended ht          => exact .ended (hs.append ht)
  case operand hx ht     => exact .operand (hs.append ht) hx
  case unclosed ht hc hr => exact List.append_assoc s _ _ ▸ .unclosed (hs.append ht) hc hr
  case deep ht hx        => exact List.append_assoc s _ _ ▸ .deep (hs.append ht) hx

-- An operand that is missing can be put in, and a group that is open can be closed.
theorem exists_derives (h : Blocked limit d v r (.unexpected expected found)) :
    ∃ w f, Derives .term d (v ++ w) f := by
  cases h
  case ended s         => exact ⟨_, _, .letter s⟩
  case operand s       => exact ⟨_, _, .letter s⟩
  case unclosed s hc _ => exact ⟨_, _, hc.group s⟩

-- A limit that was not reached may be another one.
theorem mono (h : Blocked limit d v r cause) (hn : ∀ n, cause ≠ .nestingTooDeep n) (k : Nat) :
    Blocked limit' (d + k) v r cause := by
  cases h
  case deep             => exact absurd rfl (hn limit)
  case ended s          => exact .ended s
  case operand hx s     => exact .operand s hx
  case unclosed s hc hr =>
    exact Nat.add_right_comm .. ▸ .unclosed s (hc.mono (Nat.le_add_right ..)) hr

end Blocked

namespace Stops

theorem congr_right (h : Stops limit u r cause) (hh : r.head? = w.head?) :
    Stops limit u w cause := by
  cases h
  case blocked hp hb => exact .blocked hp (hb.congr_right hh)
  case leftover hc   =>
    have ⟨_, hw⟩ := List.head?_eq_some_iff.mp hh.symm
    exact hw ▸ .leftover (hc.congr_right (hw ▸ hh))

theorem mono (h : Stops limit u r cause) (hn : ∀ n, cause ≠ .nestingTooDeep n)
    (le : limit ≤ limit') : Stops limit' u r cause := by
  obtain ⟨k, rfl⟩ := Nat.exists_eq_add_of_le le
  cases h
  case blocked hp hb => exact .blocked (hp.mono k) (hb.mono hn k)
  case leftover hc   => exact .leftover (hc.mono le)

theorem head?_eq (h : Stops limit u r (.unexpected expected found)) : r.head? = found := by
  cases h
  case blocked hb  => cases hb <;> rfl
  case leftover hc => rfl

-- What follows a stop does not go on with what was read before it.
theorem ends (h : Stops limit u r (.unexpected expected found)) :
    Ends .term u r ∧ ∀ c ∈ r.head?, isSeparator c = false := by
  cases h
  case leftover hc => exact ⟨hc.ends, hc.isSeparator_head?⟩
  case blocked hb =>
    cases hb
    case ended => exact ⟨.term (by simp), by simp⟩
    case operand hx hs =>
      have hx := isReserved_of_mem hx
      exact ⟨.term (by simpa using isWordChar_eq_false_of_isReserved hx),
        by simpa using isSeparator_eq_false_of_isReserved hx⟩
    case unclosed hc _ =>
      exact ⟨List.append_assoc _ _ _ ▸ hc.ends.cons (x := '(') rfl, hc.isSeparator_head?⟩

-- Up to a character that is not expected there is a way to go on.
theorem exists_isExpression (h : Stops limit u r (.unexpected expected found)) :
    ∃ w f, IsExpression limit (u ++ w) f := by
  cases h
  case blocked hp hb =>
    have ⟨v, _, hd⟩ := hb.exists_derives
    have ⟨w, f, he⟩ := hp.exists_isExpression hd
    exact ⟨v ++ w, f, by simpa using he⟩
  case leftover hc =>
    exact ⟨[], _, by simpa using hc.isExpression⟩

-- What is expected shows in what was read.
theorem expected_iff (h : Stops limit u r (.unexpected expected found)) :
    (Dangling u → expected = if found = none then .term else .value) ∧
    (¬Dangling u →
      (u.count ')' < u.count '(' ∧ expected = .closeParenthesis) ∨
      (u.count '(' = u.count ')' ∧ expected = .endOfExpression ∧ found ≠ none)) := by
  cases h
  case leftover hc =>
    have hn : ¬Dangling u := hc.not_dangling (w := [])
    exact ⟨fun hd => absurd hd hn, fun _ => .inr ⟨hc.count_parentheses, rfl, nofun⟩⟩
  case blocked hp hb =>
    cases hb
    case ended hs      => exact ⟨fun _ => rfl, absurd (hp.dangling.append_separators hs)⟩
    case operand hx hs => exact ⟨fun _ => rfl, absurd (hp.dangling.append_separators hs)⟩
    case unclosed u e s w f hs hc hr =>
      have hn : ¬Dangling (u ++ (s ++ '(' :: w)) := by
        simpa using hc.not_dangling (w := u ++ s ++ ['('])
      refine ⟨fun hd => absurd hd hn, fun _ => .inl ⟨?_, rfl⟩⟩
      have := hp.count_parentheses
      simp [hs.count_eq_zero, hc.count_parentheses, isReserved]
      omega

theorem cause_ne_empty (h : Stops limit u r cause) : cause ≠ .empty := by
  cases h
  case leftover   => exact nofun
  case blocked hb => cases hb <;> exact nofun

theorem limit_eq (h : Stops limit u r (.nestingTooDeep k)) : k = limit := by
  cases h
  case blocked hb => cases hb; rfl

theorem congr_right_of_nestingTooDeep (h : Stops limit u r (.nestingTooDeep k)) :
    Stops limit u w (.nestingTooDeep k) := by
  cases h
  case blocked hp hb =>
    cases hb
    case deep hs hx => exact .blocked hp (.deep hs hx)

-- What is nested too deep is a group or a negation: up to it there is a way to go on, and with one
-- more level there is one beyond it.
theorem exists_opening (h : Stops limit u r (.nestingTooDeep k)) :
    ∃ v x, u = v ++ [x] ∧ x ∈ ['(', '!'] ∧ (∃ w f, IsExpression limit (v ++ w) f) ∧
      ∃ w f, IsExpression (limit + 1) (u ++ w) f := by
  cases h
  case blocked hp hb =>
    cases hb
    case deep x hs hx =>
      have ⟨w, f, h⟩ := hp.exists_isExpression (.letter hs)
      have ⟨t, _, hd⟩ := Derives.exists_opening (d := 0) hs hx
      have ⟨w', g, h'⟩ := (hp.mono 1).exists_isExpression hd
      exact ⟨_, x, (List.append_assoc ..).symm, hx, ⟨['a'] ++ w, f, by simpa using h⟩,
        t ++ w', g, by simpa using h'⟩

theorem lt_openings (h : Stops limit u r (.nestingTooDeep k)) : limit < openings u := by
  cases h
  case blocked hp hb =>
    cases hb
    case deep s x _ hx =>
      have le := hp.le_add_openings
      have ho : openings [x] = 1 := by
        simp only [List.mem_cons, List.not_mem_nil, or_false] at hx
        rcases hx with rfl | rfl <;> rfl
      simp only [openings, List.countP_append] at le ho ⊢
      omega

end Stops

end TagGuard.Grammar
