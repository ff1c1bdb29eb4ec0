import TagGuard.Proofs.Formula.Rendering

namespace TagGuard

namespace Grammar

open SyntaxError

variable {d e : Nat} {cs : List Char} {expected : Expectation} {found : Option Char} {cause : Cause}

-- Somewhere in the text a group or a negation begins that is nested deeper than `d`.
def TooDeep (d : Nat) (cs : List Char) : Prop :=
  ∃ u x r, cs = u ++ x :: r ∧ Pending .term d u 0 ∧ x ∈ ['(', '!']

-- The text stops to be a source, wherever that is.
def StopsFor (d : Nat) (cs : List Char) (cause : Cause) : Prop :=
  ∃ u r, cs = u ++ r ∧ Stops d u r cause

namespace TooDeep

theorem not (h : ∀ e, d = e + 1 → TooDeep e cs) : TooDeep d ('!' :: cs) := by
  cases d
  case zero   => exact ⟨[], '!', cs, rfl, .here, by simp⟩
  case succ d =>
    obtain ⟨u, x, r, rfl, hp, hx⟩ := h d rfl
    exact ⟨'!' :: u, x, r, rfl, .not (s := []) .nil hp, hx⟩

theorem group (h : ∀ e, d = e + 1 → TooDeep e cs) : TooDeep d ('(' :: cs) := by
  cases d
  case zero   => exact ⟨[], '(', cs, rfl, .here, by simp⟩
  case succ d =>
    obtain ⟨u, x, r, rfl, hp, hx⟩ := h d rfl
    exact ⟨'(' :: u, x, r, rfl, .group (s := []) .nil (.conjunction (.term hp)), hx⟩

theorem stopsFor (h : TooDeep d cs) : StopsFor d cs (.nestingTooDeep d) := by
  obtain ⟨u, x, r, rfl, hp, hx⟩ := h
  exact ⟨u ++ [x], r, by simp, .blocked (.conjunction (.term hp)) (.deep (s := []) .nil hx)⟩

end TooDeep

namespace StopsFor

theorem mono (h : StopsFor d cs (.unexpected expected found)) (le : d ≤ e) :
    StopsFor e cs (.unexpected expected found) :=
  have ⟨u, r, hc, hs⟩ := h
  ⟨u, r, hc, hs.mono nofun le⟩

-- What is found behind a complete disjunction is found in place of a parenthesis if the disjunction
-- stands in a group.
theorem exists_blocked (h : StopsFor d cs (.unexpected expected found))
    (he : expected = .endOfExpression ∨ expected = .closeParenthesis) (hf : found ≠ some ')')
    (limit : Nat) : ∃ u v r k, '(' :: cs = u ++ (v ++ r) ∧ Pending .term (d + 1) u k ∧
      Blocked limit k v r (.unexpected .closeParenthesis found) := by
  obtain ⟨u, r, rfl, hs⟩ := h
  have hr := hs.head?_eq
  cases hs
  case leftover hc => exact ⟨[], '(' :: u, _, _, rfl, .here, .unclosed (s := []) .nil hc (hr ▸ hf)⟩
  case blocked u v hp hb =>
    obtain rfl : expected = .closeParenthesis := by cases hb <;> simp_all
    exact ⟨'(' :: u, v, r, _, by simp, .group (s := []) .nil hp, hb.mono nofun 0⟩

variable (h : StopsFor d cs (.unexpected expected found))
  (he : expected = .endOfExpression ∨ expected = .closeParenthesis) (hf : found ≠ some ')')
include h he hf

theorem group : StopsFor (d + 1) ('(' :: cs) (.unexpected .closeParenthesis found) := by
  have ⟨u, v, r, k, hc, hp, hb⟩ := h.exists_blocked he hf (d + 1)
  exact ⟨u ++ v, r, by simp [hc], .blocked (.conjunction (.term hp)) hb⟩

theorem not_group : StopsFor (d + 2) ('!' :: '(' :: cs) (.unexpected .closeParenthesis found) := by
  have ⟨u, v, r, k, hc, hp, hb⟩ := h.exists_blocked he hf (d + 2)
  have hp : Pending .term (d + 2) ('!' :: u) k := .not (s := []) .nil hp
  exact ⟨'!' :: u ++ v, r, by simp [hc], .blocked (.conjunction (.term hp)) hb⟩

end StopsFor
end Grammar

open Grammar

inductive Connective
  | not
  | and
  | or
deriving DecidableEq

-- The first character that a rendering has for a connective, apart from parentheses.
def Connective.initial : Connective → Char
  | not => '!'
  | and => 'a'
  | or  => 'o'

namespace Formula

def connectives : Formula → List Connective
  | everybody | word _ => []
  | not f              => .not :: f.connectives
  | and f g            => .and :: (f.connectives ++ g.connectives)
  | or f g             => .or :: (f.connectives ++ g.connectives)

-- The connectives on the way from the whole formula to its first word or wildcard. Under an
-- operator the way goes to the left operand.
def spine : Formula → List Connective
  | everybody | word _ => []
  | not f              => .not :: f.spine
  | and f _            => .and :: f.spine
  | or f _             => .or :: f.spine

-- How deep a rendering is nested behind these connectives: what is negated stands in a group.
def nesting (cs : List Connective) : Nat :=
  2 * cs.count .not + (cs.count .and + cs.count .or)

-- What reading the rendering of a formula answers: the formula, if its rendering is nested at most
-- `d` deep and has no operators, or where it is nested deeper, or what the first operator is taken
-- for.
inductive Reread (d : Nat) (f : Formula) : Except SyntaxError Formula → Prop
  | formula {n} : f.connectives = .replicate n .not → 2 * n ≤ d → Reread d f (.ok f.spellOut)
  | tooDeep {p} : d < nesting f.spine → Reread d f (.error ⟨p, .nestingTooDeep d⟩)
  | operator {before c n p} : nesting f.spine ≤ d → f.spine = before ++ c :: .replicate n .not →
    c ≠ .not → Reread d f (.error ⟨p, .unexpected
      (if before = [] then .endOfExpression else .closeParenthesis) (some c.initial)⟩)

variable {f : Formula} {c : Connective} {before cs : List Connective} {d n : Nat} {source : String}
  {cause : SyntaxError.Cause}

section Spine

@[simp]
theorem nesting_not : nesting (.not :: cs) = nesting cs + 2 := by
  simp [nesting]
  omega

@[simp]
theorem nesting_and : nesting (.and :: cs) = nesting cs + 1 := by
  simp [nesting]
  omega

@[simp]
theorem nesting_or : nesting (.or :: cs) = nesting cs + 1 := by
  simp [nesting]
  omega

@[simp]
theorem nesting_replicate : nesting (.replicate n .not) = 2 * n := by
  simp [nesting, List.count_replicate]

theorem eq_replicate_or_exists_operator (cs : List Connective) : (∃ n, cs = .replicate n .not) ∨
    ∃ before c n, cs = before ++ c :: .replicate n .not ∧ c ≠ .not := by
  induction cs
  case nil          => exact .inl ⟨0, rfl⟩
  case cons b cs hi =>
    cases hi
    case inl h =>
      obtain ⟨n, rfl⟩ := h
      by_cases hb : b = .not
      case pos => exact .inl ⟨n + 1, by rw [hb, List.replicate_succ]⟩
      case neg => exact .inr ⟨[], b, n, rfl, hb⟩
    case inr h =>
      obtain ⟨before, c, n, rfl, hc⟩ := h
      exact .inr ⟨b :: before, c, n, rfl, hc⟩

theorem spine_subset : f.spine ⊆ f.connectives := by
  induction f
  case everybody | word => simp [spine]
  case not hi           => exact List.cons_subset_cons _ hi
  case and hi _ | or hi _ =>
    exact List.cons_subset_cons _ (List.subset_append_of_subset_left _ hi)

theorem spine_eq_replicate_iff :
    f.spine = .replicate n .not ↔ f.connectives = .replicate n .not := by
  induction f generalizing n
  case everybody | word => exact Iff.rfl
  case not hi           => cases n <;> simp [spine, connectives, List.replicate_succ, hi]
  case and | or         => cases n <;> simp [spine, connectives, List.replicate_succ]

theorem operator_mem (h : f.spine = before ++ c :: .replicate n .not) (hc : c ≠ .not) :
    .and ∈ f.connectives ∨ .or ∈ f.connectives := by
  have hm : c ∈ f.connectives := spine_subset (by simp [h])
  cases c
  case not => contradiction
  case and => exact .inl hm
  case or  => exact .inr hm

theorem connectives_eq_replicate_iff :
    f.connectives = .replicate n .not ↔
      .and ∉ f.connectives ∧ .or ∉ f.connectives ∧ f.connectives.count .not = n := by
  constructor
  case mp =>
    intro h
    simp [h, List.mem_replicate]
  case mpr =>
    rintro ⟨ha, ho, rfl⟩
    obtain ⟨n, hs⟩ | ⟨before, c, n, hs, hc⟩ := eq_replicate_or_exists_operator f.spine
    case inl => simp [spine_eq_replicate_iff.mp hs]
    case inr => exact ((operator_mem hs hc).elim ha ho).elim

end Spine

-- Without operators a rendering is a term, with a word in place of the wildcard.
theorem derives_render (hf : f.Writable) (hs : f.spine = .replicate n .not) :
    Derives .term (2 * n) f.render.toList f.spellOut := by
  induction f generalizing n
  case everybody  => exact .word (s := []) .nil (.singleton (x := '1') rfl)
  case word value =>
    have h := Derives.word (d := 2 * n) (s := []) .nil (writable_word.mp hf)
    simpa [render, spellOut] using h
  case not f hi   =>
    cases n
    case zero   => contradiction
    case succ n =>
      have hg := derives_grouped (hi hf (List.cons.inj hs).right).isExpression
      have hn : Derives .term (2 * n + 2) _ (.not f.spellOut) := .not (s := []) .nil hg
      simpa [render, grouped, spellOut, Nat.mul_succ] using hn
  case and | or   => cases n <;> simp [spine, List.replicate_succ] at hs

-- All that the connectives of the spine open is opened before anything is closed.
theorem tooDeep_render (lt : d < nesting f.spine) (t : List Char) :
    TooDeep d (f.render.toList ++ t) := by
  induction f generalizing d t
  case everybody | word => contradiction
  case not f hi =>
    rw [spine, nesting_not] at lt
    rw [render_not_append]
    exact .not fun _ _ => .group fun _ _ => hi (by omega) _
  case and f g hi _ =>
    rw [spine, nesting_and] at lt
    rw [render_and_append]
    exact .group fun _ _ => hi (by omega) _
  case or f g hi _ =>
    rw [spine, nesting_or] at lt
    rw [render_or_append]
    exact .group fun _ _ => hi (by omega) _

-- Behind its first operand a rendering has a letter, and no operator of a source.
theorem stopsFor_operand (hf : f.Writable) (hs : f.spine = .replicate n .not) (hc : c ≠ .not)
    (t : List Char) :
    StopsFor (2 * n + 1) ('(' :: (f.render.toList ++ ')' :: ' ' :: c.initial :: t))
      (.unexpected .endOfExpression (some c.initial)) := by
  have hd := derives_grouped (derives_render hf hs).isExpression
  have hb : Separators [' '] := by simp [Separators, isSeparator]
  obtain ⟨hxs, hxo⟩ : isSeparator c.initial = false ∧ c.initial ∉ Level.operators .disjunction := by
    cases c <;> first | contradiction | decide
  have he : Ends .disjunction (grouped f.render.toList) ([' '] ++ c.initial :: t) :=
    .of_head? (by simp [isWordChar, isSeparator])
      ((Ends.operator_iff hb (by simpa using hxs)).mpr (by simpa using hxo))
  exact ⟨grouped f.render.toList ++ [' '], c.initial :: t, by simp [grouped],
    .leftover ⟨.conjunction (.term hd), hb, by simpa using hxs, he⟩⟩

-- The operator that comes last on the spine is the first that is read. The induction is on what
-- comes before it: there every connective puts the operator into a group.
theorem stopsFor_render (hf : f.Writable) (h : f.spine = before ++ c :: .replicate n .not)
    (hc : c ≠ .not) (t : List Char) : StopsFor (nesting f.spine) (f.render.toList ++ t)
      (.unexpected (if before = [] then .endOfExpression else .closeParenthesis)
        (some c.initial)) := by
  induction before generalizing f t
  case nil =>
    cases f
    case everybody | word => contradiction
    case not => exact absurd (List.cons.inj h).left.symm hc
    case and f g =>
      obtain ⟨rfl, hs⟩ := List.cons.inj h
      rw [spine, hs, nesting_and, nesting_replicate, render_and_append]
      exact stopsFor_operand (writable_and.mp hf).left hs hc _
    case or f g =>
      obtain ⟨rfl, hs⟩ := List.cons.inj h
      rw [spine, hs, nesting_or, nesting_replicate, render_or_append]
      exact stopsFor_operand (writable_or.mp hf).left hs hc _
  case cons before hi =>
    have hx : some c.initial ≠ some ')' := by cases c <;> decide
    cases f
    case everybody | word => contradiction
    case not f =>
      rw [spine, nesting_not, render_not_append]
      exact (hi (writable_not.mp hf) (List.cons.inj h).right _).not_group (ite_eq_or_eq ..) hx
    case and f g =>
      rw [spine, nesting_and, render_and_append]
      exact (hi (writable_and.mp hf).left (List.cons.inj h).right _).group (ite_eq_or_eq ..) hx
    case or f g =>
      rw [spine, nesting_or, render_or_append]
      exact (hi (writable_or.mp hf).left (List.cons.inj h).right _).group (ite_eq_or_eq ..) hx

theorem render_ne_empty (hf : f.Writable) : f.render ≠ "" := by
  cases f
  case everybody             => simp [render]
  case word value            =>
    rintro rfl
    exact (writable_word.mp hf).ne_nil rfl
  case not f | and f g | or f g => simp [render]

theorem exists_parse_render (hf : f.Writable) (h : StopsFor d f.render.toList cause) :
    ∃ p, parse f.render { maxDepth := d } = .error ⟨p, cause⟩ := by
  have ⟨u, r, hs, h⟩ := h
  exact ⟨u.length, parse_of_stops (render_ne_empty hf) rfl hs h⟩

theorem reread_parse_render (hf : f.Writable) (d : Nat) :
    Reread d f (parse f.render { maxDepth := d }) := by
  by_cases lt : d < nesting f.spine
  case pos =>
    have hs := (tooDeep_render lt []).stopsFor
    rw [List.append_nil] at hs
    have ⟨p, hp⟩ := exists_parse_render hf hs
    exact hp ▸ .tooDeep lt
  case neg =>
    have le := Nat.le_of_not_lt lt
    obtain ⟨n, hs⟩ | ⟨before, c, n, hs, hc⟩ := eq_replicate_or_exists_operator f.spine
    case inl =>
      rw [hs, nesting_replicate] at le
      have hd := ((derives_render hf hs).mono le).isExpression
      have hn := spine_eq_replicate_iff.mp hs
      exact parse_maxDepth_eq_ok_iff.mpr hd ▸ .formula hn le
    case inr =>
      have h := (stopsFor_render hf hs hc []).mono le
      rw [List.append_nil] at h
      have ⟨p, hp⟩ := exists_parse_render hf h
      exact hp ▸ .operator le hs hc

-- A rendering is a source of the formula only where nothing but negations needs parentheses in it.
-- Otherwise the first operator between operands is a word too many, unless the parentheses before
-- it are nested too deep.
theorem parse_render (hf : f.Writable) :
    ((∃ g, parse f.render = .ok g) ↔
      .and ∉ f.connectives ∧ .or ∉ f.connectives ∧ f.connectives.count .not ≤ 128) ∧
    (∀ g, parse f.render = .ok g → g = f.spellOut) ∧
    (256 < nesting f.spine → ∃ p, parse f.render = .error ⟨p, .nestingTooDeep 256⟩) ∧
    ((¬∃ g, parse f.render = .ok g) → nesting f.spine ≤ 256 →
      ∃ before c n p, f.spine = before ++ c :: .replicate n .not ∧ c ≠ .not ∧
        parse f.render = .error ⟨p, .unexpected
          (if before = [] then .endOfExpression else .closeParenthesis) (some c.initial)⟩) := by
  have h : Reread 256 f (parse f.render) := reread_parse_render hf 256
  have hc {n : Nat} : f.spine = .replicate n .not ↔ .and ∉ f.connectives ∧ .or ∉ f.connectives ∧
      f.connectives.count .not = n := spine_eq_replicate_iff.trans connectives_eq_replicate_iff
  generalize parse f.render = a at h ⊢
  cases h
  case formula n hn le =>
    have hs := spine_eq_replicate_iff.mpr hn
    have ⟨ha, ho, hl⟩ := connectives_eq_replicate_iff.mp hn
    refine ⟨?_, ?_, ?_, ?_⟩
    · exact iff_of_true ⟨_, rfl⟩ ⟨ha, ho, by omega⟩
    · rintro g ⟨⟩
      rfl
    · rw [hs, nesting_replicate]
      omega
    · exact fun h => absurd ⟨_, rfl⟩ h
  case tooDeep p lt =>
    refine ⟨?_, ?_, ?_, ?_⟩
    · refine iff_of_false nofun fun ⟨ha, ho, le⟩ => ?_
      rw [hc.mpr ⟨ha, ho, rfl⟩, nesting_replicate] at lt
      omega
    · exact nofun
    · exact fun _ => ⟨p, rfl⟩
    · exact fun _ le => absurd lt (by omega)
  case operator before c n p le hs hn =>
    refine ⟨?_, ?_, ?_, ?_⟩
    · exact iff_of_false nofun fun ⟨ha, ho, _⟩ => (operator_mem hs hn).elim ha ho
    · exact nofun
    · exact fun lt => absurd lt (by omega)
    · exact fun _ _ => ⟨before, c, n, p, hs, hn, rfl⟩

-- What is negated is read as a group up to the `o` of the operator, and only then is a parenthesis
-- missing. The rendering of `~` is read, but not as what it was. A negation is nested two deep.
theorem parse_render_negated_operator :
    parse "!(A,*.B)" = .ok (.not (.or (.word "A") (.and .everybody (.word "B")))) ∧
    (∃ p, parse (not (.or (.word "A") (.and .everybody (.word "B")))).render =
      .error ⟨p, .unexpected .closeParenthesis (some 'o')⟩) ∧
    parse "~" = .ok nobody ∧ parse nobody.render = .ok (.not (.word "1")) ∧
    ∃ p, parse (Nat.repeat .not 129 (word "A")).render = .error ⟨p, .nestingTooDeep 256⟩ := by
  have hf : parse "!(A,*.B)" = .ok (.not (.or (.word "A") (.and .everybody (.word "B")))) := by
    decide +kernel
  have hg : parse "~" = .ok nobody := by decide +kernel
  have hw : (Nat.repeat .not 129 (word "A")).Writable :=
    writable_word.mpr (.singleton (x := 'A') rfl)
  refine ⟨hf, ?_, hg, ?_, (parse_render hw).right.right.left (by decide +kernel)⟩
  · obtain ⟨hok, _, _, hop⟩ := parse_render (writable_of_parse hf)
    have hn := mt hok.mp (by decide)
    obtain ⟨before, c, n, p, hs, _, hp⟩ := hop hn (by decide)
    have hs : [.not] ++ [.or] = before ++ c :: .replicate n .not := hs
    cases n
    case zero =>
      obtain ⟨rfl, hl⟩ := List.append_inj' hs rfl
      obtain rfl : Connective.or = c := by simpa using hl
      exact ⟨p, hp⟩
    case succ n =>
      rw [List.replicate_succ', ← List.cons_append, ← List.append_assoc] at hs
      have ⟨_, hl⟩ := List.append_inj' hs rfl
      contradiction
  · obtain ⟨hok, heq, _⟩ := parse_render (writable_of_parse hg)
    obtain ⟨g, hp⟩ := hok.mpr (by decide)
    obtain rfl := heq g hp
    exact hp

end Formula
end TagGuard
