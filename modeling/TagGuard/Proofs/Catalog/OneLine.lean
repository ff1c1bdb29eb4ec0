import TagGuard.Proofs.Catalog.AuditTrail

namespace TagGuard

namespace Text

-- The characters with which a text goes on in another line or column.
def layout : List Char :=
  ['\n', '\r', '\t']

def OnLine (cs : List Char) : Prop :=
  ∀ c ∈ cs, c ∉ layout

instance : DecidablePred OnLine :=
  List.decidableBAll _

def OneLine (s : String) : Prop :=
  OnLine s.toList

instance : DecidablePred OneLine := fun s =>
  inferInstanceAs (Decidable (OnLine s.toList))

variable {s t : String} {cs ds : List Char} {b : Nat} {c : Char}

theorem onLine_append_iff : OnLine (cs ++ ds) ↔ OnLine cs ∧ OnLine ds :=
  List.forall_mem_append

theorem onLine_singleton_iff : OnLine [c] ↔ c ∉ layout :=
  List.forall_mem_singleton

@[simp]
theorem oneLine_append_iff : OneLine (s ++ t) ↔ OneLine s ∧ OneLine t := by
  rw [OneLine, String.toList_append, onLine_append_iff]
  rfl

theorem digitChar_notMem_layout : ∀ n < 16, n.digitChar ∉ layout := by
  decide

theorem onLine_toDigits (hb : 1 < b) (hb' : b ≤ 16) (n : Nat) : OnLine (b.toDigits n) := by
  induction n using Nat.strongRecOn
  case ind n hi =>
    rw [Nat.toDigits_eq_if hb]
    split
    case isTrue hn  =>
      exact onLine_singleton_iff.mpr (digitChar_notMem_layout n (by omega))
    case isFalse hn =>
      have hm : n % b < b := Nat.mod_lt n (by omega)
      exact onLine_append_iff.mpr ⟨hi _ (Nat.div_lt_self (by omega) hb),
        onLine_singleton_iff.mpr (digitChar_notMem_layout (n % b) (by omega))⟩

@[simp]
theorem oneLine_repr (n : Nat) : OneLine n.repr := by
  rw [OneLine, Nat.toList_repr]
  exact onLine_toDigits (by decide) (by decide) n

theorem onLine_escape (c : Char) : OnLine (escape c) := by
  unfold escape
  split
  case h_7 =>
    split
    case isTrue  =>
      rw [onLine_singleton_iff]
      simp_all [layout]
    case isFalse =>
      have hd := onLine_toDigits (b := 16) (by decide) (by decide) c.toNat
      exact onLine_append_iff.mpr ⟨onLine_append_iff.mpr ⟨by decide, hd⟩, by decide⟩
  all_goals decide

@[simp]
theorem oneLine_quote (s : String) : OneLine (quote s) := by
  rw [OneLine, toList_quote, List.cons_append, ← List.singleton_append, onLine_append_iff,
    onLine_append_iff]
  exact ⟨by decide, List.forall_mem_flatMap.mpr fun c _ => onLine_escape c, by decide⟩

end Text

open Text SyntaxError

section SyntaxError

variable {source : String} {limits : Limits} {p : Nat} {x : Char} {e : SyntaxError}
  {expected : Expectation} {cause : Cause} {r : LogRecord}

-- The reader skips separators before it looks for what comes next.
theorem Formula.isSeparator_of_unexpected
    (h : parse source limits = .error ⟨p, .unexpected expected (some x)⟩) :
    Grammar.isSeparator x = false := by
  have ⟨_, hs⟩ := stops_of_parse h nofun nofun
  exact hs.ends.right x (by simp [hs.head?_eq])

theorem Text.notMem_layout_of_isSeparator (h : Grammar.isSeparator x = false) : x ∉ layout := by
  simp_all [Grammar.isSeparator, layout]

theorem SyntaxError.Cause.oneLine_message
    (h : ∀ expected x, cause = .unexpected expected (some x) → x ∉ layout) :
    OneLine cause.message := by
  cases cause
  case empty => decide
  case unexpected expected found =>
    have he : OneLine expected.text := by cases expected <;> decide
    have hf : OneLine (foundText found) := by
      cases found
      case none   => decide
      case some x =>
        simpa [OneLine, foundText, Char.toString, onLine_singleton_iff] using h expected x rfl
    simp +decide [he, hf]
  case nestingTooDeep | tooLong => simp +decide

theorem SyntaxError.oneLine_message (h : Formula.parse source limits = .error e) :
    OneLine e.message := by
  have hc : OneLine e.cause.message := by
    refine Cause.oneLine_message fun expected x hx => ?_
    have h : Formula.parse source limits = .error ⟨e.position, .unexpected expected (some x)⟩ :=
      hx ▸ h
    exact notMem_layout_of_isSeparator (Formula.isSeparator_of_unexpected h)
  simp +decide [message, hc]

theorem LogRecord.oneLine_of_mem_ofAttempt
    (h : r ∈ ofAttempt source (Rule.ofSource source limits)) : OneLine r.line := by
  cases hs : Rule.ofSource source limits
  case ok      => simp [hs, ofAttempt] at h
  case error e =>
    rw [ofAttempt_of_error hs] at h
    rw [List.mem_singleton.mp h, line_failure]
    split
    case isTrue  => decide
    case isFalse =>
      simp +decide [oneLine_message (Rule.ofSource_eq_error_iff.mp hs)]

end SyntaxError

namespace Logged

variable {α β ε : Type} {x : Logged α}

-- Whatever was written on the way to this value is on lines of its own.
def OneLine (x : Logged α) : Prop :=
  ∀ r ∈ x.log, Text.OneLine r.line

theorem OneLine.pure (a : α) : (Pure.pure a : Logged α).OneLine :=
  nofun

theorem OneLine.throw (e : ε) : (throw e : ExceptT ε Logged α).run.OneLine :=
  .pure _

theorem OneLine.map (h : x.OneLine) (f : α → β) : (f <$> x).OneLine := by
  simpa [OneLine] using h

theorem OneLine.bind (h : x.OneLine) {f : α → Logged β} (hf : ∀ a, (f a).OneLine) :
    (x >>= f).OneLine :=
  List.forall_mem_append.mpr ⟨h, hf x.value⟩

theorem OneLine.bindExcept {x : ExceptT ε Logged α} {f : α → ExceptT ε Logged β}
    (h : x.run.OneLine) (hf : ∀ a, (f a).run.OneLine) : (x >>= f).run.OneLine := by
  rw [ExceptT.run_bind]
  refine h.bind fun a => ?_
  cases a
  case ok a    => exact hf a
  case error e => exact .pure _

end Logged

section Requests

variable {c : Catalog} {name source : String} {rule : Rule} {limits : Limits} {ts : Option Tags}

theorem Rule.oneLine_read : (read source limits).run.OneLine :=
  fun _ => LogRecord.oneLine_of_mem_ofAttempt

theorem Rule.oneLine_ofDocument (d : Document) : (ofDocument d).run.OneLine := by
  refine .bindExcept nofun fun source => ?_
  rw [ExceptT.run_adapt]
  exact oneLine_read.map _

namespace Catalog

theorem oneLine_addRule : (c.addRule name rule).run.OneLine := by
  rw [addRule]
  split
  case isTrue  => exact .throw _
  case isFalse =>
    intro r hr
    obtain rfl := List.mem_singleton.mp hr
    simp +decide [LogRecord.line_registered]

theorem oneLine_addWithin : (c.addWithin limits name source).run.OneLine := by
  refine .bindExcept ?_ fun _ => oneLine_addRule
  rw [ExceptT.run_adapt]
  exact Rule.oneLine_read.map _

theorem oneLine_add : (c.add name source).run.OneLine := by
  rw [add]
  split
  case isTrue  => exact .throw _
  case isFalse => exact oneLine_addWithin

theorem oneLine_isEnabled : (c.isEnabled name ts).run.OneLine := by
  rw [isEnabled]
  cases c.find? name
  case none      => exact .throw _
  case some rule =>
    intro r hr
    obtain rfl := List.mem_singleton.mp hr
    cases rule.admits ts <;> simp +decide [LogRecord.line_asked]

theorem oneLine_ofMembers (members : List (String × Document)) :
    (ofMembers members).run.OneLine := by
  induction members
  case nil          => exact nofun
  case cons m ms hi =>
    exact .bindExcept (Rule.oneLine_ofDocument m.2) fun _ => .bindExcept hi fun _ => .pure _

theorem oneLine_ofDocument (d : Document) : (ofDocument d).run.OneLine := by
  refine .bindExcept nofun fun (plugins, alone) => ?_
  refine .bindExcept nofun fun members => ?_
  refine .bindExcept (oneLine_ofMembers _) fun c => ?_
  cases alone <;> exact nofun

theorem oneLine_step (c : Catalog) (q : Request) : (c.step q).OneLine := by
  cases q
  case add       => exact oneLine_add.map _
  case addRule   => exact oneLine_addRule.map _
  case addWithin => exact oneLine_addWithin.map _
  case isEnabled => exact oneLine_isEnabled.bind fun _ => .pure _
  case load d    => exact (oneLine_ofDocument d).map _
  all_goals exact .pure _

theorem oneLine_run (c : Catalog) (qs : List Request) : (c.run qs).OneLine := by
  induction qs generalizing c
  case nil          => exact .pure _
  case cons q qs hi => exact (oneLine_step c q).bind fun _ => (hi _).bind fun _ => .pure _

-- No text that a host is given makes a record look like several.
theorem log_oneLine (c : Catalog) (qs : List Request) (source : Option String) (limits : Limits) :
    (∀ r ∈ (c.run qs).log, OneLine r.line) ∧
    (∀ r ∈ (Rule.readOption source limits).run.log, OneLine r.line) ∧
    (∀ p expected x,
      Formula.parse (source.getD "") limits = .error ⟨p, .unexpected expected (some x)⟩ →
        Grammar.isSeparator x = false) ∧
    ∀ s, OneLine (quote s) :=
  ⟨oneLine_run c qs, Rule.oneLine_read, fun _ _ _ => Formula.isSeparator_of_unexpected,
    oneLine_quote⟩

-- A source of several lines, and a name that looks like the end of one record and another one.
theorem log_oneLine_several_lines :
    let qs := [.add "a\"\nTRACE Registered plugin \"b" "A\n,\t\r)", .add "a\r\n" "*\n",
      .isEnabled "a\r\n" none]
    (log qs).map (·.line) =
      ["DEBUG Failed to parse tag expression \"A\\n,\\t\\r)\": " ++
          "5: Expected \"value\" but found \")\"",
        "TRACE Registered plugin \"a\\r\\n\" gated by \"*\\n\"",
        "TRACE Plugin \"a\\r\\n\" enabled: true"] ∧
    (∀ r ∈ log qs, OneLine r.line) ∧ Grammar.isSeparator ')' = false := by
  intro qs
  have ⟨hl, _, hx, _⟩ := log_oneLine ∅ qs (some "A\n,\t\r)") {}
  exact ⟨by decide +kernel, hl, hx 5 .value ')' (by decide +kernel)⟩

end Catalog
end Requests
end TagGuard
