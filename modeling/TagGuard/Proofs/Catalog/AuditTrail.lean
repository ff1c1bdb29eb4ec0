import TagGuard.Proofs.Catalog.Session
import TagGuard.Proofs.Formula.Parse

namespace TagGuard

open Formula LogRecord Text

namespace LogRecord

-- The record of a source that is not read, because of an error.
def failure (source : String) (e : SyntaxError) : LogRecord :=
  if source = "" then emptySource else malformed source e

def isRegistration : LogRecord → Bool
  | registered .. => true
  | _             => false

@[simp]
theorem isRegistration_failure (source : String) (e : SyntaxError) :
    (failure source e).isRegistration = false := by
  unfold failure
  split <;> rfl

section Line

variable {name source : String} {e : SyntaxError} {b : Bool}

theorem line_registered : (registered name source).line =
    "TRACE Registered plugin " ++ quote name ++ " gated by " ++ quote source := by
  simp [line, level, ← String.append_assoc]

theorem line_asked : (asked name b).line =
    "TRACE Plugin " ++ quote name ++ " enabled: " ++ if b then "true" else "false" := by
  simp [line, level, ← String.append_assoc]

theorem line_failure : (failure source e).line =
    if source = "" then "DEBUG Rejected empty tag expression"
    else "DEBUG Failed to parse tag expression " ++ quote source ++ ": " ++ e.message := by
  unfold failure
  split <;> simp [line, level, ← String.append_assoc]

end Line

end LogRecord

section Failure

variable {source : String} {limits : Limits} {e : SyntaxError}

-- Nothing but an empty source is reported as one.
theorem Formula.cause_eq_empty_iff (h : parse source limits = .error e) :
    e.cause = .empty ↔ source = "" := by
  cases parse_eq_iff.mp h
  case empty hs        => exact iff_of_true rfl hs
  case stops ne _ _ hs => exact iff_of_false hs.cause_ne_empty ne
  case tooLong lt      =>
    refine iff_of_false nofun ?_
    rintro rfl
    exact Nat.not_lt_zero _ lt

theorem LogRecord.ofAttempt_of_error (h : Rule.ofSource source limits = .error e) :
    ofAttempt source (Rule.ofSource source limits) = [failure source e] := by
  have hc := cause_eq_empty_iff (Rule.ofSource_eq_error_iff.mp h)
  rw [h, failure]
  obtain ⟨p, cause⟩ := e
  cases cause <;> simp_all [ofAttempt]

end Failure

namespace Catalog

variable {c : Catalog} {name source : String} {rule : Rule} {limits : Limits} {ts : Option Tags}
  {q : Request} {qs : List Request}

-- What an attempt to register a plugin leaves in the log if it is answered like this.
def registration (name source : String) : Answer → List LogRecord
  | .done                   => [.registered name source]
  | .refused (.malformed e) => [.failure source e]
  | _                       => []

theorem log_addRule : (c.addRule name rule).run.log = registration name rule.source
    (Answer.ofChange c .refused (c.addRule name rule).run.value).1 := by
  rw [addRule]
  split <;> rfl

theorem log_addWithin : (c.addWithin limits name source).run.log = registration name source
    (Answer.ofChange c .refused (c.addWithin limits name source).run.value).1 := by
  have hl : (c.addWithin limits name source).run.log =
      LogRecord.ofAttempt source (Rule.ofSource source limits) ++
        (Rule.ofSource source limits).toOption.elim [] fun rule =>
          (c.addRule name rule).run.log := by
    simp only [addWithin, ExceptT.run_bind, Logged.log_bind, ExceptT.run_adapt, Logged.log_map,
      Rule.log_read, Logged.value_map, Rule.value_read]
    cases Rule.ofSource source limits <;> rfl
  rw [hl, value_addWithin]
  cases hs : Rule.ofSource source limits
  case ok rule =>
    simp only [LogRecord.ofAttempt, List.nil_append, Except.toOption, Option.elim_some, log_addRule,
      Rule.source_of_ofSource hs]
  case error e =>
    rw [← hs, LogRecord.ofAttempt_of_error hs, hs]
    rfl

theorem log_add : (c.add name source).run.log = registration name source
    (Answer.ofChange c .refused (c.add name source).run.value).1 := by
  rw [add]
  split
  case isTrue  => rfl
  case isFalse => exact log_addWithin

theorem log_isEnabled : (c.isEnabled name ts).run.log =
    match (c.isEnabled name ts).run.value with
    | .ok b    => [.asked name b]
    | .error _ => [] := by
  rw [isEnabled]
  cases c.find? name <;> rfl

namespace Request

-- What a request with this answer leaves in the log.
def records : Request → Answer → List LogRecord
  | .add name source, a | .addWithin _ name source, a => registration name source a
  | .addRule name rule, a                             => registration name rule.source a
  | .isEnabled name _, .truth b                       => [.asked name b]
  | _, _                                              => []

def isRemoval : Request → Answer → Bool
  | .erase _, .found (some _) => true
  | _, _                      => false

end Request

-- What was asked and what was answered say what is in the log.
theorem log_step (hq : ∀ d, q ≠ .load d) : (c.step q).log = q.records (c.step q).value.1 := by
  cases q
  case add       => exact (Logged.log_map ..).trans log_add
  case addRule   => exact (Logged.log_map ..).trans log_addRule
  case addWithin => exact (Logged.log_map ..).trans log_addWithin
  case isEnabled name ts =>
    simp only [step, Logged.log_bind, Logged.value_bind, Logged.log_pure, Logged.value_pure,
      log_isEnabled, List.append_nil]
    cases (c.isEnabled name ts).run.value <;> rfl
  case load d => exact absurd rfl (hq d)
  all_goals rfl

theorem log_run (hq : ∀ d, .load d ∉ qs) :
    (c.run qs).log = (qs.zip (c.run qs).value.1).flatMap fun p => p.1.records p.2 := by
  induction qs generalizing c
  case nil          => rfl
  case cons q qs hi =>
    simp only [List.mem_cons, not_or] at hq
    have hs : (c.step q).log = q.records (c.step q).value.1 := log_step fun d => Ne.symm (hq d).left
    simp [run, hs, hi fun d => (hq d).right]

end Catalog

namespace Bindings

open Catalog

variable {m m' : Bindings} {q : Request} {a : Answer} {name : String} {rule : Rule}

theorem card_keys_insert (h : name ∉ m) : (m.insert name rule).keys.card = m.keys.card + 1 := by
  have hk : (m.insert name rule).keys = Insert.insert name m.keys := by
    ext n
    simp [Finmap.mem_keys]
  rw [hk, Finset.card_insert_of_notMem (mt Finmap.mem_keys.mp h)]

-- A request leaves a record of a registration and one more plugin, or takes one plugin away, or
-- does neither.
theorem Step.balance (h : m.Step q a m') :
    (q.records a).countP (·.isRegistration) + m.keys.card =
      m'.keys.card + if q.isRemoval a then 1 else 0 := by
  cases h
  case add hn _ | addRule hn | addWithin _ hn =>
    simp [card_keys_insert hn, Request.records, registration, Request.isRemoval, isRegistration,
      Nat.add_comm]
  case erase name =>
    cases hl : m.lookup name
    case none      =>
      have hn : name ∉ m.keys := mt Finmap.mem_keys.mp (Finmap.lookup_eq_none.mp hl)
      simp [Request.records, Request.isRemoval, Finset.erase_eq_of_notMem hn]
    case some rule =>
      have hm : name ∈ m.keys := Finmap.mem_keys.mpr (Finmap.mem_of_lookup_eq_some hl)
      simp [Request.records, Request.isRemoval, Finset.card_erase_add_one hm]
  case isEnabled => simp [Request.records, Request.isRemoval, isRegistration]
  all_goals simp [Request.records, registration, Request.isRemoval]

end Bindings

namespace Catalog

variable {c : Catalog} {q : Request} {qs : List Request}

theorem countP_log_step (hq : ∀ d, q ≠ .load d) :
    (c.step q).log.countP (·.isRegistration) + c.size =
      (c.step q).value.2.size + if q.isRemoval (c.step q).value.1 then 1 else 0 := by
  have balance (h : q.Plain) := (step_bindings (c := c) h).balance
  rw [log_step hq]
  cases q
  case save   => simp [Request.records, Request.isRemoval, step]
  case load d => exact absurd rfl (hq d)
  all_goals simpa only [size_eq_card] using balance trivial

-- Addition and no subtraction: `c` may have plugins that the log knows nothing of.
theorem countP_log_run (hq : ∀ d, .load d ∉ qs) :
    (c.run qs).log.countP (·.isRegistration) + c.size =
      (c.run qs).value.2.size +
        (qs.zip (c.run qs).value.1).countP fun p => p.1.isRemoval p.2 := by
  induction qs generalizing c
  case nil          => simp [run]
  case cons q qs hi =>
    simp only [List.mem_cons, not_or] at hq
    have hs := countP_log_step (c := c) fun d => Ne.symm (hq d).left
    have hr := hi (c := (c.step q).value.2) fun d => (hq d).right
    simp only [run, Logged.log_bind, Logged.value_bind, Logged.log_pure, Logged.value_pure,
      List.append_nil, List.countP_append, List.zip_cons_cons, List.countP_cons]
    omega

-- What a request writes into the log, line by line.
def lines (c : Catalog) (q : Request) : List String :=
  (c.step q).log.map (·.line)

-- What is written about each request: about one that registers a plugin, about one that is refused,
-- about a question, and about all that do neither.
structure Audited (c : Catalog) : Prop where
  add : ∀ name source, (c.step (.add name source)).value.1 = .done →
    c.lines (.add name source) =
      ["TRACE Registered plugin " ++ quote name ++ " gated by " ++ quote source]
  addRule : ∀ name rule, (c.step (.addRule name rule)).value.1 = .done →
    c.lines (.addRule name rule) =
      ["TRACE Registered plugin " ++ quote name ++ " gated by " ++ quote rule.source]
  taken : ∀ q name, (c.step q).value.1 = .refused (.duplicate name) → c.lines q = []
  malformed : ∀ name source e, (c.step (.add name source)).value.1 = .refused (.malformed e) →
    c.lines (.add name source) =
      [if source = "" then "DEBUG Rejected empty tag expression"
       else "DEBUG Failed to parse tag expression " ++ quote source ++ ": " ++ e.message]
  asked : ∀ name ts, c.lines (.isEnabled name ts) =
    match c.find? name with
    | some rule =>
      ["TRACE Plugin " ++ quote name ++ " enabled: " ++
        if rule.admits ts then "true" else "false"]
    | none      => []
  silent : ∀ q, q matches .find _ | .erase _ | .enabled _ | .size | .isEmpty | .save →
    c.lines q = []

theorem audited (c : Catalog) : c.Audited where
  add name source h := by
    simp [lines, log_step, h, Request.records, registration, line_registered]
  addRule name rule h := by
    simp [lines, log_step, h, Request.records, registration, line_registered]
  taken q name h := by
    cases q
    case load d =>
      rw [step, Logged.value_map] at h
      cases hd : (ofDocument d).run.value <;> simp [hd, Answer.ofChange] at h
    all_goals simp [lines, log_step, h, Request.records, registration]
  malformed name source e h := by
    simp [lines, log_step, h, Request.records, registration, line_failure]
  asked name ts := by
    cases h : c.find? name
    case none => simp [lines, log_step, step_isEnabled_of_none h, Request.records]
    case some => simp [lines, log_step, step_isEnabled_of_some h, Request.records, line_asked]
  silent q h := by
    cases q
    case add | addRule | addWithin | isEnabled | load => cases h
    all_goals rfl

def log (qs : List Request) : List LogRecord :=
  ((∅ : Catalog).run qs).log

-- Reading a document back registers plugins and writes no record of it.
theorem log_of_session (qs : List Request) (hl : ∀ d, .load d ∉ qs) :
    log qs = (qs.zip (answers qs)).flatMap (fun p => p.1.records p.2) ∧
    (log qs).countP (·.isRegistration) =
      (after qs).size + (qs.zip (answers qs)).countP (fun p => p.1.isRemoval p.2) ∧
    (after qs).Audited := by
  have hc := countP_log_run (c := ∅) hl
  have he : (∅ : Catalog).size = 0 := rfl
  rw [he, Nat.add_zero] at hc
  exact ⟨log_run hl, hc, audited _⟩

-- A name that is taken is not worth a record, and a plugin that is gone still has one.
theorem log_of_session_removed :
    let qs := [.add "a" "*", .add "a" "(", .add "b" "", .add "b" "A.", .isEnabled "a" none,
      .isEnabled "b" none, .erase "b", .erase "a"]
    (log qs).map (·.line) =
      ["TRACE Registered plugin \"a\" gated by \"*\"",
        "DEBUG Rejected empty tag expression",
        "DEBUG Failed to parse tag expression \"A.\": 2: Expected \"term\" but found \"EOF\"",
        "TRACE Plugin \"a\" enabled: true"] ∧
    (after qs).size + 1 = (log qs).countP (·.isRegistration) := by
  intro qs
  have ⟨_, hc, _⟩ := log_of_session qs (by simp [qs])
  refine ⟨by decide +kernel, hc ▸ ?_⟩
  decide +kernel

end Catalog
end TagGuard
