import Companion.Proofs.Validation

/-! # The history of a sink

A sink is used by calls in any order: diagnostics are emitted, the pending ones are taken away, and
it is asked what is pending and whether, or how often, an error was emitted. `Sink.session` makes
calls one after the other and keeps a history of the answers. The invariant is `Sink.Accounts`,
which tells the two parts of a sink from the whole history: what was taken away and what is pending
are together what was emitted, and the count is that of all errors emitted, taken away or not.
`Sink.accounts_session_empty` says that it holds after every sequence of calls, and that every
answer in between is the one that the history before it calls for. -/

namespace Companion.Sink

/-! ## Calls and their answers -/

/-- A call of one of the functions that `Sink` offers. -/
inductive Call
  /-- Emits a diagnostic. -/
  | emit (diagnostic : Diagnostic)
  /-- Takes the pending diagnostics away. -/
  | takeAll
  /-- Asks for the pending diagnostics. -/
  | diagnostics
  /-- Asks whether an error was emitted. -/
  | hasErrors
  /-- Asks how many errors were emitted. -/
  | errorCount

/-- What a call gives back. -/
inductive Answer
  /-- Nothing. -/
  | nothing
  /-- A list of diagnostics. -/
  | diagnostics (list : List Diagnostic)
  /-- Yes or no. -/
  | verdict (value : Bool)
  /-- A number. -/
  | count (value : Nat)

/-- The answer to a call, and the sink after it; the functions of `Sink` are what is called. -/
def perform (sink : Sink) : Call → Answer × Sink
  | .emit diagnostic => (.nothing, sink.emit diagnostic)
  | .takeAll => (.diagnostics sink.takeAll.1, sink.takeAll.2)
  | .diagnostics => (.diagnostics sink.pending, sink)
  | .hasErrors => (.verdict sink.hasErrors, sink)
  | .errorCount => (.count sink.errorCount, sink)

/-- Calls that were made and their answers, in order. -/
abbrev History := List (Call × Answer)

/-- Makes calls one after the other: their `History`, and the sink after the last of them. -/
def session (sink : Sink) : List Call → History × Sink
  | [] => ([], sink)
  | call :: rest =>
    let (answer, next) := sink.perform call
    let (history, last) := next.session rest
    ((call, answer) :: history, last)

@[simp] theorem session_nil (sink : Sink) : sink.session [] = ([], sink) := rfl

@[simp] theorem session_cons (sink : Sink) (call : Call) (rest : List Call) :
    sink.session (call :: rest)
      = ((call, (sink.perform call).1) :: ((sink.perform call).2.session rest).1,
        ((sink.perform call).2.session rest).2) := rfl

/-- The `session` of a concatenation: later calls meet the sink that the earlier ones leave, and
their history follows. -/
theorem session_append (sink : Sink) (calls later : List Call) :
    sink.session (calls ++ later)
      = ((sink.session calls).1 ++ ((sink.session calls).2.session later).1,
        ((sink.session calls).2.session later).2) := by
  induction calls generalizing sink with
  | nil => rfl
  | cons call rest ih =>
    rw [List.cons_append, session_cons, ih, session_cons, List.cons_append]

/-- The history of a `session` is that of the calls that were made, in order. -/
theorem map_fst_session (sink : Sink) (calls : List Call) :
    (sink.session calls).1.map Prod.fst = calls := by
  induction calls generalizing sink with
  | nil => rfl
  | cons call rest ih => rw [session_cons, List.map_cons, ih]

/-! ## What a history tells -/

/-- The diagnostics that were emitted in a history, in order and with repetitions. -/
def emitted (history : History) : List Diagnostic :=
  history.flatMap fun
    | (.emit diagnostic, _) => [diagnostic]
    | _ => []

/-- The diagnostics that the answers to `Call.takeAll` took away, one list after the other. -/
def taken (history : History) : List Diagnostic :=
  history.flatMap fun
    | (.takeAll, .diagnostics list) => list
    | _ => []

/-- The number of errors among the `emitted` diagnostics. -/
def errors (history : History) : Nat := (emitted history).countP Diagnostic.isError

theorem emitted_append (history later : History) :
    emitted (history ++ later) = emitted history ++ emitted later :=
  List.flatMap_append ..

theorem taken_append (history later : History) :
    taken (history ++ later) = taken history ++ taken later :=
  List.flatMap_append ..

theorem errors_append (history later : History) :
    errors (history ++ later) = errors history + errors later := by
  rw [errors, emitted_append, List.countP_append, errors, errors]

/-- A history accounts for the state of a sink: its pending diagnostics, its count and its flag are
read off the calls and answers. -/
structure Accounts (history : History) (sink : Sink) : Prop where
  /-- What was taken away and what is pending are together what was emitted, in order. -/
  recovers : taken history ++ sink.pending = emitted history
  /-- All errors that were emitted are counted. -/
  counts : sink.errorCount = errors history
  /-- The sink has errors if an error was emitted. -/
  flags : sink.hasErrors = true ↔ 0 < errors history

/-- The answer that a history calls for, in terms of what was `emitted` and `taken` before the call.
-/
inductive CallsFor (history : History) : Call → Answer → Prop
  /-- An emission gives nothing back. -/
  | emit (diagnostic : Diagnostic) : CallsFor history (.emit diagnostic) .nothing
  /-- What is taken away is what was emitted and not yet taken away. -/
  | takeAll {list : List Diagnostic} (hlist : taken history ++ list = emitted history) :
    CallsFor history .takeAll (.diagnostics list)
  /-- What is pending is what was emitted and not yet taken away. -/
  | diagnostics {list : List Diagnostic} (hlist : taken history ++ list = emitted history) :
    CallsFor history .diagnostics (.diagnostics list)
  /-- There are errors if one was emitted. -/
  | hasErrors {value : Bool} (hvalue : value = true ↔ 0 < errors history) :
    CallsFor history .hasErrors (.verdict value)
  /-- Their number is that of the errors that were emitted. -/
  | errorCount : CallsFor history .errorCount (.count (errors history))

/-! ## The invariant -/

/-- A sink has errors exactly if its `errorCount` is positive. -/
theorem hasErrors_iff (sink : Sink) : sink.hasErrors = true ↔ 0 < sink.errorCount := by
  rw [hasErrors, decide_eq_true_iff]

/-- The flag of `Accounts` follows from the other two parts, since the number of errors decides
whether there are any. -/
theorem Accounts.of_counts {history : History} {sink : Sink}
    (hrecovers : taken history ++ sink.pending = emitted history)
    (hcounts : sink.errorCount = errors history) : Accounts history sink where
  recovers := hrecovers
  counts := hcounts
  flags := by rw [hasErrors_iff, hcounts]

/-- Nothing was emitted into the empty sink, so the empty history accounts for it. -/
theorem accounts_empty : Accounts [] empty := .of_counts rfl rfl

section Step

variable {history : History} {sink : Sink}

/-- A call of a sink for which a history accounts gets the answer that `CallsFor` demands. -/
theorem Accounts.callsFor (haccounts : Accounts history sink) (call : Call) :
    CallsFor history call (sink.perform call).1 := by
  cases call with
  | emit diagnostic => exact .emit diagnostic
  | takeAll => exact .takeAll haccounts.recovers
  | diagnostics => exact .diagnostics haccounts.recovers
  | hasErrors => exact .hasErrors haccounts.flags
  | errorCount =>
    rw [perform, haccounts.counts]
    exact .errorCount

/-- One call more: the history with the call and its answer accounts for the sink after it. This is
the step of the induction. -/
theorem Accounts.perform (haccounts : Accounts history sink) (call : Call) :
    Accounts (history ++ [(call, (sink.perform call).1)]) (sink.perform call).2 := by
  have hrecovers := haccounts.recovers
  have hcounts := haccounts.counts
  apply Accounts.of_counts
  · rw [taken_append, emitted_append, ← hrecovers]
    cases call with
    | emit diagnostic => simp [Sink.perform, taken, emitted]
    | takeAll => simp [Sink.perform, taken, emitted, Sink.takeAll]
    | diagnostics | hasErrors | errorCount => simp [Sink.perform, taken, emitted]
  · rw [errors_append, ← hcounts]
    cases call with
    | emit diagnostic => exact sink.errorCount_emit diagnostic
    -- only an emission changes the count
    | takeAll | diagnostics | hasErrors | errorCount => rfl

/-- Further calls: the history with those of a `session` accounts for the sink after them, by
induction on the calls. -/
theorem Accounts.session (haccounts : Accounts history sink) (calls : List Call) :
    Accounts (history ++ (sink.session calls).1) (sink.session calls).2 := by
  induction calls generalizing history sink with
  | nil => simpa using haccounts
  | cons call rest ih => simpa using ih (haccounts.perform call)

end Step

/-- Calls never lower the `errorCount`, not even `takeAll`. -/
theorem errorCount_le_session (sink : Sink) (calls : List Call) :
    sink.errorCount ≤ (sink.session calls).2.errorCount := by
  induction calls generalizing sink with
  | nil => exact Nat.le_refl _
  | cons call rest ih =>
    have hcall : sink.errorCount ≤ (sink.perform call).2.errorCount := by
      cases call with
      | emit diagnostic =>
        rw [Sink.perform, errorCount_emit]
        exact Nat.le_add_right _ _
      | takeAll | diagnostics | hasErrors | errorCount => exact Nat.le_refl _
    exact Nat.le_trans hcall (ih _)

/-- After any sequence of calls on a fresh sink, the history `Accounts` for the sink: what was taken
away so far and what is pending are together what was emitted so far, in order and with repetitions,
and the number of errors is that of all errors emitted so far, which decides whether the sink has
errors. The answer to any further call is the one that the history `CallsFor`, and no further calls
lower the `errorCount`. -/
theorem accounts_session_empty (calls : List Call) :
    let (history, sink) := empty.session calls
    history.map Prod.fst = calls ∧ Accounts history sink ∧
      (∀ call later, ∃ answer rest,
        (empty.session (calls ++ call :: later)).1 = history ++ (call, answer) :: rest ∧
          CallsFor history call answer) ∧
      ∀ later, sink.errorCount ≤ (empty.session (calls ++ later)).2.errorCount := by
  have haccounts : Accounts (empty.session calls).1 (empty.session calls).2 :=
    accounts_empty.session calls
  refine ⟨map_fst_session empty calls, haccounts, ?_, ?_⟩
  · intro call later
    rw [session_append, session_cons]
    exact ⟨_, _, rfl, haccounts.callsFor call⟩
  · intro later
    rw [session_append]
    exact errorCount_le_session _ later

end Companion.Sink
