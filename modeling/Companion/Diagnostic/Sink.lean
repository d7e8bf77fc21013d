import Companion.Diagnostic

/-! # Sinks

A `Sink` collects diagnostics. The list of pending ones can be taken away; the number of errors
counts all that were ever emitted. -/

namespace Companion

/-- Diagnostics that were emitted and not yet taken, and the number of errors ever emitted: the
state of a channel between `emit` and `takeAll`. -/
structure Sink where
  /-- The diagnostics that were not yet taken, in order. -/
  pending : List Diagnostic
  /-- The number of errors emitted so far. -/
  errorCount : Nat
  deriving DecidableEq

namespace Sink

/-- The sink into which nothing was emitted. -/
def empty : Sink := ⟨[], 0⟩

/-- Emits a diagnostic: it is put at the end of `pending`, and counted if it is an error. -/
def emit (sink : Sink) (diagnostic : Diagnostic) : Sink :=
  ⟨sink.pending ++ [diagnostic],
    if diagnostic.isError then sink.errorCount + 1 else sink.errorCount⟩

/-- Emits diagnostics one after the other with `emit`. -/
def emitAll (sink : Sink) (diagnostics : List Diagnostic) : Sink := diagnostics.foldl emit sink

/-- Takes the `pending` diagnostics away; `errorCount` stays. -/
def takeAll (sink : Sink) : List Diagnostic × Sink := (sink.pending, { sink with pending := [] })

/-- Whether an error was ever emitted, also if it has been taken since: `errorCount` is positive. -/
def hasErrors (sink : Sink) : Bool := 0 < sink.errorCount

@[simp] theorem pending_emit (sink : Sink) (diagnostic : Diagnostic) :
    (sink.emit diagnostic).pending = sink.pending ++ [diagnostic] := rfl

theorem errorCount_emit (sink : Sink) (diagnostic : Diagnostic) :
    (sink.emit diagnostic).errorCount
      = sink.errorCount + [diagnostic].countP Diagnostic.isError := by
  cases error : diagnostic.isError <;> simp [emit, error]

@[simp] theorem emitAll_nil (sink : Sink) : sink.emitAll [] = sink := rfl

@[simp] theorem emitAll_cons (sink : Sink) (diagnostic : Diagnostic) (rest : List Diagnostic) :
    sink.emitAll (diagnostic :: rest) = (sink.emit diagnostic).emitAll rest := rfl

end Sink

end Companion
