import GpuTrace.Collector.Basic

/-!
# Completion — taking in the calls whose events are signalled

There are two ways to a completed call: asking for one event, which completes
the first call that waits for it, and sweeping over all pending calls in order,
which completes every one whose event is ready and keeps the others. Notices are
given after the step that completed the calls, so a sweep that stops gives none.
-/

namespace GpuTrace.Tracing

/-- Takes the call at `index` out of the pending ones and completes it. -/
def complete (index : Nat) : Fallible Tracing KernelFinish := do
  let call ← onRegistry (Registry.removePending index)
  let t ← get
  let command ← t.registry.command call.command
  match t.driver.kernelTimestamp command.event with
  | .error e => throw (.timestampUnavailable e)
  | .ok timestamp => onProfile (Profile.finish call command timestamp)

/-- Completes the first call that waits for `event`, if the event is signalled. -/
def completeEvent (event : EventHandle) : Fallible Tracing (Option KernelFinish) := do
  let t ← get
  match ← t.registry.findPending event with
  | none => return none
  | some index =>
    match t.driver.eventStatus event with
    | .ready => return some (← complete index)
    | .notReady => return none
    | .failed e => throw (.unexpectedStatus event e)

/-- Sweeps over the given pending calls, of which the first is at `index`. -/
def sweepFrom : Nat → List Call → Fallible Tracing (List KernelFinish)
  | _, [] => return []
  | index, call :: rest => do
    let t ← get
    let command ← t.registry.command call.command
    match t.driver.eventStatus command.event with
    | .ready =>
      let finish ← complete index
      return finish :: (← sweepFrom index rest)
    | .notReady => sweepFrom (index + 1) rest
    | .failed e => throw (.unexpectedStatus command.event e)

def sweep : Fallible Tracing (List KernelFinish) := do
  sweepFrom 0 (← get).registry.pending

def notify (finished : List KernelFinish) : Fallible Tracing Unit :=
  modify fun t =>
    if t.collector.notifies then
      { t with
        journal := finished.foldl (fun j f => j.notice ⟨f, t.collector.pendingCount⟩) t.journal }
    else t

/-- Completes one call that waits for `event`; answers whether there was one. -/
def processEvent (event : EventHandle) : Fallible Tracing Bool := do
  match ← completeEvent event with
  | some finish =>
    notify [finish]
    return true
  | none => return false

def processCalls : Fallible Tracing Nat := do
  let finished ← sweep
  notify finished
  return finished.length

end GpuTrace.Tracing
