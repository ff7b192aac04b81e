import IbanWatch.Proofs.Watch.Alerts
import Mathlib.Data.UInt

/-!
# What a watch asks of its emitter

A watch calls its emitter to hand over an alert and to have everything acknowledged, and every call
is answered before anything else happens.  So the calls and the answers of a row go in pairs, and
what became of each call can be read off the row.

## Main definitions

* `Trace.emissions`, `Trace.answered` — the calls of the emitter, and its answers.
* `Trace.Paired` — there is an answer for each call.
* `Trace.exchanges` — the calls, each with its answer.
* `Trace.rejected` — how many alerts the emitter learned to have been refused.

## Main results

* `exchanges_append` — the exchanges of a row that goes on are those of both parts.
* `silent_of_isClosing`, `emissions_run` — a run calls the emitter in its turns only.
-/

namespace IbanWatch

open Shutdown

/-- Whether the call hands over an alert or waits for acknowledgement. -/
def Call.isEmission : Call → Bool
  | .send _ _ _ | .flush _ => true
  | .poll _ | .close => false

/-- Whether the call waits for acknowledgement. -/
def Call.isFlush : Call → Bool
  | .flush _ => true
  | .send _ _ _ | .poll _ | .close => false

/-- How many alerts the emitter learns to have been refused: a call that unwinds does not tell. -/
def EmitterReply.learned (reply : EmitterReply) : UInt64 :=
  match reply.ending with
  | .unwinds => 0
  | .succeeds | .fails _ => reply.rejected

/-- Whether the call unwinds. -/
def EmitterReply.unwinds (reply : EmitterReply) : Bool := reply.ending = .unwinds

/-- A call of the emitter with its answer. -/
structure Exchange where
  /-- The call. -/
  call : Call
  /-- The answer. -/
  reply : EmitterReply
  deriving DecidableEq, Repr

/-- An alert was handed over and taken. -/
def Exchange.isTaken (e : Exchange) : Bool := e.call.isSend && e.reply.ending = .succeeds

/-- A flush went well. -/
def Exchange.isFlushed (e : Exchange) : Bool := e.call.isFlush && e.reply.ending = .succeeds

namespace Trace

/-- The alerts that are handed over and the flushes, in their order. -/
def emissions (t : Trace) : List Call := t.calls.filter Call.isEmission

/-- The answers of the emitter. -/
def answered (t : Trace) : List EmitterReply :=
  t.filterMap fun
    | .answered reply => some reply
    | _ => none

/-- There is an answer for each call of the emitter. -/
def Paired (t : Trace) : Prop := t.emissions.length = t.answered.length

/-- The calls of the emitter, each with its answer. -/
def exchanges (t : Trace) : List Exchange := List.zipWith Exchange.mk t.emissions t.answered

/-- How many alerts the emitter learned to have been refused. -/
def rejected (t : Trace) : UInt64 := (t.answered.map EmitterReply.learned).sum

@[simp] theorem emissions_append (t u : Trace) :
    emissions (t ++ u) = emissions t ++ emissions u := by
  rw [emissions, calls_append, List.filter_append]
  rfl

@[simp] theorem answered_append (t u : Trace) : answered (t ++ u) = answered t ++ answered u :=
  List.filterMap_append

theorem sends_eq_filter_emissions (t : Trace) : t.sends = t.emissions.filter Call.isSend := by
  rw [sends, emissions, List.filter_filter]
  congr 1
  funext c
  cases c <;> rfl

theorem Paired.append {t u : Trace} (ht : t.Paired) (hu : u.Paired) : Paired (t ++ u) := by
  rw [Paired, emissions_append, answered_append, List.length_append, List.length_append, ht, hu]

/-- **The exchanges of a row that goes on** are those of both parts, if no call is left unanswered
in between. -/
theorem exchanges_append {t : Trace} (h : t.Paired) (u : Trace) :
    exchanges (t ++ u) = exchanges t ++ exchanges u := by
  rw [exchanges, emissions_append, answered_append, List.zipWith_append h]
  rfl

theorem rejected_append (t u : Trace) : rejected (t ++ u) = rejected t + rejected u := by
  rw [rejected, answered_append, List.map_append, List.sum_append]
  rfl

end Trace

namespace Watch

/-- The emitter is not called when a run ends. -/
theorem silent_of_isClosing {t : Trace} (h : ∀ x ∈ t, x.isClosing = true) :
    t.emissions = [] ∧ t.answered = [] := by
  constructor
  · rw [Trace.emissions, List.filter_eq_nil_iff]
    intro c hc hemission
    obtain ⟨x, hx, hcall⟩ := List.mem_filterMap.mp hc
    have hclosing := h x hx
    -- The only call at the end of a run is the release, and that is no call of the emitter.
    cases x with
    | call c' =>
      cases hcall
      cases c with
      | close => cases hemission
      | poll timeout => cases hclosing
      | send topic key payload => cases hclosing
      | flush timeout => cases hclosing
    | polled reply seen => cases hcall
    | answered reply => cases hcall
    | counted refused => cases hcall
    | log l => cases hcall
  · rw [Trace.answered, List.filterMap_eq_nil_iff]
    intro x hx
    have hclosing := h x hx
    cases x with
    | call c => rfl
    | polled reply seen => rfl
    | answered reply => cases hclosing
    | counted refused => rfl
    | log l => rfl

/-- **A run calls the emitter in its turns only.** -/
theorem emissions_run (w : Watch) (script : List PollReply) :
    (w.run script).trace.emissions = (w.turns script).trace.emissions := by
  obtain ⟨closing, htrace, hclosing, -⟩ := w.trace_run script
  rw [htrace]
  show Trace.emissions ((w.turns script).trace ++ closing) = _
  rw [Trace.emissions_append, (silent_of_isClosing hclosing).1, List.append_nil]

end Watch

end IbanWatch
