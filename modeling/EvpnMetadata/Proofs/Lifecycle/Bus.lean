import EvpnMetadata.Lifecycle.Probe
import Mathlib.Data.List.Basic

/-! # The bus delivers every event

The handlers are watched: each call is noted with its answer, and nothing else changes.  An event
goes to the handlers in order, once to each, up to the first one that fails.  A failure ends the
delivery of its own event only.
-/

namespace EvpnMetadata.Lifecycle.Bus

variable {σ : Type}

/-- The calls that deliver an event to the handlers at some positions, and the answer to it. -/
inductive Delivers (event : Event) : List Nat → List Call → Except Fault Unit → Prop where
  | complete (positions : List Nat) :
    Delivers event positions (positions.map (.passed event)) (.ok ())
  | stopped (earlier : List Nat) (last : Nat) (later : List Nat) (fault : Fault) :
    Delivers event (earlier ++ last :: later)
      (earlier.map (.passed event) ++ [⟨last, event, .error fault⟩]) (.error fault)

theorem Delivers.cons {event : Event} {positions : List Nat} {calls : List Call}
    {answer : Except Fault Unit} (delivers : Delivers event positions calls answer)
    (position : Nat) :
    Delivers event (position :: positions) (.passed event position :: calls) answer := by
  cases delivers with
  | complete => exact .complete (position :: positions)
  | stopped earlier last later fault => exact .stopped (position :: earlier) last later fault

section Dispatch

variable (report : LogLine → StateM σ Unit) {handler : Handler (StateM σ)} {event : Event}
  {state after : σ}

theorem dispatch_of_ok (passed : handler.handle event state = (.ok (), after))
    (rest : List (Handler (StateM σ))) :
    dispatch report event (handler :: rest) state = dispatch report event rest after := by
  simp only [dispatch, bind, StateT.bind, passed]

theorem dispatch_of_error {fault : Fault}
    (failed : handler.handle event state = (.error fault, after))
    (rest : List (Handler (StateM σ))) :
    dispatch report event (handler :: rest) state =
      (.error fault, (report (failureLine handler event fault) after).2) := by
  simp only [dispatch, bind, StateT.bind, failed]
  rfl

/-- Watched handlers bring about the same, and the calls that are noted deliver the event. -/
theorem dispatch_watchFrom (event : Event) (handlers : List (Handler (StateM σ)))
    (position : Nat) (state : σ) (calls : List Call) :
    ∃ more, dispatch (watchLines report) event (watchFrom position handlers) (state, calls) =
        ((dispatch report event handlers state).1, (dispatch report event handlers state).2,
          calls ++ more) ∧
      Delivers event (List.range' position handlers.length) more
        (dispatch report event handlers state).1 := by
  induction handlers generalizing position state calls with
  | nil => exact ⟨[], by rw [List.append_nil]; rfl, .complete []⟩
  | cons handler rest ih =>
    rw [List.length_cons, List.range'_succ, watchFrom]
    rcases called : handler.handle event state with ⟨answer, after⟩
    have noted : (watch position handler).handle event (state, calls) =
        (answer, after, calls ++ [⟨position, event, answer⟩]) := by
      simp only [watch, called]
    cases answer with
    | ok _ =>
      rw [dispatch_of_ok report called, dispatch_of_ok _ noted]
      obtain ⟨more, ran, delivers⟩ := ih (position + 1) after (calls ++ [.passed event position])
      refine ⟨.passed event position :: more, ?_, delivers.cons position⟩
      rw [← List.append_cons] at ran
      exact ran
    | error fault =>
      rw [dispatch_of_error report called, dispatch_of_error _ noted]
      exact ⟨[⟨position, event, .error fault⟩], rfl, .stopped [] position _ fault⟩

end Dispatch

structure Delivery where
  event : Event
  calls : List Call
  answer : Except Fault Unit

def Delivery.failed (delivery : Delivery) : Bool := !delivery.answer.isOk

section Run

variable (report : LogLine → StateM σ Unit)

theorem run_cons (handlers : List (Handler (StateM σ))) (event : Event) (rest : List Event)
    (state : σ) :
    run report handlers (event :: rest) state =
      let (answer, after) := dispatch report event handlers state
      ((if answer.isOk then 0 else 1) + (run report handlers rest after).1,
        (run report handlers rest after).2) := by
  simp only [run, bind, StateT.bind]
  rcases dispatch report event handlers state with ⟨answer, after⟩
  cases answer <;> rfl

theorem run_watchFrom (handlers : List (Handler (StateM σ))) (events : List Event) (state : σ)
    (calls : List Call) :
    ∃ deliveries : List Delivery,
      run (watchLines report) (watchFrom 0 handlers) events (state, calls) =
        ((run report handlers events state).1, (run report handlers events state).2,
          calls ++ deliveries.flatMap Delivery.calls) ∧
      deliveries.map Delivery.event = events ∧
      (∀ delivery ∈ deliveries, Delivers delivery.event (List.range handlers.length)
        delivery.calls delivery.answer) ∧
      (run report handlers events state).1 = deliveries.countP Delivery.failed := by
  induction events generalizing state calls with
  | nil =>
    exact ⟨[], by rw [List.flatMap_nil, List.append_nil]; rfl, rfl, List.forall_mem_nil _, rfl⟩
  | cons event rest ih =>
    obtain ⟨more, ran, delivers⟩ := dispatch_watchFrom report event handlers 0 state calls
    rcases dispatched : dispatch report event handlers state with ⟨answer, after⟩
    rw [dispatched] at ran delivers
    obtain ⟨deliveries, later, same, whole, count⟩ := ih after (calls ++ more)
    rw [← List.range_eq_range'] at delivers
    refine ⟨⟨event, more, answer⟩ :: deliveries, ?_, congrArg (event :: ·) same,
      List.forall_mem_cons.mpr ⟨delivers, whole⟩, ?_⟩
    · simp only [run_cons, ran, dispatched, later, List.flatMap_cons, List.append_assoc]
    · simp only [run_cons, dispatched, count, List.countP_cons, Delivery.failed]
      cases answer <;> simp +arith [Except.isOk, Except.toBool]

end Run

end EvpnMetadata.Lifecycle.Bus
