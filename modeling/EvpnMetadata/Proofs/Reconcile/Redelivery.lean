import EvpnMetadata.Proofs.Reconcile.Swept

/-! # Redelivery

A delivery that aborted transactions left unfinished is made good by delivering the event again,
and so is a sweep.  What the interrupted run has written is absorbed, since no write depends on what
the switches held before.
-/

namespace EvpnMetadata.Reconcile

open Vpn EvpnMetadata.Topology Switch Lifecycle

variable (naming : Naming)

/-- Two runs that end alike on the same rows; the numbers of transactions may differ. -/
def Outcome.Agrees (first second : Outcome (τ × Memory) α) : Prop :=
  first.result = second.result ∧ first.state.2.switches = second.state.2.switches

section Absorption

variable {source : Source τ} {interrupted : Deployment ρ} {held : ρ → Memory} {mayAbort : Prop}
  {topology : τ} {before left : Memory}

/-- A delivery absorbs what an earlier one of the same event has done, finished or not. -/
theorem agrees_delivery_of_delivered (event : Event) (h : interrupted.InMemory held mayAbort)
    (start : ρ) (still : interrupted.topology.frozen start = source.frozen topology)
    (held_start : (held start).switches = before.switches)
    (held_end : (held ((delivery naming event).play interrupted start).state).switches =
      left.switches) :
    Outcome.Agrees ((delivery naming event).play source.withSwitches (topology, left))
      ((delivery naming event).play source.withSwitches (topology, before)) := by
  have reliable := Deployment.withSwitches_reliable source
  obtain ⟨_, _, performed⟩ := delivery_performs naming h event start
  obtain ⟨again, endedAgain, performedAgain⟩ :=
    delivery_performs naming reliable event (topology, left)
  obtain ⟨once, endedOnce, performedOnce⟩ :=
    delivery_performs naming reliable event (topology, before)
  let agenda := plan (source.frozen topology) event
  rw [still] at performed
  obtain ⟨done, part, reached⟩ := performed.exists_done
  obtain ⟨rfl, switchesAgain⟩ := performedAgain.eq
  obtain ⟨rfl, switchesOnce⟩ := performedOnce.eq
  rw [held_end, held_start] at reached
  rw [held_start] at part
  change _ = (do verdict naming agenda.assignments left.switches; agenda.ending) at endedAgain
  change _ = effects naming (admitted naming agenda.assignments left.switches) left.switches
    at switchesAgain
  rw [reached, verdict_effects] at endedAgain
  rw [reached, admitted_effects, effects_effects naming part.subset] at switchesAgain
  exact ⟨endedAgain.trans endedOnce.symm, switchesAgain.trans switchesOnce.symm⟩

/-- A sweep absorbs what an earlier one has done, finished or not. -/
theorem sweep_switches_of_swept (h : interrupted.InMemory held mayAbort) (start : ρ)
    (still : interrupted.topology.frozen start = source.frozen topology)
    (held_start : (held start).switches = before.switches)
    (held_end : (held ((sweep naming).play interrupted start).state).switches = left.switches) :
    ((sweep naming).play source.withSwitches (topology, left)).state.2.switches =
      ((sweep naming).play source.withSwitches (topology, before)).state.2.switches := by
  have reliable := Deployment.withSwitches_reliable source
  have partly := sweep_isPartlySwept naming h start
  rw [still, held_start, held_end] at partly
  have again := sweep_switches naming reliable (topology, left)
  have once := sweep_switches naming reliable (topology, before)
  exact again.trans ((sweptSwitches_of_isPartlySwept naming partly).trans once.symm)

end Absorption

/-- A procedure run again without aborts, on the switches that a run with aborts has left. -/
def rerun (source : Source τ) (draw : π → Bool × π) (p : Procedure α) (plan : π) (topology : τ)
    (memory : Memory) : Outcome (τ × Memory) α :=
  p.play source.withSwitches
    (topology, (p.play (source.withSwitches.aborting draw) (plan, topology, memory)).state.2.2)

/-- On a topology that stands still, whatever was aborted in a first delivery of an event, a second
one ends and leaves the switches as a single undisturbed one does.  A sweep leaves the same switches
as well. -/
theorem redelivery_converges (source : Source τ) (draw : π → Bool × π) (plan : π) (topology : τ)
    (memory : Memory) :
    (∀ event,
      let once := (delivery naming event).play source.withSwitches (topology, memory)
      Outcome.Agrees (rerun source draw (delivery naming event) plan topology memory) once ∧
        Outcome.Agrees ((delivery naming event).play source.withSwitches (topology, once.state.2))
          once) ∧
    let swept := (sweep naming).run.play source.withSwitches (topology, memory)
    (rerun source draw (sweep naming).run plan topology memory).state.2.switches =
        swept.state.2.switches ∧
      ((sweep naming).run.play source.withSwitches (topology, swept.state.2)).state.2.switches =
        swept.state.2.switches := by
  have reliable := Deployment.withSwitches_reliable source
  have aborted := reliable.aborting draw
  constructor
  · intro event once
    constructor
    · exact agrees_delivery_of_delivered naming event aborted (plan, topology, memory) rfl rfl rfl
    · exact agrees_delivery_of_delivered naming event reliable (topology, memory) rfl rfl rfl
  · intro swept
    constructor
    · exact sweep_switches_of_swept naming aborted (plan, topology, memory) rfl rfl rfl
    · exact sweep_switches_of_swept naming reliable (topology, memory) rfl rfl rfl

end EvpnMetadata.Reconcile
