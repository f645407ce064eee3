import EvpnMetadata.Proofs.Reconcile.Agenda

/-! # Hooks follow agendas

Every hook first asks the topology and then settles networks, possibly several times over.  On a
topology that stands still each hook therefore follows one agenda, whatever the switches hold and
whichever transactions are aborted.
-/

namespace EvpnMetadata.Reconcile

open Vpn EvpnMetadata.Topology Switch Lifecycle

theorem isInquiry_resolveBgpvpn (bgpvpnId : String) : (resolveBgpvpn bgpvpnId).IsInquiry := by
  refine (Attempt.isInquiry_bgpvpn _).bind fun found => ?_
  cases found with
  | some bgpvpn => exact Attempt.isInquiry_pure bgpvpn
  | none => exact Attempt.isInquiry_throw _

theorem isInquiry_directBgpvpns (networkId : String) (departing : Departing) :
    (directBgpvpns networkId departing).IsInquiry :=
  (Attempt.isInquiry_bgpvpns _).bind fun _ => Attempt.isInquiry_pure _

theorem isInquiry_routerBgpvpn (routerId : String) (departing : Departing) :
    (routerBgpvpn routerId departing).IsInquiry := by
  refine (Attempt.isInquiry_bgpvpns _).bind fun listed => ?_
  split
  · exact Attempt.isInquiry_pure _
  · exact Attempt.isInquiry_pure _
  · exact (Attempt.isInquiry_log _ _).bind fun _ => Attempt.isInquiry_pure _

theorem isInquiry_routersOfNetwork (networkId : String) (departing : Departing) :
    (routersOfNetwork networkId departing).IsInquiry :=
  (Attempt.isInquiry_ports _).bind fun _ => Attempt.isInquiry_pure _

theorem isInquiry_routerDerived (networkId : String) (departing : Departing) :
    (routerDerived networkId departing).IsInquiry := by
  refine (isInquiry_routersOfNetwork networkId departing).bind fun routers => ?_
  refine (Attempt.IsInquiry.mapM (isInquiry_routerBgpvpn · departing) routers).bind
    fun reached => ?_
  split
  · exact Attempt.isInquiry_pure _
  · exact Attempt.isInquiry_pure _
  · exact (Attempt.isInquiry_log _ _).bind fun _ => Attempt.isInquiry_pure _

theorem isInquiry_effective (networkId : String) (departing : Departing) :
    (effective networkId departing).IsInquiry := by
  refine (isInquiry_directBgpvpns networkId departing).bind fun direct => ?_
  cases direct with
  | nil => exact isInquiry_routerDerived networkId departing
  | cons first others => exact Attempt.isInquiry_pure _

theorem isInquiry_connectedNetworks (routerId : String) :
    (connectedNetworks routerId).IsInquiry :=
  (Attempt.isInquiry_ports _).bind fun _ => Attempt.isInquiry_pure _

theorem isInquiry_reachedNetworks (bgpvpn : Bgpvpn) : (reachedNetworks bgpvpn).IsInquiry :=
  Attempt.IsInquiry.foldlM
    (fun _ routerId => (isInquiry_connectedNetworks routerId).bind fun _ =>
      Attempt.isInquiry_pure _) _ _

/-- Assignments to settle in order, and how it ends if none of them fails. -/
structure Agenda where
  assignments : List Assignment := []
  ending : Except Fault Unit := .ok ()

namespace Agenda

def attempt (naming : Naming) (agenda : Agenda) : Attempt Unit := do
  settleAll naming agenda.assignments
  Attempt.ofExcept agenda.ending

theorem play_attempt (naming : Naming) (agenda : Agenda) (deployment : Deployment σ) (state : σ) :
    let outcome := (agenda.attempt naming).play deployment state
    let settled := (settleAll naming agenda.assignments).play deployment state
    outcome.result = (do settled.result; agenda.ending) ∧ outcome.state = settled.state ∧
      outcome.transactions = settled.transactions := by
  simp only [Agenda.attempt, Attempt.play_bind]
  cases ((settleAll naming agenda.assignments).play deployment state).result with
  | ok done => exact ⟨rfl, rfl, (Outcome.transactions_after _ _).trans (List.append_nil _)⟩
  | error fault => exact ⟨rfl, rfl, rfl⟩

def andThen (first second : Agenda) : Agenda :=
  match first.ending with
  | .ok () => { second with assignments := first.assignments ++ second.assignments }
  | .error _ => first

def asking (answer : Except Fault α) (agenda : α → Agenda) : Agenda :=
  match answer with
  | .ok a => agenda a
  | .error fault => { ending := .error fault }

def each (items : List β) (agenda : β → Agenda) : Agenda :=
  items.foldr (fun item rest => (agenda item).andThen rest) {}

variable {assignment : Assignment}

theorem exists_of_mem_asking {answer : Except Fault α} {agenda : α → Agenda}
    (mem : assignment ∈ (asking answer agenda).assignments) :
    ∃ a, answer = .ok a ∧ assignment ∈ (agenda a).assignments := by
  cases answer with
  | ok a => exact ⟨a, rfl, mem⟩
  | error fault => cases mem

theorem mem_or_mem_of_andThen {first second : Agenda}
    (mem : assignment ∈ (first.andThen second).assignments) :
    assignment ∈ first.assignments ∨ assignment ∈ second.assignments := by
  rw [andThen] at mem
  split at mem
  · exact List.mem_append.mp mem
  · exact .inl mem

theorem exists_of_mem_each {items : List β} {agenda : β → Agenda}
    (mem : assignment ∈ (each items agenda).assignments) :
    ∃ item ∈ items, assignment ∈ (agenda item).assignments := by
  induction items with
  | nil => cases mem
  | cons item rest ih =>
    rcases mem_or_mem_of_andThen mem with here | later
    · exact ⟨item, List.mem_cons_self, here⟩
    · obtain ⟨other, listed, there⟩ := ih later
      exact ⟨other, .tail _ listed, there⟩

end Agenda

/-- On a topology that stands still, an attempt does what an agenda says, up to log lines. -/
def Follows (naming : Naming) (topology : Source Unit) (x : Attempt Unit) (agenda : Agenda) :
    Prop :=
  ∀ (σ : Type) (deployment : Deployment σ) (memory : σ → Memory) (mayAbort : Prop),
    deployment.InMemory memory mayAbort → ∀ state, deployment.topology.frozen state = topology →
      (x.play deployment state).quiet = ((agenda.attempt naming).play deployment state).quiet

theorem settleAll_append (naming : Naming) (first second : List Assignment) :
    settleAll naming (first ++ second) =
      (do settleAll naming first; settleAll naming second : Attempt Unit) := by
  induction first with
  | nil => rfl
  | cons assignment rest ih =>
    change (do settle naming assignment.networkId assignment.owner
               settleAll naming (rest ++ second) : Attempt Unit) =
      (do (do settle naming assignment.networkId assignment.owner; settleAll naming rest)
          settleAll naming second)
    rw [ih, bind_assoc]

namespace Follows

variable {naming : Naming} {topology : Source Unit} {x y : Attempt Unit} {first second : Agenda}

theorem ofAgenda (agenda : Agenda) : Follows naming topology (agenda.attempt naming) agenda :=
  fun _ _ _ _ _ _ _ => rfl

theorem ofExcept (result : Except Fault Unit) :
    Follows naming topology (Attempt.ofExcept result) { ending := result } :=
  fun _ _ _ _ _ _ _ => rfl

theorem done : Follows naming topology (pure ()) {} := ofExcept (.ok ())

theorem log (level : LogLevel) (text : String) :
    Follows naming topology (Attempt.log level text) {} :=
  fun _ _ _ _ _ _ _ => rfl

theorem settle (networkId : String) (owner : Option Bgpvpn) :
    Follows naming topology (settle naming networkId owner)
      { assignments := [⟨networkId, owner⟩] } := by
  have same : Agenda.attempt naming { assignments := [⟨networkId, owner⟩] } =
      Reconcile.settle naming networkId owner := by
    rw [Agenda.attempt, settleAll]
    change (do (do Reconcile.settle naming networkId owner; pure ()); pure ()) = _
    rw [bind_pure_unit, bind_pure_unit]
  exact same ▸ ofAgenda _

theorem inquire {query : Attempt α} {f : α → Attempt Unit} {agenda : α → Agenda}
    (inquiry : query.IsInquiry) (h : ∀ a, Follows naming topology (f a) (agenda a)) :
    Follows naming topology (query >>= f) (.asking (query.answer topology) agenda) := by
  intro σ deployment memory mayAbort inMemory state same
  have asked := inquiry.quiet_play deployment state
  rw [same] at asked
  cases answered : query.answer topology with
  | ok a =>
    rw [answered] at asked
    rw [Attempt.quiet_bind_ok asked, Outcome.after_nil]
    exact h a σ deployment memory mayAbort inMemory state same
  | error fault =>
    rw [answered] at asked
    rw [Attempt.quiet_bind_error asked]
    rfl

theorem attempt_andThen (first second : Agenda) :
    (first.andThen second).attempt naming =
      (do first.attempt naming; second.attempt naming : Attempt Unit) := by
  obtain ⟨assignments, ending⟩ := first
  cases ending with
  | ok done =>
    change (do settleAll naming (assignments ++ second.assignments); Attempt.ofExcept second.ending)
      = (do (do settleAll naming assignments; pure done); second.attempt naming : Attempt Unit)
    rw [settleAll_append, bind_assoc, bind_assoc]
    rfl
  | error fault =>
    change (do settleAll naming assignments; throw fault : Attempt Unit) =
      (do (do settleAll naming assignments; throw fault : Attempt Unit); second.attempt naming)
    rw [bind_assoc]
    rfl

theorem andThen (hx : Follows naming topology x first) (hy : Follows naming topology y second) :
    Follows naming topology (do x; y) (first.andThen second) := by
  intro σ deployment memory mayAbort inMemory state same
  have alike := hx σ deployment memory mayAbort inMemory state same
  have still := inMemory.frozen_play x.run state
  rw [attempt_andThen]
  cases result : (x.play deployment state).quiet with
  | mk outcome after marks =>
  have after_eq : (x.play deployment state).state = after := congrArg Outcome.state result
  cases outcome with
  | ok done =>
    rw [Attempt.quiet_bind_ok result, Attempt.quiet_bind_ok (alike ▸ result)]
    rw [hy σ deployment memory mayAbort inMemory after]
    rw [← after_eq, ← same]
    exact still
  | error fault =>
    rw [Attempt.quiet_bind_error result, Attempt.quiet_bind_error (alike ▸ result)]

theorem each {items : List β} {f : β → Attempt Unit} {agenda : β → Agenda}
    (h : ∀ item, Follows naming topology (f item) (agenda item)) :
    Follows naming topology (items.forM f) (.each items agenda) := by
  induction items with
  | nil => exact done
  | cons item rest ih => exact (h item).andThen ih

/-- Playing an attempt settles its agenda, and ends as the agenda does unless that fails. -/
theorem play_eq {deployment : Deployment σ} {memory : σ → Memory} {mayAbort : Prop}
    (follows : Follows naming topology x first) (h : deployment.InMemory memory mayAbort)
    {state : σ} (same : deployment.topology.frozen state = topology) :
    let outcome := x.play deployment state
    let settled := (settleAll naming first.assignments).play deployment state
    outcome.result = (do settled.result; first.ending) ∧ outcome.state = settled.state ∧
      outcome.transactions = settled.transactions := by
  intro outcome settled
  have alike : outcome.quiet = _ := follows σ deployment memory mayAbort h state same
  obtain ⟨result, after, attempts⟩ := first.play_attempt naming deployment state
  rw [← Outcome.quiet_result outcome, ← Outcome.quiet_state outcome,
    ← Outcome.quiet_transactions outcome, alike, Outcome.quiet_result, Outcome.quiet_state,
    Outcome.quiet_transactions]
  exact ⟨result, after, attempts⟩

theorem performs {deployment : Deployment σ} {memory : σ → Memory} {mayAbort : Prop}
    (follows : Follows naming topology x first) (h : deployment.InMemory memory mayAbort)
    {state : σ} (same : deployment.topology.frozen state = topology) :
    let outcome := x.play deployment state
    ∃ result : Except Fault Unit, outcome.result = (do result; first.ending) ∧
      Performs naming mayAbort first.assignments (memory state).switches result
        (memory outcome.state).switches outcome.transactions := by
  intro outcome
  obtain ⟨result, after, attempts⟩ := follows.play_eq h same
  refine ⟨((settleAll naming first.assignments).play deployment state).result, result, ?_⟩
  rw [after, attempts]
  exact Reconcile.performs naming h first.assignments state

end Follows

section Plans

variable (topology : Source Unit)

namespace Plan

def converge (networkId : String) (departing : Departing) : Agenda :=
  .asking ((effective networkId departing).answer topology) fun owner =>
    { assignments := [⟨networkId, owner⟩] }

def convergeThroughRouters (networkId : String) (departing : Departing) : Agenda :=
  .asking ((directBgpvpns networkId departing).answer topology) fun direct =>
    if direct.isEmpty then
      .asking ((routerDerived networkId departing).answer topology) fun owner =>
        { assignments := [⟨networkId, owner⟩] }
    else {}

def publishThroughRouter (networkId : String) (bgpvpn : Bgpvpn) : Agenda :=
  .asking ((directBgpvpns networkId .nothing).answer topology) fun direct =>
    if direct.isEmpty then { assignments := [⟨networkId, some bgpvpn⟩] } else {}

def afterBgpvpnUpdate (old new : Bgpvpn) : Agenda :=
  if (Revision.mk old new).isCosmetic then {}
  else
    (Agenda.each new.networks fun networkId => { assignments := [⟨networkId, some new⟩] }).andThen
      (.each new.routers fun routerId =>
        .asking ((connectedNetworks routerId).answer topology) fun networks =>
          .each networks fun networkId =>
            if new.hasNetwork networkId then {} else publishThroughRouter topology networkId new)

def afterRouterAssociation (association : RouterAssociation) : Agenda :=
  .asking ((resolveBgpvpn association.bgpvpnId).answer topology) fun bgpvpn =>
    Agenda.andThen { ending := bgpvpn.requireL3 }
      (.asking ((Attempt.router association.routerId).answer topology) fun
        | none => {}
        | some _ =>
          .asking ((connectedNetworks association.routerId).answer topology) fun networks =>
            .each networks fun networkId => publishThroughRouter topology networkId bgpvpn)

end Plan

def plan : Event → Agenda
  | .bgpvpnCreate .precommit bgpvpn => { ending := discard bgpvpn.accept }
  | .bgpvpnUpdate .precommit old new => { ending := (Revision.mk old new).accept }
  | .bgpvpnUpdate .postcommit old new => Plan.afterBgpvpnUpdate topology old new
  | .bgpvpnDelete .precommit bgpvpn =>
    .asking ((reachedNetworks bgpvpn).answer topology) fun networks =>
      .each networks fun networkId => Plan.converge topology networkId (.bgpvpn bgpvpn.id)
  | .networkAssociationCreate .postcommit association =>
    .asking ((resolveBgpvpn association.bgpvpnId).answer topology) fun bgpvpn =>
      { assignments := [⟨association.networkId, some bgpvpn⟩] }
  | .networkAssociationDelete .precommit association =>
    Plan.converge topology association.networkId
      (.networkAssociation association.bgpvpnId association.networkId)
  | .routerAssociationCreate .precommit association =>
    .asking ((resolveBgpvpn association.bgpvpnId).answer topology) fun bgpvpn =>
      { ending := bgpvpn.requireL3 }
  | .routerAssociationCreate .postcommit association
  | .routerAssociationUpdate .postcommit _ association =>
    Plan.afterRouterAssociation topology association
  | .routerAssociationDelete .precommit association =>
    .asking ((connectedNetworks association.routerId).answer topology) fun networks =>
      .each networks fun networkId => Plan.convergeThroughRouters topology networkId
        (.routerAssociation association.bgpvpnId association.routerId)
  | .routerInterfaceCreated routerId port =>
    .asking ((routerBgpvpn routerId .nothing).answer topology) fun
      | none => {}
      | some bgpvpn => Plan.publishThroughRouter topology port.networkId bgpvpn
  | .routerInterfaceDeleted routerId subnetId =>
    .asking ((Attempt.subnet subnetId).answer topology) fun
      | none => {}
      | some subnet =>
        Plan.converge topology subnet.networkId (.routerInterface routerId subnetId)
  | _ => {}

end Plans

namespace Follows

variable {naming : Naming} (topology : Source Unit)

theorem converge (networkId : String) (departing : Departing) :
    Follows naming topology (converge naming networkId departing)
      (Plan.converge topology networkId departing) :=
  inquire (isInquiry_effective networkId departing) fun owner => settle networkId owner

theorem convergeThroughRouters (networkId : String) (departing : Departing) :
    Follows naming topology (convergeThroughRouters naming networkId departing)
      (Plan.convergeThroughRouters topology networkId departing) := by
  refine inquire (isInquiry_directBgpvpns networkId departing) fun direct => ?_
  split
  · exact inquire (isInquiry_routerDerived networkId departing) fun owner => settle networkId owner
  · exact done

theorem publishThroughRouter (networkId : String) (bgpvpn : Bgpvpn) :
    Follows naming topology (publishThroughRouter naming networkId bgpvpn)
      (Plan.publishThroughRouter topology networkId bgpvpn) := by
  refine inquire (isInquiry_directBgpvpns networkId .nothing) fun direct => ?_
  split
  · exact settle networkId (some bgpvpn)
  · exact done

theorem afterBgpvpnUpdate (old new : Bgpvpn) :
    Follows naming topology (afterBgpvpnUpdate naming old new)
      (Plan.afterBgpvpnUpdate topology old new) := by
  rw [Reconcile.afterBgpvpnUpdate, Plan.afterBgpvpnUpdate]
  split
  · exact done
  · refine andThen (each fun networkId => settle networkId (some new)) (each fun routerId => ?_)
    refine inquire (isInquiry_connectedNetworks routerId) fun networks => each fun networkId => ?_
    split
    · exact done
    · exact publishThroughRouter topology networkId new

theorem afterRouterAssociation (association : RouterAssociation) :
    Follows naming topology (afterRouterAssociation naming association)
      (Plan.afterRouterAssociation topology association) := by
  refine inquire (isInquiry_resolveBgpvpn _) fun bgpvpn => andThen (ofExcept _) ?_
  refine inquire (Attempt.isInquiry_router _) fun found => ?_
  cases found with
  | none => exact log _ _
  | some router =>
    refine inquire (isInquiry_connectedNetworks _) fun networks => each fun networkId => ?_
    exact publishThroughRouter topology networkId bgpvpn

/-- Whatever the event and the topology, failing queries included. -/
theorem handle (event : Event) :
    Follows naming topology (handle naming event) (plan topology event) := by
  cases event with
  | bgpvpnCreate phase bgpvpn =>
    cases phase with
    | precommit => exact ofExcept _
    | postcommit => exact done
  | bgpvpnUpdate phase old new =>
    cases phase with
    | precommit => exact ofExcept _
    | postcommit => exact afterBgpvpnUpdate topology old new
  | bgpvpnDelete phase bgpvpn =>
    cases phase with
    | precommit =>
      refine inquire (isInquiry_reachedNetworks bgpvpn) fun networks => each fun networkId => ?_
      exact converge topology networkId _
    | postcommit => exact done
  | networkAssociationCreate phase association =>
    cases phase with
    | precommit => exact done
    | postcommit =>
      refine inquire (isInquiry_resolveBgpvpn _) fun bgpvpn => ?_
      exact settle association.networkId (some bgpvpn)
  | networkAssociationDelete phase association =>
    cases phase with
    | precommit => exact converge topology association.networkId _
    | postcommit => exact done
  | routerAssociationCreate phase association =>
    cases phase with
    | precommit => exact inquire (isInquiry_resolveBgpvpn _) fun bgpvpn => ofExcept _
    | postcommit => exact afterRouterAssociation topology association
  | routerAssociationUpdate phase old association =>
    cases phase with
    | precommit => exact done
    | postcommit => exact afterRouterAssociation topology association
  | routerAssociationDelete phase association =>
    cases phase with
    | precommit =>
      refine inquire (isInquiry_connectedNetworks _) fun networks => each fun networkId => ?_
      exact convergeThroughRouters topology networkId _
    | postcommit => exact done
  | portAssociationCreate | portAssociationUpdate | portAssociationDelete => exact done
  | routerInterfaceCreated routerId port =>
    refine inquire (isInquiry_routerBgpvpn routerId .nothing) fun found => ?_
    cases found with
    | none => exact done
    | some bgpvpn => exact publishThroughRouter topology port.networkId bgpvpn
  | routerInterfaceDeleted routerId subnetId =>
    refine inquire (Attempt.isInquiry_subnet subnetId) fun found => ?_
    cases found with
    | none => exact log _ _
    | some subnet => exact converge topology subnet.networkId _

end Follows

/-- An event on the bus with the reconciler as the only handler. -/
def delivery (naming : Naming) (event : Event) : Procedure (Except Fault Unit) :=
  Bus.dispatch logLine event [handler naming]

theorem quiet_delivery (naming : Naming) (deployment : Deployment σ) (event : Event) (state : σ) :
    ((delivery naming event).play deployment state).quiet =
      ((handle naming event).play deployment state).quiet := by
  refine (Procedure.quiet_bind deployment (g := id) (fun result after => ?_)
    (handle naming event).run state).trans rfl
  cases result with
  | ok done => rfl
  | error fault => rfl

/-- A delivery settles the plan of its event, as far as nothing fails, and ends as the plan does. -/
theorem delivery_performs {deployment : Deployment σ} {memory : σ → Memory} {mayAbort : Prop}
    (naming : Naming) (h : deployment.InMemory memory mayAbort) (event : Event) (state : σ) :
    let outcome := (delivery naming event).play deployment state
    let agenda := plan (deployment.topology.frozen state) event
    ∃ result : Except Fault Unit, outcome.result = (do result; agenda.ending) ∧
      Performs naming mayAbort agenda.assignments (memory state).switches result
        (memory outcome.state).switches outcome.transactions := by
  intro outcome agenda
  obtain ⟨result, after, attempts⟩ := Outcome.of_quiet _
    (quiet_delivery naming deployment event state)
  have follows : Follows naming _ _ _ := .handle (deployment.topology.frozen state) event
  obtain ⟨settled, ended, performed⟩ := follows.performs h rfl
  rw [← after, ← attempts] at performed
  exact ⟨settled, result.trans ended, performed⟩

end EvpnMetadata.Reconcile
