import EvpnMetadata.Proofs.Reconcile.Agreement
import EvpnMetadata.Proofs.Reconcile.Detachment
import EvpnMetadata.Proofs.Reconcile.Interruption
import EvpnMetadata.Proofs.Reconcile.Layering
import EvpnMetadata.Proofs.Reconcile.Warnings

/-! # Contention for a network

Where several BGPVPNs reach a network through different routers, the sweep and the hooks of removals
settle it on the first of them and warn.  The hooks that announce one BGPVPN publish that one, and
they do not warn.
-/

namespace EvpnMetadata.Reconcile

open Vpn EvpnMetadata.Topology Switch Lifecycle

variable {inventory : Inventory} {networkId : String} {departing : Departing}
  {first second : Bgpvpn} {others : List Bgpvpn}

theorem owner_of_contested (free : inventory.direct networkId departing = [])
    (contested : inventory.claimants networkId departing = first :: second :: others) :
    inventory.owner networkId departing = some first := by
  rw [Inventory.owner, free, ← inventory.head?_claimants, contested]
  rfl

variable (naming : Naming)

/-- The hooks that publish through routers, with the BGPVPN that each of them goes by. -/
inductive Announces (inventory : Inventory) : Event → Option Bgpvpn → Prop where
  | association (association : RouterAssociation) :
    Announces inventory (.routerAssociationCreate .postcommit association)
      (inventory.record? association.bgpvpnId)
  | reassociation (old association : RouterAssociation) :
    Announces inventory (.routerAssociationUpdate .postcommit old association)
      (inventory.record? association.bgpvpnId)
  | attachment (routerId : String) (port : Port) :
    Announces inventory (.routerInterfaceCreated routerId port)
      (inventory.ofRouter routerId .nothing)
  | update (old new : Bgpvpn) :
    Announces inventory (.bgpvpnUpdate .postcommit old new) (some new)

namespace Announces

variable {event : Event} {owner : Option Bgpvpn} (announces : Announces inventory event owner)

include announces

theorem isSilent : IsSilent (handle naming event) := by
  cases announces with
  | association association | reassociation old association =>
    exact isSilent_afterRouterAssociation naming association
  | attachment routerId port => exact isSilent_afterInterfaceCreated naming routerId port
  | update old new => exact isSilent_afterBgpvpnUpdate naming old new

theorem owner_of_mem {assignment : Assignment}
    (mem : assignment ∈ (inventory.agenda event).assignments) : assignment.owner = owner := by
  have calls := Inventory.calls_of_mem mem
  cases announces with
  | association association => cases calls with | joined known => exact known.symm
  | reassociation old association => cases calls with | rejoined known => exact known.symm
  | attachment routerId port => cases calls with | attached first => exact first.symm
  | update old new => cases calls <;> rfl

end Announces

/-- What such a hook writes on a network is the announced BGPVPN, and it does not warn. -/
theorem announcement_unflagged {site : Site} {event : Event} {owner : Option Bgpvpn}
    (announces : Announces site.inventory event owner) (networkId : String) :
    let outcome := (delivery naming event).play Site.deployment site
    (∀ line ∈ outcome.lines, ¬IsContention line) ∧
    ∀ transaction ∈ outcome.transactions, transaction.name = naming.logicalName networkId →
      Assignment.IsSettledBy naming ⟨networkId, owner⟩ transaction ∧
      (outcome.result = .ok () →
        Assignment.IsSettled naming ⟨networkId, owner⟩ outcome.state.switches.switches) := by
  intro outcome
  refine ⟨fun line => (isSilent_delivery naming (announces.isSilent naming)).of_mem_lines,
    fun transaction attempted named => ?_⟩
  obtain ⟨result, ended, performed⟩ := delivers naming event site
  obtain ⟨assignment, listed, attributes, good, rfl⟩ := performed.exists_isSettledBy attempted
  obtain rfl := announces.owner_of_mem listed
  obtain rfl : assignment.networkId = networkId := naming.logicalName_inj.mp named
  refine ⟨⟨attributes, good, rfl⟩, fun handled => ?_⟩
  obtain ⟨settled, unrefused⟩ := effects_of_handled naming handled
  rw [show outcome.state.switches.switches = _ from settled]
  exact isSettled_effects naming (fun _ => assignment.owner)
    (fun other mem => announces.owner_of_mem mem) listed (unrefused assignment listed)

/-- The hooks of what leaves, with a network that each of them settles on what it resolves. -/
inductive Rederives (inventory : Inventory) : Event → Departing → String → Prop where
  | removal (removal : Removal) {networkId : String}
    (visited : networkId ∈ removal.visited inventory) :
    Rederives inventory removal.event removal.departing networkId
  | detachment (routerId : String) {subnet : Subnet}
    (recorded : inventory.subnets.find? (fun other => other.id = subnet.id) = some subnet) :
    Rederives inventory (.routerInterfaceDeleted routerId subnet.id)
      (.routerInterface routerId subnet.id) subnet.networkId

section Warning

variable (free : inventory.direct networkId departing = [])
  (contested : inventory.claimants networkId departing = first :: second :: others)

include free contested

theorem mem_lines_converge {site : Site} (still : site.inventory = inventory) :
    contentionLine first (second :: others) ∈
      ((converge naming networkId departing).play Site.deployment site).lines :=
  Attempt.mem_lines_bind (mem_lines_effective free contested still) _

theorem mem_lines_convergeThroughRouters {site : Site} (still : site.inventory = inventory) :
    contentionLine first (second :: others) ∈
      ((convergeThroughRouters naming networkId departing).play Site.deployment site).lines := by
  have unlisted : (directBgpvpns networkId departing).answer
      (Site.deployment.topology.frozen site) = .ok [] := by
    rw [← free, ← still]
    exact site.inventory.answer_directBgpvpns networkId departing
  exact (isInquiry_directBgpvpns networkId departing).mem_lines_bind unlisted
    (Attempt.mem_lines_bind (mem_lines_routerDerived contested still) _)

end Warning

/-- A loop over the networks of an inquiry warns on any of them. -/
theorem mem_lines_visits {site : Site} {asked : Attempt (List String)} {networks : List String}
    (inquiry : asked.IsInquiry) (answered : asked.answer site.inventory.still = .ok networks)
    {visit : String → Attempt Unit} {line : LogLine} (visited : networkId ∈ networks)
    (logged : ∀ other : Site, other.inventory = site.inventory →
      line ∈ ((visit networkId).play Site.deployment other).lines)
    (handled : ((asked >>= fun networks => networks.forM visit).play Site.deployment site).result =
      .ok ()) :
    line ∈ ((asked >>= fun networks => networks.forM visit).play Site.deployment site).lines := by
  rw [inquiry.result_bind answered] at handled
  exact inquiry.mem_lines_bind answered
    (Attempt.mem_lines_forM logged visited rfl handled)

namespace Rederives

variable {site : Site} {event : Event}
  (rederives : Rederives site.inventory event departing networkId)
  (free : site.inventory.direct networkId departing = [])
  (contested : site.inventory.claimants networkId departing = first :: second :: others)

include rederives free

theorem mem_agenda :
    ⟨networkId, site.inventory.owner networkId departing⟩ ∈
        (site.inventory.agenda event).assignments ∧
      ∀ assignment ∈ (site.inventory.agenda event).assignments,
        assignment.owner = site.inventory.owner assignment.networkId departing := by
  cases rederives with
  | removal removal visited =>
    rw [removal.agenda_event]
    refine ⟨List.mem_map.mpr ⟨networkId, ?_, rfl⟩, List.forall_mem_map.mpr fun _ _ => rfl⟩
    cases removal with
    | bgpvpn record | networkAssociation association => exact visited
    | routerAssociation association =>
      exact List.mem_filter.mpr ⟨visited, List.isEmpty_iff.mpr free⟩
  | detachment routerId recorded =>
    rw [agenda_detachment recorded]
    exact ⟨List.mem_singleton_self _, List.forall_mem_singleton.mpr rfl⟩

include contested

theorem mem_lines_handle
    (handled : ((handle naming event).play Site.deployment site).result = .ok ()) :
    contentionLine first (second :: others) ∈
      ((handle naming event).play Site.deployment site).lines := by
  cases rederives with
  | removal removal visited =>
    cases removal with
    | bgpvpn record =>
      exact mem_lines_visits (isInquiry_reachedNetworks record)
        (site.inventory.answer_reachedNetworks record) visited
        (fun _ still => mem_lines_converge naming free contested still) handled
    | networkAssociation association =>
      obtain rfl := List.mem_singleton.mp visited
      exact mem_lines_converge naming free contested rfl
    | routerAssociation association =>
      exact mem_lines_visits (isInquiry_connectedNetworks association.routerId)
        (site.inventory.answer_connectedNetworks association.routerId) visited
        (fun _ still => mem_lines_convergeThroughRouters naming free contested still) handled
  | @detachment routerId subnet recorded =>
    have known : (Attempt.subnet subnet.id).answer site.inventory.still = .ok (some subnet) :=
      congrArg Except.ok recorded
    refine (Attempt.isInquiry_subnet subnet.id).mem_lines_bind known ?_
    exact mem_lines_converge naming free contested rfl

/-- Such a hook settles a contested network on the first claimant, and it warns. -/
theorem flagged (handled : ((delivery naming event).play Site.deployment site).result = .ok ()) :
    let outcome := (delivery naming event).play Site.deployment site
    contentionLine first (second :: others) ∈ outcome.lines ∧
      Assignment.IsSettled naming ⟨networkId, some first⟩ outcome.state.switches.switches := by
  intro outcome
  obtain ⟨listed, owned⟩ := rederives.mem_agenda free
  obtain ⟨settled, unrefused⟩ := effects_of_handled naming handled
  constructor
  · have quiet := congrArg Outcome.result (quiet_delivery naming Site.deployment event site)
    exact Procedure.mem_lines_bind
      (rederives.mem_lines_handle naming free contested (quiet.symm.trans handled)) _
  · rw [show outcome.state.switches.switches = _ from settled, ← owner_of_contested free contested]
    exact isSettled_effects naming (fun networkId => site.inventory.owner networkId departing)
      owned listed (unrefused _ listed)

end Rederives

section Sweep

variable {site : Site} (free : site.inventory.direct networkId .nothing = [])
  (contested : site.inventory.claimants networkId .nothing = first :: second :: others)

include free contested

theorem mem_lines_sweepStep (tagged : FiniteMap Unit) (report : Report) {other : Site}
    (still : other.inventory = site.inventory) :
    contentionLine first (second :: others) ∈
      ((sweepStep naming tagged report networkId).play Site.deployment other).lines := by
  have resolved := mem_lines_effective free contested still
  exact Procedure.mem_lines_bind (Attempt.mem_lines_bind resolved _) _

/-- A sweep visits a contested network, tagged or not, so it warns. -/
theorem mem_lines_sweep :
    contentionLine first (second :: others) ∈ ((sweep naming).play Site.deployment site).lines := by
  have listed : (Attempt.bgpvpns .all).answer site.inventory.still =
      .ok site.inventory.bgpvpns := site.inventory.lists.all
  have asked : (site.inventory.bgpvpns.mapM neededNetworks).answer site.inventory.still = .ok _ :=
    Attempt.answer_mapM _ site.inventory.answer_neededNetworks _
  obtain ⟨configured, read, _⟩ :=
    quiet_configuredNetworks naming Deployment.site_reliable site
  have needed := Inventory.mem_needed_of_owner (owner_of_contested free contested)
  apply (Attempt.isInquiry_bgpvpns .all).mem_lines_bind listed
  apply Attempt.mem_lines_bind_ok (congrArg Outcome.result read)
  rw [show ((configuredNetworks naming).play Site.deployment site).state = site from
    congrArg Outcome.state read]
  apply Attempt.IsInquiry.mem_lines_bind (.mapM isInquiry_neededNetworks _) asked
  apply Procedure.mem_lines_bind
  apply Procedure.mem_lines_foldlM
    (fun report other still => mem_lines_sweepStep naming free contested _ report still)
  · rw [FiniteMap.mem_keys_ofKeys]
    exact List.mem_append_right _ needed
  · rfl

/-- A sweep settles a contested network on the first claimant, if that one can be published. -/
theorem isSettled_sweep (numbered : first.vni ≠ none) :
    Assignment.IsSettled naming ⟨networkId, some first⟩
      ((sweep naming).play Site.deployment site).state.switches.switches := by
  obtain ⟨attributes, good⟩ := (Bag.exists_ofBgpvpn_iff first).mpr numbered
  have published : Bag.ofOwner (some first) = .ok attributes := good
  intro entry found
  rw [get?_sweep_of_owner naming (owner_of_contested free contested)] at found
  obtain ⟨before, _, rfl⟩ := Option.map_eq_some_iff.mp found
  rw [evpnPart_settledEntry published, published]

end Sweep

theorem direct_departing_eq_nil (free : inventory.direct networkId .nothing = [])
    (departing : Departing) : inventory.direct networkId departing = [] := by
  rw [List.eq_nil_iff_forall_not_mem]
  intro bgpvpn mem
  obtain ⟨record, own, _⟩ := Inventory.mem_direct.mp mem
  have direct : bgpvpn ∈ inventory.direct networkId .nothing :=
    Inventory.mem_direct.mpr ⟨record, own, rfl⟩
  rw [free] at direct
  cases direct

/-- On a contested network, the first claimant is what the network has to carry.  The sweep and the
hooks of what leaves settle the network on it and warn.  The hooks that announce a BGPVPN write that
one, whichever it is among the claimants, and never warn. -/
theorem contention_flagged_by_resolution {site : Site} {networkId : String}
    {first second : Bgpvpn} {others : List Bgpvpn}
    (free : site.inventory.direct networkId .nothing = [])
    (contested : site.inventory.claimants networkId .nothing = first :: second :: others) :
    ((effective networkId .nothing).play Site.deployment site).result = .ok (some first) ∧
    (∀ event owner, Announces site.inventory event owner →
      let outcome := (delivery naming event).play Site.deployment site
      (∀ line ∈ outcome.lines, ¬IsContention line) ∧
      ∀ transaction ∈ outcome.transactions, transaction.name = naming.logicalName networkId →
        Assignment.IsSettledBy naming ⟨networkId, owner⟩ transaction ∧
        (outcome.result = .ok () →
          Assignment.IsSettled naming ⟨networkId, owner⟩ outcome.state.switches.switches)) ∧
    (contentionLine first (second :: others) ∈ ((sweep naming).play Site.deployment site).lines ∧
      (first.vni ≠ none → Assignment.IsSettled naming ⟨networkId, some first⟩
        ((sweep naming).play Site.deployment site).state.switches.switches)) ∧
    ∀ event departing, Rederives site.inventory event departing networkId →
      ∀ first' second' others',
        site.inventory.claimants networkId departing = first' :: second' :: others' →
        let outcome := (delivery naming event).play Site.deployment site
        outcome.result = .ok () →
        contentionLine first' (second' :: others') ∈ outcome.lines ∧
          Assignment.IsSettled naming ⟨networkId, some first'⟩ outcome.state.switches.switches := by
  refine ⟨?_, ?_, ⟨?_, ?_⟩, ?_⟩
  · rw [effective_play, owner_of_contested free contested]
  · intro event owner announces
    exact announcement_unflagged naming announces networkId
  · exact mem_lines_sweep naming free contested
  · exact isSettled_sweep naming free contested
  · intro event departing rederives first' second' others' contested' outcome handled
    exact rederives.flagged naming (direct_departing_eq_nil free departing) contested' handled

def contestedSite : Site where
  inventory := (((Inventory.attach {} "r1" "n1" "s1").attach "r2" "n1" "s2").putBgpvpn
    { id := "a", vpnType := "l3", vni := some 100, routers := ["r1"] }).putBgpvpn
    { id := "b", vpnType := "l3", vni := some 200, routers := ["r2"] }
  switches := Memory.add {} "neutron-n1" "uuid-1"

/-- The association of the second router is announced, the network is swept, and an association that
does not matter is removed. -/
theorem contention_flagged_by_resolution_contestedSite :
    let first : Bgpvpn := { id := "a", vpnType := "l3", vni := some 100, routers := ["r1"] }
    let second : Bgpvpn := { id := "b", vpnType := "l3", vni := some 200, routers := ["r2"] }
    let announcement := (delivery {}
      (.routerAssociationCreate .postcommit { bgpvpnId := "b", routerId := "r2" })).play
        Site.deployment contestedSite
    let removal := (delivery {}
      (.networkAssociationDelete .precommit { bgpvpnId := "c", networkId := "n1" })).play
        Site.deployment contestedSite
    let swept := (sweep {}).play Site.deployment contestedSite
    announcement.result = .ok () ∧ (∀ line ∈ announcement.lines, ¬IsContention line) ∧
    (∃ transaction ∈ announcement.transactions,
      Assignment.IsSettledBy {} ⟨"n1", some second⟩ transaction) ∧
    Assignment.IsSettled {} ⟨"n1", some second⟩ announcement.state.switches.switches ∧
    contentionLine first [second] ∈ swept.lines ∧
    Assignment.IsSettled {} ⟨"n1", some first⟩ swept.state.switches.switches ∧
    contentionLine first [second] ∈ removal.lines ∧
    Assignment.IsSettled {} ⟨"n1", some first⟩ removal.state.switches.switches := by
  intro first second announcement removal swept
  have free : contestedSite.inventory.direct "n1" .nothing = [] := by decide
  have contested : contestedSite.inventory.claimants "n1" .nothing = [first, second] := by decide
  have contested' : contestedSite.inventory.claimants "n1" (.networkAssociation "c" "n1") =
      [first, second] := by decide
  have handled : announcement.result = .ok () := by decide +kernel
  have handled' : removal.result = .ok () := by decide
  have named : announcement.transactions.map Transaction.name = ["neutron-n1"] := by
    decide +kernel
  obtain ⟨_, announced, ⟨warned, settled⟩, rederived⟩ :=
    contention_flagged_by_resolution {} free contested
  obtain ⟨silent, written⟩ := announced _ _
    (.association { bgpvpnId := "b", routerId := "r2" })
  obtain ⟨transaction, attempted, here⟩ := List.mem_map.mp (named ▸ List.mem_singleton_self _)
  obtain ⟨settles, carried⟩ := written transaction attempted here
  obtain ⟨warned', settled'⟩ := rederived _ _
    (.removal (.networkAssociation { bgpvpnId := "c", networkId := "n1" })
      (List.mem_singleton_self _)) first second [] contested' handled'
  subst announcement removal swept
  exact ⟨handled, silent, ⟨transaction, attempted, settles⟩, carried handled, warned,
    settled (by decide), warned', settled'⟩

/-- The hook that announces the second router's BGPVPN writes that one without a word, although the
network has to carry the first one. -/
theorem contention_unflagged_by_announcement :
    let first : Bgpvpn := { id := "a", vpnType := "l3", vni := some 100, routers := ["r1"] }
    let second : Bgpvpn := { id := "b", vpnType := "l3", vni := some 200, routers := ["r2"] }
    let outcome := (delivery {}
      (.routerAssociationCreate .postcommit { bgpvpnId := "b", routerId := "r2" })).play
        Site.deployment contestedSite
    contestedSite.inventory.direct "n1" .nothing = [] ∧
    contestedSite.inventory.claimants "n1" .nothing = [first, second] ∧
    ((routerDerived "n1" .nothing).play Site.deployment contestedSite).result =
      .ok (some first) ∧
    outcome.result = .ok () ∧
    outcome.transactions.map Transaction.name = ["neutron-n1"] ∧
    Assignment.IsSettled {} ⟨"n1", some second⟩ outcome.state.switches.switches ∧
    ¬Assignment.IsSettled {} ⟨"n1", some first⟩ outcome.state.switches.switches ∧
    outcome.lines = [] := by
  intro first second outcome
  exact ⟨by decide, by decide, by decide, by decide +kernel, by decide +kernel,
    by decide +kernel, by decide +kernel, by decide +kernel⟩

end EvpnMetadata.Reconcile
