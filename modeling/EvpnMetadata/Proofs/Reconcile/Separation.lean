import EvpnMetadata.Proofs.Reconcile.Calls
import EvpnMetadata.Proofs.Reconcile.Operation
import EvpnMetadata.Proofs.Reconcile.Restoration

/-! # Networks do not disturb each other

While every BGPVPN has a VNI and no transaction is aborted, what an event or a sweep leaves of a row
depends on the topology and on the row alone.  Which other switches there are, and what they carry,
shows neither on the row nor in how the event ends.
-/

namespace EvpnMetadata.Reconcile

open Vpn EvpnMetadata.Topology Switch Lifecycle

variable (naming : Naming)

def settledRow (assignments : List Assignment) (name : String) (entry : Entry) : Entry :=
  assignments.foldl (fun entry assignment =>
    if name = naming.logicalName assignment.networkId then settledEntry assignment.owner entry
    else entry) entry

theorem get?_effects_eq_map (assignments : List Assignment) (switches : Switches) (name : String) :
    (effects naming assignments switches).get? name =
      (switches.get? name).map (settledRow naming assignments name) := by
  induction assignments generalizing switches with
  | nil => exact Option.map_id'.symm
  | cons assignment rest ih =>
    apply (ih (assignment.effect naming switches)).trans
    rw [Assignment.get?_effect]
    cases switches.get? name with
    | none => simp
    | some entry =>
      by_cases here : name = naming.logicalName assignment.networkId <;> simp [settledRow, here]

variable {inventory : Inventory} {event : Event}

theorem get?_delivery (recorded : ∀ bgpvpn ∈ inventory.bgpvpns, bgpvpn.vni ≠ none)
    (carried : ∀ bgpvpn ∈ event.snapshots, bgpvpn.vni ≠ none) (switches : Memory) (name : String) :
    let outcome := (delivery naming event).play Site.deployment ⟨inventory, switches⟩
    outcome.result = (inventory.agenda event).ending ∧
      outcome.state.switches.switches.get? name = (switches.switches.get? name).map
        (settledRow naming (inventory.agenda event).assignments name) := by
  intro outcome
  obtain ⟨ended, _, after⟩ := delivers_publishable naming event ⟨inventory, switches⟩
    fun assignment listed => (Inventory.calls_of_mem listed).publishable recorded carried
  refine ⟨ended, ?_⟩
  rw [show outcome.state.switches.switches = _ from after]
  exact get?_effects_eq_map naming _ _ name

/-- Two stores that agree on a row agree on it after an event, which ends alike on both, and after a
sweep, however they differ otherwise. -/
theorem networks_independent (naming : Naming) {inventory : Inventory} {event : Event}
    (recorded : ∀ bgpvpn ∈ inventory.bgpvpns, bgpvpn.vni ≠ none)
    (carried : ∀ bgpvpn ∈ event.snapshots, bgpvpn.vni ≠ none) {first second : Memory}
    {name : String} (agree : first.switches.get? name = second.switches.get? name) :
    let handled (switches : Memory) :=
      (delivery naming event).play Site.deployment ⟨inventory, switches⟩
    let swept (switches : Memory) := (sweep naming).play Site.deployment ⟨inventory, switches⟩
    ((handled first).result = (handled second).result ∧
      (handled first).state.switches.switches.get? name =
        (handled second).state.switches.switches.get? name) ∧
    (∃ report other, (swept first).result = .ok report ∧ (swept second).result = .ok other) ∧
    (swept first).state.switches.switches.get? name =
      (swept second).state.switches.switches.get? name := by
  intro handled swept
  obtain ⟨ended, left⟩ := get?_delivery naming recorded carried first name
  obtain ⟨ended', left'⟩ := get?_delivery naming recorded carried second name
  have reports (switches : Memory) : ∃ report, (swept switches).result = .ok report := by
    obtain ⟨_, _, _, _, ended, _⟩ :=
      sweep_sweeps naming inventory Deployment.site_reliable ⟨inventory, switches⟩ rfl
    exact ⟨_, ended⟩
  obtain ⟨report, reported⟩ := reports first
  obtain ⟨other, reported'⟩ := reports second
  refine ⟨⟨ended.trans ended'.symm, ?_⟩, ⟨report, other, reported, reported'⟩, ?_⟩
  · exact left.trans (agree ▸ left'.symm)
  · have restored := get?_sweep naming ⟨inventory, first⟩ name
    have restored' := get?_sweep naming ⟨inventory, second⟩ name
    exact restored.trans (agree ▸ restored'.symm)

def oneSwitch : Memory := Memory.add {} "neutron-n2" "uuid-2"

def bothSwitches : Memory := oneSwitch.add "neutron-n1" "uuid-1"

/-- A BGPVPN on two networks is updated where both have their switch, and where the first one lacks
it.  The second network carries the update in either case. -/
theorem networks_independent_oneSwitch :
    let old : Bgpvpn := { id := "a", vpnType := "l3", vni := some 100, networks := ["n1", "n2"] }
    let new : Bgpvpn := { old with localPref := some 200 }
    let handled (switches : Memory) :=
      (delivery {} (.bgpvpnUpdate .postcommit old new)).play Site.deployment
        ⟨Inventory.putBgpvpn {} new, switches⟩
    let swept (switches : Memory) :=
      (sweep {}).play Site.deployment ⟨Inventory.putBgpvpn {} new, switches⟩
    oneSwitch.switches.get? "neutron-n2" = bothSwitches.switches.get? "neutron-n2" ∧
    (handled oneSwitch).result = .ok () ∧ (handled bothSwitches).result = .ok () ∧
    (handled oneSwitch).state.switches.switches.get? "neutron-n2" =
      (handled bothSwitches).state.switches.switches.get? "neutron-n2" ∧
    (swept oneSwitch).state.switches.switches.get? "neutron-n2" =
      (swept bothSwitches).state.switches.switches.get? "neutron-n2" ∧
    Assignment.IsSettled {} ⟨"n2", some new⟩ (handled oneSwitch).state.switches.switches := by
  intro old new handled swept
  have agree : oneSwitch.switches.get? "neutron-n2" = bothSwitches.switches.get? "neutron-n2" := by
    decide
  have ended : (handled oneSwitch).result = .ok () := by decide +kernel
  have recorded : ∀ bgpvpn ∈ (Inventory.putBgpvpn {} new).bgpvpns, bgpvpn.vni ≠ none := by decide
  have carried : ∀ bgpvpn ∈ (Event.bgpvpnUpdate .postcommit old new).snapshots,
      bgpvpn.vni ≠ none := by decide
  obtain ⟨⟨same, left⟩, _, restored⟩ := networks_independent {} recorded carried agree
  subst handled swept
  exact ⟨agree, ended, same.symm.trans ended, left, restored, by decide +kernel⟩

end EvpnMetadata.Reconcile
