import EvpnMetadata.Proofs.Reconcile.Straddling

/-! # Detachments of router interfaces

The event of a detachment may come before the topology shows it or after that.  Both orders come to
the same, unless the router leaves only a part of an interface and the network has nobody else.
-/

def EvpnMetadata.Site.detach (site : EvpnMetadata.Site) (routerId : String)
    (subnet : EvpnMetadata.Vpn.Subnet) : EvpnMetadata.Site :=
  { site with inventory := site.inventory.detach routerId subnet }

namespace EvpnMetadata.Reconcile

open Vpn EvpnMetadata.Topology Switch Lifecycle

variable (naming : Naming)

theorem agenda_detachment {inventory : Inventory} {subnet : Subnet}
    (recorded : inventory.subnets.find? (fun other => other.id = subnet.id) = some subnet)
    (routerId : String) :
    inventory.agenda (.routerInterfaceDeleted routerId subnet.id) =
      { assignments := [⟨subnet.networkId,
          inventory.owner subnet.networkId (.routerInterface routerId subnet.id)⟩] } := by
  simp only [Inventory.agenda, recorded]

/-- A detachment that is handled leaves the switch settled on the owner without the interface. -/
theorem get?_detachment {site : Site} {subnet : Subnet}
    (recorded : site.inventory.subnets.find? (fun other => other.id = subnet.id) = some subnet)
    {routerId : String}
    (handled : ((delivery naming (.routerInterfaceDeleted routerId subnet.id)).play
      Site.deployment site).result = .ok ()) {entry : Entry}
    (found : site.switches.switches.get? (naming.logicalName subnet.networkId) = some entry) :
    let owner := site.inventory.owner subnet.networkId (.routerInterface routerId subnet.id)
    (∃ attributes, Bag.ofOwner owner = .ok attributes) ∧
      ((delivery naming (.routerInterfaceDeleted routerId subnet.id)).play Site.deployment
        site).state.switches.switches.get? (naming.logicalName subnet.networkId) =
          some (settledEntry owner entry) := by
  intro owner
  obtain ⟨settled, unrefused⟩ := effects_of_handled naming handled
  rw [agenda_detachment recorded] at settled unrefused
  have only := unrefused _ (List.mem_singleton_self _)
  refine ⟨Assignment.exists_attributes naming _ only found, ?_⟩
  rw [settled]
  change (Assignment.effect naming ⟨subnet.networkId, owner⟩ site.switches.switches).get? _ = _
  rw [Assignment.get?_effect, if_pos rfl, found]
  rfl

/-- An owner that publishes something never looks like nobody. -/
theorem settledEntry_none_ne {bgpvpn : Bgpvpn} {attributes : Bag}
    (good : Bag.ofOwner (some bgpvpn) = .ok attributes) (entry : Entry) :
    settledEntry none entry ≠ settledEntry (some bgpvpn) entry := by
  intro same
  have nothing : Bag.evpnPart (settledEntry none entry).bag = .empty := evpnPart_settledEntry rfl _
  rw [same, evpnPart_settledEntry good] at nothing
  have configured : attributes.isConfigured = true := Bag.isConfigured_ofBgpvpn good
  rw [nothing] at configured
  cases configured

section Detachment

variable {site : Site} {routerId : String} {subnet : Subnet}
  (recorded : site.inventory.subnets.find? (fun other => other.id = subnet.id) = some subnet)

include recorded

/-- Without an interface that straddles, the event is handled alike. -/
theorem detachment_of_whole (whole : ¬site.inventory.Straddled routerId subnet) :
    let event : Event := .routerInterfaceDeleted routerId subnet.id
    let outcome := (delivery naming event).play Site.deployment site
    let outcome' := (delivery naming event).play Site.deployment (site.detach routerId subnet)
    outcome.result = outcome'.result ∧
      outcome.state.switches.switches = outcome'.state.switches.switches := by
  refine delivery_congr naming ?_ rfl
  have owner_eq : (site.inventory.detach routerId subnet).owner subnet.networkId
      (.routerInterface routerId subnet.id) =
        site.inventory.owner subnet.networkId (.routerInterface routerId subnet.id) :=
    congrArg (Option.or _) (Inventory.derived_detach_of_whole whole)
  have recorded' : (site.inventory.detach routerId subnet).subnets.find?
      (fun other => other.id = subnet.id) = some subnet := recorded
  rw [agenda_detachment recorded, ← owner_eq]
  exact (agenda_detachment recorded' routerId).symm

variable {entry : Entry}
  (found : site.switches.switches.get? (naming.logicalName subnet.networkId) = some entry)

include found

/-- With at most one BGPVPN to claim the network, the outcomes differ where the network is cut
off. -/
theorem detachment_alike_iff (clear : site.inventory.Unambiguous subnet.networkId)
    (handled : ((delivery naming (.routerInterfaceDeleted routerId subnet.id)).play
      Site.deployment site).result = .ok ())
    (handled' : ((delivery naming (.routerInterfaceDeleted routerId subnet.id)).play
      Site.deployment (site.detach routerId subnet)).result = .ok ()) :
    ((delivery naming (.routerInterfaceDeleted routerId subnet.id)).play Site.deployment
          site).state.switches.switches.get? (naming.logicalName subnet.networkId) =
        ((delivery naming (.routerInterfaceDeleted routerId subnet.id)).play Site.deployment
          (site.detach routerId subnet)).state.switches.switches.get?
            (naming.logicalName subnet.networkId) ↔
      ¬site.inventory.CutsOff routerId subnet := by
  obtain ⟨_, left⟩ := get?_detachment naming recorded handled found
  have recorded' : (site.detach routerId subnet).inventory.subnets.find?
      (fun other => other.id = subnet.id) = some subnet := recorded
  obtain ⟨⟨attributes, good⟩, left'⟩ := get?_detachment naming recorded' handled' found
  rw [left, left', Option.some.injEq]
  constructor
  · intro same cuts
    obtain ⟨nobody, somebody⟩ := cuts.owner
    obtain ⟨bgpvpn, shown⟩ := Option.ne_none_iff_exists'.mp somebody
    change settledEntry _ _ = settledEntry ((site.inventory.detach routerId subnet).owner _ _) _
      at same
    change Bag.ofOwner ((site.inventory.detach routerId subnet).owner _ _) = _ at good
    rw [shown] at good same
    rw [nobody] at same
    exact settledEntry_none_ne good entry same
  · intro joined
    rw [← Inventory.owner_detach clear joined]
    rfl

/-- A router with an interface that stays keeps its BGPVPN on the network. -/
theorem isSettled_detachment (clear : site.inventory.Unambiguous subnet.networkId)
    (free : ∀ other, ¬site.inventory.Direct subnet.networkId other) {bgpvpn : Bgpvpn}
    (leads : site.inventory.ofRouter routerId .nothing = some bgpvpn) {port : Port}
    (stays : port ∈ site.inventory.interfacesOn subnet.networkId
      (.routerInterface routerId subnet.id)) (own : port.deviceId = routerId)
    (handled : ((delivery naming (.routerInterfaceDeleted routerId subnet.id)).play
      Site.deployment site).result = .ok ()) :
    ∃ later, ((delivery naming (.routerInterfaceDeleted routerId subnet.id)).play
        Site.deployment site).state.switches.switches.get?
          (naming.logicalName subnet.networkId) = some later ∧
      Bag.ofBgpvpn bgpvpn = .ok (Bag.evpnPart later.bag) := by
  obtain ⟨⟨attributes, good⟩, left⟩ := get?_detachment naming recorded handled found
  rw [Inventory.owner_of_stays clear free leads stays own] at good left
  refine ⟨_, left, ?_⟩
  rw [evpnPart_settledEntry good]
  exact good

end Detachment

/-- Whether the topology shows a detachment makes no difference if no interface of the router stands
on the subnet and on another one.  Where at most one BGPVPN claims the network, it makes a
difference exactly if the detachment cuts the network off, and a router with an interface that stays
keeps its BGPVPN there. -/
theorem detachment_takes_whole_interface {site : Site} {routerId : String} {subnet : Subnet}
    (recorded : site.inventory.subnets.find? (fun other => other.id = subnet.id) = some subnet) :
    let event : Event := .routerInterfaceDeleted routerId subnet.id
    let name := naming.logicalName subnet.networkId
    let outcome := (delivery naming event).play Site.deployment site
    let outcome' := (delivery naming event).play Site.deployment (site.detach routerId subnet)
    (¬site.inventory.Straddled routerId subnet → outcome.result = outcome'.result ∧
      outcome.state.switches.switches = outcome'.state.switches.switches) ∧
    ∀ entry, site.switches.switches.get? name = some entry →
      site.inventory.Unambiguous subnet.networkId → outcome.result = .ok () →
      (outcome'.result = .ok () →
        (outcome.state.switches.switches.get? name = outcome'.state.switches.switches.get? name ↔
          ¬site.inventory.CutsOff routerId subnet)) ∧
      ∀ bgpvpn, (∀ other, ¬site.inventory.Direct subnet.networkId other) →
        site.inventory.ofRouter routerId .nothing = some bgpvpn →
        ∀ port ∈ site.inventory.interfacesOn subnet.networkId
          (.routerInterface routerId subnet.id), port.deviceId = routerId →
        ∃ later, outcome.state.switches.switches.get? name = some later ∧
          Bag.ofBgpvpn bgpvpn = .ok (Bag.evpnPart later.bag) := by
  refine ⟨detachment_of_whole naming recorded, fun entry found clear handled => ⟨?_, ?_⟩⟩
  · exact detachment_alike_iff naming recorded found clear handled
  · intro bgpvpn free leads port stays own
    exact isSettled_detachment naming recorded found clear free leads stays own handled

def straddledSite : Site where
  inventory := (({ subnets := [⟨"s1", "n1"⟩, ⟨"s2", "n1"⟩] : Inventory }.addRouter "r1").addPort
    { Port.routerInterface "p" "r1" "n1" "s1" with subnetIds := ["s1", "s2"] }).putBgpvpn
    { id := "a", vpnType := "l3", vni := some 100, routers := ["r1"] }
  switches := Memory.add {} "neutron-n1" "uuid-1"

/-- With an interface on a third subnet, the router may leave the first one. -/
theorem detachment_takes_whole_interface_straddledSite :
    let site := straddledSite.withRouterInterface "r1" "n1" "s3"
    let bgpvpn : Bgpvpn := { id := "a", vpnType := "l3", vni := some 100, routers := ["r1"] }
    let event : Event := .routerInterfaceDeleted "r1" "s1"
    let outcome := (delivery {} event).play Site.deployment site
    let outcome' := (delivery {} event).play Site.deployment (site.detach "r1" ⟨"s1", "n1"⟩)
    outcome.result = .ok () ∧ outcome'.result = .ok () ∧
    site.inventory.Straddled "r1" ⟨"s1", "n1"⟩ ∧
    outcome.state.switches.switches.get? "neutron-n1" =
      outcome'.state.switches.switches.get? "neutron-n1" ∧
    ∃ later, outcome.state.switches.switches.get? "neutron-n1" = some later ∧
      Bag.ofBgpvpn bgpvpn = .ok (Bag.evpnPart later.bag) := by
  intro site bgpvpn event outcome outcome'
  have recorded : site.inventory.subnets.find? (fun other => other.id = "s1") =
      some ⟨"s1", "n1"⟩ := by decide
  have handled : outcome.result = .ok () := by decide
  have handled' : outcome'.result = .ok () := by decide
  have straddled : site.inventory.Straddled "r1" ⟨"s1", "n1"⟩ := by decide
  have only {other : Bgpvpn} (record : other ∈ site.inventory.bgpvpns) : other = bgpvpn :=
    List.mem_singleton.mp record
  have clear : site.inventory.Unambiguous "n1" :=
    ⟨fun h h' => (only h.1).trans (only h'.1).symm,
      fun _ _ _ h h' => (only h.1).trans (only h'.1).symm⟩
  have reached : site.inventory.derived "n1" (.routerInterface "r1" "s1") = some bgpvpn := by decide
  have joined : ¬site.inventory.CutsOff "r1" ⟨"s1", "n1"⟩ := by
    intro cuts
    cases reached.symm.trans cuts.alone
  have free (other : Bgpvpn) : ¬site.inventory.Direct "n1" other := by
    rintro ⟨record, own⟩
    rw [only record] at own
    cases own
  have there : (site.switches.switches.get? "neutron-n1").isSome = true := by decide
  obtain ⟨entry, found⟩ := Option.isSome_iff_exists.mp there
  obtain ⟨_, alike⟩ :=
    @detachment_takes_whole_interface {} site "r1" ⟨"s1", "n1"⟩ recorded
  obtain ⟨same, keeps⟩ := alike entry found clear handled
  subst outcome outcome'
  exact ⟨handled, handled', straddled, (same handled').mpr joined,
    keeps bgpvpn free (by decide) (Inventory.interfacePort "r1" "n1" "s3") (by decide) rfl⟩

/-- Without one, the network is cleared although the router still stands on the second subnet, and
it is not cleared if the topology shows the detachment. -/
theorem detachment_cuts_off_network :
    let subnet : Subnet := ⟨"s1", "n1"⟩
    let bgpvpn : Bgpvpn := { id := "a", vpnType := "l3", vni := some 100, routers := ["r1"] }
    let event : Event := .routerInterfaceDeleted "r1" subnet.id
    let shown := straddledSite.detach "r1" subnet
    let outcome := (delivery {} event).play Site.deployment straddledSite
    let outcome' := (delivery {} event).play Site.deployment shown
    shown.inventory.ports =
      [{ Port.routerInterface "p" "r1" "n1" "s1" with subnetIds := ["s2"] }] ∧
    outcome.result = .ok () ∧ outcome'.result = .ok () ∧
    Assignment.IsSettled {} ⟨"n1", some bgpvpn⟩ outcome'.state.switches.switches ∧
    Assignment.IsSettled {} ⟨"n1", none⟩ outcome.state.switches.switches ∧
    outcome.state.switches.switches.get? "neutron-n1" ≠
      outcome'.state.switches.switches.get? "neutron-n1" := by
  intro subnet bgpvpn event shown outcome outcome'
  exact ⟨by decide, by decide, by decide, by decide +kernel, by decide +kernel,
    by decide +kernel⟩

end EvpnMetadata.Reconcile
