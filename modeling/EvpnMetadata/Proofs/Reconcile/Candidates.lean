import EvpnMetadata.Proofs.Reconcile.Plans

/-! # Candidates for a network

Several BGPVPNs may claim one network, and events settle the network on whichever they concern.  So
what a switch carries is what one of the candidates calls for; with a single candidate it is what
the owner calls for.
-/

namespace EvpnMetadata.Topology.Inventory

open Vpn Switch Reconcile

variable (inventory : Inventory) (networkId : String)

def Direct (bgpvpn : Bgpvpn) : Prop :=
  bgpvpn ∈ inventory.bgpvpns ∧ networkId ∈ bgpvpn.networks

def Routed (bgpvpn : Bgpvpn) : Prop :=
  bgpvpn ∈ inventory.bgpvpns ∧
    ∃ routerId ∈ bgpvpn.routers, networkId ∈ inventory.connected routerId

/-- The candidates: direct ones, else those behind a router, else nobody. -/
def MayOwn : Option Bgpvpn → Prop
  | some bgpvpn => inventory.Direct networkId bgpvpn ∨
      (∀ other, ¬inventory.Direct networkId other) ∧ inventory.Routed networkId bgpvpn
  | none => (∀ other, ¬inventory.Direct networkId other) ∧
      ∀ other, ¬inventory.Routed networkId other

/-- At most one direct BGPVPN and, where there is none, at most one behind the routers. -/
structure Unambiguous : Prop where
  direct {first second : Bgpvpn} (h : inventory.Direct networkId first)
    (h' : inventory.Direct networkId second) : first = second
  routed (free : ∀ other, ¬inventory.Direct networkId other) {first second : Bgpvpn}
    (h : inventory.Routed networkId first) (h' : inventory.Routed networkId second) :
    first = second

def MayCarry (attributes : Bag) : Prop :=
  ∃ owner, inventory.MayOwn networkId owner ∧ Bag.ofOwner owner = .ok attributes

variable {inventory networkId}

theorem direct_eq_nil_iff :
    inventory.direct networkId .nothing = [] ↔ ∀ bgpvpn, ¬inventory.Direct networkId bgpvpn := by
  rw [List.eq_nil_iff_forall_not_mem]
  refine forall_congr' fun bgpvpn => not_congr ?_
  rw [mem_direct, ← and_assoc]
  exact and_iff_left rfl

theorem routed_of_derived {departing : Departing} {bgpvpn : Bgpvpn}
    (found : inventory.derived networkId departing = some bgpvpn) :
    inventory.Routed networkId bgpvpn := by
  obtain ⟨port, there, first⟩ := derived_eq_some found
  obtain ⟨listed, isInterface, on, _⟩ := mem_interfacesOn.mp there
  obtain ⟨record, own, _⟩ := ofRouter_eq_some first
  exact ⟨record, port.deviceId, own, mem_connected.mpr ⟨port, listed, isInterface, rfl, on⟩⟩

theorem not_routed_of_derived (free : inventory.derived networkId .nothing = none)
    (bgpvpn : Bgpvpn) : ¬inventory.Routed networkId bgpvpn := by
  rintro ⟨record, routerId, own, reached⟩
  obtain ⟨port, listed, isInterface, rfl, on⟩ := mem_connected.mp reached
  have there : port ∈ inventory.interfacesOn networkId .nothing :=
    mem_interfacesOn.mpr ⟨listed, isInterface, on, rfl⟩
  have nobody := List.find?_eq_none.mp (List.findSome?_eq_none_iff.mp free port there) bgpvpn record
  apply nobody
  have known : bgpvpn.hasRouter port.deviceId = true := List.contains_iff_mem.mpr own
  rw [known]
  rfl

theorem mayOwn_owner (inventory : Inventory) (networkId : String) :
    inventory.MayOwn networkId (inventory.owner networkId .nothing) := by
  rw [owner]
  cases listed : inventory.direct networkId .nothing with
  | cons first others =>
    have mem : first ∈ inventory.direct networkId .nothing := listed ▸ List.mem_cons_self
    obtain ⟨record, own, _⟩ := mem_direct.mp mem
    exact .inl ⟨record, own⟩
  | nil =>
    have free := direct_eq_nil_iff.mp listed
    rw [List.head?_nil, Option.none_or]
    cases found : inventory.derived networkId .nothing with
    | some bgpvpn => exact .inr ⟨free, routed_of_derived found⟩
    | none => exact ⟨free, not_routed_of_derived found⟩

theorem Unambiguous.eq (clear : inventory.Unambiguous networkId) {first second : Option Bgpvpn}
    (h : inventory.MayOwn networkId first) (h' : inventory.MayOwn networkId second) :
    first = second := by
  cases first with
  | none =>
    cases second with
    | none => rfl
    | some bgpvpn => exact (h'.elim (h.1 bgpvpn) fun routed => h.2 bgpvpn routed.2).elim
  | some bgpvpn =>
    cases second with
    | none => exact (h.elim (h'.1 bgpvpn) fun routed => h'.2 bgpvpn routed.2).elim
    | some other =>
      rcases h with direct | ⟨free, routed⟩ <;> rcases h' with direct' | ⟨free', routed'⟩
      · rw [clear.direct direct direct']
      · exact (free' bgpvpn direct).elim
      · exact (free other direct').elim
      · rw [clear.routed free routed routed']

/-- The claims on a network in one inventory are represented in a later one, and nobody has come or
gone in between. -/
structure Covers (later inventory : Inventory) (networkId : String) : Prop where
  direct {bgpvpn : Bgpvpn} (h : inventory.Direct networkId bgpvpn) :
    ∃ heir, later.Direct networkId heir ∧ Bag.ofBgpvpn heir = Bag.ofBgpvpn bgpvpn
  of_direct {heir : Bgpvpn} (h : later.Direct networkId heir) :
    ∃ bgpvpn, inventory.Direct networkId bgpvpn
  routed (free : ∀ other, ¬inventory.Direct networkId other) {bgpvpn : Bgpvpn}
    (h : inventory.Routed networkId bgpvpn) :
    ∃ heir, later.Routed networkId heir ∧ Bag.ofBgpvpn heir = Bag.ofBgpvpn bgpvpn
  of_routed (free : ∀ other, ¬inventory.Direct networkId other) {heir : Bgpvpn}
    (h : later.Routed networkId heir) : ∃ bgpvpn, inventory.Routed networkId bgpvpn

namespace Covers

variable {later : Inventory}

theorem mayCarry (covers : later.Covers inventory networkId) {attributes : Bag}
    (may : inventory.MayCarry networkId attributes) : later.MayCarry networkId attributes := by
  have stillFree (free : ∀ other, ¬inventory.Direct networkId other) (heir : Bgpvpn) :
      ¬later.Direct networkId heir := by
    intro direct
    obtain ⟨bgpvpn, known⟩ := covers.of_direct direct
    exact free bgpvpn known
  obtain ⟨owner, claim, called⟩ := may
  cases owner with
  | none =>
    obtain ⟨free, unreached⟩ := claim
    refine ⟨none, ⟨stillFree free, fun heir routed => ?_⟩, called⟩
    obtain ⟨bgpvpn, known⟩ := covers.of_routed free routed
    exact unreached bgpvpn known
  | some bgpvpn =>
    rcases claim with direct | ⟨free, routed⟩
    · obtain ⟨heir, claim, same⟩ := covers.direct direct
      exact ⟨some heir, .inl claim, same.trans called⟩
    · obtain ⟨heir, claim, same⟩ := covers.routed free routed
      exact ⟨some heir, .inr ⟨stillFree free, claim⟩, same.trans called⟩

theorem of_iff (direct : ∀ bgpvpn, later.Direct networkId bgpvpn ↔
      inventory.Direct networkId bgpvpn)
    (routed : (∀ other, ¬inventory.Direct networkId other) → ∀ bgpvpn,
      (later.Routed networkId bgpvpn ↔ inventory.Routed networkId bgpvpn)) :
    later.Covers inventory networkId where
  direct h := ⟨_, (direct _).mpr h, rfl⟩
  of_direct h := ⟨_, (direct _).mp h⟩
  routed free _ h := ⟨_, (routed free _).mpr h, rfl⟩
  of_routed free _ h := ⟨_, (routed free _).mp h⟩

/-- Records may be changed one by one, as long as each keeps its claim on the network, and keeps
what it publishes if the claim counts. -/
theorem of_map {change : Bgpvpn → Bgpvpn} (bgpvpns : later.bgpvpns = inventory.bgpvpns.map change)
    (ports : later.ports = inventory.ports)
    (listed : ∀ bgpvpn ∈ inventory.bgpvpns,
      (networkId ∈ (change bgpvpn).networks ↔ networkId ∈ bgpvpn.networks))
    (behind : (∀ other, ¬inventory.Direct networkId other) → ∀ bgpvpn ∈ inventory.bgpvpns,
      ∀ routerId, networkId ∈ inventory.connected routerId →
        (routerId ∈ (change bgpvpn).routers ↔ routerId ∈ bgpvpn.routers))
    (kept : ∀ bgpvpn, inventory.MayOwn networkId (some bgpvpn) →
      Bag.ofBgpvpn (change bgpvpn) = Bag.ofBgpvpn bgpvpn) :
    later.Covers inventory networkId := by
  have connected (routerId : String) : later.connected routerId = inventory.connected routerId := by
    rw [Inventory.connected, Inventory.connected, ports]
  have mem {bgpvpn : Bgpvpn} (record : bgpvpn ∈ inventory.bgpvpns) :
      change bgpvpn ∈ later.bgpvpns := bgpvpns ▸ List.mem_map_of_mem record
  have of_mem {heir : Bgpvpn} (record : heir ∈ later.bgpvpns) :
      ∃ bgpvpn ∈ inventory.bgpvpns, change bgpvpn = heir := by
    rw [bgpvpns] at record
    exact List.mem_map.mp record
  constructor
  case direct =>
    rintro bgpvpn ⟨record, own⟩
    exact ⟨change bgpvpn, ⟨mem record, (listed bgpvpn record).mpr own⟩,
      kept bgpvpn (.inl ⟨record, own⟩)⟩
  case of_direct =>
    rintro heir ⟨record, own⟩
    obtain ⟨bgpvpn, known, rfl⟩ := of_mem record
    exact ⟨bgpvpn, known, (listed bgpvpn known).mp own⟩
  case routed =>
    rintro free bgpvpn ⟨record, routerId, own, reached⟩
    refine ⟨change bgpvpn, ⟨mem record, routerId, ?_, ?_⟩,
      kept bgpvpn (.inr ⟨free, record, routerId, own, reached⟩)⟩
    · exact (behind free bgpvpn record routerId reached).mpr own
    · rw [connected]
      exact reached
  case of_routed =>
    rintro free heir ⟨record, routerId, own, reached⟩
    obtain ⟨bgpvpn, known, rfl⟩ := of_mem record
    rw [connected] at reached
    exact ⟨bgpvpn, known, routerId, (behind free bgpvpn known routerId reached).mp own, reached⟩

end Covers

/-- Assignments settle a change of the inventory: they name candidates of the later inventory, and
leave out only networks whose claims are still represented. -/
structure Settles (later inventory : Inventory) (assignments : List Assignment) : Prop where
  called {assignment : Assignment} (listed : assignment ∈ assignments) :
    ∃ owner, later.MayOwn assignment.networkId owner ∧
      Bag.ofOwner assignment.owner = Bag.ofOwner owner
  kept {networkId : String} (others : networkId ∉ assignments.map Assignment.networkId) :
    later.Covers inventory networkId

end EvpnMetadata.Topology.Inventory

namespace EvpnMetadata.Reconcile

open Vpn EvpnMetadata.Topology Switch

variable {naming : Naming} {inventory later : Inventory} {switches : Switches}

/-- Every switch carries what a candidate for its network calls for. -/
def Carries (naming : Naming) (inventory : Inventory) (switches : Switches) : Prop :=
  ∀ networkId entry, switches.get? (naming.logicalName networkId) = some entry →
    inventory.MayCarry networkId (Bag.evpnPart entry.bag)

theorem exists_ofOwner_of_mayOwn (numbered : ∀ bgpvpn ∈ inventory.bgpvpns, bgpvpn.vni ≠ none)
    {networkId : String} {owner : Option Bgpvpn} (may : inventory.MayOwn networkId owner) :
    ∃ attributes, Bag.ofOwner owner = .ok attributes := by
  cases owner with
  | none => exact ⟨_, rfl⟩
  | some bgpvpn =>
    have record : bgpvpn ∈ inventory.bgpvpns := may.elim And.left fun routed => routed.2.1
    exact (Bag.exists_ofBgpvpn_iff bgpvpn).mpr (numbered bgpvpn record)

theorem publishable_of_settles {assignments : List Assignment}
    (settles : later.Settles inventory assignments)
    (numbered : ∀ bgpvpn ∈ later.bgpvpns, bgpvpn.vni ≠ none) :
    ∀ assignment ∈ assignments, ∃ attributes, Bag.ofOwner assignment.owner = .ok attributes := by
  intro assignment listed
  obtain ⟨owner, may, same⟩ := settles.called listed
  rw [same]
  exact exists_ofOwner_of_mayOwn numbered may

/-- Settling a change of the inventory makes the switches follow it. -/
theorem Carries.settle (carries : Carries naming inventory switches) {assignments : List Assignment}
    (settles : later.Settles inventory assignments)
    (numbered : ∀ bgpvpn ∈ later.bgpvpns, bgpvpn.vni ≠ none) :
    Carries naming later (effects naming assignments switches) := by
  intro networkId entry found
  rcases effects_cases naming (publishable_of_settles settles numbered) found with
    ⟨others, untouched⟩ | ⟨assignment, listed, rfl, good⟩
  · exact (settles.kept others).mayCarry (carries networkId entry untouched)
  · obtain ⟨owner, may, same⟩ := settles.called listed
    exact ⟨owner, may, same.symm.trans good⟩

end EvpnMetadata.Reconcile
