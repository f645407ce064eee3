import EvpnMetadata.Proofs.Topology.Table

/-! # Inventories as the outcome of edits

An inventory that starts empty and is edited holds four tables, and each edit is a write to each of
them.  So it holds what the history of its edits tells, in the order in which the objects arrived,
and a BGPVPN is associated with what it was joined to and not parted from since.
-/

namespace EvpnMetadata.Topology

open Vpn

inductive Link where
  | network (id : String)
  | router (id : String)
  deriving DecidableEq, Repr

namespace Link

def HeldBy (bgpvpn : Bgpvpn) : Link → Prop
  | network id => id ∈ bgpvpn.networks
  | router id => id ∈ bgpvpn.routers

def filter : Link → BgpvpnFilter
  | network id => .network id
  | router id => .router id

def join (link : Link) (bgpvpn : Bgpvpn) : Bgpvpn :=
  match link with
  | network id => if bgpvpn.hasNetwork id then bgpvpn else bgpvpn.withNetwork id
  | router id => if bgpvpn.hasRouter id then bgpvpn else bgpvpn.withRouter id

def part (link : Link) (bgpvpn : Bgpvpn) : Bgpvpn :=
  match link with
  | network id => { bgpvpn with networks := bgpvpn.networks.filter (· ≠ id) }
  | router id => { bgpvpn with routers := bgpvpn.routers.filter (· ≠ id) }

@[simp] theorem id_join (link : Link) (bgpvpn : Bgpvpn) : (link.join bgpvpn).id = bgpvpn.id := by
  cases link with
  | network id | router id =>
    rw [join]
    split_ifs <;> rfl

@[simp] theorem id_part (link : Link) (bgpvpn : Bgpvpn) : (link.part bgpvpn).id = bgpvpn.id := by
  cases link <;> rfl

variable {link other : Link} {bgpvpn : Bgpvpn}

theorem hasNetwork_iff {id : String} :
    bgpvpn.hasNetwork id = true ↔ (network id).HeldBy bgpvpn := by
  simp [Bgpvpn.hasNetwork, HeldBy]

theorem hasRouter_iff {id : String} : bgpvpn.hasRouter id = true ↔ (router id).HeldBy bgpvpn := by
  simp [Bgpvpn.hasRouter, HeldBy]

theorem join_of_heldBy (held : link.HeldBy bgpvpn) : link.join bgpvpn = bgpvpn := by
  cases link with
  | network id => rw [join, if_pos (hasNetwork_iff.mpr held)]
  | router id => rw [join, if_pos (hasRouter_iff.mpr held)]

theorem heldBy_join : link.HeldBy (other.join bgpvpn) ↔ link = other ∨ link.HeldBy bgpvpn := by
  by_cases held : other.HeldBy bgpvpn
  · rw [join_of_heldBy held]
    constructor
    · exact .inr
    · rintro (rfl | held')
      exacts [held, held']
  · cases other with
    | network id =>
      rw [join, if_neg (mt hasNetwork_iff.mp held)]
      cases link <;> simp [HeldBy, Bgpvpn.withNetwork, or_comm]
    | router id =>
      rw [join, if_neg (mt hasRouter_iff.mp held)]
      cases link <;> simp [HeldBy, Bgpvpn.withRouter, or_comm]

theorem heldBy_part : link.HeldBy (other.part bgpvpn) ↔ link ≠ other ∧ link.HeldBy bgpvpn := by
  cases other <;> cases link <;> simp [part, HeldBy, and_comm]

theorem admits_filter : link.filter.admits bgpvpn = true ↔ link.HeldBy bgpvpn := by
  cases link <;> simp [filter, BgpvpnFilter.network, BgpvpnFilter.router, BgpvpnFilter.admits,
    hasNetwork_iff, hasRouter_iff]

/-- The lists of what a BGPVPN is associated with; joining and parting list nothing twice. -/
def lists : List (Bgpvpn → List String) := [Bgpvpn.networks, Bgpvpn.routers, Bgpvpn.ports]

variable {listed : Bgpvpn → List String}

theorem nodup_join (mem : listed ∈ lists) (link : Link) (distinct : (listed bgpvpn).Nodup) :
    (listed (link.join bgpvpn)).Nodup := by
  by_cases held : link.HeldBy bgpvpn
  · rw [join_of_heldBy held]
    exact distinct
  · simp only [lists, List.mem_cons, List.not_mem_nil, or_false] at mem
    cases link with
    | network id =>
      rw [join, if_neg (mt hasNetwork_iff.mp held)]
      rcases mem with rfl | rfl | rfl
      exacts [List.nodup_append_comm.mp (List.nodup_cons.mpr ⟨held, distinct⟩), distinct, distinct]
    | router id =>
      rw [join, if_neg (mt hasRouter_iff.mp held)]
      rcases mem with rfl | rfl | rfl
      exacts [distinct, List.nodup_append_comm.mp (List.nodup_cons.mpr ⟨held, distinct⟩), distinct]

theorem nodup_part (mem : listed ∈ lists) (link : Link) (distinct : (listed bgpvpn).Nodup) :
    (listed (link.part bgpvpn)).Nodup := by
  simp only [lists, List.mem_cons, List.not_mem_nil, or_false] at mem
  rcases mem with rfl | rfl | rfl <;> cases link
  all_goals first | exact distinct | exact distinct.filter _

end Link

inductive Edit where
  | addRouter (id : String)
  | removeRouter (id : String)
  | addSubnet (id networkId : String)
  | addPort (port : Port)
  | removePort (id : String)
  | putBgpvpn (bgpvpn : Bgpvpn)
  | removeBgpvpn (id : String)
  | associateNetwork (id networkId : String)
  | dissociateNetwork (id networkId : String)
  | associateRouter (id routerId : String)
  | dissociateRouter (id routerId : String)
  deriving DecidableEq, Repr

namespace Edit

def apply (inventory : Inventory) : Edit → Inventory
  | addRouter id => inventory.addRouter id
  | removeRouter id => inventory.removeRouter id
  | addSubnet id networkId => inventory.addSubnet id networkId
  | addPort port => inventory.addPort port
  | removePort id => inventory.removePort id
  | putBgpvpn bgpvpn => inventory.putBgpvpn bgpvpn
  | removeBgpvpn id => inventory.removeBgpvpn id
  | associateNetwork id networkId => inventory.associateNetwork id networkId
  | dissociateNetwork id networkId => inventory.dissociateNetwork id networkId
  | associateRouter id routerId => inventory.associateRouter id routerId
  | dissociateRouter id routerId => inventory.dissociateRouter id routerId

def onRouters : Edit → Write Router
  | addRouter id => .store { id }
  | removeRouter id => .drop id
  | _ => .elsewhere

def onPorts : Edit → Write Port
  | addPort port => .store port
  | removePort id => .drop id
  | _ => .elsewhere

def onSubnets : Edit → Write Subnet
  | addSubnet id networkId => .store { id, networkId }
  | _ => .elsewhere

def onBgpvpns : Edit → Write Bgpvpn
  | putBgpvpn bgpvpn => .store bgpvpn
  | removeBgpvpn id => .drop id
  | associateNetwork id networkId => .amend id (Link.network networkId).join
  | dissociateNetwork id networkId => .amend id (Link.network networkId).part
  | associateRouter id routerId => .amend id (Link.router routerId).join
  | dissociateRouter id routerId => .amend id (Link.router routerId).part
  | _ => .elsewhere

def Joins (id : String) (link : Link) : Edit → Prop
  | putBgpvpn bgpvpn => id = bgpvpn.id ∧ link.HeldBy bgpvpn
  | associateNetwork other networkId => id = other ∧ link = .network networkId
  | associateRouter other routerId => id = other ∧ link = .router routerId
  | _ => False

/-- The edit undoes an association, or removes or replaces the BGPVPN without it. -/
def Parts (id : String) (link : Link) : Edit → Prop
  | putBgpvpn bgpvpn => id = bgpvpn.id ∧ ¬link.HeldBy bgpvpn
  | removeBgpvpn other => id = other
  | dissociateNetwork other networkId => id = other ∧ link = .network networkId
  | dissociateRouter other routerId => id = other ∧ link = .router routerId
  | _ => False

end Edit

/-- What a BGPVPN was associated with, and not parted from since. -/
def Associated (edits : List Edit) (id : String) (link : Link) : Prop :=
  ∃ before edit after, edits = before ++ edit :: after ∧ edit.Joins id link ∧
    ∀ later ∈ after, ¬later.Parts id link

namespace Inventory

def ofEdits (edits : List Edit) : Inventory := edits.foldl Edit.apply {}

theorem ofEdits_snoc (edits : List Edit) (edit : Edit) :
    ofEdits (edits ++ [edit]) = edit.apply (ofEdits edits) := by
  simp [ofEdits]

theorem built_ofEdits (edits : List Edit) : (ofEdits edits).Built := by
  induction edits using List.reverseRecOn with
  | nil => exact .empty
  | append_singleton edits edit ih =>
    rw [ofEdits_snoc]
    cases edit <;> constructor <;> exact ih

end Inventory

/-- Each edit is a write to one of the tables of an inventory. -/
structure Tabled (key : α → String) (on : Edit → Write α) (part : Inventory → List α) : Prop where
  empty : part {} = []
  applied : ∀ inventory edit, part (edit.apply inventory) = (on edit).apply key (part inventory)
  keeps : ∀ edit, (on edit).KeepsIds key

/-- A table holds what the edits tell of it. -/
structure Chronicled (key : α → String) (on : Edit → Write α) (part : Inventory → List α)
    (edits : List Edit) : Prop where
  distinct : ((part (.ofEdits edits)).map key).Nodup
  told : ∀ record, record ∈ part (.ofEdits edits) ↔ Told key (edits.map on) (key record) record
  arrived : ∀ id, id ∈ (part (.ofEdits edits)).map key ↔
    ∃ moment, Arrived key (edits.map on) id moment
  ordered : ((part (.ofEdits edits)).map key).Pairwise fun first second => ∀ moment later,
    Arrived key (edits.map on) first moment → Arrived key (edits.map on) second later →
      moment < later
  replaced : ∀ edit record, on edit = .store record →
    key record ∈ (part (.ofEdits edits)).map key →
      ∃ before old after, part (.ofEdits edits) = before ++ old :: after ∧
        key old = key record ∧ part (.ofEdits (edits ++ [edit])) = before ++ record :: after
  readded : ∀ removal between edit record, on removal = .drop (key record) →
    (∀ other ∈ between, ¬(on other).Stores key (key record)) → on edit = .store record →
      part (.ofEdits (edits ++ removal :: between ++ [edit])) =
        part (.ofEdits (edits ++ removal :: between)) ++ [record]

namespace Tabled

variable {key : α → String} {on : Edit → Write α} {part : Inventory → List α}

theorem ofEdits (tabled : Tabled key on part) (edits : List Edit) :
    part (.ofEdits edits) = table key (edits.map on) := by
  induction edits using List.reverseRecOn with
  | nil => exact tabled.empty
  | append_singleton edits edit ih =>
    rw [Inventory.ofEdits_snoc, tabled.applied, ih, List.map_append, List.map_singleton, table_snoc]

theorem keepsIds (tabled : Tabled key on part) (edits : List Edit) :
    ∀ write ∈ edits.map on, write.KeepsIds key := by
  simpa using fun edit _ => tabled.keeps edit

theorem chronicled (tabled : Tabled key on part) (edits : List Edit) :
    Chronicled key on part edits := by
  have keeps := tabled.keepsIds edits
  have held := tabled.ofEdits edits
  constructor
  case distinct => exact held ▸ nodup_table keeps
  case told => exact held ▸ fun record => mem_table keeps
  case arrived => exact held ▸ fun id => mem_map_table_iff_arrived keeps
  case ordered => exact held ▸ pairwise_table keeps
  case replaced =>
    intro edit record stores here
    rw [Inventory.ofEdits_snoc, tabled.applied, stores]
    exact upsert_in_place here
  case readded =>
    intro removal between edit record drops unstored stores
    rw [Inventory.ofEdits_snoc, tabled.applied, stores]
    apply upsert_of_fresh
    have keeps := tabled.keepsIds (edits ++ removal :: between)
    rw [List.map_append, List.map_cons, drops] at keeps
    rw [tabled.ofEdits, List.map_append, List.map_cons, drops]
    exact not_mem_map_table rfl (by simpa using unstored) keeps

theorem find? (tabled : Tabled key on part) (edits : List Edit) (id : String) (record : α) :
    ((part (.ofEdits edits)).find? fun other => key other = id) = some record ↔
      Told key (edits.map on) id record := by
  rw [tabled.ofEdits]
  exact find?_table (tabled.keepsIds edits)

end Tabled

theorem tabled_routers : Tabled Router.id Edit.onRouters Inventory.routers where
  empty := rfl
  applied inventory edit := by cases edit <;> rfl
  keeps edit := by cases edit <;> trivial

theorem tabled_ports : Tabled Port.id Edit.onPorts Inventory.ports where
  empty := rfl
  applied inventory edit := by cases edit <;> rfl
  keeps edit := by cases edit <;> trivial

theorem tabled_subnets : Tabled Subnet.id Edit.onSubnets Inventory.subnets where
  empty := rfl
  applied inventory edit := by cases edit <;> rfl
  keeps edit := by cases edit <;> trivial

theorem tabled_bgpvpns : Tabled Bgpvpn.id Edit.onBgpvpns Inventory.bgpvpns where
  empty := rfl
  applied inventory edit := by cases edit <;> rfl
  keeps edit := by
    cases edit with
    | associateNetwork id networkId => exact (Link.network networkId).id_join
    | dissociateNetwork id networkId => exact (Link.network networkId).id_part
    | associateRouter id routerId => exact (Link.router routerId).id_join
    | dissociateRouter id routerId => exact (Link.router routerId).id_part
    | _ => trivial

theorem associated_snoc {edits : List Edit} {edit : Edit} {id : String} {link : Link} :
    Associated (edits ++ [edit]) id link ↔
      edit.Joins id link ∨ (Associated edits id link ∧ ¬edit.Parts id link) := by
  constructor
  · rintro ⟨before, joining, after, split, joins, kept⟩
    rcases append_singleton_eq_iff.mp split with ⟨rfl, rfl, rfl⟩ | ⟨rest, rfl, rfl⟩
    · exact .inl joins
    · refine .inr ⟨⟨before, joining, rest, rfl, joins, ?_⟩, kept edit (by simp)⟩
      exact fun later mem => kept later (by simp [mem])
  · rintro (joins | ⟨⟨before, joining, after, rfl, joins, kept⟩, keeps⟩)
    · exact ⟨edits, edit, [], rfl, joins, by simp⟩
    · refine ⟨before, joining, after ++ [edit], by simp, joins, ?_⟩
      rw [List.forall_mem_append, List.forall_mem_singleton]
      exact ⟨kept, keeps⟩

/-- An edit that leaves a BGPVPN in its place leaves its associations as the edit says. -/
theorem heldBy_amended {edit : Edit} {id : String} {link : Link} {bgpvpn : Bgpvpn}
    (unstored : ¬edit.onBgpvpns.Stores Bgpvpn.id id) (undropped : ¬edit.onBgpvpns.Drops id) :
    link.HeldBy (edit.onBgpvpns.amended id bgpvpn) ↔
      edit.Joins id link ∨ (link.HeldBy bgpvpn ∧ ¬edit.Parts id link) := by
  cases edit with
  | putBgpvpn put =>
    have apart : id ≠ put.id := Ne.symm unstored
    simp [Edit.onBgpvpns, Write.amended, Edit.Joins, Edit.Parts, apart]
  | removeBgpvpn other =>
    have apart : id ≠ other := undropped
    simp [Edit.onBgpvpns, Write.amended, Edit.Joins, Edit.Parts, apart]
  | associateNetwork other networkId | associateRouter other routerId =>
    by_cases here : id = other <;>
      simp [Edit.onBgpvpns, Write.amended, Edit.Joins, Edit.Parts, here, Link.heldBy_join]
  | dissociateNetwork other networkId | dissociateRouter other routerId =>
    by_cases here : id = other <;>
      simp [Edit.onBgpvpns, Write.amended, Edit.Joins, Edit.Parts, here, Link.heldBy_part, and_comm]
  | _ => simp [Edit.onBgpvpns, Write.amended, Edit.Joins, Edit.Parts]

theorem heldBy_iff_associated {edits : List Edit} {bgpvpn : Bgpvpn} {link : Link}
    (mem : bgpvpn ∈ (Inventory.ofEdits edits).bgpvpns) :
    link.HeldBy bgpvpn ↔ Associated edits bgpvpn.id link := by
  induction edits using List.reverseRecOn generalizing bgpvpn with
  | nil => cases mem
  | append_singleton edits edit ih =>
    have distinct := (Inventory.built_ofEdits edits).keyed.bgpvpns
    rw [Inventory.ofEdits_snoc, tabled_bgpvpns.applied,
      mem_apply (tabled_bgpvpns.keeps edit) distinct] at mem
    rw [associated_snoc]
    rcases mem with stored | ⟨unstored, undropped, earlier, before, same, amended⟩
    · cases edit with
      | putBgpvpn put =>
        cases stored
        simp [Edit.Joins, Edit.Parts]
      | _ => cases stored
    · have held : link.HeldBy bgpvpn ↔
          edit.Joins bgpvpn.id link ∨ (link.HeldBy earlier ∧ ¬edit.Parts bgpvpn.id link) := by
        conv_lhs => rw [amended]
        exact heldBy_amended unstored undropped
      rw [held, ih before, same]

theorem nodup_amended {edit : Edit} {listed : Bgpvpn → List String} (mem : listed ∈ Link.lists)
    (id : String) {bgpvpn : Bgpvpn} (distinct : (listed bgpvpn).Nodup) :
    (listed (edit.onBgpvpns.amended id bgpvpn)).Nodup := by
  cases edit with
  | associateNetwork | associateRouter =>
    rw [Edit.onBgpvpns, Write.amended]
    split_ifs
    exacts [Link.nodup_join mem _ distinct, distinct]
  | dissociateNetwork | dissociateRouter =>
    rw [Edit.onBgpvpns, Write.amended]
    split_ifs
    exacts [Link.nodup_part mem _ distinct, distinct]
  | _ => exact distinct

theorem nodup_listed {edits : List Edit} {listed : Bgpvpn → List String}
    (mem : listed ∈ Link.lists)
    (stored : ∀ bgpvpn, .putBgpvpn bgpvpn ∈ edits → (listed bgpvpn).Nodup) {bgpvpn : Bgpvpn}
    (here : bgpvpn ∈ (Inventory.ofEdits edits).bgpvpns) : (listed bgpvpn).Nodup := by
  have told := ((tabled_bgpvpns.chronicled edits).told bgpvpn).mp here
  apply told.of_stored
  · intro record written _
    obtain ⟨edit, made, stores⟩ := List.mem_map.mp written
    cases edit with
    | putBgpvpn put =>
      cases stores
      exact stored record made
    | _ => cases stores
  · intro write written earlier distinct
    obtain ⟨edit, _, rfl⟩ := List.mem_map.mp written
    exact nodup_amended mem bgpvpn.id distinct

/-- An inventory is an insertion-ordered map of records with sets of associations: what it holds and
answers is what the history of its edits tells. -/
structure Faithful (edits : List Edit) : Prop where
  routers : Chronicled Router.id Edit.onRouters Inventory.routers edits
  ports : Chronicled Port.id Edit.onPorts Inventory.ports edits
  subnets : Chronicled Subnet.id Edit.onSubnets Inventory.subnets edits
  bgpvpns : Chronicled Bgpvpn.id Edit.onBgpvpns Inventory.bgpvpns edits
  router : ∀ id, ∃ found, Inventory.source.router (.ofEdits edits) id = .ok found ∧
    ∀ router, found = some router ↔ Told Router.id (edits.map Edit.onRouters) id router
  subnet : ∀ id, ∃ found, Inventory.source.subnet (.ofEdits edits) id = .ok found ∧
    ∀ subnet, found = some subnet ↔ Told Subnet.id (edits.map Edit.onSubnets) id subnet
  bgpvpn : ∀ id, ∃ found, Inventory.source.bgpvpn (.ofEdits edits) id = .ok found ∧
    ∀ bgpvpn, found = some bgpvpn ↔ Told Bgpvpn.id (edits.map Edit.onBgpvpns) id bgpvpn
  portsListed : ∀ filter, Inventory.source.ports (.ofEdits edits) filter =
    .ok ((Inventory.ofEdits edits).ports.filter filter.admits)
  bgpvpnsListed : Inventory.source.bgpvpns (.ofEdits edits) .all =
    .ok (Inventory.ofEdits edits).bgpvpns
  associated : ∀ link : Link, ∃ listed,
    Inventory.source.bgpvpns (.ofEdits edits) link.filter = .ok listed ∧
      listed.Sublist (Inventory.ofEdits edits).bgpvpns ∧ ∀ bgpvpn, bgpvpn ∈ listed ↔
        bgpvpn ∈ (Inventory.ofEdits edits).bgpvpns ∧ Associated edits bgpvpn.id link
  nothingTwice : ∀ listed ∈ Link.lists,
    (∀ bgpvpn, .putBgpvpn bgpvpn ∈ edits → (listed bgpvpn).Nodup) →
      ∀ bgpvpn ∈ (Inventory.ofEdits edits).bgpvpns, (listed bgpvpn).Nodup

theorem faithful_ofEdits (edits : List Edit) : Faithful edits where
  routers := tabled_routers.chronicled edits
  ports := tabled_ports.chronicled edits
  subnets := tabled_subnets.chronicled edits
  bgpvpns := tabled_bgpvpns.chronicled edits
  router id := ⟨_, rfl, tabled_routers.find? edits id⟩
  subnet id := ⟨_, rfl, tabled_subnets.find? edits id⟩
  bgpvpn id := ⟨_, rfl, tabled_bgpvpns.find? edits id⟩
  portsListed _ := rfl
  bgpvpnsListed := by simp [Inventory.source, BgpvpnFilter.admits]
  associated link := by
    refine ⟨_, rfl, List.filter_sublist, fun bgpvpn => ?_⟩
    rw [List.mem_filter, Link.admits_filter]
    exact and_congr_right heldBy_iff_associated
  nothingTwice listed mem stored bgpvpn here := nodup_listed mem stored here

/-- A network that is joined twice is listed once, and an object that went and came back is last. -/
theorem faithful_rejoined :
    let edits : List Edit := [.putBgpvpn { id := "v2", vpnType := "l3" },
      .putBgpvpn { id := "v1", vpnType := "l3" }, .associateNetwork "v1" "n1",
      .associateNetwork "v1" "n1", .removeBgpvpn "v2", .putBgpvpn { id := "v2", vpnType := "l3" }]
    (Inventory.ofEdits edits).bgpvpns.map (fun bgpvpn => (bgpvpn.id, bgpvpn.networks)) =
        [("v1", ["n1"]), ("v2", [])] ∧
      ∀ bgpvpn ∈ (Inventory.ofEdits edits).bgpvpns, bgpvpn.networks.Nodup := by
  refine ⟨by decide, (faithful_ofEdits _).nothingTwice _ List.mem_cons_self fun bgpvpn mem => ?_⟩
  simp only [List.mem_cons, Edit.putBgpvpn.injEq, reduceCtorEq, List.not_mem_nil, false_or,
    or_false] at mem
  rcases mem with rfl | rfl | rfl <;> exact .nil

end EvpnMetadata.Topology
