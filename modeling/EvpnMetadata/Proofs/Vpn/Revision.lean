import EvpnMetadata.Proofs.FiniteMap
import EvpnMetadata.Switch.Advertisement
import EvpnMetadata.Vpn.Admission

/-! # Laws of revisions

A revision moves exactly the fields on which its records differ.  A cosmetic one moves none that is
published, so the same attributes are published before and after it.
-/

namespace EvpnMetadata.Vpn

open Switch

namespace Bgpvpn

theorem nodup_setFields (bgpvpn : Bgpvpn) : (bgpvpn.setFields.map Prod.fst).Nodup := by
  rw [setFields]
  cases bgpvpn.vni <;> cases bgpvpn.localPref <;> simp

theorem get?_fieldMap (bgpvpn : Bgpvpn) (key : String) :
    bgpvpn.fieldMap.get? key = FiniteMap.lookupEntry key bgpvpn.setFields :=
  FiniteMap.get?_ofList bgpvpn.nodup_setFields key

/-- The fields as they are written; only a VNI and a local preference can be missing. -/
theorem get?_fieldMap_named (bgpvpn : Bgpvpn) :
    bgpvpn.fieldMap.get? "id" = some (.text bgpvpn.id) ∧
    bgpvpn.fieldMap.get? "name" = some (.text bgpvpn.name) ∧
    bgpvpn.fieldMap.get? "type" = some (.text bgpvpn.vpnType) ∧
    bgpvpn.fieldMap.get? "vni" = bgpvpn.vni.map .number ∧
    bgpvpn.fieldMap.get? "route_targets" = some (.texts bgpvpn.routeTargets) ∧
    bgpvpn.fieldMap.get? "import_targets" = some (.texts bgpvpn.importTargets) ∧
    bgpvpn.fieldMap.get? "export_targets" = some (.texts bgpvpn.exportTargets) ∧
    bgpvpn.fieldMap.get? "route_distinguishers" = some (.texts bgpvpn.routeDistinguishers) ∧
    bgpvpn.fieldMap.get? "local_pref" = bgpvpn.localPref.map .number ∧
    bgpvpn.fieldMap.get? "networks" = some (.texts bgpvpn.networks) ∧
    bgpvpn.fieldMap.get? "routers" = some (.texts bgpvpn.routers) ∧
    bgpvpn.fieldMap.get? "ports" = some (.texts bgpvpn.ports) ∧
    bgpvpn.fieldMap.get? "project_id" = some (.text bgpvpn.projectId) ∧
    bgpvpn.fieldMap.get? "tenant_id" = some (.text bgpvpn.tenantId) := by
  simp only [get?_fieldMap, setFields]
  cases bgpvpn.vni <;> cases bgpvpn.localPref <;> simp [FiniteMap.lookupEntry]

theorem get?_fieldMap_unnamed (bgpvpn : Bgpvpn) {key : String} (unnamed : key ∉ fieldNames) :
    bgpvpn.fieldMap.get? key = none := by
  have named : bgpvpn.setFields.map Prod.fst ⊆ fieldNames := by
    rw [setFields]
    cases bgpvpn.vni <;> cases bgpvpn.localPref <;> simp [fieldNames]
  rw [get?_fieldMap, FiniteMap.lookupEntry_eq_none_iff]
  exact fun mem => unnamed (named mem)

end Bgpvpn

namespace Revision

/-- The records do not agree on the field of a written name. -/
def Differs (revision : Revision) (key : String) : Prop :=
  (key = "id" ∧ revision.old.id ≠ revision.new.id) ∨
  (key = "name" ∧ revision.old.name ≠ revision.new.name) ∨
  (key = "type" ∧ revision.old.vpnType ≠ revision.new.vpnType) ∨
  (key = "vni" ∧ revision.old.vni ≠ revision.new.vni) ∨
  (key = "route_targets" ∧ revision.old.routeTargets ≠ revision.new.routeTargets) ∨
  (key = "import_targets" ∧ revision.old.importTargets ≠ revision.new.importTargets) ∨
  (key = "export_targets" ∧ revision.old.exportTargets ≠ revision.new.exportTargets) ∨
  (key = "route_distinguishers" ∧
    revision.old.routeDistinguishers ≠ revision.new.routeDistinguishers) ∨
  (key = "local_pref" ∧ revision.old.localPref ≠ revision.new.localPref) ∨
  (key = "networks" ∧ revision.old.networks ≠ revision.new.networks) ∨
  (key = "routers" ∧ revision.old.routers ≠ revision.new.routers) ∨
  (key = "ports" ∧ revision.old.ports ≠ revision.new.ports) ∨
  (key = "project_id" ∧ revision.old.projectId ≠ revision.new.projectId) ∨
  (key = "tenant_id" ∧ revision.old.tenantId ≠ revision.new.tenantId)

variable {revision : Revision} {key : String}

theorem mem_fieldNames_of_differs (differs : revision.Differs key) : key ∈ Bgpvpn.fieldNames := by
  rcases differs with
    ⟨rfl, -⟩ | ⟨rfl, -⟩ | ⟨rfl, -⟩ | ⟨rfl, -⟩ | ⟨rfl, -⟩ | ⟨rfl, -⟩ | ⟨rfl, -⟩ | ⟨rfl, -⟩ |
    ⟨rfl, -⟩ | ⟨rfl, -⟩ | ⟨rfl, -⟩ | ⟨rfl, -⟩ | ⟨rfl, -⟩ | ⟨rfl, -⟩ <;>
  decide

/-- The written fields tell records apart exactly where the records differ. -/
theorem get?_fieldMap_ne_iff :
    revision.old.fieldMap.get? key ≠ revision.new.fieldMap.get? key ↔ revision.Differs key := by
  have numbers (first second : Option UInt32) :
      first.map Bgpvpn.Field.number = second.map .number ↔ first = second :=
    (Option.map_injective fun _ _ same => Bgpvpn.Field.number.inj same).eq_iff
  by_cases named : key ∈ Bgpvpn.fieldNames
  · have old := revision.old.get?_fieldMap_named
    have new := revision.new.get?_fieldMap_named
    simp only [Bgpvpn.fieldNames, List.mem_cons, List.not_mem_nil, or_false] at named
    rcases named with
      rfl | rfl | rfl | rfl | rfl | rfl | rfl | rfl | rfl | rfl | rfl | rfl | rfl | rfl <;>
    simp [Differs, old, new, numbers]
  · rw [revision.old.get?_fieldMap_unnamed named, revision.new.get?_fieldMap_unnamed named]
    exact iff_of_false (fun differ => differ rfl) fun differs =>
      named (mem_fieldNames_of_differs differs)

theorem mem_removed : key ∈ revision.removed ↔
    (∃ value, revision.old.fieldMap.get? key = some value) ∧
      revision.new.fieldMap.get? key = none := by
  rw [removed, FiniteMap.mem_keys_filter, FiniteMap.contains]
  cases revision.new.fieldMap.get? key <;> simp

theorem mem_changed : key ∈ revision.changed ↔
    ∃ before after, revision.old.fieldMap.get? key = some before ∧
      revision.new.fieldMap.get? key = some after ∧ before ≠ after := by
  rw [changed, FiniteMap.mem_keys_filter]
  cases revision.old.fieldMap.get? key <;> simp

/-- What is added on the way forth is removed on the way back. -/
theorem added_swap (old new : Bgpvpn) :
    (Revision.mk new old).added = (Revision.mk old new).removed := rfl

theorem mem_added : key ∈ revision.added ↔
    (∃ value, revision.new.fieldMap.get? key = some value) ∧
      revision.old.fieldMap.get? key = none := by
  change key ∈ (Revision.mk revision.new revision.old).removed ↔ _
  exact mem_removed

theorem changed_swap (old new : Bgpvpn) :
    (Revision.mk new old).changed = (Revision.mk old new).changed := by
  apply FiniteMap.keys_eq_of_mem_iff
  intro key
  change key ∈ (Revision.mk new old).changed ↔ key ∈ (Revision.mk old new).changed
  rw [mem_changed, mem_changed]
  constructor <;> rintro ⟨before, after, found, left, differ⟩ <;>
    exact ⟨after, before, left, found, differ.symm⟩

/-- Only a VNI or a local preference can be in one record and not in the other. -/
theorem mem_removed_iff : key ∈ revision.removed ↔
    (key = "vni" ∧ revision.old.vni ≠ none ∧ revision.new.vni = none) ∨
    (key = "local_pref" ∧ revision.old.localPref ≠ none ∧ revision.new.localPref = none) := by
  have old := revision.old.get?_fieldMap_named
  have new := revision.new.get?_fieldMap_named
  rw [mem_removed]
  by_cases named : key ∈ Bgpvpn.fieldNames
  · simp only [Bgpvpn.fieldNames, List.mem_cons, List.not_mem_nil, or_false] at named
    rcases named with
      rfl | rfl | rfl | rfl | rfl | rfl | rfl | rfl | rfl | rfl | rfl | rfl | rfl | rfl <;>
    simp [old, new, Option.ne_none_iff_exists']
  · rw [revision.old.get?_fieldMap_unnamed named]
    constructor
    · rintro ⟨⟨value, found⟩, -⟩
      cases found
    · rintro (⟨rfl, -⟩ | ⟨rfl, -⟩) <;> exact absurd (by decide) named

theorem mem_added_iff : key ∈ revision.added ↔
    (key = "vni" ∧ revision.old.vni = none ∧ revision.new.vni ≠ none) ∨
    (key = "local_pref" ∧ revision.old.localPref = none ∧ revision.new.localPref ≠ none) := by
  change key ∈ (Revision.mk revision.new revision.old).removed ↔ _
  rw [mem_removed_iff, and_comm (a := revision.new.vni ≠ none),
    and_comm (a := revision.new.localPref ≠ none)]

theorem mem_moving :
    key ∈ revision.moving ↔
      key ∈ revision.added ∨ key ∈ revision.removed ∨ key ∈ revision.changed := by
  rw [moving, FiniteMap.mem_keys_ofKeys, List.mem_append, List.mem_append, or_assoc]

theorem mem_moving_iff : key ∈ revision.moving ↔ revision.Differs key := by
  rw [← get?_fieldMap_ne_iff, mem_moving, mem_added, mem_removed, mem_changed]
  cases revision.old.fieldMap.get? key <;> cases revision.new.fieldMap.get? key <;> simp

theorem disjoint_added_removed : revision.added.Disjoint revision.removed := by
  intro key added removed
  obtain ⟨⟨value, found⟩, -⟩ := mem_added.mp added
  rw [(mem_removed.mp removed).2] at found
  cases found

theorem disjoint_removed_changed : revision.removed.Disjoint revision.changed := by
  intro key removed changed
  obtain ⟨before, after, -, found, -⟩ := mem_changed.mp changed
  rw [(mem_removed.mp removed).2] at found
  cases found

theorem disjoint_added_changed : revision.added.Disjoint revision.changed := by
  intro key added changed
  obtain ⟨before, after, found, -⟩ := mem_changed.mp changed
  rw [(mem_added.mp added).2] at found
  cases found

theorem isCosmetic_iff_descriptive :
    revision.isCosmetic = true ↔ ∀ key, revision.Differs key → key ∈ descriptive := by
  rw [isCosmetic, List.isEmpty_iff, significant, List.filter_eq_nil_iff]
  simp [mem_moving_iff]

/-- A cosmetic revision gives a record another description and nothing else. -/
theorem isCosmetic_iff : revision.isCosmetic = true ↔
    revision.new = { revision.old with
      name := revision.new.name
      projectId := revision.new.projectId
      tenantId := revision.new.tenantId } := by
  obtain ⟨old, new⟩ := revision
  obtain ⟨id, name, vpnType, vni, routeTargets, importTargets, exportTargets, routeDistinguishers,
    localPref, networks, routers, ports, projectId, tenantId⟩ := new
  rw [isCosmetic_iff_descriptive]
  simp only [Differs, descriptive, Bgpvpn.mk.injEq, or_imp, forall_and, and_imp, forall_eq]
  simp [eq_comm]

/-- After a cosmetic revision the switches may stay as they are. -/
theorem ofBgpvpn_of_isCosmetic (cosmetic : revision.isCosmetic = true) :
    Bag.ofBgpvpn revision.new = Bag.ofBgpvpn revision.old := by
  rw [isCosmetic_iff.mp cosmetic]
  rfl

theorem associations_of_isCosmetic (cosmetic : revision.isCosmetic = true) :
    revision.old.networks = revision.new.networks ∧
      revision.old.routers = revision.new.routers := by
  rw [isCosmetic_iff.mp cosmetic]
  exact ⟨rfl, rfl⟩

end Revision

end EvpnMetadata.Vpn
