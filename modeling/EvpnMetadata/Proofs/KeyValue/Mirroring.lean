import EvpnMetadata.KeyValue.TopologyTables
import EvpnMetadata.Proofs.FiniteMap
import EvpnMetadata.Proofs.Json.TextList
import EvpnMetadata.Proofs.KeyValue.Glob
import EvpnMetadata.Proofs.Topology.Records

/-! # Databases that mirror records

A table mirrors records if its keys are those of the records and each hash shows its record, in any
of the ways in which fields may be written.  Every question about the table is then answered from
the records, and a listing has them in the order of their ids.
-/

namespace EvpnMetadata.KeyValue.TopologyTables

open Vpn EvpnMetadata.Topology

def ShowsText (fields : Hash) (name value : String) : Prop := fields.get? name = some value

/-- A list field is a JSON array; that of an empty list may be empty or left out. -/
inductive ShowsTexts (fields : Hash) (name : String) : List String → Prop where
  | absent (missing : fields.get? name = none) : ShowsTexts fields name []
  | blank (empty : fields.get? name = some "") : ShowsTexts fields name []
  | written {raw : String} {items : List String} (there : fields.get? name = some raw)
    (isList : Json.IsListText raw items) : ShowsTexts fields name items

/-- A number field is a decimal; that of an unset number is empty or left out. -/
inductive ShowsNumber (fields : Hash) (name : String) : Option UInt32 → Prop where
  | absent (missing : fields.get? name = none) : ShowsNumber fields name none
  | blank (empty : fields.get? name = some "") : ShowsNumber fields name none
  | written {raw : String} {n : UInt32} (there : fields.get? name = some raw)
    (spells : Text.Decimal.Spells raw n.toNat) : ShowsNumber fields name (some n)

variable {fields : Hash} {name value : String}

theorem text_of_get? (found : fields.get? name = some value) : text fields name = value := by
  rw [text, FiniteMap.getD, found, Option.getD_some]

theorem text_of_missing (missing : fields.get? name = none) : text fields name = "" := by
  rw [text, FiniteMap.getD, missing, Option.getD_none]

theorem ShowsText.isEmpty_eq_false (shows : ShowsText fields name value) :
    fields.isEmpty = false := by
  cases empty : fields.isEmpty with
  | false => rfl
  | true =>
    have none : fields = .empty := FiniteMap.ext (List.isEmpty_iff.mp empty)
    rw [ShowsText, none] at shows
    cases shows

theorem ShowsTexts.texts {items : List String} (shows : ShowsTexts fields name items) :
    texts fields name = .ok items := by
  cases shows with
  | absent missing => rw [TopologyTables.texts, text_of_missing missing]; rfl
  | blank empty => rw [TopologyTables.texts, text_of_get? empty]; rfl
  | written there isList =>
    simp only [TopologyTables.texts, text_of_get? there, isList.isEmpty_eq_false,
      isList.readTexts?]
    rfl

theorem ShowsNumber.number {number : Option UInt32} (shows : ShowsNumber fields name number) :
    TopologyTables.number fields name = .ok number := by
  cases shows with
  | absent missing => rw [TopologyTables.number, text_of_missing missing]; rfl
  | blank empty => rw [TopologyTables.number, text_of_get? empty]; rfl
  | written there spells =>
    simp only [TopologyTables.number, text_of_get? there, spells.isEmpty_eq_false,
      spells.readUInt32]
    rfl

structure ShowsRouter (fields : Hash) (router : Router) : Prop where
  name : ShowsText fields "name" router.name

structure ShowsSubnet (fields : Hash) (subnet : Subnet) : Prop where
  networkId : ShowsText fields "network_id" subnet.networkId

structure ShowsPort (fields : Hash) (port : Port) : Prop where
  networkId : ShowsText fields "network_id" port.networkId
  deviceId : ShowsText fields "device_id" port.deviceId
  deviceOwner : ShowsText fields "device_owner" port.deviceOwner
  subnetIds : ShowsTexts fields "subnet_ids" port.subnetIds

structure ShowsBgpvpn (fields : Hash) (bgpvpn : Bgpvpn) : Prop where
  name : ShowsText fields "name" bgpvpn.name
  vpnType : ShowsText fields "type" bgpvpn.vpnType
  vni : ShowsNumber fields "vni" bgpvpn.vni
  routeTargets : ShowsTexts fields "route_targets" bgpvpn.routeTargets
  importTargets : ShowsTexts fields "import_targets" bgpvpn.importTargets
  exportTargets : ShowsTexts fields "export_targets" bgpvpn.exportTargets
  routeDistinguishers : ShowsTexts fields "route_distinguishers" bgpvpn.routeDistinguishers
  localPref : ShowsNumber fields "local_pref" bgpvpn.localPref
  networks : ShowsTexts fields "networks" bgpvpn.networks
  routers : ShowsTexts fields "routers" bgpvpn.routers
  ports : ShowsTexts fields "ports" bgpvpn.ports
  projectId : ShowsText fields "project_id" bgpvpn.projectId
  tenantId : ShowsText fields "tenant_id" bgpvpn.tenantId

theorem ShowsRouter.router {router : Router} (shows : ShowsRouter fields router) :
    TopologyTables.router router.id fields = router := by
  rw [TopologyTables.router, text_of_get? shows.name]

theorem ShowsSubnet.subnet {subnet : Subnet} (shows : ShowsSubnet fields subnet) :
    TopologyTables.subnet subnet.id fields = subnet := by
  rw [TopologyTables.subnet, text_of_get? shows.networkId]

theorem ShowsPort.port {port : Port} (shows : ShowsPort fields port) :
    TopologyTables.port port.id fields = .ok port := by
  rw [TopologyTables.port, text_of_get? shows.networkId, text_of_get? shows.deviceId,
    text_of_get? shows.deviceOwner, shows.subnetIds.texts]
  rfl

theorem ShowsBgpvpn.bgpvpn {bgpvpn : Bgpvpn} (shows : ShowsBgpvpn fields bgpvpn) :
    TopologyTables.bgpvpn bgpvpn.id fields = .ok bgpvpn := by
  rw [TopologyTables.bgpvpn, text_of_get? shows.name, text_of_get? shows.vpnType,
    text_of_get? shows.projectId, text_of_get? shows.tenantId, shows.vni.number,
    shows.routeTargets.texts, shows.importTargets.texts, shows.exportTargets.texts,
    shows.routeDistinguishers.texts, shows.localPref.number, shows.networks.texts,
    shows.routers.texts, shows.ports.texts]
  rfl

/-- A kind of record: its table, what a hash has to hold to show a record, and how it is read. -/
structure Kind (α : Type) where
  table : String
  key : α → String
  Shows : Hash → α → Prop
  read : String → Hash → Except Fault α
  steady : Glob.IsSteady (table ++ "|")
  filled {fields : Hash} {record : α} : Shows fields record → fields.isEmpty = false
  reads {fields : Hash} {record : α} : Shows fields record → read (key record) fields = .ok record

def routers : Kind Router where
  table := "ROUTER"
  key := Router.id
  Shows := ShowsRouter
  read id fields := .ok (router id fields)
  steady := by decide
  filled shows := shows.name.isEmpty_eq_false
  reads shows := congrArg Except.ok shows.router

def subnets : Kind Subnet where
  table := "SUBNET"
  key := Subnet.id
  Shows := ShowsSubnet
  read id fields := .ok (subnet id fields)
  steady := by decide
  filled shows := shows.networkId.isEmpty_eq_false
  reads shows := congrArg Except.ok shows.subnet

def ports : Kind Port where
  table := "PORT"
  key := Port.id
  Shows := ShowsPort
  read := port
  steady := by decide
  filled shows := shows.networkId.isEmpty_eq_false
  reads := ShowsPort.port

def bgpvpns : Kind Bgpvpn where
  table := "BGPVPN"
  key := Bgpvpn.id
  Shows := ShowsBgpvpn
  read := bgpvpn
  steady := by decide
  filled shows := shows.name.isEmpty_eq_false
  reads := ShowsBgpvpn.bgpvpn

namespace Kind

variable {kind : Kind α} {database : Database} {records : List α}

/-- The keys of a table are those of its records, and each hash there shows its record. -/
structure Mirrors (kind : Kind α) (database : Database) (records : List α) : Prop where
  stored : ∀ record ∈ records, ∃ fields,
    database.get? (kind.table ++ "|" ++ kind.key record) = some (.hash fields) ∧
      kind.Shows fields record
  only : ∀ id value, database.get? (kind.table ++ "|" ++ id) = some value →
    id ∈ records.map kind.key

namespace Mirrors

/-- That the keys of a table are those of its records is seen from the keys of the database. -/
theorem of_keys
    (stored : ∀ record ∈ records, ∃ fields,
      database.get? (kind.table ++ "|" ++ kind.key record) = some (.hash fields) ∧
        kind.Shows fields record)
    (only : database.keys.filterMap (Text.after? (kind.table ++ "|")) ⊆ records.map kind.key) :
    kind.Mirrors database records where
  stored := stored
  only id value found :=
    only (List.mem_filterMap.mpr ⟨kind.table ++ "|" ++ id,
      (FiniteMap.mem_keys_iff _ _).mpr ⟨value, found⟩, Text.after?_append _ _⟩)

theorem fetch_of_mem (mirrors : kind.Mirrors database records) {record : α}
    (mem : record ∈ records) :
    ∃ fields, fetch database kind.table (kind.key record) = .ok (some fields) ∧
      kind.Shows fields record := by
  obtain ⟨fields, found, shown⟩ := mirrors.stored record mem
  refine ⟨fields, ?_, shown⟩
  simp [fetch, Database.hash?, found, kind.filled shown]

theorem fetch_of_not_mem (mirrors : kind.Mirrors database records) {id : String}
    (missing : id ∉ records.map kind.key) : fetch database kind.table id = .ok none := by
  cases found : database.get? (kind.table ++ "|" ++ id) with
  | none =>
    simp only [fetch, Database.hash?, found]
    rfl
  | some value => exact absurd (mirrors.only id value found) missing

theorem fetch_read (mirrors : kind.Mirrors database records) (id : String) :
    (do match ← fetch database kind.table id with
        | none => return none
        | some fields => return some (← kind.read id fields) : Except Fault (Option α)) =
      .ok (records.find? fun record => kind.key record = id) := by
  cases found : records.find? fun record => kind.key record = id with
  | some record =>
    obtain rfl : kind.key record = id := by simpa using List.find?_some found
    obtain ⟨fields, fetched, shown⟩ := mirrors.fetch_of_mem (List.mem_of_find?_eq_some found)
    rw [fetched]
    change (do return some (← kind.read (kind.key record) fields)) = _
    rw [kind.reads shown]
    rfl
  | none =>
    have missing : id ∉ records.map kind.key := fun there => by
      obtain ⟨record, mem, named⟩ := List.mem_map.mp there
      exact List.find?_eq_none.mp found record mem (decide_eq_true named)
    rw [mirrors.fetch_of_not_mem missing]
    rfl

theorem ids_eq (mirrors : kind.Mirrors database records)
    (ascending : (records.map kind.key).Pairwise (· < ·)) :
    (FiniteMap.ofKeys ((database.keysLike (kind.table ++ "|*")).filterMap
      (Text.after? (kind.table ++ "|")))).keys = records.map kind.key := by
  refine (FiniteMap.keys_ascending _).eq_of_mem_iff ascending fun id => ?_
  rw [FiniteMap.mem_keys_ofKeys, List.mem_filterMap]
  constructor
  · rintro ⟨key, listed, after⟩
    obtain rfl := (Text.after?_eq_some_iff _ _ _).mp after
    obtain ⟨value, found⟩ := (FiniteMap.mem_keys_iff _ _).mp (List.mem_filter.mp listed).1
    exact mirrors.only id value found
  · intro there
    obtain ⟨record, mem, rfl⟩ := List.mem_map.mp there
    obtain ⟨fields, found, -⟩ := mirrors.stored record mem
    refine ⟨kind.table ++ "|" ++ kind.key record, ?_, Text.after?_append _ _⟩
    rw [Database.mem_keysLike_iff kind.steady]
    exact (FiniteMap.mem_keys_iff _ _).mpr ⟨_, found⟩

theorem mapM_fetch
    (stored : ∀ record ∈ records, ∃ fields,
      fetch database kind.table (kind.key record) = .ok (some fields) ∧
        kind.Shows fields record) :
    ∃ objects : List (String × Hash),
      ((records.map kind.key).mapM fun id => do return (id, ← fetch database kind.table id)) =
        .ok (objects.map fun object => (object.1, some object.2)) ∧
      objects.mapM (fun object => kind.read object.1 object.2) = .ok records := by
  induction records with
  | nil => exact ⟨[], rfl, rfl⟩
  | cons record rest ih =>
    obtain ⟨⟨fields, fetched, shown⟩, others⟩ := List.forall_mem_cons.mp stored
    obtain ⟨objects, asked, read⟩ := ih others
    refine ⟨(kind.key record, fields) :: objects, ?_, ?_⟩
    · rw [List.map_cons, List.mapM_cons, fetched, asked]
      rfl
    · rw [List.mapM_cons, kind.reads shown, read]
      rfl

/-- The records of a table are listed in the order of their ids. -/
theorem fetchAll_read (mirrors : kind.Mirrors database records)
    (ascending : (records.map kind.key).Pairwise (· < ·)) (keep : α → Bool) :
    (do let listed ← (← fetchAll database kind.table).mapM fun object =>
          kind.read object.1 object.2
        return listed.filter keep : Except Fault (List α)) = .ok (records.filter keep) := by
  obtain ⟨objects, asked, read⟩ := mapM_fetch fun _ mem => mirrors.fetch_of_mem mem
  have kept : (objects.map fun object => (object.1, some object.2)).filterMap
      (fun object => object.2.map (object.1, ·)) = objects := by
    simp [List.filterMap_map]
  have fetched : fetchAll database kind.table = .ok objects := by
    rw [fetchAll, mirrors.ids_eq ascending, asked]
    exact congrArg Except.ok kept
  rw [fetched]
  change (do let listed ← objects.mapM fun object => kind.read object.1 object.2
             return listed.filter keep : Except Fault (List α)) = _
  rw [read]
  rfl

end Mirrors

end Kind

end EvpnMetadata.KeyValue.TopologyTables
