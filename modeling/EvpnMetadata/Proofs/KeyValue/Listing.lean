import EvpnMetadata.KeyValue.Connection
import EvpnMetadata.Proofs.KeyValue.HeldSwitches
import EvpnMetadata.Proofs.Reconcile.Settlement

/-! # Published switches are listed

A publication reaches a switch by its key, while a listing asks for a pattern, and passes over names
with a separator.  So what was published shows in the listing afterwards if the table has a steady
name and the switch a proper one.
-/

namespace EvpnMetadata

open Vpn Switch

namespace KeyValue

theorem Server.lookup_place (number : Nat) (database : Database)
    (databases : List (Nat × Database)) :
    (Server.place number database databases).lookup number = some database := by
  induction databases with
  | nil => simp [place]
  | cons entry rest ih =>
    rw [place]
    split
    · simp
    · split
      · simp
      · next other =>
        rw [List.lookup_cons, beq_false_of_ne other]
        exact ih

@[simp] theorem Server.get_set (server : Server) (number : Nat) (database : Database) :
    (server.set number database).get number = database := by
  rw [get, set, lookup_place, Option.getD_some]

/-- Every key holds a hash; an empty one would have disappeared. -/
def Database.HoldsHashes (database : Database) : Prop :=
  ∀ key value, database.get? key = some value →
    ∃ fields : Hash, value = .hash fields ∧ fields.isEmpty = false

theorem Database.get?_of_hash? {database : Database} {key : String} {fields : Hash}
    (there : database.hash? key = some fields) (filled : fields.isEmpty = false) :
    database.get? key = some (.hash fields) := by
  rw [hash?] at there
  split at there
  · cases there
    cases filled
  · next found =>
    cases there
    exact found
  · cases there

namespace Database.HoldsHashes

variable {database : Database}

theorem exists_stores (hashes : database.HoldsHashes) (key : String) :
    ∃ fields, database.Stores key fields := by
  cases found : database.get? key with
  | none => exact ⟨.empty, found⟩
  | some value =>
    obtain ⟨fields, rfl, filled⟩ := hashes key value found
    exact ⟨fields, by rw [Stores, found, filled]; rfl⟩

theorem of_stores (hashes : database.HoldsHashes) {after : Database} {key : String} {fields : Hash}
    (stored : after.Stores key fields)
    (others : ∀ other, other ≠ key → after.get? other = database.get? other) :
    after.HoldsHashes := by
  intro other value found
  by_cases same : other = key
  · subst same
    rw [stored] at found
    split at found
    · cases found
    · next filled =>
      cases found
      exact ⟨fields, rfl, by simpa using filled⟩
  · rw [others other same] at found
    exact hashes other value found

end Database.HoldsHashes

namespace SwitchTable

variable (switches : SwitchTable)

theorem rowKey_ne_bagKey_self (name : String) : switches.rowKey name ≠ switches.bagKey name := by
  intro same
  have longer := congrArg String.length same
  rw [bagKey, String.length_append] at longer
  exact absurd longer (by simp)

variable {switches} {database : Database} {name : String}

theorem lookup_of_row {fields : Hash} {bag : Bag}
    (there : database.hash? (switches.rowKey name) = some fields) (filled : fields.isEmpty = false)
    (stored : database.Stores (switches.bagKey name) bag) :
    switches.lookup database name =
      .ok (some { uuid := fields.getD uuidField "", name, bag }) := by
  simp [lookup, there, filled, stored.hash?]

theorem row_of_lookup {row : Row} (looked : switches.lookup database name = .ok (some row)) :
    row.name = name ∧ ∃ fields, database.hash? (switches.rowKey name) = some fields ∧
      fields.isEmpty = false ∧ row.uuid = fields.getD uuidField "" := by
  rw [lookup] at looked
  split at looked
  · cases looked
  · next fields there =>
    split at looked
    · cases looked
    · next filled =>
      split at looked
      · cases looked
      · cases looked
        exact ⟨rfl, fields, there, by simpa using filled, rfl⟩

variable (switches) in
theorem lookup_answered (hashes : database.HoldsHashes) (name : String) :
    ∃ found, switches.lookup database name = .ok found := by
  obtain ⟨fields, row⟩ := hashes.exists_stores (switches.rowKey name)
  obtain ⟨bag, stored⟩ := hashes.exists_stores (switches.bagKey name)
  rw [lookup, row.hash?, stored.hash?]
  dsimp only
  split
  · exact ⟨_, rfl⟩
  · exact ⟨_, rfl⟩

variable (switches) in
theorem rows_answered (hashes : database.HoldsHashes) :
    ∃ rows, switches.rows database = .ok rows ∧
      ∀ row, row ∈ rows ↔
        ∃ name ∈ switches.rowNames database, switches.lookup database name = .ok (some row) := by
  have answered : ∀ name ∈ switches.rowNames database,
      ∃ found, switches.lookup database name = .ok found :=
    fun name _ => lookup_answered switches hashes name
  obtain ⟨answers, asked, mem⟩ := mapM_answered answered
  refine ⟨answers.filterMap id, by rw [rows, asked]; rfl, fun row => ?_⟩
  rw [List.mem_filterMap, ← mem]
  simp

/-- What a transaction that succeeds has done: the row stood, and its bag was changed. -/
theorem transact_of_ok {row : Row} {changes : List Change}
    (made : (switches.transact database row changes).1 = .ok ()) {bag : Bag}
    (stored : database.Stores (switches.bagKey row.name) bag) :
    let after := (switches.transact database row changes).2
    after.Stores (switches.bagKey row.name) (bag.applyAll changes) ∧
      ∀ key, key ≠ switches.bagKey row.name → after.get? key = database.get? key := by
  obtain ⟨after, ran, kept, others⟩ := switches.runCommands_eq row.name changes stored
  rw [transact, scriptArguments, runScript] at made ⊢
  split at made
  · rw [ran]
    exact ⟨kept, others⟩
  · cases made
  · cases made

end SwitchTable

end KeyValue

namespace Switch

variable {deployment : Deployment σ} {naming : Naming}

/-- A publication that says yes has read a row, and replaced what it carries for EVPN. -/
theorem publish_of_ok {networkId : String} {bgpvpn : Bgpvpn} {state : σ}
    (published : ((publish naming networkId bgpvpn).play deployment state).result = .ok true) :
    ∃ row attributes,
      deployment.store.lookup state (naming.logicalName networkId) = .ok (some row) ∧
      Bag.ofBgpvpn bgpvpn = .ok attributes ∧
      (deployment.store.transact state row (replacement attributes)).1 = .ok () ∧
      ((publish naming networkId bgpvpn).play deployment state).state =
        (deployment.store.transact state row (replacement attributes)).2 := by
  have looked : ((Attempt.lookup (naming.logicalName networkId)).play deployment state).quiet =
      { result := deployment.store.lookup state (naming.logicalName networkId), state } := rfl
  rw [← Outcome.quiet_result] at published
  rw [← Outcome.quiet_state]
  cases found : deployment.store.lookup state (naming.logicalName networkId) with
  | error fault =>
    rw [found] at looked
    rw [publish, Attempt.quiet_bind_error looked] at published
    cases published
  | ok answer =>
    rw [found] at looked
    rw [publish, Attempt.quiet_bind_ok looked] at published ⊢
    cases answer with
    | none => cases published
    | some row =>
      cases known : Bag.ofBgpvpn bgpvpn with
      | error fault =>
        rw [known] at published
        cases published
      | ok attributes =>
        have replaced := Reconcile.quiet_replaced deployment state row attributes
        refine ⟨row, attributes, rfl, rfl, ?_, congrArg Outcome.state replaced⟩
        rw [known] at published
        have result := (congrArg Outcome.result replaced).symm.trans published
        cases made : (deployment.store.transact state row (replacement attributes)).1 with
        | ok done => rfl
        | error fault =>
          rw [made] at result
          cases result

/-- The networks among the rows of a store are those whose switches are there and configured. -/
theorem configuredNetworks_of_rows (deployment : Deployment σ) (naming : Naming) (state : σ)
    {rows : List Row} (listed : deployment.store.rows state = .ok rows) :
    ∃ networks,
      ((configuredNetworks naming).play deployment state).result = .ok networks ∧
      ∀ networkId, networkId ∈ networks ↔
        ∃ row ∈ rows, Bag.isConfigured row.bag = true ∧
          row.name = naming.logicalName networkId := by
  have asked : (Attempt.rows.play deployment state).quiet = { result := .ok rows, state } := by
    change Outcome.quiet { result := deployment.store.rows state, state } = _
    rw [listed]
    rfl
  refine ⟨(rows.filter fun row => Bag.isConfigured row.bag).filterMap fun row =>
    naming.networkId? row.name, ?_, fun networkId => ?_⟩
  · rw [← Outcome.quiet_result, configuredNetworks, Attempt.quiet_bind_ok asked]
    rfl
  · simp only [List.mem_filterMap, List.mem_filter, naming.networkId?_eq_some_iff, and_assoc]

end Switch

namespace KeyValue

open Settings SwitchTable

variable (store : StoreSection) (topology : TopologySection)

theorem configuredNetworks_answered {server : Server}
    (hashes : (server.get store.databaseNumber.toNat).HoldsHashes) :
    let database := server.get store.databaseNumber.toNat
    ∃ networks,
      ((configuredNetworks store.naming).play (deployment store topology) server).result =
        .ok networks ∧
      ∀ networkId, networkId ∈ networks ↔
        store.naming.logicalName networkId ∈ store.switches.rowNames database ∧
        ∃ row, store.switches.lookup database (store.naming.logicalName networkId) =
          .ok (some row) ∧ Bag.isConfigured row.bag = true := by
  intro database
  obtain ⟨rows, listed, mem⟩ := rows_answered store.switches hashes
  obtain ⟨networks, answer, networksMem⟩ :=
    configuredNetworks_of_rows (deployment store topology) store.naming server listed
  refine ⟨networks, answer, fun networkId => ?_⟩
  rw [networksMem]
  constructor
  · rintro ⟨row, there, configured, same⟩
    obtain ⟨name, known, looked⟩ := (mem row).mp there
    have named : name = store.naming.logicalName networkId :=
      (row_of_lookup looked).1.symm.trans same
    exact ⟨named ▸ known, row, named ▸ looked, configured⟩
  · rintro ⟨known, row, looked, configured⟩
    exact ⟨row, (mem row).mpr ⟨_, known, looked⟩, configured, (row_of_lookup looked).1⟩

/-- After a publication the database still holds hashes only, and the row of the switch is there
with a configured bag. -/
theorem published_row {server : Server} {networkId : String} {bgpvpn : Bgpvpn}
    (hashes : (server.get store.databaseNumber.toNat).HoldsHashes)
    (published : ((publish store.naming networkId bgpvpn).play (deployment store topology)
      server).result = .ok true) :
    let after := ((publish store.naming networkId bgpvpn).play (deployment store topology)
      server).state.get store.databaseNumber.toNat
    let name := store.naming.logicalName networkId
    after.HoldsHashes ∧ store.switches.rowKey name ∈ FiniteMap.keys after ∧
      ∃ row, store.switches.lookup after name = .ok (some row) ∧
        Bag.isConfigured row.bag = true := by
  intro after name
  obtain ⟨row, attributes, looked, known, made, state⟩ := publish_of_ok published
  obtain ⟨rowName, fields, there, filled, -⟩ := row_of_lookup looked
  obtain ⟨bag, stored⟩ := hashes.exists_stores (store.switches.bagKey row.name)
  obtain ⟨kept, others⟩ := transact_of_ok made stored
  have same : after = (store.switches.transact (server.get store.databaseNumber.toNat) row
      (replacement attributes)).2 := by
    change Server.get (Outcome.state _) _ = _
    rw [state]
    exact Server.get_set ..
  rw [← same, rowName] at kept others
  have row? := others _ (store.switches.rowKey_ne_bagKey_self name)
  have row : after.hash? (store.switches.rowKey name) = some fields := by
    rw [Database.hash?, row?]
    exact there
  have configured := (Bag.isConfigured_carrying (Bag.isEvpn_ofBgpvpn known) bag).trans
    (Bag.isConfigured_ofBgpvpn known)
  exact ⟨hashes.of_stores kept others,
    (FiniteMap.mem_keys_iff _ _).mpr ⟨_, Database.get?_of_hash? row filled⟩,
    _, lookup_of_row row filled kept, configured⟩

/-- What was published on a switch is seen by the listing right afterwards if and only if the name
of the switch holds no separator, provided that the table has a steady name. -/
theorem published_listed_iff (steady : store.switches.IsSteady) {server : Server}
    (hashes : (server.get store.databaseNumber.toNat).HoldsHashes) {networkId : String}
    {bgpvpn : Bgpvpn}
    (published : ((publish store.naming networkId bgpvpn).play (deployment store topology)
      server).result = .ok true) :
    let after :=
      ((publish store.naming networkId bgpvpn).play (deployment store topology) server).state
    ∃ networks,
      ((configuredNetworks store.naming).play (deployment store topology) after).result =
        .ok networks ∧
      (networkId ∈ networks ↔ IsName (store.naming.logicalName networkId)) := by
  intro after
  obtain ⟨hashesAfter, there, configured⟩ := published_row store topology hashes published
  obtain ⟨networks, answer, mem⟩ := configuredNetworks_answered store topology hashesAfter
  refine ⟨networks, answer, ?_⟩
  rw [mem, mem_rowNames_iff steady]
  exact ⟨fun listed => listed.1.1, fun isName => ⟨⟨isName, there⟩, configured⟩⟩

def bareSwitch (store : StoreSection) (networkId : String) : Server :=
  let row : Hash := FiniteMap.insert .empty uuidField "u-1"
  let key := store.switches.rowKey (store.naming.logicalName networkId)
  ⟨[(store.databaseNumber.toNat, FiniteMap.insert .empty key (.hash row))]⟩

theorem bareSwitch_holdsHashes (store : StoreSection) (networkId : String) :
    ((bareSwitch store networkId).get store.databaseNumber.toNat).HoldsHashes := by
  intro key value found
  simp only [bareSwitch, Server.get, List.lookup_cons, beq_self_eq_true, Option.getD_some,
    FiniteMap.get?_insert, FiniteMap.get?_empty] at found
  split at found
  · cases found
    exact ⟨_, rfl, rfl⟩
  · cases found

/-- The name of the table has a star and a question mark in it, and the stem is left out. -/
theorem published_listed_iff_starred :
    let settings : Settings := { store := { table := "LS*?", stem := "" } }
    let bgpvpn : Bgpvpn := { id := "v1", vpnType := "l3", vni := some 100 }
    let deployment := deployment settings.store settings.topology
    let published := (publish settings.store.naming "n1" bgpvpn).play deployment
      (bareSwitch settings.store "n1")
    settings.check = .ok () ∧ published.result = .ok true ∧
    ∃ networks,
      ((configuredNetworks settings.store.naming).play deployment published.state).result =
        .ok networks ∧ "n1" ∈ networks := by
  intro settings bgpvpn deployment published
  have made : published.result = .ok true := by decide +kernel
  obtain ⟨networks, answer, listed⟩ := published_listed_iff settings.store settings.topology
    (by decide) (bareSwitch_holdsHashes settings.store "n1") made
  exact ⟨by decide +kernel, made, networks, answer, listed.mpr (by decide)⟩

/-- A network whose identifier holds a separator gets its attributes, yet no listing shows it. -/
theorem published_unlisted :
    let settings : Settings := {}
    let bgpvpn : Bgpvpn := { id := "v1", vpnType := "l3", vni := some 100 }
    let deployment := deployment settings.store settings.topology
    let server := bareSwitch settings.store "a|b"
    let published := (publish settings.store.naming "a|b" bgpvpn).play deployment server
    settings.check = .ok () ∧ (server.get settings.store.databaseNumber.toNat).HoldsHashes ∧
    published.result = .ok true ∧
    ∃ networks,
      ((configuredNetworks settings.store.naming).play deployment published.state).result =
        .ok networks ∧ "a|b" ∉ networks := by
  intro settings bgpvpn deployment server published
  have hashes := bareSwitch_holdsHashes settings.store "a|b"
  have made : published.result = .ok true := by decide +kernel
  obtain ⟨hashesAfter, -⟩ := published_row settings.store settings.topology hashes made
  obtain ⟨networks, answer, mem⟩ :=
    configuredNetworks_answered settings.store settings.topology hashesAfter
  refine ⟨by decide +kernel, hashes, made, networks, answer, fun listed => ?_⟩
  have known := ((mem "a|b").mp listed).1
  have isName := ((mem_rowNames_iff (by decide) _ _).mp known).1
  exact absurd isName (by decide)

end KeyValue

end EvpnMetadata
