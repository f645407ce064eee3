import EvpnMetadata.Proofs.KeyValue.SwitchKeys
import EvpnMetadata.Switch.Memory

/-! # The switches of a memory in a table

A database that holds the switches of a memory in a table shows and changes them as the memory does,
one call at a time.
-/

namespace EvpnMetadata.KeyValue.SwitchTable

open Switch

variable (switches : SwitchTable)

/-- A database holds the switches of a memory in the table, and nothing else under its keys. -/
structure Holds (memory : Memory) (database : Database) : Prop where
  named {name : String} {entry : Entry} (found : memory.switches.get? name = some entry) :
    IsName name
  identified {name : String} {entry : Entry} (found : memory.switches.get? name = some entry) :
    entry.uuid ≠ ""
  row {name : String} {entry : Entry} (found : memory.switches.get? name = some entry) :
    ∃ fields, database.get? (switches.rowKey name) = some (.hash fields) ∧
      fields.get? uuidField = some entry.uuid
  bag {name : String} {entry : Entry} (found : memory.switches.get? name = some entry) :
    database.Stores (switches.bagKey name) entry.bag
  only {rest : String} {value : Value}
    (there : database.get? (switches.start ++ rest) = some value) :
    ∃ name entry, memory.switches.get? name = some entry ∧
      (rest = name ∨ rest = name ++ "|external_ids")

namespace Holds

variable {switches} {memory : Memory} {database : Database}

theorem absent (holds : switches.Holds memory database) {name : String} (isName : IsName name)
    (missing : memory.switches.get? name = none) :
    database.get? (switches.rowKey name) = none := by
  cases found : database.get? (switches.rowKey name) with
  | none => rfl
  | some value =>
    obtain ⟨other, entry, there, rfl | rfl⟩ := holds.only found
    · rw [missing] at there
      cases there
    · exact absurd isName (not_isName_append other)

theorem lookup_eq (holds : switches.Holds memory database) {name : String} (isName : IsName name) :
    switches.lookup database name = .ok (memory.lookup name) := by
  cases found : memory.switches.get? name with
  | none =>
    have missing := holds.absent isName found
    simp only [SwitchTable.lookup, Memory.lookup, found, Database.hash?, missing]
    rfl
  | some entry =>
    obtain ⟨fields, stored, uuid⟩ := holds.row found
    have row : database.hash? (switches.rowKey name) = some fields := by
      rw [Database.hash?, stored]
    have filled : fields.isEmpty = false := by
      cases empty : fields.isEmpty with
      | false => rfl
      | true =>
        rw [Database.eq_empty_of_isEmpty empty] at uuid
        cases uuid
    have field : fields.getD uuidField "" = entry.uuid := by
      rw [FiniteMap.getD, uuid, Option.getD_some]
    simp only [SwitchTable.lookup, Memory.lookup, found, row, filled, (holds.bag found).hash?,
      field]
    rfl

theorem rowNames_eq (holds : switches.Holds memory database) (plain : switches.IsPlain) :
    switches.rowNames database = memory.switches.keys := by
  refine FiniteMap.keys_eq_of_mem_iff fun name => ?_
  rw [← rowNames, mem_rowNames_iff plain.isSteady, FiniteMap.mem_keys_iff, FiniteMap.mem_keys_iff]
  constructor
  · rintro ⟨isName, value, there⟩
    obtain ⟨other, entry, found, rfl | rfl⟩ := holds.only there
    · exact ⟨entry, found⟩
    · exact absurd isName (not_isName_append other)
  · rintro ⟨entry, found⟩
    obtain ⟨fields, stored, -⟩ := holds.row found
    exact ⟨holds.named found, _, stored⟩

theorem rows_eq (holds : switches.Holds memory database) (plain : switches.IsPlain) :
    switches.rows database = .ok memory.rows := by
  have listed : ∀ entries : List (String × Entry), entries ⊆ memory.switches.entries →
      (entries.map Prod.fst).mapM (switches.lookup database) =
        .ok (entries.map fun entry => some (Memory.row entry.1 entry.2)) := by
    intro entries sub
    induction entries with
    | nil => rfl
    | cons entry rest ih =>
      obtain ⟨mem, tail⟩ := List.cons_subset.mp sub
      have found := (FiniteMap.get?_eq_some_iff _ _ _).mpr mem
      rw [List.map_cons, List.mapM_cons, holds.lookup_eq (holds.named found), ih tail,
        Memory.lookup, found]
      rfl
  rw [rows, holds.rowNames_eq plain, FiniteMap.keys, listed _ (List.Subset.refl _)]
  change Except.ok (List.filterMap id _) = _
  rw [List.filterMap_map, Memory.rows]
  simp

theorem rowStands_eq (holds : switches.Holds memory database) {name : String} (isName : IsName name)
    {uuid : String} (filled : uuid ≠ "") :
    switches.rowStands database name uuid =
      .ok (decide ((memory.switches.get? name).map Entry.uuid = some uuid)) := by
  have given : uuid.isEmpty = false := by
    simpa using filled
  cases found : memory.switches.get? name with
  | none =>
    simp [rowStands, FiniteMap.contains, holds.absent isName found]
  | some entry =>
    obtain ⟨fields, stored, same⟩ := holds.row found
    simp [rowStands, FiniteMap.contains, Database.hash?, stored, given, same]

end Holds

/-- The three arguments of a change do what the change does. -/
theorem runCommands_commandOf (name : String) {database : Database} {bag : Bag}
    (held : database.hash? (switches.bagKey name) = some bag) (change : Change)
    (rest : List String) :
    switches.runCommands name (commandOf change ++ rest) database =
      switches.runCommands name rest
        (database.putHash (switches.bagKey name) (change.apply bag)) := by
  cases change with
  | set key value =>
    have ran : switches.runCommand name database setCommand key value =
        .ok (database.putHash (switches.bagKey name) (bag.insert key value)) := by
      simp only [runCommand, held, if_true]
    change switches.runCommands name (setCommand :: key :: value :: rest) database = _
    rw [runCommands, ran]
    rfl
  | remove key =>
    have other : removeCommand ≠ setCommand := by decide
    have ran : switches.runCommand name database removeCommand key "" =
        .ok (database.putHash (switches.bagKey name) (bag.erase key)) := by
      simp only [runCommand, held, if_neg other]
    change switches.runCommands name (removeCommand :: key :: "" :: rest) database = _
    rw [runCommands, ran]
    rfl

theorem runCommands_eq (name : String) (changes : List Change) {database : Database} {bag : Bag}
    (stores : database.Stores (switches.bagKey name) bag) :
    ∃ after, switches.runCommands name (changes.flatMap commandOf) database = (.ok (), after) ∧
      after.Stores (switches.bagKey name) (bag.applyAll changes) ∧
      ∀ key, key ≠ switches.bagKey name → after.get? key = database.get? key := by
  induction changes generalizing database bag with
  | nil => exact ⟨database, rfl, stores, fun _ _ => rfl⟩
  | cons change rest ih =>
    obtain ⟨after, ran, stored, others⟩ :=
      ih (Database.stores_putHash database (switches.bagKey name) (change.apply bag))
    refine ⟨after, ?_, stored, fun key ne => ?_⟩
    · rw [List.flatMap_cons, switches.runCommands_commandOf name stores.hash?]
      exact ran
    · rw [others key ne, Database.get?_putHash_ne database ne]

namespace Holds

variable {switches} {memory : Memory} {database : Database}

theorem replace (holds : switches.Holds memory database) {name : String} {entry : Entry}
    (found : memory.switches.get? name = some entry) {bag : Bag} {after : Database} (count : Nat)
    (stored : after.Stores (switches.bagKey name) bag)
    (others : ∀ key, key ≠ switches.bagKey name → after.get? key = database.get? key) :
    switches.Holds
      { switches := memory.switches.insert name { entry with bag }, committed := count } after := by
  -- Every switch was there before, under the same uuid.
  have before {other : String} {current : Entry}
      (there : (memory.switches.insert name { entry with bag }).get? other = some current) :
      ∃ old, memory.switches.get? other = some old ∧ old.uuid = current.uuid := by
    rw [FiniteMap.get?_insert] at there
    split at there
    · next same =>
      cases there
      exact ⟨entry, same ▸ found, rfl⟩
    · exact ⟨current, there, rfl⟩
  refine ⟨fun {other current} there => ?_, fun {other current} there => ?_,
    fun {other current} there => ?_, fun {other current} there => ?_, fun {rest value} there => ?_⟩
  · obtain ⟨old, was, -⟩ := before there
    exact holds.named was
  · obtain ⟨old, was, same⟩ := before there
    exact same ▸ holds.identified was
  · obtain ⟨old, was, same⟩ := before there
    obtain ⟨fields, row, uuid⟩ := holds.row was
    refine ⟨fields, ?_, same ▸ uuid⟩
    rw [others _ (switches.rowKey_ne_bagKey (holds.named was) name), row]
  · rw [FiniteMap.get?_insert] at there
    split at there
    · next same =>
      cases there
      exact same ▸ stored
    · next ne =>
      have other := holds.bag there
      rwa [Database.Stores, others _ fun same => ne (switches.bagKey_inj.mp same)]
  · have kept : ∃ other current, memory.switches.get? other = some current ∧
        (rest = other ∨ rest = other ++ "|external_ids") := by
      by_cases same : switches.start ++ rest = switches.bagKey name
      · rw [bagKey_eq] at same
        exact ⟨name, entry, found, .inr ((String.append_right_inj _).mp same)⟩
      · rw [others _ same] at there
        exact holds.only there
    obtain ⟨other, current, was, form⟩ := kept
    by_cases same : other = name
    · exact ⟨other, { entry with bag }, by rw [FiniteMap.get?_insert, if_pos same], form⟩
    · exact ⟨other, current, by rw [FiniteMap.get?_insert, if_neg same, was], form⟩

/-- The script on a row that has a uuid runs its commands on the switch of that uuid only. -/
theorem transact_eq (holds : switches.Holds memory database) {target : Row}
    (isName : IsName target.name) (filled : target.uuid ≠ "") (changes : List Change) :
    switches.transact database target changes =
      if (memory.switches.get? target.name).map Entry.uuid = some target.uuid then
        switches.runCommands target.name (changes.flatMap commandOf) database
      else (.error (rowGone target.name), database) := by
  rw [SwitchTable.transact, scriptArguments, runScript, holds.rowStands_eq isName filled]
  by_cases same : (memory.switches.get? target.name).map Entry.uuid = some target.uuid <;>
    simp [same]

/-- A transaction on a row that was read from a switch succeeds on both sides, or is refused by both
and changes nothing. -/
theorem transact (holds : switches.Holds memory database) {target : Row}
    (isName : IsName target.name) (filled : target.uuid ≠ "") (changes : List Change) :
    let (result, after) := memory.transact target changes
    let (result', after') := switches.transact database target changes
    result' = result ∧ switches.Holds after after' ∧
      (∀ key, key ≠ switches.bagKey target.name → after'.get? key = database.get? key) ∧
      (result = .ok () ∨
        result = .error (rowGone target.name) ∧ after = memory ∧ after' = database) := by
  rw [holds.transact_eq isName filled, Memory.transact]
  cases found : memory.switches.get? target.name with
  | none => exact ⟨rfl, holds, fun _ _ => rfl, .inr ⟨rfl, rfl, rfl⟩⟩
  | some entry =>
    by_cases same : entry.uuid = target.uuid
    · obtain ⟨after, ran, stored, others⟩ :=
        switches.runCommands_eq target.name changes (holds.bag found)
      have uuid : (some entry).map Entry.uuid = some target.uuid := congrArg some same
      dsimp only
      rw [if_pos uuid, if_pos same, ran]
      exact ⟨rfl, holds.replace found _ stored others, others, .inl rfl⟩
    · have uuid : (some entry).map Entry.uuid ≠ some target.uuid :=
        fun equal => same (Option.some.inj equal)
      dsimp only
      rw [if_neg uuid, if_neg same]
      exact ⟨rfl, holds, fun _ _ => rfl, .inr ⟨rfl, rfl, rfl⟩⟩

end Holds

end EvpnMetadata.KeyValue.SwitchTable
