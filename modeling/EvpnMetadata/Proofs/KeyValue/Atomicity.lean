import EvpnMetadata.Proofs.KeyValue.HeldSwitches

/-! # Whole transactions

A server does not take back the first commands of a script when a later one is refused.  The script
of a transaction is whole nevertheless: the only key that it changes is a hash before its first
command or none of its commands runs, and what one command leaves is a hash again.
-/

namespace EvpnMetadata.KeyValue.SwitchTable

open Switch

variable (switches : SwitchTable)

/-- What a transaction asks of a database: a row, of the incarnation that was read if that had a
uuid, and no list in the place of the bag that it is about to change. -/
structure Accepts (database : Database) (target : Row) (changes : List Change) : Prop where
  there : database.contains (switches.rowKey target.name) = true
  same : target.uuid = "" ∨ ∃ fields, database.hash? (switches.rowKey target.name) = some fields ∧
    fields.get? uuidField = some target.uuid
  bag : changes = [] ∨ ∃ bag, database.hash? (switches.bagKey target.name) = some bag

/-- The only difference between two databases is the bag of one switch, which has the changes made
in order and whose key is gone where nothing is left in it. -/
structure Commits (name : String) (changes : List Change) (database after : Database) : Prop where
  others : ∀ key, key ≠ switches.bagKey name → after.get? key = database.get? key
  bag : changes = [] ∧ after = database ∨
    ∃ bag : Bag, database.hash? (switches.bagKey name) = some bag ∧
      after.get? (switches.bagKey name) =
        if (bag.applyAll changes).isEmpty then none else some (.hash (bag.applyAll changes))

variable {switches} {database : Database} {name uuid : String}

theorem rowStands_eq_ok_true_iff :
    switches.rowStands database name uuid = .ok true ↔
      database.contains (switches.rowKey name) = true ∧
        (uuid = "" ∨ ∃ fields, database.hash? (switches.rowKey name) = some fields ∧
          fields.get? uuidField = some uuid) := by
  rw [rowStands]
  cases there : database.contains (switches.rowKey name) with
  | false => simp
  | true =>
    by_cases free : uuid = ""
    · simp [free]
    · have given : uuid.isEmpty = false := by simpa using free
      cases database.hash? (switches.rowKey name) <;> simp [given, free]

theorem eq_refused_of_rowStands {fault : Fault}
    (failed : switches.rowStands database name uuid = .error fault) : fault = refused name := by
  rw [rowStands] at failed
  repeat' split at failed
  all_goals cases failed
  rfl

/-- Over a hash the loop of the script is never refused. -/
theorem runCommands_commits (changes : List Change)
    (fits : changes = [] ∨ ∃ bag, database.hash? (switches.bagKey name) = some bag) :
    ∃ after, switches.runCommands name (changes.flatMap commandOf) database = (.ok (), after) ∧
      switches.Commits name changes database after := by
  cases changes with
  | nil => exact ⟨database, rfl, fun _ _ => rfl, .inl ⟨rfl, rfl⟩⟩
  | cons change rest =>
    obtain ⟨bag, held⟩ := fits.resolve_left (List.cons_ne_nil _ _)
    -- The key may have been absent, but it is as the rest of the loop needs it after one command.
    obtain ⟨after, ran, stored, others⟩ := switches.runCommands_eq name rest
      (Database.stores_putHash database (switches.bagKey name) (change.apply bag))
    refine ⟨after, ?_, fun key ne => ?_, .inr ⟨bag, held, stored⟩⟩
    · rw [List.flatMap_cons, switches.runCommands_commandOf name held, ran]
    · rw [others key ne, Database.get?_putHash_ne database ne]

/-- On a key that holds a list the first command is refused, before anything is changed. -/
theorem runCommands_of_list (change : Change) (rest : List Change)
    (list : database.hash? (switches.bagKey name) = none) :
    switches.runCommands name ((change :: rest).flatMap commandOf) database =
      (.error (refused name), database) := by
  cases change <;> simp [commandOf, runCommands, runCommand, list]

theorem transact_of_not_stands {target : Row} (changes : List Change)
    (gone : switches.rowStands database target.name target.uuid ≠ .ok true) :
    ∃ reason, switches.transact database target changes =
      (.error (.transactionFailed target.name reason), database) := by
  rw [transact, scriptArguments, runScript]
  cases looked : switches.rowStands database target.name target.uuid with
  | ok stands =>
    cases stands with
    | true => exact absurd looked gone
    | false => exact ⟨_, rfl⟩
  | error fault =>
    rw [eq_refused_of_rowStands looked]
    exact ⟨refusal, rfl⟩

theorem transact_of_stands {target : Row} (changes : List Change)
    (stands : switches.rowStands database target.name target.uuid = .ok true) :
    switches.transact database target changes =
      switches.runCommands target.name (changes.flatMap commandOf) database := by
  rw [transact, scriptArguments, runScript, stands]

/-- On every database and for every row that was read, a transaction makes all of its changes to the
one bag, or fails with the name of the switch and leaves the whole database as it was. -/
theorem transact_all_or_nothing (switches : SwitchTable) (database : Database) (target : Row)
    (changes : List Change) :
    (switches.Accepts database target changes ∧
      ∃ after, switches.transact database target changes = (.ok (), after) ∧
        switches.Commits target.name changes database after) ∨
    (¬ switches.Accepts database target changes ∧
      ∃ reason, switches.transact database target changes =
        (.error (.transactionFailed target.name reason), database)) := by
  by_cases stands : switches.rowStands database target.name target.uuid = .ok true
  · obtain ⟨there, same⟩ := rowStands_eq_ok_true_iff.mp stands
    rw [transact_of_stands changes stands]
    by_cases fits : changes = [] ∨
        ∃ bag, database.hash? (switches.bagKey target.name) = some bag
    · exact .inl ⟨⟨there, same, fits⟩, runCommands_commits changes fits⟩
    · refine .inr ⟨fun accepts => fits accepts.bag, refusal, ?_⟩
      cases changes with
      | nil => exact absurd (.inl rfl) fits
      | cons change rest =>
        refine runCommands_of_list change rest ?_
        exact Option.eq_none_iff_forall_ne_some.mpr fun bag held => fits (.inr ⟨bag, held⟩)
  · refine .inr ⟨fun accepts => stands ?_, transact_of_not_stands changes stands⟩
    exact rowStands_eq_ok_true_iff.mpr ⟨accepts.there, accepts.same⟩

end EvpnMetadata.KeyValue.SwitchTable
