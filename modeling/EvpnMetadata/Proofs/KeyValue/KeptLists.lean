import EvpnMetadata.Proofs.KeyValue.Atomicity
import EvpnMetadata.Proofs.KeyValue.Listing

/-! # Lists are left alone

A transaction changes the hash at one key and is refused where that key holds a list.  So whatever a
procedure does on a server, the lists of all databases are afterwards what they were before.
-/

namespace EvpnMetadata.KeyValue

open Switch

theorem Server.lookup_place_ne {number other : Nat} (ne : other ≠ number) (database : Database)
    (databases : List (Nat × Database)) :
    (Server.place number database databases).lookup other = databases.lookup other := by
  have absent : (other == number) = false := beq_false_of_ne ne
  induction databases with
  | nil => simp [place, ne]
  | cons entry rest ih =>
    rw [place]
    split
    · rw [List.lookup_cons, absent]
    · split
      · next same =>
        obtain ⟨_, _⟩ := entry
        cases same
        rw [List.lookup_cons, List.lookup_cons, absent]
      · rw [List.lookup_cons, List.lookup_cons, ih]

theorem Server.get_set_ne (server : Server) {number other : Nat} (ne : other ≠ number)
    (database : Database) : (server.set number database).get other = server.get other := by
  rw [get, set, lookup_place_ne ne, get]

theorem Server.get_set_get (server : Server) (number other : Nat) :
    (server.set number (server.get number)).get other = server.get other := by
  by_cases same : other = number
  · rw [same, get_set]
  · exact get_set_ne server same _

section

variable {database : Database} {key : String} {items : List String}

theorem Database.hash?_of_list (held : database.get? key = some (.list items)) :
    database.hash? key = none := by
  rw [hash?, held]

/-- A transaction is refused at a list, and what it writes itself is a hash. -/
theorem SwitchTable.get?_transact_eq_list_iff (switches : SwitchTable) (target : Row)
    (changes : List Change) :
    (switches.transact database target changes).2.get? key = some (.list items) ↔
      database.get? key = some (.list items) := by
  by_cases stands : switches.rowStands database target.name target.uuid = .ok true
  · rw [transact_of_stands changes stands]
    by_cases fits : changes = [] ∨
        ∃ bag, database.hash? (switches.bagKey target.name) = some bag
    · obtain ⟨after, ran, commits⟩ := runCommands_commits changes fits
      rw [ran]
      by_cases mine : key = switches.bagKey target.name
      · rcases commits.bag with ⟨-, rfl⟩ | ⟨bag, hash, stored⟩
        · exact Iff.rfl
        · rw [← mine] at hash stored
          rw [stored]
          refine iff_of_false ?_ fun held => ?_
          · split_ifs <;> nofun
          · rw [Database.hash?_of_list held] at hash
            cases hash
      · rw [commits.others key mine]
    · cases changes with
      | nil => exact absurd (.inl rfl) fits
      | cons change rest =>
        have list := Option.eq_none_iff_forall_ne_some.mpr fun bag hash => fits (.inr ⟨bag, hash⟩)
        rw [runCommands_of_list change rest list]
  · obtain ⟨reason, unchanged⟩ := transact_of_not_stands changes stands
    rw [unchanged]

end

open Settings in
/-- A procedure asks, logs and makes transactions, and none of these touches a list. -/
theorem get?_play_eq_list_iff (store : StoreSection) (topology : TopologySection)
    (p : Procedure α) (server : Server) (number : Nat) (key : String) (items : List String) :
    ((p.play (deployment store topology) server).state.get number).get? key =
        some (.list items) ↔
      (server.get number).get? key = some (.list items) := by
  induction p generalizing server with
  | done result => exact Iff.rfl
  | log line next ih => exact ih server
  | router id next ih | subnet id next ih | bgpvpn id next ih | ports filter next ih
  | bgpvpns filter next ih | lookup name next ih | rows next ih => exact ih _ server
  | transact row changes next ih =>
    refine (ih _ _).trans ?_
    change ((server.set store.databaseNumber.toNat
      (store.switches.transact (server.get store.databaseNumber.toNat) row changes).2).get
        number).get? key = _ ↔ _
    by_cases mine : number = store.databaseNumber.toNat
    · subst mine
      rw [Server.get_set, store.switches.get?_transact_eq_list_iff row changes]
    · rw [Server.get_set_ne server mine]

end EvpnMetadata.KeyValue
