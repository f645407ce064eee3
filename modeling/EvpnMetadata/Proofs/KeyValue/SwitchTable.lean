import EvpnMetadata.Proofs.KeyValue.HeldSwitches

/-! # A switch table refines a memory

A database that holds the switches of a memory in a table answers every call of a backend as the
memory does, and holds its switches again afterwards.
-/

namespace EvpnMetadata.KeyValue.SwitchTable

open Switch

variable (switches : SwitchTable)

namespace Holds

variable {switches} {memory : Memory} {database : Database}

theorem empty (free : ∀ rest, database.get? (switches.start ++ rest) = none) :
    switches.Holds {} database where
  named found := nomatch found
  identified found := nomatch found
  row found := nomatch found
  bag found := nomatch found
  only {rest value} there := by
    rw [free rest] at there
    cases there

/-- A name that no switch has leaves its key for a bag free. -/
theorem bagKey_free (holds : switches.Holds memory database) {name : String}
    (fresh : memory.switches.get? name = none) : database.get? (switches.bagKey name) = none := by
  cases there : database.get? (switches.bagKey name) with
  | none => rfl
  | some value =>
    rw [bagKey_eq] at there
    obtain ⟨other, entry, found, same | same⟩ := holds.only there
    · exact absurd (holds.named (same ▸ found)) (not_isName_append name)
    · rw [(String.append_left_inj _).mp same, found] at fresh
      cases fresh

theorem add (holds : switches.Holds memory database) {name uuid : String} (isName : IsName name)
    (filled : uuid ≠ "") (fresh : memory.switches.get? name = none) {fields : Hash}
    (identified : fields.get? uuidField = some uuid) :
    switches.Holds (memory.add name uuid)
      (FiniteMap.insert database (switches.rowKey name) (.hash fields)) := by
  have added : memory.add name uuid =
      { memory with switches := memory.switches.insert name { uuid, bag := .empty } } := by
    simp [Memory.add, FiniteMap.contains, fresh]
  have get? (other : String) : (memory.add name uuid).switches.get? other =
      if other = name then some { uuid, bag := .empty } else memory.switches.get? other := by
    rw [added, FiniteMap.get?_insert]
  refine ⟨fun {other entry} found => ?_, fun {other entry} found => ?_,
    fun {other entry} found => ?_, fun {other entry} found => ?_, fun {rest value} there => ?_⟩
  · rw [get?] at found
    split at found
    · next same => exact same ▸ isName
    · exact holds.named found
  · rw [get?] at found
    split at found
    · cases found
      exact filled
    · exact holds.identified found
  · rw [get?] at found
    rw [FiniteMap.get?_insert]
    split at found
    · next same =>
      cases found
      exact ⟨fields, if_pos (switches.rowKey_inj.mpr same), identified⟩
    · next ne =>
      rw [if_neg (mt switches.rowKey_inj.mp ne)]
      exact holds.row found
  · rw [get?] at found
    rw [Database.Stores, FiniteMap.get?_insert,
      if_neg (switches.rowKey_ne_bagKey isName other).symm]
    split at found
    · next same =>
      cases found
      exact same ▸ holds.bagKey_free fresh
    · exact holds.bag found
  · rw [FiniteMap.get?_insert] at there
    split at there
    · next same =>
      refine ⟨name, { uuid, bag := .empty }, ?_, .inl ((String.append_right_inj _).mp same)⟩
      rw [get?, if_pos rfl]
    · obtain ⟨other, entry, found, form⟩ := holds.only there
      have ne : other ≠ name := by
        rintro rfl
        rw [fresh] at found
        cases found
      exact ⟨other, entry, by rw [get?, if_neg ne, found], form⟩

theorem remove (holds : switches.Holds memory database) {name : String} (isName : IsName name) :
    switches.Holds (memory.remove name)
      (FiniteMap.erase (database.erase (switches.rowKey name)) (switches.bagKey name)) := by
  have get? (other : String) : (memory.remove name).switches.get? other =
      if other = name then none else memory.switches.get? other :=
    FiniteMap.get?_erase _ name other
  -- What is left was there before under another name.
  have left {other : String} {entry : Entry}
      (found : (memory.remove name).switches.get? other = some entry) :
      other ≠ name ∧ memory.switches.get? other = some entry := by
    rw [get?] at found
    split at found
    · cases found
    · next ne => exact ⟨ne, found⟩
  refine ⟨fun found => holds.named (left found).2, fun found => holds.identified (left found).2,
    fun {other entry} found => ?_, fun {other entry} found => ?_, fun {rest value} there => ?_⟩
  · obtain ⟨ne, was⟩ := left found
    have row := switches.rowKey_ne_bagKey (holds.named was) name
    rw [FiniteMap.get?_erase, if_neg row, FiniteMap.get?_erase,
      if_neg (mt switches.rowKey_inj.mp ne)]
    exact holds.row was
  · obtain ⟨ne, was⟩ := left found
    rw [Database.Stores, FiniteMap.get?_erase, if_neg (mt switches.bagKey_inj.mp ne),
      FiniteMap.get?_erase, if_neg (switches.rowKey_ne_bagKey isName other).symm]
    exact holds.bag was
  · rw [FiniteMap.get?_erase, FiniteMap.get?_erase] at there
    split at there
    · cases there
    · next notBag =>
      split at there
      · cases there
      · next notRow =>
        obtain ⟨other, entry, found, form⟩ := holds.only there
        have ne : other ≠ name := by
          rintro rfl
          rcases form with rfl | rfl
          · exact notRow rfl
          · exact notBag (switches.bagKey_eq _).symm
        exact ⟨other, entry, by rw [get?, if_neg ne, found], form⟩

end Holds

inductive Call where
  | lookup (name : String)
  | rows
  | transact (row : Row) (changes : List Change)

inductive Answer where
  | looked (found : Except Fault (Option Row))
  | listed (rows : Except Fault (List Row))
  | ended (result : Except Fault Unit)

def Call.ask (backend : Backend σ) (state : σ) : Call → Answer × σ
  | lookup name => (.looked (backend.lookup state name), state)
  | rows => (.listed (backend.rows state), state)
  | transact row changes =>
    let (result, after) := backend.transact state row changes
    (.ended result, after)

def session (backend : Backend σ) : List Call → σ → List Answer × σ
  | [], state => ([], state)
  | call :: rest, state =>
    let (answer, after) := call.ask backend state
    let (answers, last) := session backend rest after
    (answer :: answers, last)

/-- A call that a table can tell apart: names hold no separator, and a row names its incarnation. -/
def Call.IsProper : Call → Prop
  | lookup name => IsName name
  | rows => True
  | transact row _ => IsName row.name ∧ row.uuid ≠ ""

instance : DecidablePred Call.IsProper
  | .lookup name => inferInstanceAs (Decidable (IsName name))
  | .rows => .isTrue trivial
  | .transact row _ => inferInstanceAs (Decidable (IsName row.name ∧ row.uuid ≠ ""))

namespace Holds

variable {switches} {memory : Memory} {database : Database}

theorem ask (holds : switches.Holds memory database) (plain : switches.IsPlain) {call : Call}
    (proper : call.IsProper) :
    (call.ask switches.backend database).1 = (call.ask Memory.backend memory).1 ∧
      switches.Holds (call.ask Memory.backend memory).2
        (call.ask switches.backend database).2 := by
  cases call with
  | lookup name => exact ⟨congrArg Answer.looked (holds.lookup_eq proper), holds⟩
  | rows => exact ⟨congrArg Answer.listed (holds.rows_eq plain), holds⟩
  | transact row changes =>
    obtain ⟨result, after, -⟩ := holds.transact proper.1 proper.2 changes
    exact ⟨congrArg Answer.ended result, after⟩

theorem session (holds : switches.Holds memory database) (plain : switches.IsPlain)
    {calls : List Call} (proper : ∀ call ∈ calls, call.IsProper) :
    (session switches.backend calls database).1 = (session Memory.backend calls memory).1 ∧
      switches.Holds (session Memory.backend calls memory).2
        (session switches.backend calls database).2 := by
  induction calls generalizing memory database with
  | nil => exact ⟨rfl, holds⟩
  | cons call rest ih =>
    obtain ⟨head, tail⟩ := List.forall_mem_cons.mp proper
    obtain ⟨answer, after⟩ := holds.ask plain head
    obtain ⟨answers, last⟩ := ih after tail
    exact ⟨congrArg₂ List.cons answer answers, last⟩

end Holds

/-- A database that holds the switches of a memory cannot be told from it: lookups and listings are
the same, a transaction succeeds on both or is refused by both without a change, and the database
holds the switches afterwards as well.  So any calls are answered alike. -/
theorem switch_table_refines_memory {memory : Memory} {database : Database}
    (plain : switches.IsPlain) (holds : switches.Holds memory database) :
    (∀ name, IsName name → switches.lookup database name = .ok (memory.lookup name)) ∧
    switches.rows database = .ok memory.rows ∧
    (∀ target changes, IsName target.name → target.uuid ≠ "" →
      let (result, after) := memory.transact target changes
      let (result', after') := switches.transact database target changes
      result' = result ∧ switches.Holds after after' ∧
        (∀ key, key ≠ switches.bagKey target.name → after'.get? key = database.get? key) ∧
        (result = .ok () ∨
          result = .error (.transactionFailed target.name "row no longer exists") ∧
            after = memory ∧ after' = database)) ∧
    ∀ calls, (∀ call ∈ calls, Call.IsProper call) →
      (session switches.backend calls database).1 = (session Memory.backend calls memory).1 ∧
        switches.Holds (session Memory.backend calls memory).2
          (session switches.backend calls database).2 :=
  ⟨fun _ => holds.lookup_eq, holds.rows_eq plain,
    fun _ changes isName filled => holds.transact isName filled changes,
    fun _ => holds.session plain⟩

/-- A switch is made, removed and made again, and a row that was read from the first incarnation is
still around. -/
theorem switch_table_refines_memory_recreated :
    let switches : SwitchTable := ⟨"LOGICAL_SWITCH"⟩
    let row (uuid : String) : Hash := FiniteMap.insert .empty uuidField uuid
    let memory := ((Memory.add {} "n1" "uuid-1").remove "n1").add "n1" "uuid-2"
    let first : Database := FiniteMap.insert .empty (switches.rowKey "n1") (.hash (row "uuid-1"))
    let removed : Database :=
      FiniteMap.erase (first.erase (switches.rowKey "n1")) (switches.bagKey "n1")
    let database : Database := removed.insert (switches.rowKey "n1") (.hash (row "uuid-2"))
    let calls : List Call := [
      .transact { uuid := "uuid-1", name := "n1", bag := .empty } [.set "vni" "100"],
      .transact { uuid := "uuid-2", name := "n1", bag := .empty }
        [.set "vni" "100", .remove "vni", .set "type" "l3"],
      .rows]
    switches.Holds memory database ∧
      (session switches.backend calls database).1 =
        [.ended (.error (rowGone "n1")), .ended (.ok ()),
          .listed (.ok [{
            uuid := "uuid-2", name := "n1", bag := FiniteMap.insert .empty "type" "l3" }])] := by
  intro switches row memory first removed database calls
  have holds : switches.Holds memory database :=
    (((Holds.empty fun _ => rfl).add (by decide) (by decide) rfl (by decide)).remove
      (by decide)).add (by decide) (by decide) (by decide) (by decide)
  have answers := ((switch_table_refines_memory switches (by decide) holds).2.2.2 calls
    (by decide)).1
  exact ⟨holds, answers.trans rfl⟩

end EvpnMetadata.KeyValue.SwitchTable
