import EvpnMetadata.KeyValue.SwitchTable
import EvpnMetadata.Proofs.FiniteMap
import EvpnMetadata.Proofs.KeyValue.Glob

/-! # The keys of a switch table

Row keys and bag keys never coincide, since a name holds no separator, and the names of a table are
found again among the keys of a database.
-/

namespace EvpnMetadata.KeyValue

open Switch

namespace Database

def Stores (database : Database) (key : String) (fields : Hash) : Prop :=
  database.get? key = if fields.isEmpty then none else some (.hash fields)

variable {database : Database} {key : String} {fields : Hash}

theorem eq_empty_of_isEmpty (empty : fields.isEmpty = true) : fields = .empty :=
  FiniteMap.ext (List.isEmpty_iff.mp empty)

theorem Stores.hash? (stores : database.Stores key fields) : database.hash? key = some fields := by
  rw [Database.hash?, stores]
  split
  · next missing =>
    split at missing
    · next empty => rw [eq_empty_of_isEmpty empty]
    · cases missing
  · next found =>
    split at found
    · cases found
    · cases found
      rfl
  · next found =>
    split at found <;> cases found

theorem stores_putHash (database : Database) (key : String) (fields : Hash) :
    (database.putHash key fields).Stores key fields := by
  rw [Stores, putHash]
  split <;> simp

theorem get?_putHash_ne (database : Database) {key other : String} (ne : other ≠ key)
    (fields : Hash) : (database.putHash key fields).get? other = database.get? other := by
  rw [putHash]
  split <;> simp [ne]

end Database

namespace SwitchTable

variable (switches : SwitchTable)

def IsName (name : String) : Prop := '|' ∉ name.toList

instance (name : String) : Decidable (IsName name) :=
  inferInstanceAs (Decidable ('|' ∉ name.toList))

def start : String := switches.table ++ "|"

theorem rowKey_inj {name other : String} :
    switches.rowKey name = switches.rowKey other ↔ name = other :=
  String.append_right_inj _

theorem bagKey_inj {name other : String} :
    switches.bagKey name = switches.bagKey other ↔ name = other :=
  (String.append_left_inj _).trans switches.rowKey_inj

theorem bagKey_eq (name : String) :
    switches.bagKey name = switches.start ++ (name ++ "|external_ids") :=
  String.append_assoc ..

theorem not_isName_append (name : String) : ¬ IsName (name ++ "|external_ids") :=
  fun isName => isName (by simp)

theorem rowKey_ne_bagKey {name : String} (isName : IsName name) (other : String) :
    switches.rowKey name ≠ switches.bagKey other := by
  intro same
  rw [bagKey_eq] at same
  have equal : name = other ++ "|external_ids" := (String.append_right_inj _).mp same
  exact not_isName_append other (equal ▸ isName)

theorem nameOfKey?_eq_some_iff {key name : String} :
    switches.nameOfKey? key = some name ↔ IsName name ∧ key = switches.rowKey name := by
  rw [nameOfKey?, Option.bind_eq_bind, Option.bind_eq_some_iff]
  constructor
  · rintro ⟨rest, after, kept⟩
    split at kept
    · cases kept
    · next isName =>
      cases kept
      exact ⟨fun mem => isName (List.contains_iff_mem.mpr mem),
        (Text.after?_eq_some_iff _ _ _).mp after⟩
  · rintro ⟨isName, rfl⟩
    refine ⟨name, Text.after?_append _ _, if_neg fun mem => ?_⟩
    exact isName (List.contains_iff_mem.mp mem)

/-- The table has no special character of a pattern in its name. -/
def IsPlain : Prop := ∀ c ∈ switches.table.toList, c ∉ Glob.special

instance : Decidable switches.IsPlain :=
  List.decidableBAll (fun c => c ∉ Glob.special) switches.table.toList

/-- The table has no character in its name that changes what its pattern asks for. -/
def IsSteady : Prop := ∀ c ∈ switches.table.toList, c ∉ Glob.shifting

instance : Decidable switches.IsSteady :=
  List.decidableBAll (fun c => c ∉ Glob.shifting) switches.table.toList

theorem IsPlain.isSteady {switches : SwitchTable} (plain : switches.IsPlain) : switches.IsSteady :=
  fun c mem shifts => plain c mem (Glob.shifting_subset_special shifts)

/-- The names of a table are those of its rows that hold no separator. -/
theorem mem_rowNames_iff {switches : SwitchTable} (steady : switches.IsSteady) (database : Database)
    (name : String) :
    name ∈ switches.rowNames database ↔
      IsName name ∧ switches.rowKey name ∈ FiniteMap.keys database := by
  have start : Glob.IsSteady switches.start := by
    rw [Glob.IsSteady, SwitchTable.start, String.toList_append, List.forall_mem_append]
    exact ⟨steady, List.forall_mem_singleton.mpr (by decide)⟩
  rw [rowNames, FiniteMap.mem_keys_ofKeys, List.mem_filterMap]
  constructor
  · rintro ⟨key, listed, named⟩
    obtain ⟨isName, rfl⟩ := switches.nameOfKey?_eq_some_iff.mp named
    exact ⟨isName, (List.mem_filter.mp listed).1⟩
  · rintro ⟨isName, there⟩
    exact ⟨switches.rowKey name, (Database.mem_keysLike_iff start database name).mpr there,
      switches.nameOfKey?_eq_some_iff.mpr ⟨isName, rfl⟩⟩

end SwitchTable

end EvpnMetadata.KeyValue
