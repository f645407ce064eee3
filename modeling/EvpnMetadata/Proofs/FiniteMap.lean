import EvpnMetadata.FiniteMap
import Mathlib.Data.List.Sort
import Mathlib.Data.String.Basic

/-! # Laws of finite maps

A finite map is determined by its lookups, and its keys are listed in strictly ascending order.
Every operation is described by what it does to one lookup.
-/

namespace EvpnMetadata.FiniteMap

universe u v

variable {α : Type u} {β : Type v}

theorem lookupEntry_eq_some_iff {entries : List (String × α)}
    (h : entries.Pairwise (fun a b => a.1 < b.1)) (key : String) (value : α) :
    lookupEntry key entries = some value ↔ (key, value) ∈ entries := by
  induction entries with
  | nil => simp [lookupEntry]
  | cons head rest ih =>
    obtain ⟨below, tail⟩ := List.pairwise_cons.mp h
    rw [lookupEntry, List.mem_cons]
    by_cases same : key = head.1
    · subst same
      have absent : (head.1, value) ∉ rest := fun mem =>
        lt_irrefl head.1 (below (head.1, value) mem)
      simp [absent, Prod.ext_iff, eq_comm]
    · simp [same, ih tail, Prod.ext_iff]

theorem get?_eq_some_iff (m : FiniteMap α) (key : String) (value : α) :
    m.get? key = some value ↔ (key, value) ∈ m.entries :=
  lookupEntry_eq_some_iff m.ascending key value

theorem ext_get? {m n : FiniteMap α} (h : ∀ key, m.get? key = n.get? key) : m = n := by
  apply ext
  have strict (p : FiniteMap α) : p.entries.Pairwise (fun a b => a.1 < b.1 ∧ a ≠ b) :=
    p.ascending.imp fun lt => ⟨lt, fun same => lt_irrefl _ (same ▸ lt)⟩
  have asymm : Std.Antisymm (fun a b : String × α => a.1 < b.1 ∧ a ≠ b) :=
    ⟨fun _ _ hab hba => absurd hba.1 (lt_asymm hab.1)⟩
  have irrefl : Std.Irrefl (fun a b : String × α => a.1 < b.1 ∧ a ≠ b) := ⟨fun _ h => h.2 rfl⟩
  apply (strict m).eq_of_mem_iff (strict n)
  intro entry
  rw [← get?_eq_some_iff m entry.1 entry.2, ← get?_eq_some_iff n entry.1 entry.2, h]

theorem contains_iff (m : FiniteMap α) (key : String) :
    m.contains key = true ↔ ∃ value, m.get? key = some value := by
  rw [contains, Option.isSome_iff_exists]

theorem mem_keys_iff (m : FiniteMap α) (key : String) :
    key ∈ m.keys ↔ ∃ value, m.get? key = some value := by
  simp only [keys, List.mem_map, get?_eq_some_iff]
  constructor
  · rintro ⟨entry, mem, rfl⟩
    exact ⟨entry.2, mem⟩
  · rintro ⟨value, mem⟩
    exact ⟨_, mem, rfl⟩

theorem keys_ascending (m : FiniteMap α) : m.keys.Pairwise (· < ·) :=
  List.pairwise_map.mpr m.ascending

theorem keys_eq_of_mem_iff {m : FiniteMap α} {n : FiniteMap β}
    (same : ∀ key, key ∈ m.keys ↔ key ∈ n.keys) : m.keys = n.keys :=
  m.keys_ascending.eq_of_mem_iff n.keys_ascending same

theorem get?_map (m : FiniteMap α) (f : String → α → β) (key : String) :
    (m.map f).get? key = (m.get? key).map (f key) := by
  have h (entries : List (String × α)) :
      lookupEntry key (entries.map fun entry => (entry.1, f entry.1 entry.2)) =
        (lookupEntry key entries).map (f key) := by
    induction entries with
    | nil => rfl
    | cons head rest ih =>
      simp only [List.map_cons, lookupEntry, ih]
      by_cases same : key = head.1 <;> simp [same]
  exact h m.entries

@[simp] theorem get?_modify (m : FiniteMap α) (key other : String) (f : α → α) :
    (m.modify key f).get? other = if other = key then (m.get? other).map f else m.get? other := by
  rw [modify, get?_map]
  by_cases same : other = key <;> simp [same]

theorem get?_filter (m : FiniteMap α) (keep : String → α → Bool) (key : String) :
    (m.filter keep).get? key = (m.get? key).filter (keep key) := by
  ext value
  rw [get?_eq_some_iff, Option.filter_eq_some_iff, get?_eq_some_iff]
  simp [filter]

/-- Replacing the value at a key that is there is changing it in place. -/
theorem insert_eq_modify {m : FiniteMap α} {key : String} {value : α} (f : α → α)
    (h : m.get? key = some value) : m.insert key (f value) = m.modify key f := by
  apply ext_get?
  intro other
  rw [get?_insert, get?_modify]
  by_cases same : other = key
  · subst same
    simp [h]
  · simp [same]

theorem modify_eq_self {m : FiniteMap α} {key : String} {f : α → α}
    (h : ∀ value, m.get? key = some value → f value = value) : m.modify key f = m := by
  apply ext_get?
  intro other
  rw [get?_modify]
  split
  · next same =>
    subst same
    cases found : m.get? other with
    | none => rfl
    | some value => rw [Option.map_some, h value found]
  · rfl

theorem exists_get?_insertAll_iff (m : FiniteMap α) (entries : List (String × α)) (key : String) :
    (∃ value, (m.insertAll entries).get? key = some value) ↔
      (∃ value, m.get? key = some value) ∨ key ∈ entries.map Prod.fst := by
  induction entries generalizing m with
  | nil => simp [insertAll]
  | cons head rest ih =>
    change (∃ value, ((m.insert head.1 head.2).insertAll rest).get? key = some value) ↔ _
    rw [ih, get?_insert, List.map_cons, List.mem_cons]
    by_cases same : key = head.1 <;> simp [same]

@[simp] theorem mem_keys_ofKeys (texts : List String) (text : String) :
    text ∈ (ofKeys texts).keys ↔ text ∈ texts := by
  rw [mem_keys_iff, ofKeys, ofList, exists_get?_insertAll_iff]
  simp

theorem contains_ofKeys (texts : List String) (text : String) :
    (ofKeys texts).contains text = texts.contains text := by
  rw [Bool.eq_iff_iff, contains_iff, ← mem_keys_iff, mem_keys_ofKeys, List.contains_iff_mem]

theorem lookupEntry_eq_none_iff {entries : List (String × α)} {key : String} :
    lookupEntry key entries = none ↔ key ∉ entries.map Prod.fst := by
  induction entries with
  | nil => simp [lookupEntry]
  | cons head rest ih =>
    rw [lookupEntry, List.map_cons, List.mem_cons]
    by_cases same : key = head.1 <;> simp [same, ih]

theorem get?_insertAll (m : FiniteMap α) {entries : List (String × α)}
    (distinct : (entries.map Prod.fst).Nodup) (key : String) :
    (m.insertAll entries).get? key = (lookupEntry key entries).or (m.get? key) := by
  induction entries generalizing m with
  | nil => rfl
  | cons head rest ih =>
    obtain ⟨fresh, others⟩ := List.nodup_cons.mp distinct
    change ((m.insert head.1 head.2).insertAll rest).get? key = _
    rw [ih _ others, get?_insert, lookupEntry]
    by_cases same : key = head.1
    · subst same
      rw [lookupEntry_eq_none_iff.mpr fresh, if_pos rfl, if_pos rfl]
      rfl
    · rw [if_neg same, if_neg same]

theorem get?_ofList {entries : List (String × α)} (distinct : (entries.map Prod.fst).Nodup)
    (key : String) : (ofList entries).get? key = lookupEntry key entries := by
  rw [ofList, get?_insertAll _ distinct, get?_empty, Option.or_none]

theorem mem_keys_filter (m : FiniteMap α) (keep : String → α → Bool) (key : String) :
    key ∈ (m.filter keep).keys ↔ ∃ value, m.get? key = some value ∧ keep key value = true := by
  rw [mem_keys_iff, get?_filter]
  simp only [Option.filter_eq_some_iff]

end EvpnMetadata.FiniteMap
