/-! # Finite maps on text keys

A finite map is its list of entries in strictly ascending key order, so two maps with the same
lookups are the same value, and listing a map is listing it in key order.
-/

namespace EvpnMetadata

/-- Entries in strictly ascending key order. -/
structure FiniteMap (α : Type u) where
  entries : List (String × α)
  ascending : entries.Pairwise (fun a b => a.1 < b.1) := by simp

namespace FiniteMap

variable {α : Type u} {β : Type v}

theorem lt_of_not_lt_of_ne {a b : String} (h : ¬ a < b) (ne : a ≠ b) : b < a := by
  apply Classical.byContradiction
  intro hn
  exact ne (String.le_antisymm (String.not_lt.mp hn) (String.not_lt.mp h))

@[ext] theorem ext {m n : FiniteMap α} (h : m.entries = n.entries) : m = n := by
  cases m; cases n; cases h; rfl

instance [DecidableEq α] : DecidableEq (FiniteMap α) := fun m n =>
  decidable_of_iff (m.entries = n.entries) ⟨ext, fun h => h ▸ rfl⟩

instance [Repr α] : Repr (FiniteMap α) := ⟨fun m n => reprPrec m.entries n⟩

def empty : FiniteMap α := { entries := [] }

instance : EmptyCollection (FiniteMap α) := ⟨empty⟩
instance : Inhabited (FiniteMap α) := ⟨empty⟩

def isEmpty (m : FiniteMap α) : Bool := m.entries.isEmpty

def size (m : FiniteMap α) : Nat := m.entries.length

def keys (m : FiniteMap α) : List String := m.entries.map Prod.fst

/-- The value of the first entry with a key. -/
def lookupEntry (key : String) : List (String × α) → Option α
  | [] => none
  | entry :: rest => if key = entry.1 then some entry.2 else lookupEntry key rest

def get? (m : FiniteMap α) (key : String) : Option α := lookupEntry key m.entries

def contains (m : FiniteMap α) (key : String) : Bool := (m.get? key).isSome

/-- The value at a key, or a default. -/
def getD (m : FiniteMap α) (key : String) (default : α) : α := (m.get? key).getD default

/-- Places an entry at its position, replacing one of the same key. -/
def insertEntry (key : String) (value : α) : List (String × α) → List (String × α)
  | [] => [(key, value)]
  | entry :: rest =>
    if key < entry.1 then (key, value) :: entry :: rest
    else if key = entry.1 then (key, value) :: rest
    else entry :: insertEntry key value rest

theorem mem_insertEntry {key : String} {value : α} {entry : String × α}
    {entries : List (String × α)} (h : entry ∈ insertEntry key value entries) :
    entry = (key, value) ∨ entry ∈ entries := by
  induction entries with
  | nil => simpa [insertEntry] using h
  | cons head rest ih =>
    simp only [insertEntry] at h
    split at h
    · simpa using h
    · split at h <;> simp only [List.mem_cons] at h ⊢ <;> grind

theorem insertEntry_ascending (key : String) (value : α) {entries : List (String × α)}
    (h : entries.Pairwise (fun a b => a.1 < b.1)) :
    (insertEntry key value entries).Pairwise (fun a b => a.1 < b.1) := by
  induction entries with
  | nil => simp [insertEntry]
  | cons head rest ih =>
    have ⟨below, tail⟩ := List.pairwise_cons.mp h
    simp only [insertEntry]
    split
    · next first =>
      refine List.pairwise_cons.mpr ⟨fun entry mem => ?_, h⟩
      rcases List.mem_cons.mp mem with rfl | mem
      · exact first
      · exact String.lt_trans first (below _ mem)
    · split
      · next same => exact List.pairwise_cons.mpr ⟨fun entry mem => same ▸ below _ mem, tail⟩
      · next notFirst notSame =>
        refine List.pairwise_cons.mpr ⟨fun entry mem => ?_, ih tail⟩
        rcases mem_insertEntry mem with rfl | mem
        · exact lt_of_not_lt_of_ne notFirst notSame
        · exact below _ mem

def insert (m : FiniteMap α) (key : String) (value : α) : FiniteMap α where
  entries := insertEntry key value m.entries
  ascending := insertEntry_ascending key value m.ascending

def filter (m : FiniteMap α) (keep : String → α → Bool) : FiniteMap α where
  entries := m.entries.filter fun entry => keep entry.1 entry.2
  ascending := m.ascending.filter _

def erase (m : FiniteMap α) (key : String) : FiniteMap α := m.filter fun other _ => other != key

/-- Replaces every value, keeping the keys. -/
def map (m : FiniteMap α) (f : String → α → β) : FiniteMap β where
  entries := m.entries.map fun entry => (entry.1, f entry.1 entry.2)
  ascending := List.pairwise_map.mpr m.ascending

/-- Inserts entries from left to right, so the last entry of a key wins. -/
def insertAll (m : FiniteMap α) (entries : List (String × α)) : FiniteMap α :=
  entries.foldl (fun acc entry => acc.insert entry.1 entry.2) m

def ofList (entries : List (String × α)) : FiniteMap α := empty.insertAll entries

/-- A set of texts, as a map without values. -/
def ofKeys (keys : List String) : FiniteMap Unit := ofList (keys.map (·, ()))

/-- Applies a change to the value at a key, if there is one. -/
def modify (m : FiniteMap α) (key : String) (f : α → α) : FiniteMap α :=
  m.map fun other value => if other = key then f value else value

theorem lookup_insertEntry (key other : String) (value : α) (entries : List (String × α)) :
    lookupEntry other (insertEntry key value entries) =
      if other = key then some value else lookupEntry other entries := by
  induction entries with
  | nil => simp [insertEntry, lookupEntry]
  | cons head rest ih =>
    simp only [insertEntry]
    split
    · simp [lookupEntry]
    · split
      · next same => simp only [lookupEntry, ← same]; split <;> rfl
      · next notSame =>
        simp only [lookupEntry, ih]
        by_cases h : other = head.1
        · simp [h, Ne.symm notSame]
        · simp [h]

@[simp] theorem get?_empty (key : String) : (empty : FiniteMap α).get? key = none := rfl

@[simp] theorem get?_insert (m : FiniteMap α) (key other : String) (value : α) :
    (m.insert key value).get? other = if other = key then some value else m.get? other :=
  lookup_insertEntry key other value m.entries

theorem lookup_filter_ne (key other : String) (entries : List (String × α)) :
    lookupEntry other (entries.filter fun entry => entry.1 != key) =
      if other = key then none else lookupEntry other entries := by
  induction entries with
  | nil => simp [lookupEntry]
  | cons head rest ih =>
    by_cases hk : head.1 = key
    · simp only [List.filter_cons, hk, bne_self_eq_false, Bool.false_eq_true, if_false, ih,
        lookupEntry]
      split <;> simp_all
    · simp only [List.filter_cons, bne_iff_ne, ne_eq, hk, not_false_eq_true, if_true, lookupEntry, ih]
      by_cases h : other = head.1
      · simp [h, hk]
      · simp [h]

@[simp] theorem get?_erase (m : FiniteMap α) (key other : String) :
    (m.erase key).get? other = if other = key then none else m.get? other :=
  lookup_filter_ne key other m.entries

end FiniteMap

end EvpnMetadata
