import EvpnMetadata.Proofs.Topology.Inventory
import Mathlib.Data.List.Induction

/-! # Tables and their histories

A table lists records under distinct ids.  Whatever was written to it, the record under an id is the
one that was last stored there, as amended since, and the ids are listed in the order in which they
arrived: an id that is stored again keeps its place, and one that was dropped arrives anew.
-/

namespace EvpnMetadata.Topology

/-- A write to a table; one that concerns another table leaves this one as it is. -/
inductive Write (α : Type) where
  | store (record : α)
  | drop (id : String)
  | amend (id : String) (change : α → α)
  | elsewhere

namespace Write

variable (key : α → String)

def apply (items : List α) : Write α → List α
  | store record => upsert (fun other => key other = key record) record items
  | drop id => items.filter fun record => key record ≠ id
  | amend id change => modifyFirst (fun record => key record = id) change items
  | elsewhere => items

def KeepsIds : Write α → Prop
  | amend _ change => ∀ record, key (change record) = key record
  | _ => True

def Stores (id : String) : Write α → Prop
  | store record => key record = id
  | _ => False

def Drops (id : String) : Write α → Prop
  | drop other => id = other
  | _ => False

/-- What a write leaves of the record under an id, if it neither stores nor drops one there. -/
def amended (id : String) (record : α) : Write α → α
  | amend other change => if id = other then change record else record
  | _ => record

end Write

section OneWrite

variable {key : α → String} {items : List α} {item : α} {write : Write α}

theorem Write.Stores.not_drops {id : String} (stores : write.Stores key id) :
    ¬write.Drops id := by
  cases write with
  | store => exact not_false
  | drop | amend | elsewhere => exact stores.elim

theorem Write.key_amended (keeps : write.KeepsIds key) (id : String) (record : α) :
    key (write.amended id record) = key record := by
  cases write with
  | amend other change =>
    rw [Write.amended]
    split_ifs
    exacts [keeps record, rfl]
  | store | drop | elsewhere => rfl

/-- An item that is there under its id is replaced in its place. -/
theorem upsert_in_place (here : key item ∈ items.map key) :
    ∃ before old after, items = before ++ old :: after ∧ key old = key item ∧
      upsert (fun other => key other = key item) item items = before ++ item :: after := by
  induction items with
  | nil => simp at here
  | cons head rest ih =>
    by_cases same : key head = key item
    · exact ⟨[], head, rest, rfl, same, by simp [upsert, same]⟩
    · have later : key item ∈ rest.map key := by
        simpa [Ne.symm same] using here
      obtain ⟨before, old, after, rfl, named, replaced⟩ := ih later
      exact ⟨head :: before, old, after, rfl, named, by simp [upsert, same, replaced]⟩

/-- The ids after a write are those before it, less the one that it drops, with the one that it
stores. -/
theorem mem_map_apply (keeps : write.KeepsIds key) {id : String} :
    id ∈ (write.apply key items).map key ↔
      write.Stores key id ∨ (id ∈ items.map key ∧ ¬write.Drops id) := by
  cases write with
  | store record =>
    rw [Write.apply, mem_map_upsert]
    simp [Write.Stores, Write.Drops, eq_comm]
  | drop other =>
    have ids : ((Write.drop other).apply key items).map key =
        (items.map key).filter fun id => id ≠ other := by
      simp [Write.apply, List.filter_map, Function.comp_def]
    simp [ids, Write.Stores, Write.Drops]
  | amend other change =>
    rw [Write.apply, map_modifyFirst _ keeps]
    simp [Write.Stores, Write.Drops]
  | elsewhere => simp [Write.apply, Write.Stores, Write.Drops]

/-- What relates each id to all later ones still does after a write, if it relates the ids there to
a new one. -/
theorem pairwise_map_apply {before : String → String → Prop} (keeps : write.KeepsIds key)
    (ordered : (items.map key).Pairwise before)
    (last : ∀ id, write.Stores key id → id ∉ items.map key → ∀ first ∈ items.map key,
      before first id) :
    ((write.apply key items).map key).Pairwise before := by
  cases write with
  | store record =>
    rw [Write.apply]
    by_cases here : key record ∈ items.map key
    · obtain ⟨_, _, _, rfl, named, replaced⟩ := upsert_in_place here
      rw [replaced]
      simpa [named] using ordered
    · rw [upsert_of_fresh here, List.map_append, List.pairwise_append]
      refine ⟨ordered, by simp, fun first mem => ?_⟩
      simpa using last (key record) rfl here first mem
  | drop id => exact ordered.sublist (List.filter_sublist.map key)
  | amend id change =>
    rw [Write.apply, map_modifyFirst _ keeps]
    exact ordered
  | elsewhere => exact ordered

/-- After a write, a record is the one just stored or one that was there, as amended. -/
theorem mem_apply (keeps : write.KeepsIds key) (distinct : (items.map key).Nodup) :
    item ∈ write.apply key items ↔
      write = .store item ∨
        (¬write.Stores key (key item) ∧ ¬write.Drops (key item) ∧
          ∃ earlier ∈ items, key earlier = key item ∧ item = write.amended (key item) earlier) := by
  cases write with
  | store record =>
    have distinct' := nodup_upsert record distinct
    constructor
    · intro mem
      rcases mem_of_mem_upsert mem with rfl | before
      · exact .inl rfl
      · by_cases same : key record = key item
        · have stored := List.inj_on_of_nodup_map distinct' mem_upsert_self mem same
          exact .inl (stored ▸ rfl)
        · exact .inr ⟨same, id, item, before, rfl, rfl⟩
    · rintro (stored | ⟨apart, _, _, before, _, rfl⟩)
      · cases stored
        exact mem_upsert_self
      · apply mem_upsert_of_mem before
        intro same
        exact absurd (of_decide_eq_true same).symm apart
  | drop id =>
    simp only [Write.apply, Write.Stores, Write.Drops, Write.amended, List.mem_filter]
    simp [and_comm]
  | amend id change =>
    have mapped : (Write.amend id change).apply key items =
        items.map fun record => (Write.amend id change).amended (key record) record :=
      modifyFirst_eq_map distinct id change
    rw [mapped, List.mem_map]
    constructor
    · rintro ⟨earlier, before, rfl⟩
      have same := Write.key_amended keeps (key earlier) earlier
      exact .inr ⟨not_false, not_false, earlier, before, same.symm, by rw [same]⟩
    · rintro (stored | ⟨_, _, earlier, before, same, amended⟩)
      · cases stored
      · exact ⟨earlier, before, by rw [same, ← amended]⟩
  | elsewhere => simp [Write.apply, Write.Stores, Write.Drops, Write.amended]

end OneWrite

section History

variable (key : α → String)

/-- The record that was last stored under an id, if it was not dropped since, with all later
amendments. -/
def Told (history : List (Write α)) (id : String) (record : α) : Prop :=
  ∃ before stored after, history = before ++ .store stored :: after ∧ key stored = id ∧
    (∀ write ∈ after, ¬write.Stores key id ∧ ¬write.Drops id) ∧
    record = after.foldl (fun record write => write.amended id record) stored

/-- The moment at which an id was stored that was not there, if it was not dropped since. -/
def Arrived (history : List (Write α)) (id : String) (moment : Nat) : Prop :=
  ∃ before stored after, history = before ++ .store stored :: after ∧ key stored = id ∧
    before.length = moment ∧ (∀ record, ¬Told key before id record) ∧
    ∀ write ∈ after, ¬write.Drops id

variable {key} {history : List (Write α)} {write : Write α} {id : String}

/-- One item of a longer list is the last one, or it stands before the last one. -/
theorem append_singleton_eq_iff {items before after : List β} {last item : β} :
    items ++ [last] = before ++ item :: after ↔
      (items = before ∧ last = item ∧ after = []) ∨
        ∃ rest, after = rest ++ [last] ∧ items = before ++ item :: rest := by
  cases after using List.reverseRecOn with
  | nil => simp
  | append_singleton rest other =>
    rw [← List.cons_append, ← List.append_assoc, List.append_singleton_inj]
    constructor
    · rintro ⟨rfl, rfl⟩
      exact .inr ⟨rest, rfl, rfl⟩
    · rintro (⟨_, _, none⟩ | ⟨rest', same, rfl⟩)
      · simp at none
      · obtain ⟨rfl, rfl⟩ := List.append_singleton_inj.mp same
        exact ⟨rfl, rfl⟩

/-- After one more write, a record is the one just stored or the one told before, as amended. -/
theorem told_snoc {record : α} :
    Told key (history ++ [write]) id record ↔
      (write = .store record ∧ key record = id) ∨
        (¬write.Stores key id ∧ ¬write.Drops id ∧
          ∃ earlier, Told key history id earlier ∧ record = write.amended id earlier) := by
  constructor
  · rintro ⟨before, stored, after, split, named, quiet, rfl⟩
    rcases append_singleton_eq_iff.mp split with ⟨rfl, rfl, rfl⟩ | ⟨rest, rfl, rfl⟩
    · exact .inl ⟨rfl, named⟩
    · obtain ⟨unstored, undropped⟩ := quiet write (by simp)
      refine .inr ⟨unstored, undropped, _, ⟨before, stored, rest, rfl, named, ?_, rfl⟩, by simp⟩
      exact fun other mem => quiet other (by simp [mem])
  · rintro (⟨rfl, named⟩ | ⟨unstored, undropped, _, ⟨before, stored, after, rfl, named, quiet, rfl⟩,
      rfl⟩)
    · exact ⟨history, record, [], rfl, named, by simp, rfl⟩
    · refine ⟨before, stored, after ++ [write], by simp, named, fun other mem => ?_, by simp⟩
      rcases List.mem_append.mp mem with earlier | last
      · exact quiet other earlier
      · obtain rfl := List.mem_singleton.mp last
        exact ⟨unstored, undropped⟩

theorem arrived_snoc {moment : Nat} :
    Arrived key (history ++ [write]) id moment ↔
      (write.Stores key id ∧ moment = history.length ∧ ∀ record, ¬Told key history id record) ∨
        (Arrived key history id moment ∧ ¬write.Drops id) := by
  constructor
  · rintro ⟨before, stored, after, split, named, rfl, unknown, undropped⟩
    rcases append_singleton_eq_iff.mp split with ⟨rfl, rfl, rfl⟩ | ⟨rest, rfl, rfl⟩
    · exact .inl ⟨named, rfl, unknown⟩
    · refine .inr ⟨⟨before, stored, rest, rfl, named, rfl, unknown, ?_⟩, undropped write (by simp)⟩
      exact fun other mem => undropped other (by simp [mem])
  · rintro (⟨stores, rfl, unknown⟩ |
      ⟨⟨before, stored, after, rfl, named, rfl, unknown, undropped⟩, kept⟩)
    · cases write with
      | store stored => exact ⟨history, stored, [], rfl, stores, rfl, unknown, by simp⟩
      | drop | amend | elsewhere => exact stores.elim
    · refine ⟨before, stored, after ++ [write], by simp, named, rfl, unknown, fun other mem => ?_⟩
      rcases List.mem_append.mp mem with earlier | last
      · exact undropped other earlier
      · exact List.mem_singleton.mp last ▸ kept

theorem not_told_nil (record : α) : ¬Told key [] id record := by
  rintro ⟨before, stored, after, split, _⟩
  simp at split

theorem Arrived.lt_length {moment : Nat} (arrived : Arrived key history id moment) :
    moment < history.length := by
  obtain ⟨before, stored, after, rfl, _, rfl, _⟩ := arrived
  simp

theorem not_arrived_nil (moment : Nat) : ¬Arrived key [] id moment := by
  rintro ⟨before, stored, after, split, _⟩
  simp at split

/-- What the records stored under an id have, and amendments keep, the one told there has. -/
theorem Told.of_stored {record : α} (told : Told key history id record) {property : α → Prop}
    (stored : ∀ record, .store record ∈ history → key record = id → property record)
    (kept : ∀ write ∈ history, ∀ record, property record → property (write.amended id record)) :
    property record := by
  induction history using List.reverseRecOn generalizing record with
  | nil => exact (not_told_nil record told).elim
  | append_singleton history write ih =>
    rcases told_snoc.mp told with ⟨rfl, named⟩ | ⟨_, _, earlier, before, rfl⟩
    · exact stored record (by simp) named
    · refine kept write (by simp) earlier (ih before ?_ ?_)
      · exact fun record mem => stored record (by simp [mem])
      · exact fun write mem => kept write (by simp [mem])

theorem Told.key_eq {record : α} (told : Told key history id record)
    (keeps : ∀ write ∈ history, write.KeepsIds key) : key record = id := by
  apply told.of_stored fun _ _ named => named
  intro write mem earlier named
  rw [write.key_amended (keeps write mem), named]

end History

section Tables

variable (key : α → String)

def table (history : List (Write α)) : List α := history.foldl (Write.apply key) []

variable {key} {history : List (Write α)}

theorem table_snoc (write : Write α) :
    table key (history ++ [write]) = write.apply key (table key history) := by
  simp [table]

theorem nodup_table (keeps : ∀ write ∈ history, write.KeepsIds key) :
    ((table key history).map key).Nodup := by
  induction history using List.reverseRecOn with
  | nil => exact .nil
  | append_singleton history write ih =>
    rw [List.forall_mem_append, List.forall_mem_singleton] at keeps
    rw [table_snoc]
    apply pairwise_map_apply keeps.2 (ih keeps.1)
    rintro id _ fresh first mem rfl
    exact fresh mem

theorem mem_table (keeps : ∀ write ∈ history, write.KeepsIds key) {record : α} :
    record ∈ table key history ↔ Told key history (key record) record := by
  induction history using List.reverseRecOn generalizing record with
  | nil => simp [table, not_told_nil]
  | append_singleton history write ih =>
    rw [List.forall_mem_append, List.forall_mem_singleton] at keeps
    rw [table_snoc, mem_apply keeps.2 (nodup_table keeps.1), told_snoc]
    have same {earlier} : (earlier ∈ table key history ∧ key earlier = key record ∧
          record = write.amended (key record) earlier) ↔
        Told key history (key record) earlier ∧ record = write.amended (key record) earlier := by
      rw [ih keeps.1, ← and_assoc]
      refine and_congr_left fun _ => ⟨fun ⟨told, named⟩ => named ▸ told, fun told => ?_⟩
      have named := told.key_eq keeps.1
      exact ⟨named.symm ▸ told, named⟩
    simp only [same, and_true]

theorem find?_table (keeps : ∀ write ∈ history, write.KeepsIds key) {id : String} {record : α} :
    ((table key history).find? fun other => key other = id) = some record ↔
      Told key history id record := by
  rw [find?_eq_some_iff (nodup_table keeps), mem_table keeps]
  constructor
  · rintro ⟨told, rfl⟩
    exact told
  · intro told
    have named := told.key_eq keeps
    exact ⟨named.symm ▸ told, named⟩

theorem mem_map_table (keeps : ∀ write ∈ history, write.KeepsIds key) {id : String} :
    id ∈ (table key history).map key ↔ ∃ record, Told key history id record := by
  simp only [← find?_table keeps, find?_eq_some_iff (nodup_table keeps), List.mem_map]

theorem not_mem_map_table {id : String} {dropping : Write α} {after : List (Write α)}
    (drops : dropping.Drops id) (unstored : ∀ write ∈ after, ¬write.Stores key id)
    (keeps : ∀ write ∈ history ++ dropping :: after, write.KeepsIds key) :
    id ∉ (table key (history ++ dropping :: after)).map key := by
  induction after using List.reverseRecOn with
  | nil =>
    rw [table_snoc, mem_map_apply (keeps dropping (by simp))]
    rintro (stores | ⟨_, undropped⟩)
    exacts [stores.not_drops drops, undropped drops]
  | append_singleton after write ih =>
    rw [List.forall_mem_append, List.forall_mem_singleton] at unstored
    rw [← List.cons_append, ← List.append_assoc] at keeps ⊢
    rw [List.forall_mem_append, List.forall_mem_singleton] at keeps
    rw [table_snoc, mem_map_apply keeps.2]
    rintro (stores | ⟨listed, _⟩)
    exacts [unstored.2 stores, ih unstored.1 keeps.1 listed]

theorem mem_map_table_iff_arrived (keeps : ∀ write ∈ history, write.KeepsIds key) {id : String} :
    id ∈ (table key history).map key ↔ ∃ moment, Arrived key history id moment := by
  induction history using List.reverseRecOn with
  | nil => simp [table, not_arrived_nil]
  | append_singleton history write ih =>
    rw [List.forall_mem_append, List.forall_mem_singleton] at keeps
    have unknown : (∀ record, ¬Told key history id record) ↔
        ¬∃ moment, Arrived key history id moment := by
      rw [← ih keeps.1, mem_map_table keeps.1, not_exists]
    have apart : write.Stores key id → ¬write.Drops id := Write.Stores.not_drops
    rw [table_snoc, mem_map_apply keeps.2, ih keeps.1]
    simp only [arrived_snoc, unknown, exists_or, exists_and_left, exists_and_right, exists_eq,
      true_and]
    by_cases arrived : ∃ moment, Arrived key history id moment
    · simpa [arrived] using apart
    · simp [arrived]

theorem pairwise_table (keeps : ∀ write ∈ history, write.KeepsIds key) :
    ((table key history).map key).Pairwise fun first second => ∀ moment later,
      Arrived key history first moment → Arrived key history second later → moment < later := by
  induction history using List.reverseRecOn with
  | nil => exact .nil
  | append_singleton history write ih =>
    rw [List.forall_mem_append, List.forall_mem_singleton] at keeps
    rw [table_snoc]
    -- What is there already has arrived before this write.
    have earlier {id moment} (here : id ∈ (table key history).map key)
        (arrived : Arrived key (history ++ [write]) id moment) : Arrived key history id moment := by
      rcases arrived_snoc.mp arrived with ⟨_, _, unknown⟩ | ⟨before, _⟩
      · obtain ⟨record, told⟩ := (mem_map_table keeps.1).mp here
        exact absurd told (unknown record)
      · exact before
    apply pairwise_map_apply keeps.2
    · refine (ih keeps.1).imp_of_mem ?_
      intro first second mem mem' ordered moment later arrived arrived'
      exact ordered moment later (earlier mem arrived) (earlier mem' arrived')
    · intro id _ fresh first mem moment later arrived arrived'
      rcases arrived_snoc.mp arrived' with ⟨_, rfl, _⟩ | ⟨before, _⟩
      · exact (earlier mem arrived).lt_length
      · exact absurd ((mem_map_table_iff_arrived keeps.1).mpr ⟨later, before⟩) fresh

end Tables

end EvpnMetadata.Topology
