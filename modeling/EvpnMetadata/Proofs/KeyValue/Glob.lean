import EvpnMetadata.KeyValue.Database

/-! # Patterns for a leading part

A text, and then a star, matches the keys that start with the text, unless the text has characters
that change what others stand for.  Stars and question marks in it let the pattern match more, but
never less.
-/

namespace EvpnMetadata.KeyValue

namespace Glob

def special : List Char := ['*', '?', '\\', '[']

theorem items_cons_of_plain {c : Char} (plain : c ∉ special) (rest : List Char) :
    items (c :: rest) = .literal c :: items rest := by
  simp only [special, List.mem_cons, List.not_mem_nil, or_false, not_or] at plain
  obtain ⟨star, mark, backslash, bracket⟩ := plain
  rw [items]
  · exact fun same => absurd same star
  · exact fun same => absurd same mark
  · exact fun _ _ same => absurd same backslash
  · exact fun same => absurd same bracket

theorem mem_tails_self (text : List α) : text ∈ tails text := by
  cases text with
  | nil => exact List.mem_singleton_self _
  | cons a rest => exact List.mem_cons_self

theorem matchItems_run (text : List Char) : matchItems [.run] text = true := by
  induction text with
  | nil => rfl
  | cons c text ih =>
    rw [matchItems, tails, List.any_cons]
    rw [matchItems] at ih
    rw [ih, Bool.or_true]

/-- A run may cover one character and no more. -/
theorem matchItems_run_cons {items : List Item} {text : List Char}
    (matched : matchItems items text = true) (c : Char) :
    matchItems (.run :: items) (c :: text) = true := by
  rw [matchItems, List.any_eq_true]
  exact ⟨text, List.mem_cons_of_mem _ (mem_tails_self text), matched⟩

/-- The characters that change what the characters after them stand for. -/
def shifting : List Char := ['\\', '[']

def IsSteady (text : String) : Prop := ∀ c ∈ text.toList, c ∉ shifting

instance (text : String) : Decidable (IsSteady text) :=
  List.decidableBAll (fun c => c ∉ shifting) text.toList

theorem shifting_subset_special : shifting ⊆ special := by decide

/-- A text without shifting characters matches itself, since a literal, a question mark and a star
all admit the character that they were read from. -/
theorem matchItems_append {text : List Char} (steady : ∀ c ∈ text, c ∉ shifting)
    {pattern rest : List Char} (matched : matchItems (items pattern) rest = true) :
    matchItems (items (text ++ pattern)) (text ++ rest) = true := by
  induction text with
  | nil => exact matched
  | cons c text ih =>
    obtain ⟨head, tail⟩ := List.forall_mem_cons.mp steady
    rw [List.cons_append, List.cons_append]
    by_cases star : c = '*'
    · subst star
      rw [items]
      exact matchItems_run_cons (ih tail) '*'
    by_cases mark : c = '?'
    · subst mark
      rw [items]
      exact ih tail
    have plain : c ∉ special := by
      simp only [shifting, List.mem_cons, List.not_mem_nil, or_false] at head
      simp [special, star, mark, head]
    rw [items_cons_of_plain plain]
    simp [matchItems, Item.admits, ih tail]

end Glob

/-- The keys with a leading part are among those that its pattern asks for. -/
theorem globMatches_star {start : String} (steady : Glob.IsSteady start) (rest : String) :
    globMatches (start ++ "*") (start ++ rest) = true := by
  have star : Glob.items ['*'] = [.run] := by simp [Glob.items]
  have matched : Glob.matchItems (Glob.items ['*']) rest.toList = true :=
    star ▸ Glob.matchItems_run rest.toList
  rw [globMatches, String.toList_append, String.toList_append]
  exact Glob.matchItems_append steady matched

/-- The pattern of a table leaves no key of the table out. -/
theorem Database.mem_keysLike_iff {table : String} (steady : Glob.IsSteady (table ++ "|"))
    (database : Database) (rest : String) :
    table ++ "|" ++ rest ∈ database.keysLike (table ++ "|*") ↔
      table ++ "|" ++ rest ∈ FiniteMap.keys database := by
  have pattern : table ++ "|*" = table ++ "|" ++ "*" := by
    rw [String.append_assoc]
    rfl
  rw [keysLike, List.mem_filter, pattern]
  exact and_iff_left (globMatches_star steady rest)

end EvpnMetadata.KeyValue
