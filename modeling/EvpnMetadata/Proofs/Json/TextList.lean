import EvpnMetadata.Proofs.Json.Record
import Mathlib.Data.List.TakeWhile

/-! # Texts of JSON lists

The texts that hold a list of texts as a JSON array, with any blanks between the parts, and with
each character written by itself or as an escape.  Whichever way a list is written, it is read back.
-/

namespace EvpnMetadata.Json

def IsBlanks (cs : List Char) : Prop := ∀ c ∈ cs, isBlank c = true

instance (cs : List Char) : Decidable (IsBlanks cs) :=
  List.decidableBAll (fun c => isBlank c = true) cs

theorem skipBlanks_append {blanks : List Char} (all : IsBlanks blanks) {c : Char}
    (dark : isBlank c = false) (rest : List Char) :
    skipBlanks (blanks ++ c :: rest) = c :: rest := by
  rw [skipBlanks, List.dropWhile_append_of_pos all]
  exact skipBlanks_cons dark rest

inductive IsItem : List Char → String → Prop where
  | literal {before after : List Char} {parts : List (List Char)} {s : String}
    (blanksBefore : IsBlanks before) (spelled : List.Forall₂ Spelling parts s.toList)
    (blanksAfter : IsBlanks after) : IsItem (before ++ '"' :: (parts.flatten ++ '"' :: after)) s

inductive AreItems : List Char → List String → Prop where
  | one {written : List Char} {s : String} (item : IsItem written s) : AreItems written [s]
  | more {written others : List Char} {s : String} {rest : List String}
    (item : IsItem written s) (items : AreItems others rest) :
    AreItems (written ++ ',' :: others) (s :: rest)

inductive IsInside : List Char → List String → Prop where
  | empty {blanks : List Char} (all : IsBlanks blanks) : IsInside blanks []
  | filled {written : List Char} {items : List String} (all : AreItems written items) :
    IsInside written items

/-- A text that is a JSON array of the given texts. -/
inductive IsListText (text : String) (items : List String) : Prop where
  | brackets {before inside after : List Char} (blanksBefore : IsBlanks before)
    (held : IsInside inside items) (blanksAfter : IsBlanks after)
    (written : text.toList = before ++ '[' :: (inside ++ ']' :: after))

theorem isBlanks_nil : IsBlanks [] := by decide

theorem isItem_write (s : String) : IsItem (write (.text s)) s := by
  have item : IsItem ([] ++ '"' :: ((s.toList.map writeChar).flatten ++ '"' :: [])) s :=
    .literal isBlanks_nil (spelling_flatMap s.toList) isBlanks_nil
  rwa [← List.flatMap_def] at item

theorem areItems_writeItems (s : String) (rest : List String) :
    ∃ inside, write (.text s) ++ writeItems (rest.map text) = inside ++ [']'] ∧
      AreItems inside (s :: rest) := by
  induction rest generalizing s with
  | nil => exact ⟨_, rfl, .one (isItem_write s)⟩
  | cons next rest ih =>
    obtain ⟨inside, written, items⟩ := ih next
    refine ⟨_, ?_, .more (isItem_write s) items⟩
    rw [List.map_cons, writeItems, List.cons_append, written, List.append_assoc]
    rfl

/-- The text that is written for a list is one of those that hold it. -/
theorem isListText_render (items : List String) : IsListText (texts items).render items := by
  cases items with
  | nil => exact .brackets isBlanks_nil (.empty isBlanks_nil) isBlanks_nil rfl
  | cons s rest =>
    obtain ⟨inside, written, held⟩ := areItems_writeItems s rest
    refine .brackets isBlanks_nil (.filled held) isBlanks_nil ?_
    rw [render, String.toList_ofList, texts, List.map_cons, write, List.cons_append, written]
    rfl

variable {written rest : List Char} {s : String} {items : List String}

theorem IsItem.read (item : IsItem written s) {c : Char} (dark : isBlank c = false)
    (rest : List Char) :
    ∃ tail, skipBlanks (written ++ c :: rest) = '"' :: tail ∧
      ∀ fuel, ∃ left, readValue (fuel + 1) ('"' :: tail) = some (.text s, left) ∧
        skipBlanks left = c :: rest := by
  cases item with
  | @literal before after parts s blanksBefore spelled blanksAfter =>
    refine ⟨parts.flatten ++ '"' :: (after ++ c :: rest), ?_, fun fuel => ?_⟩
    · simp only [List.append_assoc, List.cons_append]
      exact skipBlanks_append blanksBefore (by decide) _
    · refine ⟨after ++ c :: rest, ?_, skipBlanks_append blanksAfter dark rest⟩
      rw [readValue, readString_flatten spelled]
      rfl

theorem readItems_last {fuel : Nat} {cs left rest : List Char} {item : Json}
    (value : readValue fuel cs = some (item, left)) (closing : skipBlanks left = ']' :: rest) :
    readItems (fuel + 1) cs = some ([item], rest) := by
  simp [readItems, value, closing]

theorem readItems_next {fuel : Nat} {cs left rest after : List Char} {item : Json}
    {items : List Json} (value : readValue fuel cs = some (item, left))
    (comma : skipBlanks left = ',' :: rest)
    (others : readItems fuel (skipBlanks rest) = some (items, after)) :
    readItems (fuel + 1) cs = some (item :: items, after) := by
  simp [readItems, value, comma, others]

theorem AreItems.read (held : AreItems written items) (rest : List Char) :
    ∃ tail, skipBlanks (written ++ ']' :: rest) = '"' :: tail ∧
      ∀ fuel, items.length ≤ fuel →
        readItems (fuel + 1) ('"' :: tail) = some (items.map text, rest) := by
  induction held with
  | one item =>
    obtain ⟨tail, start, read⟩ := item.read (by decide : isBlank ']' = false) rest
    refine ⟨tail, start, fun fuel enough => ?_⟩
    obtain ⟨fuel, rfl⟩ := Nat.exists_eq_add_one.mpr enough
    obtain ⟨left, value, closing⟩ := read fuel
    exact readItems_last value closing
  | @more written others s items item _ ih =>
    obtain ⟨next, nextStart, readOthers⟩ := ih
    obtain ⟨tail, start, read⟩ :=
      item.read (by decide : isBlank ',' = false) (others ++ ']' :: rest)
    refine ⟨tail, by rwa [List.append_assoc], fun fuel enough => ?_⟩
    obtain ⟨fuel, rfl⟩ := Nat.exists_eq_add_one.mpr (Nat.zero_lt_of_lt enough)
    obtain ⟨left, value, comma⟩ := read fuel
    refine readItems_next value comma ?_
    rw [nextStart]
    exact readOthers fuel (Nat.le_of_succ_le_succ enough)

theorem AreItems.length_le (held : AreItems written items) : items.length ≤ written.length := by
  induction held with
  | one item =>
    cases item
    simp
    omega
  | more item _ ih =>
    rw [List.length_append, List.length_cons, List.length_cons]
    omega

theorem IsInside.read (held : IsInside written items) {fuel : Nat}
    (enough : written.length < fuel) (rest : List Char) :
    readValue (fuel + 1) ('[' :: (written ++ ']' :: rest)) = some (texts items, rest) := by
  cases held with
  | empty all =>
    rw [readValue, skipBlanks_append all (by decide)]
    rfl
  | filled all =>
    obtain ⟨tail, start, read⟩ := all.read rest
    obtain ⟨fuel, rfl⟩ := Nat.exists_eq_add_one.mpr (Nat.zero_lt_of_lt enough)
    have length := all.length_le
    rw [readValue, start, texts]
    simp [read fuel (by omega)]

theorem IsListText.isEmpty_eq_false {text : String} (isList : IsListText text items) :
    text.isEmpty = false := by
  cases isList with
  | brackets blanksBefore held blanksAfter written =>
    cases empty : text.isEmpty with
    | false => rfl
    | true =>
      rw [String.isEmpty_iff.mp empty] at written
      simp at written

/-- However a list of texts is written, it is read back. -/
theorem IsListText.readTexts? {text : String} (isList : IsListText text items) :
    readTexts? text = some items := by
  cases isList with
  | @brackets before inside after blanksBefore held blanksAfter written =>
    have start : skipBlanks text.toList = '[' :: (inside ++ ']' :: after) := by
      rw [written]
      exact skipBlanks_append blanksBefore (by decide) _
    have whole : skipBlanks after = [] := List.dropWhile_eq_nil_iff.mpr blanksAfter
    have read : readValue (2 * ('[' :: (inside ++ ']' :: after)).length + 2)
        ('[' :: (inside ++ ']' :: after)) = some (texts items, after) := by
      refine held.read ?_ after
      rw [List.length_cons, List.length_append]
      omega
    simp only [Json.readTexts?, read?, start, read, whole, if_pos]
    exact texts?_texts items

end EvpnMetadata.Json
