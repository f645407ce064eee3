import EvpnMetadata.Proofs.Json.Scalars

/-! # JSON trees read back

Every tree whose literals spell texts and whose numerals are well formed is read back from its text,
whatever characters its texts hold.
-/

namespace EvpnMetadata.Json

theorem head_writeNumeral {n : Numeral} (formed : n.isWellFormed = true) :
    ∃ c tail, writeNumeral n = c :: tail ∧ (c = '-' ∨ c.isDigit = true) := by
  obtain ⟨negative, whole, fraction, exponent⟩ := n
  simp only [Numeral.isWellFormed, Bool.and_eq_true] at formed
  obtain ⟨c, tail, rfl, digit⟩ := head_isWhole formed.1.1
  cases negative with
  | true => exact ⟨'-', _, rfl, .inl rfl⟩
  | false => exact ⟨c, _, rfl, .inr digit⟩

theorem readValue_writeNumeral {n : Numeral} (formed : n.isWellFormed = true) {rest : List Char}
    (ends : EndsNumeral rest) (fuel : Nat) :
    readValue (fuel + 1) (writeNumeral n ++ rest) = some (.number n, rest) := by
  have other : ∀ {c : Char} {after : List Char}, c ≠ '-' → c.isDigit = false →
      writeNumeral n ++ rest ≠ c :: after := by
    intro c after sign digit same
    obtain ⟨first, tail, start, form⟩ := head_writeNumeral formed
    rw [start] at same
    obtain rfl := (List.cons.inj same).1
    rcases form with form | form
    · exact sign form
    · rw [digit] at form
      cases form
  rw [readValue]
  · rw [readNumeral_writeNumeral formed ends]
    rfl
  all_goals exact fun _ => other (by decide) (by decide)

theorem isBlank_of_isDigit {c : Char} (digit : c.isDigit = true) : isBlank c = false := by
  cases blank : isBlank c with
  | false => rfl
  | true =>
    simp only [isBlank, Bool.or_eq_true, decide_eq_true_eq] at blank
    rcases blank with ((rfl | rfl) | rfl) | rfl <;> cases digit

/-- A written value starts with no blank and no closing bracket, so the reader finds it at once. -/
theorem head_write {value : Json} (formed : value.isReadable Numeral.isWellFormed = true) :
    ∃ c tail, write value = c :: tail ∧ isBlank c = false ∧ c ≠ ']' := by
  match value with
  | .null => exact ⟨'n', _, rfl, by decide⟩
  | .bool true => exact ⟨'t', _, rfl, by decide⟩
  | .bool false => exact ⟨'f', _, rfl, by decide⟩
  | .string s => exact ⟨'"', _, rfl, by decide⟩
  | .array [] => exact ⟨'[', _, rfl, by decide⟩
  | .array (item :: items) => exact ⟨'[', _, rfl, by decide⟩
  | .object [] => exact ⟨'\x7b', _, rfl, by decide⟩
  | .object (member :: members) => exact ⟨'\x7b', _, rfl, by decide⟩
  | .number n =>
    obtain ⟨c, tail, start, form⟩ := head_writeNumeral formed
    refine ⟨c, tail, start, ?_⟩
    rcases form with rfl | digit
    · decide
    · exact ⟨isBlank_of_isDigit digit, by rintro rfl; cases digit⟩

theorem skipBlanks_cons {c : Char} (dark : isBlank c = false) (rest : List Char) :
    skipBlanks (c :: rest) = c :: rest :=
  List.dropWhile_cons_of_neg (by rw [dark]; decide)

theorem skipBlanks_write {value : Json} (formed : value.isReadable Numeral.isWellFormed = true)
    (rest : List Char) : skipBlanks (write value ++ rest) = write value ++ rest := by
  obtain ⟨c, tail, start, dark, -⟩ := head_write formed
  rw [start]
  exact skipBlanks_cons dark _

theorem endsNumeral_writeItems (items : List Json) (rest : List Char) :
    EndsNumeral (writeItems items ++ rest) := by
  cases items with
  | nil => rintro c ⟨⟩; decide
  | cons item items => rintro c ⟨⟩; decide

theorem endsNumeral_writeMembers (members : List (Option String × Json)) (rest : List Char) :
    EndsNumeral (writeMembers members ++ rest) := by
  cases members with
  | nil => rintro c ⟨⟩; decide
  | cons member members => rintro c ⟨⟩; decide

theorem readValue_array {fuel : Nat} {item : Json} {items : List Json} {rest : List Char}
    (formed : item.isReadable Numeral.isWellFormed = true)
    (read : readItems fuel (write item ++ writeItems items ++ rest) = some (item :: items, rest)) :
    readValue (fuel + 1) (write (.array (item :: items)) ++ rest) =
      some (.array (item :: items), rest) := by
  obtain ⟨c, tail, start, dark, other⟩ := head_write formed
  have written : write (.array (item :: items)) ++ rest =
      '[' :: (write item ++ writeItems items ++ rest) := by rw [write]; rfl
  rw [written, readValue, List.append_assoc, skipBlanks_write formed, ← List.append_assoc]
  split
  · next same =>
    rw [start] at same
    exact absurd (List.cons.inj same).1 other
  · rw [read]
    rfl

theorem readValue_object {fuel : Nat} {member : Option String × Json}
    {members : List (Option String × Json)} {rest : List Char}
    (read : readMembers fuel
      (writeLiteral member.1 ++ ':' :: write member.2 ++ writeMembers members ++ rest) =
        some (member :: members, rest)) :
    readValue (fuel + 1) (write (.object (member :: members)) ++ rest) =
      some (.object (member :: members), rest) := by
  have written : write (.object (member :: members)) ++ rest = '\x7b' ::
      (writeLiteral member.1 ++ ':' :: write member.2 ++ writeMembers members ++ rest) := by
    rw [write]; rfl
  have dark : isBlank '"' = false := by decide
  have opened : ∃ tail, writeLiteral member.1 ++ ':' :: write member.2 ++ writeMembers members ++
      rest = '"' :: tail := ⟨_, rfl⟩
  obtain ⟨tail, opened⟩ := opened
  rw [written, readValue, opened, skipBlanks_cons dark, ← opened]
  split
  · next same => rw [opened] at same; cases same
  · rw [read]
    rfl

variable {inRange : Numeral → Bool}

theorem isReadableItems_cons {item : Json} {items : List Json} :
    isReadableItems inRange (item :: items) = true ↔
      item.isReadable inRange = true ∧ isReadableItems inRange items = true := by
  rw [isReadableItems, Bool.and_eq_true]

theorem isReadableMembers_cons {key : Option String} {value : Json}
    {members : List (Option String × Json)} :
    isReadableMembers inRange ((key, value) :: members) = true ↔
      (key.isSome = true ∧ value.isReadable inRange = true) ∧
        isReadableMembers inRange members = true := by
  rw [isReadableMembers, Bool.and_eq_true, Bool.and_eq_true]

-- By induction on the fuel, on which the readers recurse as well.
mutual

theorem readValue_write (fuel : Nat) {value : Json}
    (formed : value.isReadable Numeral.isWellFormed = true) (enough : (write value).length ≤ fuel)
    {rest : List Char} (ends : EndsNumeral rest) :
    readValue fuel (write value ++ rest) = some (value, rest) := by
  obtain ⟨c, tail, start, -⟩ := head_write formed
  match fuel with
  | 0 => rw [start] at enough; cases enough
  | fuel + 1 =>
    match value with
    | .null => rfl
    | .bool true => rfl
    | .bool false => rfl
    | .number n => exact readValue_writeNumeral formed ends fuel
    | .string (some s) =>
      change readValue (fuel + 1) (writeLiteral s ++ rest) = _
      rw [writeLiteral_append, readValue, Option.getD_some, readString_flatMap_writeChar]
      rfl
    | .array [] => rfl
    | .array (item :: items) =>
      exact readValue_array (isReadableItems_cons.mp formed).1
        (readItems_write fuel formed (by simpa [write] using enough) rest)
    | .object [] => rfl
    | .object ((key, value) :: members) =>
      exact readValue_object (readMembers_write fuel formed (by simpa [write] using enough) rest)

theorem readItems_write (fuel : Nat) {item : Json} {items : List Json}
    (formed : isReadableItems Numeral.isWellFormed (item :: items) = true)
    (enough : (write item ++ writeItems items).length ≤ fuel) (rest : List Char) :
    readItems fuel (write item ++ writeItems items ++ rest) = some (item :: items, rest) := by
  obtain ⟨head, tail⟩ := isReadableItems_cons.mp formed
  rw [List.length_append] at enough
  match fuel, items with
  | 0, items =>
    obtain ⟨c, tail, start, -⟩ := head_write head
    rw [start, List.length_cons] at enough
    omega
  | fuel + 1, [] =>
    have read := readValue_write fuel head (Nat.le_of_succ_le_succ enough)
      (endsNumeral_writeItems [] rest)
    rw [readItems, List.append_assoc, read]
    rfl
  | fuel + 1, next :: items =>
    have written : writeItems (next :: items) ++ rest =
        ',' :: (write next ++ writeItems items ++ rest) := by rw [writeItems]; rfl
    have length : (writeItems (next :: items)).length =
        (write next ++ writeItems items).length + 1 := by rw [writeItems]; rfl
    have read := readValue_write fuel head (by omega)
      (endsNumeral_writeItems (next :: items) rest)
    have others := readItems_write fuel tail (by omega) rest
    have after := skipBlanks_write (isReadableItems_cons.mp tail).1 (writeItems items ++ rest)
    rw [← List.append_assoc] at after
    rw [readItems, List.append_assoc, read, written]
    change (readItems fuel (skipBlanks (write next ++ writeItems items ++ rest))).bind _ = _
    rw [after, others]
    rfl

theorem readMembers_write (fuel : Nat) {key : Option String} {value : Json}
    {members : List (Option String × Json)}
    (formed : isReadableMembers Numeral.isWellFormed ((key, value) :: members) = true)
    (enough : (writeLiteral key ++ ':' :: write value ++ writeMembers members).length ≤ fuel)
    (rest : List Char) :
    readMembers fuel (writeLiteral key ++ ':' :: write value ++ writeMembers members ++ rest) =
      some ((key, value) :: members, rest) := by
  obtain ⟨⟨spelled, head⟩, tail⟩ := isReadableMembers_cons.mp formed
  obtain ⟨text, rfl⟩ := Option.isSome_iff_exists.mp spelled
  simp only [List.length_append, List.length_cons] at enough
  match fuel, members with
  | 0, members => omega
  | fuel + 1, [] =>
    have read := readValue_write fuel head (by omega) (endsNumeral_writeMembers [] rest)
    rw [List.append_assoc, List.append_assoc, writeLiteral_append, readMembers,
      readString_flatMap_writeChar]
    change (readValue fuel (skipBlanks (write value ++ (writeMembers [] ++ rest)))).bind _ = _
    rw [skipBlanks_write head, read]
    rfl
  | fuel + 1, (key, next) :: members =>
    have written : writeMembers ((key, next) :: members) ++ rest =
        ',' :: (writeLiteral key ++ ':' :: write next ++ writeMembers members ++ rest) := by
      rw [writeMembers]; rfl
    have length : (writeMembers ((key, next) :: members)).length =
        (writeLiteral key ++ ':' :: write next ++ writeMembers members).length + 1 := by
      rw [writeMembers]; rfl
    have read := readValue_write fuel head (by omega)
      (endsNumeral_writeMembers ((key, next) :: members) rest)
    have others := readMembers_write fuel tail (by omega) rest
    rw [List.append_assoc, List.append_assoc, writeLiteral_append, readMembers,
      readString_flatMap_writeChar]
    change (readValue fuel (skipBlanks (write value ++
      (writeMembers ((key, next) :: members) ++ rest)))).bind _ = _
    rw [skipBlanks_write head, read, written]
    change (readMembers fuel
      (writeLiteral key ++ ':' :: write next ++ writeMembers members ++ rest)).bind _ = _
    rw [others]
    rfl

end

theorem read?_render {value : Json} (formed : value.isReadable Numeral.isWellFormed = true) :
    read? value.render = some value := by
  have start := skipBlanks_write formed []
  have read := readValue_write (2 * (write value).length + 2) formed (by omega)
    endsNumeral_nil
  rw [List.append_nil] at start read
  simp only [read?, render, String.toList_ofList, start, read]
  rfl

end EvpnMetadata.Json
