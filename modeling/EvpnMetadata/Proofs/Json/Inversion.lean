import EvpnMetadata.Proofs.Json.TextList

/-! # What is read as a list of texts

The reader takes a text for a list of texts only if it is one.  Each reader is inverted on its own:
what it has read stands at the front of the characters that it was given, in one of the spellings.
-/

namespace EvpnMetadata.Json

/-- The ways to write one piece of a literal. -/
inductive Writing : List Char → Piece → Prop where
  | plain {c : Char} (visible : ' ' ≤ c) (quote : c ≠ '"') (backslash : c ≠ '\\') :
    Writing [c] (.char c)
  | short {letter c : Char} (named : shortEscape? letter = some c) :
    Writing ['\\', letter] (.char c)
  | unit {a b c d : Char} {code : Nat} (unit : unitOf? a b c d = some code) :
    Writing ['\\', 'u', a, b, c, d] (.unit code)

theorem Writing.spelling {written : List Char} {c : Char} (writing : Writing written (.char c)) :
    Spelling written c := by
  cases writing with
  | plain visible quote backslash => exact .plain visible quote backslash
  | short named => exact .short named

/-- A unit that is no half of a surrogate pair spells a character alone. -/
theorem Writing.spelling_unit {written : List Char} {code : Nat}
    (writing : Writing written (.unit code))
    (alone : ¬ (isHighSurrogate code || isLowSurrogate code) = true) :
    Spelling written (Char.ofNat code) := by
  obtain ⟨high, low⟩ := Bool.or_eq_false_iff.mp (eq_false_of_ne_true alone)
  cases writing with
  | unit unit => exact .unit unit high low

theorem Writing.spelling_pair {first second : List Char} {high low : Nat}
    (writing : Writing first (.unit high)) (next : Writing second (.unit low))
    (pair : (isHighSurrogate high && isLowSurrogate low) = true) :
    Spelling (first ++ second) (Char.ofNat (pairCode high low)) := by
  obtain ⟨isHigh, isLow⟩ := Bool.and_eq_true_iff.mp pair
  cases writing with
  | unit unit =>
    cases next with
    | unit other => exact .pair unit other isHigh isLow

theorem exists_writings_of_readPieces {cs rest : List Char} {pieces : List Piece}
    (read : readPieces cs = some (pieces, rest)) :
    ∃ parts, List.Forall₂ Writing parts pieces ∧ cs = parts.flatten ++ '"' :: rest := by
  fun_induction readPieces cs generalizing pieces rest with
  | case1 => cases read
  | case2 cs =>
    cases read
    exact ⟨[], .nil, rfl⟩
  | case3 a b c d cs ih =>
    obtain ⟨code, unit, read⟩ := Option.bind_eq_some_iff.mp read
    obtain ⟨⟨others, after⟩, later, read⟩ := Option.bind_eq_some_iff.mp read
    cases read
    obtain ⟨parts, written, rfl⟩ := ih later
    exact ⟨_ :: parts, .cons (.unit unit) written, rfl⟩
  | case4 letter cs _ ih =>
    obtain ⟨c, named, read⟩ := Option.bind_eq_some_iff.mp read
    obtain ⟨⟨others, after⟩, later, read⟩ := Option.bind_eq_some_iff.mp read
    cases read
    obtain ⟨parts, written, rfl⟩ := ih later
    exact ⟨_ :: parts, .cons (.short named) written, rfl⟩
  | case5 c cs quote _ _ ih =>
    obtain ⟨_, guarded, read⟩ := Option.bind_eq_some_iff.mp read
    obtain ⟨⟨others, after⟩, later, read⟩ := Option.bind_eq_some_iff.mp read
    obtain ⟨visible, backslash⟩ : ' ' ≤ c ∧ c ≠ '\\' := by
      by_contra bad
      rw [guard, if_neg bad] at guarded
      cases guarded
    cases read
    obtain ⟨parts, written, rfl⟩ := ih later
    exact ⟨_ :: parts, .cons (.plain visible quote backslash) written, rfl⟩

/-- The writings of pieces that spell a text are spellings of its characters, two of them together
where a character is spelled by a surrogate pair. -/
theorem exists_spellings_of_spell? {pieces : List Piece} {s : List Char}
    (spelled : spell? pieces = some s) {parts : List (List Char)}
    (written : List.Forall₂ Writing parts pieces) :
    ∃ spellings, List.Forall₂ Spelling spellings s ∧ spellings.flatten = parts.flatten := by
  fun_induction spell? pieces generalizing s parts with
  | case1 =>
    cases spelled
    cases written
    exact ⟨[], .nil, rfl⟩
  | case2 c rest ih =>
    obtain ⟨others, later, rfl⟩ := Option.map_eq_some_iff.mp spelled
    cases written with
    | cons first written =>
      obtain ⟨spellings, all, same⟩ := ih later written
      exact ⟨_ :: spellings, .cons first.spelling all, by simp [same]⟩
  | case3 high low rest pair ih =>
    obtain ⟨others, later, rfl⟩ := Option.map_eq_some_iff.mp spelled
    cases written with
    | cons first written =>
      cases written with
      | cons second written =>
        obtain ⟨spellings, all, same⟩ := ih later written
        exact ⟨_, .cons (first.spelling_pair second pair) all, by simp [same]⟩
  | case4 => cases spelled
  | case5 high low rest _ alone ih =>
    obtain ⟨others, later, rfl⟩ := Option.map_eq_some_iff.mp spelled
    cases written with
    | cons first written =>
      obtain ⟨spellings, all, same⟩ := ih later written
      exact ⟨_, .cons (first.spelling_unit alone) all, by simp [same]⟩
  | case6 => cases spelled
  | case7 code rest _ alone ih =>
    obtain ⟨others, later, rfl⟩ := Option.map_eq_some_iff.mp spelled
    cases written with
    | cons first written =>
      obtain ⟨spellings, all, same⟩ := ih later written
      exact ⟨_, .cons (first.spelling_unit alone) all, by simp [same]⟩

theorem exists_spellings_of_readString {cs rest : List Char} {s : String}
    (read : readString cs = some (some s, rest)) :
    ∃ parts, List.Forall₂ Spelling parts s.toList ∧ cs = parts.flatten ++ '"' :: rest := by
  obtain ⟨⟨pieces, after⟩, taken, same⟩ := Option.bind_eq_some_iff.mp read
  obtain ⟨named, rfl⟩ := Prod.mk.inj (Option.some.inj same)
  obtain ⟨text, spelled, rfl⟩ := Option.map_eq_some_iff.mp named
  obtain ⟨parts, written, rfl⟩ := exists_writings_of_readPieces taken
  obtain ⟨spellings, all, same⟩ := exists_spellings_of_spell? spelled written
  exact ⟨spellings, String.toList_ofList ▸ all, by rw [same]⟩

theorem exists_blanks (cs : List Char) : ∃ blanks, IsBlanks blanks ∧ cs = blanks ++ skipBlanks cs :=
  ⟨cs.takeWhile isBlank, fun _ mem => List.mem_takeWhile_imp mem,
    (List.takeWhile_append_dropWhile ..).symm⟩

/-- What a value starts with, for the two kinds of value that lists of texts are made of. -/
def Opens (fuel : Nat) (cs rest : List Char) : Json → Prop
  | .string s => ∃ tail, cs = '"' :: tail ∧ readString tail = some (s, rest)
  | .array items => ∃ tail, cs = '[' :: tail ∧
      (items = [] ∧ skipBlanks tail = ']' :: rest ∨
        readItems fuel (skipBlanks tail) = some (items, rest))
  | _ => True

theorem opens_of_readValue {fuel : Nat} {cs rest : List Char} {value : Json}
    (read : readValue (fuel + 1) cs = some (value, rest)) : Opens fuel cs rest value := by
  rw [readValue.eq_def] at read
  simp only at read
  split at read
  · cases read; trivial
  · cases read; trivial
  · cases read; trivial
  · next tail =>
    obtain ⟨⟨s, after⟩, taken, same⟩ := Option.bind_eq_some_iff.mp read
    cases same
    exact ⟨tail, rfl, taken⟩
  · next tail =>
    split at read
    · next closed =>
      cases read
      exact ⟨tail, rfl, .inl ⟨rfl, closed⟩⟩
    · obtain ⟨⟨items, after⟩, taken, same⟩ := Option.bind_eq_some_iff.mp read
      cases same
      exact ⟨tail, rfl, .inr taken⟩
  · split at read
    · cases read; trivial
    · obtain ⟨_, _, same⟩ := Option.bind_eq_some_iff.mp read
      cases same
      trivial
  · obtain ⟨_, _, same⟩ := Option.bind_eq_some_iff.mp read
    cases same
    trivial

theorem exists_item_of_readValue {fuel : Nat} {cs left rest : List Char} {c : Char} {s : String}
    (read : readValue fuel cs = some (.text s, left)) (next : skipBlanks left = c :: rest) :
    ∃ written, IsItem written s ∧ cs = written ++ c :: rest := by
  cases fuel with
  | zero => cases read
  | succ fuel =>
    obtain ⟨tail, rfl, taken⟩ := opens_of_readValue read
    obtain ⟨parts, spelled, rfl⟩ := exists_spellings_of_readString taken
    obtain ⟨blanks, all, same⟩ := exists_blanks left
    rw [next] at same
    refine ⟨_, .literal isBlanks_nil spelled all, ?_⟩
    rw [same]
    simp

/-- Blanks in front of items belong to the first one. -/
theorem AreItems.after_blanks {written : List Char} {items : List String}
    (held : AreItems written items) {blanks : List Char} (all : IsBlanks blanks) :
    AreItems (blanks ++ written) items := by
  have padded {written : List Char} {s : String} (item : IsItem written s) :
      IsItem (blanks ++ written) s := by
    cases item with
    | literal before spelled after =>
      rw [← List.append_assoc]
      refine .literal (fun c mem => ?_) spelled after
      exact (List.mem_append.mp mem).elim (all c) (before c)
  cases held with
  | one item => exact .one (padded item)
  | more item items =>
    rw [← List.append_assoc]
    exact .more (padded item) items

theorem exists_items_of_readItems {fuel : Nat} {cs rest : List Char} {items : List String}
    (read : readItems fuel cs = some (items.map text, rest)) :
    ∃ written, AreItems written items ∧ cs = written ++ ']' :: rest := by
  induction fuel generalizing cs items with
  | zero => cases read
  | succ fuel ih =>
    rw [readItems] at read
    obtain ⟨⟨first, left⟩, taken, read⟩ := Option.bind_eq_some_iff.mp read
    dsimp only at read
    split at read
    · next closing =>
      obtain ⟨same, rfl⟩ := Prod.mk.inj (Option.some.inj read)
      obtain ⟨s, rfl, rfl⟩ := List.map_eq_singleton_iff.mp same.symm
      obtain ⟨written, item, rfl⟩ := exists_item_of_readValue taken closing
      exact ⟨written, .one item, rfl⟩
    · next after comma =>
      obtain ⟨⟨others, last⟩, later, same⟩ := Option.bind_eq_some_iff.mp read
      obtain ⟨listed, rfl⟩ := Prod.mk.inj (Option.some.inj same)
      obtain ⟨s, rest, rfl, rfl, rfl⟩ := List.map_eq_cons_iff.mp listed.symm
      obtain ⟨written, item, rfl⟩ := exists_item_of_readValue taken comma
      obtain ⟨held, areItems, split⟩ := ih later
      obtain ⟨blanks, all, same⟩ := exists_blanks after
      refine ⟨_, .more item (areItems.after_blanks all), ?_⟩
      rw [same, split]
      simp
    · cases read

theorem eq_texts_of_texts? {value : Json} {items : List String}
    (held : texts? value = some items) : value = texts items := by
  cases value with
  | array values =>
    rw [texts]
    congr 1
    change values.mapM text? = _ at held
    induction values generalizing items with
    | nil =>
      cases held
      rfl
    | cons value rest ih =>
      rw [List.mapM_cons] at held
      obtain ⟨s, isText, held⟩ := Option.bind_eq_some_iff.mp held
      obtain ⟨others, later, same⟩ := Option.bind_eq_some_iff.mp held
      cases same
      rw [ih later]
      cases value with
      | string text =>
        cases isText
        rfl
      | _ => cases isText
  | _ => cases held

/-- A text is read as a list of texts if and only if it is a JSON array of them. -/
theorem readTexts?_eq_some_iff {text : String} {items : List String} :
    readTexts? text = some items ↔ IsListText text items := by
  refine ⟨fun read => ?_, IsListText.readTexts?⟩
  obtain ⟨value, whole, held⟩ := Option.bind_eq_some_iff.mp read
  obtain rfl := eq_texts_of_texts? held
  rw [read?] at whole
  split at whole
  · next value after taken =>
    split at whole
    · next ended =>
      cases whole
      obtain ⟨before, blanksBefore, start⟩ := exists_blanks text.toList
      obtain ⟨tail, opened, inside⟩ := opens_of_readValue taken
      have blanksAfter : IsBlanks after := List.dropWhile_eq_nil_iff.mp ended
      rcases inside with ⟨none, closed⟩ | filled
      · obtain rfl := List.map_eq_nil_iff.mp none
        obtain ⟨blanks, all, same⟩ := exists_blanks tail
        refine .brackets blanksBefore (.empty all) blanksAfter ?_
        rw [start, opened, same, closed]
      · obtain ⟨written, items, split⟩ := exists_items_of_readItems filled
        obtain ⟨blanks, all, same⟩ := exists_blanks tail
        refine .brackets blanksBefore (.filled (items.after_blanks all)) blanksAfter ?_
        rw [start, opened, same, split]
        simp
    · cases whole
  · cases whole

end EvpnMetadata.Json
