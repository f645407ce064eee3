import EvpnMetadata.Json.Reader
import EvpnMetadata.Json.Writer
import EvpnMetadata.Proofs.Text.Decimal
import Mathlib.Data.List.Forall2
import Mathlib.Data.List.TakeDrop
import Mathlib.Data.Option.Basic

/-! # JSON literals and numerals read back

A literal is read back as the text that was written, whatever characters it holds, and a well-formed
numeral as the numeral that was written, if what follows cannot be taken for a part of it.
-/

namespace EvpnMetadata

namespace Json

/-- The ways to write one character inside a literal. -/
inductive Spelling : List Char → Char → Prop where
  | plain {c : Char} (visible : ' ' ≤ c) (quote : c ≠ '"') (backslash : c ≠ '\\') : Spelling [c] c
  | short {letter c : Char} (named : shortEscape? letter = some c) : Spelling ['\\', letter] c
  | unit {a b c d : Char} {code : Nat} (unit : unitOf? a b c d = some code)
    (high : isHighSurrogate code = false) (low : isLowSurrogate code = false) :
    Spelling ['\\', 'u', a, b, c, d] (Char.ofNat code)
  | pair {a b c d e f g h : Char} {high low : Nat} (first : unitOf? a b c d = some high)
    (second : unitOf? e f g h = some low) (isHigh : isHighSurrogate high = true)
    (isLow : isLowSurrogate low = true) :
    Spelling ['\\', 'u', a, b, c, d, '\\', 'u', e, f, g, h] (Char.ofNat (pairCode high low))

/-- Pieces of a literal that stand for a character, whatever follows them. -/
def Spells (pieces : List Piece) (c : Char) : Prop :=
  ∀ more, spell? (pieces ++ more) = (spell? more).map (c :: ·)

theorem spells_char (c : Char) : Spells [.char c] c := fun more => by
  rw [List.singleton_append, spell?]

/-- The unit of a character that is no half of a surrogate pair. -/
theorem spells_unit {code : Nat} (high : isHighSurrogate code = false)
    (low : isLowSurrogate code = false) : Spells [.unit code] (Char.ofNat code) := by
  intro more
  rw [List.singleton_append]
  cases more with
  | nil => simp [spell?, high, low]
  | cons next rest => cases next <;> simp [spell?, high, low]

theorem spells_pair {high low : Nat} (isHigh : isHighSurrogate high = true)
    (isLow : isLowSurrogate low = true) :
    Spells [.unit high, .unit low] (Char.ofNat (pairCode high low)) := by
  intro more
  change spell? (.unit high :: .unit low :: more) = _
  rw [spell?, isHigh, isLow]
  rfl

theorem Spelling.readPieces {written : List Char} {c : Char} (spelling : Spelling written c) :
    ∃ pieces, Spells pieces c ∧
      ∀ rest, readPieces (written ++ rest) =
        (readPieces rest).map fun read => (pieces ++ read.1, read.2) := by
  cases spelling with
  | plain visible quote backslash =>
    refine ⟨[.char c], spells_char c, fun rest => ?_⟩
    change Json.readPieces (c :: rest) = _
    rw [Json.readPieces]
    · rw [guard, if_pos ⟨visible, backslash⟩]
      cases Json.readPieces rest <;> rfl
    · exact fun same => absurd same quote
    · exact fun _ _ _ _ _ same => absurd same backslash
    · exact fun _ _ same => absurd same backslash
  | @short letter _ named =>
    refine ⟨[.char c], spells_char c, fun rest => ?_⟩
    change Json.readPieces ('\\' :: letter :: rest) = _
    rw [Json.readPieces]
    · rw [named]
      cases Json.readPieces rest <;> rfl
    · rintro _ _ _ _ _ rfl
      cases named
  | unit unit high low =>
    refine ⟨_, spells_unit high low, fun rest => ?_⟩
    simp only [List.cons_append, List.nil_append]
    rw [Json.readPieces, unit]
    cases Json.readPieces rest <;> rfl
  | pair first second isHigh isLow =>
    refine ⟨_, spells_pair isHigh isLow, fun rest => ?_⟩
    simp only [List.cons_append, List.nil_append]
    rw [Json.readPieces, first, Json.readPieces, second]
    cases Json.readPieces rest <;> rfl

theorem unitOf?_control {n : Nat} (below : n < 32) :
    unitOf? '0' '0' (Nat.digitChar (n / 16)) (Nat.digitChar (n % 16)) = some n := by
  revert n
  decide

theorem spelling_control {c : Char} (control : c < ' ') :
    Spelling
      ['\\', 'u', '0', '0', Nat.digitChar (c.toNat / 16), Nat.digitChar (c.toNat % 16)] c := by
  have below : c.toNat < 32 := control
  have high : isHighSurrogate c.toNat = false := by
    rw [isHighSurrogate, decide_eq_false (by omega), Bool.false_and]
  have low : isLowSurrogate c.toNat = false := by
    rw [isLowSurrogate, decide_eq_false (by omega), Bool.false_and]
  have spelling := Spelling.unit (unitOf?_control below) high low
  rwa [Char.ofNat_toNat] at spelling

theorem spelling_writeChar (c : Char) : Spelling (writeChar c) c := by
  rw [writeChar]
  split_ifs with quote backslash backspace feed line carriage tab control
  · subst quote
    exact .short rfl
  · subst backslash
    exact .short rfl
  · subst backspace
    exact .short rfl
  · subst feed
    exact .short rfl
  · subst line
    exact .short rfl
  · subst carriage
    exact .short rfl
  · subst tab
    exact .short rfl
  · exact spelling_control control
  · exact .plain (Char.not_lt.mp control) quote backslash

theorem spelling_flatMap (s : List Char) : List.Forall₂ Spelling (s.map writeChar) s :=
  List.forall₂_map_left_iff.mpr (List.forall₂_same.mpr fun c _ => spelling_writeChar c)

/-- Spellings of the characters of a text are read up to the closing quote. -/
theorem readPieces_flatten {parts : List (List Char)} {s : List Char}
    (all : List.Forall₂ Spelling parts s) (rest : List Char) :
    ∃ pieces, readPieces (parts.flatten ++ '"' :: rest) = some (pieces, rest) ∧
      spell? pieces = some s := by
  induction all with
  | nil => exact ⟨[], by rw [List.flatten_nil, List.nil_append, readPieces], by rw [spell?]⟩
  | cons spelling _ ih =>
    obtain ⟨pieces, read, spelled⟩ := ih
    obtain ⟨first, spells, reads⟩ := spelling.readPieces
    refine ⟨first ++ pieces, ?_, ?_⟩
    · rw [List.flatten_cons, List.append_assoc, reads, read, Option.map_some]
    · rw [spells, spelled, Option.map_some]

theorem readString_flatten {parts : List (List Char)} {s : String}
    (all : List.Forall₂ Spelling parts s.toList) (rest : List Char) :
    readString (parts.flatten ++ '"' :: rest) = some (some s, rest) := by
  obtain ⟨pieces, read, spelled⟩ := readPieces_flatten all rest
  rw [readString, read]
  change some ((spell? pieces).map String.ofList, rest) = _
  rw [spelled, Option.map_some, String.ofList_toList]

theorem writeLiteral_append (s : Option String) (rest : List Char) :
    writeLiteral s ++ rest = '"' :: ((s.getD "").toList.flatMap writeChar ++ '"' :: rest) := by
  simp [writeLiteral, writeText]

theorem readString_flatMap_writeChar (s : String) (rest : List Char) :
    readString (s.toList.flatMap writeChar ++ '"' :: rest) = some (some s, rest) := by
  rw [List.flatMap_def]
  exact readString_flatten (spelling_flatMap s.toList) rest

end Json

namespace Numeral

def isWhole : List Char → Bool
  | ['0'] => true
  | c :: rest => c ≠ '0' && (c :: rest).all Char.isDigit
  | [] => false

def isWellFormed (n : Numeral) : Bool :=
  isWhole n.whole && n.fraction.all Char.isDigit &&
    match n.exponent with
    | none => true
    | some (_, digits) => !digits.isEmpty && digits.all Char.isDigit

theorem head_toDigits_ne {n : Nat} (pos : 0 < n) :
    ∃ c tail, Nat.toDigits 10 n = c :: tail ∧ c ≠ '0' := by
  induction n using Nat.strongRecOn with
  | ind n ih =>
    rw [Nat.toDigits_eq_if (by decide)]
    split
    · exact ⟨_, [], rfl, fun zero => Nat.ne_of_gt pos (Nat.digitChar_eq_zero.mp zero)⟩
    · next large =>
      obtain ⟨c, tail, start, other⟩ := ih (n / 10) (by omega) (by omega)
      exact ⟨c, tail ++ [(n % 10).digitChar], by rw [start]; rfl, other⟩

theorem isWellFormed_toDigits (n : Nat) :
    isWellFormed { whole := Nat.toDigits 10 n } = true := by
  have whole : isWhole (Nat.toDigits 10 n) = true := by
    rcases Nat.eq_zero_or_pos n with rfl | pos
    · decide
    · obtain ⟨c, tail, start, other⟩ := head_toDigits_ne pos
      have all : (c :: tail).all Char.isDigit = true :=
        List.all_eq_true.mpr (start ▸ fun _ => Text.Decimal.isDigit_of_mem_toDigits)
      rw [start, isWhole]
      · rw [all, decide_eq_true other]
        rfl
      · exact fun same _ => absurd same other
  rw [isWellFormed, whole]
  rfl

end Numeral

namespace Json

def EndsDigits (rest : List Char) : Prop := ∀ c ∈ rest.head?, c.isDigit = false

theorem readDigitRun_append {digits rest : List Char} (filled : digits ≠ [])
    (all : ∀ c ∈ digits, c.isDigit = true) (ends : EndsDigits rest) :
    readDigitRun (digits ++ rest) = some (digits, rest) := by
  have run : (digits ++ rest).span Char.isDigit = (digits, rest) := by
    rw [List.span_eq_takeWhile_dropWhile, List.takeWhile_append_of_pos all,
      List.dropWhile_append_of_pos all]
    cases rest with
    | nil => simp
    | cons c rest => simp [ends c rfl]
  rw [readDigitRun, run]
  cases digits with
  | nil => exact absurd rfl filled
  | cons c digits => rfl

theorem readWhole_append {whole rest : List Char} (formed : Numeral.isWhole whole = true)
    (ends : EndsDigits rest) : readWhole (whole ++ rest) = some (whole, rest) := by
  rw [Numeral.isWhole.eq_def] at formed
  split at formed
  · rfl
  · next c digits _ =>
    obtain ⟨other, all⟩ := Bool.and_eq_true_iff.mp formed
    rw [readWhole.eq_def]
    split
    · next same => exact absurd (List.cons.inj same).1 (of_decide_eq_true other)
    · exact readDigitRun_append (List.cons_ne_nil c digits) (List.all_eq_true.mp all) ends
  · cases formed

def writeFraction (fraction : List Char) : List Char :=
  if fraction.isEmpty then [] else '.' :: fraction

theorem readFraction_append {fraction rest : List Char}
    (all : ∀ c ∈ fraction, c.isDigit = true) (ends : EndsDigits rest)
    (point : ∀ c ∈ rest.head?, c ≠ '.') :
    readFraction (writeFraction fraction ++ rest) = some (fraction, rest) := by
  cases fraction with
  | nil =>
    change readFraction rest = _
    rw [readFraction.eq_def]
    split
    · exact absurd rfl (point '.' rfl)
    · rfl
  | cons c fraction => exact readDigitRun_append (List.cons_ne_nil c fraction) all ends

def writeExponent : Option (Bool × List Char) → List Char
  | none => []
  | some (negative, digits) => 'e' :: (if negative then ['-'] else []) ++ digits

theorem readSign_append {digits rest : List Char} (filled : digits ≠ [])
    (all : ∀ c ∈ digits, c.isDigit = true) (negative : Bool) :
    readSign ((if negative then ['-'] else []) ++ digits ++ rest) = (negative, digits ++ rest) := by
  cases negative with
  | true => rfl
  | false =>
    obtain ⟨c, digits, rfl⟩ := List.exists_cons_of_ne_nil filled
    have digit := all c List.mem_cons_self
    change readSign (c :: (digits ++ rest)) = _
    rw [readSign.eq_def]
    split
    · next same => exact absurd ((List.cons.inj same).1 ▸ digit) (by decide)
    · next same => exact absurd ((List.cons.inj same).1 ▸ digit) (by decide)
    · rfl

/-- What comes after a numeral cannot be taken for a part of it. -/
def EndsNumeral (rest : List Char) : Prop :=
  ∀ c ∈ rest.head?, c.isDigit = false ∧ c ≠ '.' ∧ c ≠ 'e' ∧ c ≠ 'E'

theorem endsNumeral_nil : EndsNumeral [] := nofun

theorem readExponent_append {exponent : Option (Bool × List Char)} {rest : List Char}
    (formed : ∀ negative digits, exponent = some (negative, digits) →
      digits ≠ [] ∧ ∀ c ∈ digits, c.isDigit = true)
    (ends : EndsNumeral rest) :
    readExponent (writeExponent exponent ++ rest) = some (exponent, rest) := by
  match exponent with
  | none =>
    change readExponent rest = _
    cases rest with
    | nil => rfl
    | cons c rest =>
      obtain ⟨-, -, small, large⟩ := ends c rfl
      rw [readExponent, if_neg (not_or.mpr ⟨small, large⟩)]
  | some (negative, digits) =>
    obtain ⟨filled, all⟩ := formed negative digits rfl
    change readExponent ('e' :: ((if negative then ['-'] else []) ++ digits ++ rest)) = _
    rw [readExponent, if_pos (.inl rfl), readSign_append filled all]
    change (readDigitRun (digits ++ rest)).bind _ = _
    rw [readDigitRun_append filled all fun c mem => (ends c mem).1]
    rfl

theorem writeNumeral_append (n : Numeral) (rest : List Char) :
    writeNumeral n ++ rest = (if n.negative then ['-'] else []) ++
      (n.whole ++ (writeFraction n.fraction ++ (writeExponent n.exponent ++ rest))) := by
  obtain ⟨negative, whole, fraction, exponent⟩ := n
  cases exponent <;> simp [writeNumeral, writeFraction, writeExponent]

/-- What starts with an exponent, or ends a numeral, is no digit and no point. -/
theorem head_writeExponent {exponent : Option (Bool × List Char)} {rest : List Char}
    (ends : EndsNumeral rest) :
    ∀ c ∈ (writeExponent exponent ++ rest).head?, c.isDigit = false ∧ c ≠ '.' := by
  cases exponent with
  | none => exact fun c mem => ⟨(ends c mem).1, (ends c mem).2.1⟩
  | some exponent =>
    rintro c ⟨⟩
    decide

theorem endsDigits_writeFraction (fraction : List Char) {rest : List Char}
    (ends : EndsDigits rest) : EndsDigits (writeFraction fraction ++ rest) := by
  cases fraction with
  | nil => exact ends
  | cons c fraction =>
    rintro _ ⟨⟩
    decide

theorem head_isWhole {whole : List Char} (formed : Numeral.isWhole whole = true) :
    ∃ c tail, whole = c :: tail ∧ c.isDigit = true := by
  rw [Numeral.isWhole.eq_def] at formed
  split at formed
  · exact ⟨'0', [], rfl, by decide⟩
  · next c digits _ =>
    have all := (Bool.and_eq_true_iff.mp formed).2
    exact ⟨c, digits, rfl, List.all_eq_true.mp all c List.mem_cons_self⟩
  · cases formed

theorem head_isWhole_ne {whole rest after : List Char} {c : Char}
    (formed : Numeral.isWhole whole = true) (other : c.isDigit = false)
    (same : whole ++ rest = c :: after) : False := by
  obtain ⟨first, tail, rfl, digit⟩ := head_isWhole formed
  rw [(List.cons.inj same).1, other] at digit
  cases digit

theorem readNumeral_writeNumeral {n : Numeral} (formed : n.isWellFormed = true) {rest : List Char}
    (ends : EndsNumeral rest) : readNumeral (writeNumeral n ++ rest) = some (n, rest) := by
  obtain ⟨negative, whole, fraction, exponent⟩ := n
  obtain ⟨⟨first, second⟩, third⟩ := by
    simpa only [Numeral.isWellFormed, Bool.and_eq_true] using formed
  have exponents : ∀ negative digits, exponent = some (negative, digits) →
      digits ≠ [] ∧ ∀ c ∈ digits, c.isDigit = true := by
    rintro negative digits rfl
    simpa using third
  have digits : EndsDigits (writeExponent exponent ++ rest) :=
    fun c mem => (head_writeExponent ends c mem).1
  have wholes := readWhole_append first (endsDigits_writeFraction fraction digits)
  have fractions := readFraction_append (List.all_eq_true.mp second) digits
    fun c mem => (head_writeExponent ends c mem).2
  have exponents := readExponent_append exponents ends
  rw [writeNumeral_append]
  cases negative with
  | true => simp [readNumeral, wholes, fractions, exponents]
  | false =>
    rw [readNumeral]
    · simp [wholes, fractions, exponents]
    · exact fun after same => head_isWhole_ne first (by decide) same

end Json

end EvpnMetadata
