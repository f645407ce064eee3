import EvpnMetadata.Text.Digits

/-! # Quoted strings

Basic strings take escapes and literal strings take none; either kind is written on one line between
single quotes of its sort, or over several lines between triple ones.  Each function starts after
the opening quote and returns the text and what is left.  Line ends are single line feeds here.
-/

namespace EvpnMetadata.Toml.Quoted

/-- Characters that stand for themselves in strings and comments. -/
def isPlain (c : Char) : Bool := c = '\t' || (' ' ≤ c && c ≠ '\x7f')

def isBlank (c : Char) : Bool := c = ' ' || c = '\t'

/-- The character of a one-letter escape. -/
def shortEscape? : Char → Option Char
  | 'b' => some '\x08'
  | 't' => some '\t'
  | 'n' => some '\n'
  | 'f' => some '\x0c'
  | 'r' => some '\r'
  | '"' => some '"'
  | '\\' => some '\\'
  | _ => none

/-- The character of a numeric escape; halves of surrogate pairs are no characters. -/
def numericEscape? (digits : List Char) : Option Char := do
  let code ← Text.Hexadecimal.value? digits
  if code.isValidChar then return Char.ofNat code else none

def basic : List Char → Option (List Char × List Char)
  | [] => none
  | '"' :: rest => some ([], rest)
  | '\\' :: 'u' :: a :: b :: c :: d :: rest => do
    let character ← numericEscape? [a, b, c, d]
    let (text, after) ← basic rest
    return (character :: text, after)
  | '\\' :: 'U' :: a :: b :: c :: d :: e :: f :: g :: h :: rest => do
    let character ← numericEscape? [a, b, c, d, e, f, g, h]
    let (text, after) ← basic rest
    return (character :: text, after)
  | '\\' :: c :: rest => do
    let character ← shortEscape? c
    let (text, after) ← basic rest
    return (character :: text, after)
  | c :: rest => do
    guard (isPlain c && c ≠ '\\')
    let (text, after) ← basic rest
    return (c :: text, after)

def literal : List Char → Option (List Char × List Char)
  | [] => none
  | '\'' :: rest => some ([], rest)
  | c :: rest => do
    guard (isPlain c)
    let (text, after) ← literal rest
    return (c :: text, after)

/-- Whether only blanks are left on the line. -/
def endsLine (cs : List Char) : Bool := (cs.dropWhile isBlank).head? = some '\n'

/-- A basic string over several lines.  Up to two quotes may stand right before the closing three,
and a backslash at the end of a line skips all blanks and line ends that follow it. -/
def longBasic (skipping : Bool) : List Char → Option (List Char × List Char)
  | [] => none
  | '"' :: '"' :: '"' :: '"' :: '"' :: rest => some (['"', '"'], rest)
  | '"' :: '"' :: '"' :: '"' :: rest => some (['"'], rest)
  | '"' :: '"' :: '"' :: rest => some ([], rest)
  | '\\' :: 'u' :: a :: b :: c :: d :: rest => do
    let character ← numericEscape? [a, b, c, d]
    let (text, after) ← longBasic false rest
    return (character :: text, after)
  | '\\' :: 'U' :: a :: b :: c :: d :: e :: f :: g :: h :: rest => do
    let character ← numericEscape? [a, b, c, d, e, f, g, h]
    let (text, after) ← longBasic false rest
    return (character :: text, after)
  | '\\' :: c :: rest =>
    if endsLine (c :: rest) then longBasic true rest
    else do
      let character ← shortEscape? c
      let (text, after) ← longBasic false rest
      return (character :: text, after)
  | c :: rest =>
    if skipping && (isBlank c || c = '\n') then longBasic true rest
    else do
      guard (c = '\n' || (isPlain c && c ≠ '\\'))
      let (text, after) ← longBasic false rest
      return (c :: text, after)

def longLiteral : List Char → Option (List Char × List Char)
  | [] => none
  | '\'' :: '\'' :: '\'' :: '\'' :: '\'' :: rest => some (['\'', '\''], rest)
  | '\'' :: '\'' :: '\'' :: '\'' :: rest => some (['\''], rest)
  | '\'' :: '\'' :: '\'' :: rest => some ([], rest)
  | c :: rest => do
    guard (c = '\n' || isPlain c)
    let (text, after) ← longLiteral rest
    return (c :: text, after)

/-- A line end right after the opening quotes does not belong to the text. -/
def trimmed (cs : List Char) : List Char :=
  match cs with
  | '\n' :: rest => rest
  | cs => cs

/-- A string of any kind, at its opening quote. -/
def string? : List Char → Option (List Char × List Char)
  | '"' :: '"' :: '"' :: rest => longBasic false (trimmed rest)
  | '\'' :: '\'' :: '\'' :: rest => longLiteral (trimmed rest)
  | '"' :: rest => basic rest
  | '\'' :: rest => literal rest
  | _ => none

end EvpnMetadata.Toml.Quoted
