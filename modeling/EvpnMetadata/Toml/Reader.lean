import EvpnMetadata.Toml.Assembly
import EvpnMetadata.Toml.Quoted
import EvpnMetadata.Toml.Scalar

/-! # Reading documents

A document is a sequence of lines: headers, assignments, and blank ones, each with an optional
comment.  Every function takes the characters that are left and returns those after the part it has
read.
-/

namespace EvpnMetadata.Toml

def skipBlanks (cs : List Char) : List Char := cs.dropWhile Quoted.isBlank

/-- Drops a comment up to the end of its line; it holds no control characters but tabs. -/
def skipComment? : List Char → Option (List Char)
  | '#' :: rest =>
    match (rest.dropWhile Quoted.isPlain) with
    | [] => some []
    | '\n' :: after => some ('\n' :: after)
    | _ => none
  | cs => some cs

/-- Drops blanks, line ends and comments; `fuel` bounds their number. -/
def skipLines? : Nat → List Char → Option (List Char)
  | 0, cs => some cs
  | fuel + 1, cs => do
    match ← skipComment? (skipBlanks cs) with
    | '\n' :: rest => skipLines? fuel rest
    | rest => return rest

def isBareChar (c : Char) : Bool := c.isAlphanum || c = '_' || c = '-'

def readBareKey (cs : List Char) : Option (String × List Char) :=
  match cs.span isBareChar with
  | ([], _) => none
  | (name, rest) => some (String.ofList name, rest)

/-- A key that is bare or quoted on one line. -/
def readKey : List Char → Option (String × List Char)
  | '"' :: rest => do
    let (name, rest) ← Quoted.basic rest
    return (String.ofList name, rest)
  | '\'' :: rest => do
    let (name, rest) ← Quoted.literal rest
    return (String.ofList name, rest)
  | cs => readBareKey cs

/-- The further keys of a dotted key, after the tables passed so far. -/
def readDotted : Nat → List String → String → List Char → Option (Path × List Char)
  | 0, _, _, _ => none
  | fuel + 1, parents, name, cs =>
    match skipBlanks cs with
    | '.' :: rest => do
      let (next, rest) ← readKey (skipBlanks rest)
      readDotted fuel (parents ++ [name]) next rest
    | rest => some ({ parents, name }, rest)

/-- A key or a dotted key, and the blanks after it. -/
def readPath (cs : List Char) : Option (Path × List Char) := do
  let (name, rest) ← readKey cs
  readDotted (rest.length + 1) [] name rest

/-- How deep arrays and tables in braces may nest. -/
def deepestNesting : Nat := 80

mutual

/-- A value; `level` is its depth, and `fuel` bounds the number of values. -/
def readValue (level : Nat) : Nat → List Char → Option (Toml × List Char)
  | 0, _ => none
  | fuel + 1, cs =>
    match cs with
    | '[' :: rest => do
      guard (level < deepestNesting)
      let (items, rest) ← readItems (level + 1) fuel rest
      return (.array items, rest)
    | '\x7b' :: rest => do
      guard (level < deepestNesting)
      match skipBlanks rest with
      | '\x7d' :: rest => return (.table .closed [], rest)
      | rest =>
        let (members, rest) ← readMembers (level + 1) fuel rest
        return (← inlineTable members, rest)
    | '"' :: _ => readString cs
    | '\'' :: _ => readString cs
    | cs => do
      let (run, rest) := splitRun cs
      return (← scalar? run, rest)
where
  readString (cs : List Char) : Option (Toml × List Char) := do
    let (text, rest) ← Quoted.string? cs
    return (.string (String.ofList text), rest)

/-- The items of an array up to its closing bracket; the last one may be followed by a comma. -/
def readItems (level : Nat) : Nat → List Char → Option (List Toml × List Char)
  | 0, _ => none
  | fuel + 1, cs => do
    match ← skipLines? cs.length cs with
    | ']' :: rest => return ([], rest)
    | cs =>
      let (item, rest) ← readValue level fuel cs
      match ← skipLines? rest.length rest with
      | ']' :: rest => return ([item], rest)
      | ',' :: rest =>
        let (items, rest) ← readItems level fuel rest
        return (item :: items, rest)
      | _ => none

/-- The assignments of a table in braces, all on one line, without a comma at the end. -/
def readMembers (level : Nat) : Nat → List Char → Option (List (Path × Toml) × List Char)
  | 0, _ => none
  | fuel + 1, cs => do
    let (path, rest) ← readPath (skipBlanks cs)
    match rest with
    | '=' :: rest =>
      let (value, rest) ← readValue level fuel (skipBlanks rest)
      match skipBlanks rest with
      | '\x7d' :: rest => return ([(path, value)], rest)
      | ',' :: rest =>
        let (members, rest) ← readMembers level fuel rest
        return ((path, value) :: members, rest)
      | _ => none
    | _ => none

end

/-- The statement of a line that is not blank. -/
def readStatement (cs : List Char) : Option (Statement × List Char) :=
  match cs with
  | '[' :: '[' :: rest => do
    match ← readPath (skipBlanks rest) with
    | (path, ']' :: ']' :: rest) => return (.tablesHeader path, rest)
    | _ => none
  | '[' :: rest => do
    match ← readPath (skipBlanks rest) with
    | (path, ']' :: rest) => return (.header path, rest)
    | _ => none
  | cs => do
    match ← readPath cs with
    | (path, '=' :: rest) =>
      let (value, rest) ← readValue 0 (2 * rest.length + 2) (skipBlanks rest)
      return (.assign path value, rest)
    | _ => none

/-- The statements of the remaining lines; `fuel` bounds their number. -/
def readStatements : Nat → List Char → Option (List Statement)
  | 0, _ => none
  | fuel + 1, cs => do
    match ← skipLines? cs.length cs with
    | [] => return []
    | cs =>
      let (statement, rest) ← readStatement cs
      match ← skipComment? (skipBlanks rest) with
      | [] => return [statement]
      | '\n' :: rest => return statement :: (← readStatements fuel rest)
      | _ => none

/-- Turns line ends of two characters into single line feeds. -/
def joinLineEnds : List Char → List Char
  | '\r' :: '\n' :: rest => '\n' :: joinLineEnds rest
  | c :: rest => c :: joinLineEnds rest
  | [] => []

/-- A byte order mark may stand before the first line. -/
def skipMark : List Char → List Char
  | '\uFEFF' :: rest => rest
  | cs => cs

/-- The reason given for a text that is no document, or does not hold what is expected. -/
def refusal : String := "<toml>"

def read? (text : String) : Option Toml := do
  let cs := joinLineEnds (skipMark text.toList)
  assemble (← readStatements (cs.length + 1) cs)

end EvpnMetadata.Toml
