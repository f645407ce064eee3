/-! # Key patterns

A pattern is a text in which a star stands for any run of characters, a question mark for any one,
brackets for one of a class, and a backslash makes the next character stand for itself.
-/

namespace EvpnMetadata.KeyValue

namespace Glob

/-- One item of a pattern; a class is a list of ranges. -/
inductive Item where
  | run
  | one
  | literal (c : Char)
  | class (negated : Bool) (ranges : List (Char × Char))
  deriving DecidableEq, Repr

/-- The range between two characters, in either order. -/
def range (a b : Char) : Char × Char := if a ≤ b then (a, b) else (b, a)

/-- The ranges of a class up to its closing bracket; a class that is not closed runs to the end. -/
def readRanges : List Char → List (Char × Char) × List Char
  | '\\' :: c :: rest =>
    let (ranges, after) := readRanges rest
    ((c, c) :: ranges, after)
  | ']' :: rest => ([], rest)
  | [] => ([], [])
  | a :: '-' :: b :: rest =>
    let (ranges, after) := readRanges rest
    (range a b :: ranges, after)
  | c :: rest =>
    let (ranges, after) := readRanges rest
    ((c, c) :: ranges, after)

theorem length_readRanges (cs : List Char) : (readRanges cs).2.length ≤ cs.length := by
  fun_induction readRanges cs <;> simp_all <;> omega

def readClass (cs : List Char) : Item × List Char :=
  match cs with
  | '^' :: rest => (.class true (readRanges rest).1, (readRanges rest).2)
  | rest => (.class false (readRanges rest).1, (readRanges rest).2)

theorem length_readClass (cs : List Char) : (readClass cs).2.length ≤ cs.length := by
  unfold readClass
  split
  · exact Nat.le_succ_of_le (length_readRanges _)
  · exact length_readRanges _

def items : List Char → List Item
  | [] => []
  | '*' :: rest => .run :: items rest
  | '?' :: rest => .one :: items rest
  | '\\' :: c :: rest => .literal c :: items rest
  | '[' :: rest => (readClass rest).1 :: items (readClass rest).2
  | c :: rest => .literal c :: items rest
termination_by cs => cs.length
decreasing_by
  all_goals simp_wf
  all_goals have := length_readClass rest
  all_goals omega

def Item.admits (c : Char) : Item → Bool
  | .run => false
  | .one => true
  | .literal d => c = d
  | .class negated ranges => (ranges.any fun r => r.1 ≤ c && c ≤ r.2) != negated

/-- The tails of a list, the list itself first. -/
def tails : List α → List (List α)
  | [] => [[]]
  | a :: rest => (a :: rest) :: tails rest

/-- Whether the items of a pattern match a whole text. -/
def matchItems : List Item → List Char → Bool
  | [], text => text.isEmpty
  | .run :: rest, text => (tails text).any (matchItems rest)
  | item :: rest, c :: text => item.admits c && matchItems rest text
  | _ :: _, [] => false

end Glob

/-- Whether a key matches a pattern. -/
def globMatches (pattern key : String) : Bool :=
  Glob.matchItems (Glob.items pattern.toList) key.toList

end EvpnMetadata.KeyValue
