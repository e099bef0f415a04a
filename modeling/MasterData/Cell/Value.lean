-- SUMMARY: What a cell holds.
import MasterData.Number.Literal

/-! # Cell values

A cell holds a whole number, a double, a text, a truth value, an error code, or nothing. Dates and
times are doubles, the way sheets store them.
-/

namespace MasterData

/-- What a cell holds. -/
inductive Cell where
  | int (i : Int64)
  | number (x : Double)
  | text (s : String)
  | boolean (b : Bool)
  | error (code : String)
  | empty
  deriving DecidableEq, Inhabited

namespace Cell

/-- The text shown for a cell. -/
def display : Cell → String
  | int i => toString i.toInt
  | number x => x.display
  | text s => s
  | boolean b => toString b
  | error code => "#" ++ code
  | empty => ""

/-- Whether a cell shows as blank: it holds nothing, or a text without characters. -/
def isEmpty : Cell → Bool
  | empty => true
  | text s => s = ""
  | _ => false

def asText? : Cell → Option String
  | text s => some s
  | _ => none

/-- The value of a number; a whole number is rounded to a double. -/
def asNumber? : Cell → Option Double
  | number x => some x
  | int i => some (Double.ofInt i.toInt)
  | _ => none

def asBool? : Cell → Option Bool
  | boolean b => some b
  | _ => none

/-- Whether two cells fall together in a set: doubles by their bits, where no bits that stand for no
number fall together with anything. -/
def sameKey : Cell → Cell → Bool
  | number x, number y => x == y && x.sameNumber y
  | a, b => a == b

/-- The cells of a list that fall together with no earlier one. -/
def distinct (cells : List Cell) : List Cell :=
  cells.foldl (fun seen c => if seen.any (·.sameKey c) then seen else seen ++ [c]) []

end Cell

end MasterData
