-- SUMMARY: How cells and field values compare as keys, and what they feed to a hasher.
import MasterData.Cell.Value
import MasterData.Record.Value

/-! # Hashed values

A map hashes a key first and then compares it with the keys that have the same hash. Cells and field
values feed a hasher part by part, a float as its bits; they compare part by part, a float as a number.
-/

namespace MasterData

/-- A part of a value, as it is fed to a hasher. -/
inductive HashPart where
  /-- The place of a variant in the order of their declaration. -/
  | variant (place : Nat)
  | int (i : Int64)
  | uint (n : UInt64)
  | char (c : Char)
  | bool (b : Bool)
  | text (s : String)
  /-- The number of items that follow. -/
  | length (n : Nat)
  deriving DecidableEq

namespace Cell

/-- Whether two cells are equal, doubles as numbers. -/
def agrees : Cell → Cell → Bool
  | number x, number y => x.sameNumber y
  | a, b => a == b

/-- What a cell feeds to a hasher. -/
def hashParts : Cell → List HashPart
  | int i => [.variant 0, .int i]
  | number x => [.variant 1, .uint x.bits]
  | text s => [.variant 2, .text s]
  | boolean b => [.variant 3, .bool b]
  | error code => [.variant 4, .text code]
  | empty => [.variant 5]

end Cell

namespace FieldValue

mutual

/-- Whether two values are equal, floats as numbers. -/
def agrees : FieldValue → FieldValue → Bool
  | int i, int j => i == j
  | uint m, uint n => m == n
  | float x, float y => x.sameNumber y
  | char c, char d => c == d
  | bool b, bool c => b == c
  | text s, text t => s == t
  | array xs, array ys => agreeInOrder xs ys
  | empty, empty => true
  | _, _ => false

def agreeInOrder : List FieldValue → List FieldValue → Bool
  | [], [] => true
  | x :: xs, y :: ys => x.agrees y && agreeInOrder xs ys
  | _, _ => false

end

mutual

/-- What a value feeds to a hasher. -/
def hashParts : FieldValue → List HashPart
  | int i => [.variant 0, .int i]
  | uint n => [.variant 1, .uint n]
  | float x => [.variant 2, .uint x.bits]
  | char c => [.variant 3, .char c]
  | bool b => [.variant 4, .bool b]
  | text s => [.variant 5, .text s]
  | array items => .variant 6 :: .length items.length :: hashPartsOfList items
  | empty => [.variant 7]

def hashPartsOfList : List FieldValue → List HashPart
  | [] => []
  | item :: rest => item.hashParts ++ hashPartsOfList rest

end

end FieldValue

end MasterData
