-- SUMMARY: Records indexed by key.
import MasterData.Record.Asset

/-! # Indexes

An index finds a record by its key. Records are taken in the order of their file: a later record
with the same key replaces the earlier one, and each such repetition is reported.
-/

namespace MasterData

/-- Records with a key to find them by. -/
class Keyed (ρ : Type) where
  Key : Type
  key : ρ → Key
  /-- Whether two keys find the same record. -/
  sameKey : Key → Key → Bool
  /-- How a key reads in reports. -/
  describe : Key → String

/-- A record that is not typed has its first value as key, or nothing. -/
instance : Keyed MasterRecord where
  Key := FieldValue
  key r := r.key?.getD .empty
  sameKey := FieldValue.sameKey
  describe := FieldValue.display

/-- A record that replaced an earlier one with its key, first stored at `firstPosition`. -/
structure KeyCollision where
  key : String
  firstPosition : Nat
  position : Nat
  deriving DecidableEq

/-- A record in an index, under its key and the position that first brought the key. -/
structure IndexEntry (ρ : Type) [Keyed ρ] where
  key : Keyed.Key ρ
  firstPosition : Nat
  record : ρ

/-- The records of a master by key. -/
structure MasterIndex (ρ : Type) [Keyed ρ] where
  master : String
  entries : List (IndexEntry ρ)
  collisions : List KeyCollision

namespace MasterIndex

variable {ρ : Type} [Keyed ρ]

/-- The entries with a further record, and the position that first brought its key. -/
def store (position : Nat) (record : ρ) : List (IndexEntry ρ) → List (IndexEntry ρ) × Option Nat
  | [] => ([⟨Keyed.key record, position, record⟩], none)
  | e :: rest =>
    if Keyed.sameKey e.key (Keyed.key record) then
      ({ e with record } :: rest, some e.firstPosition)
    else
      let (rest, first) := store position record rest
      (e :: rest, first)

/-- The index with a further record. -/
def add (index : MasterIndex ρ) (position : Nat) (record : ρ) : MasterIndex ρ :=
  match store position record index.entries with
  | (entries, none) => { index with entries }
  | (entries, some firstPosition) =>
    let label := Keyed.describe (Keyed.key record)
    { index with
      entries
      collisions := index.collisions ++ [⟨label, firstPosition, position⟩] }

/-- The index of records in order. -/
def build (master : String) (records : List ρ) : MasterIndex ρ :=
  records.zipIdx.foldl (fun index (record, position) => index.add position record)
    ⟨master, [], []⟩

/-- The record with a key. -/
def get? (index : MasterIndex ρ) (key : Keyed.Key ρ) : Option ρ :=
  (index.entries.find? fun e => Keyed.sameKey e.key key).map (·.record)

def size (index : MasterIndex ρ) : Nat :=
  index.entries.length

end MasterIndex

end MasterData
