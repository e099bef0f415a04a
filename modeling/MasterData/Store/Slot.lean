-- SUMMARY: A place for a value that is set once.
import MasterData.Store.Error

/-! # Slots

A slot holds nothing until a value is built or published into it, and that value from then on. A
build that fails leaves the slot as it was, so a later one may try again.
-/

namespace MasterData

/-- A place for a value that is set once. -/
structure Slot (α : Type u) where
  name : String
  value : Option α

namespace Slot

def named (name : String) : Slot α := ⟨name, none⟩

def isInitialized (s : Slot α) : Bool := s.value.isSome

/-- The value, which is built if there is none yet. -/
def getOrInit (s : Slot α) (build : Unit → Except AssetError α) :
    Except AssetError α × Slot α :=
  match s.value with
  | some v => (.ok v, s)
  | none =>
    match build () with
    | .ok v => (.ok v, { s with value := some v })
    | .error e => (.error e, s)

/-- Sets the value, which fails if there is one. -/
def publish (s : Slot α) (v : α) : Except AssetError α × Slot α :=
  match s.value with
  | some _ => (.error (.alreadyInitialized s.name), s)
  | none => (.ok v, { s with value := some v })

end Slot

end MasterData
