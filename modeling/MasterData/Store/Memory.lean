-- SUMMARY: Assets kept in memory.
import MasterData.Record.Asset
import MasterData.SortedMap

/-! # The memory store

A store in memory keeps the last asset saved for each master, under any name.
-/

namespace MasterData

/-- Assets by master. -/
structure MemoryStore where
  assets : SortedMap String Asset

namespace MemoryStore

def empty : MemoryStore := ⟨.empty⟩

def load (s : MemoryStore) (master : String) : Option Asset :=
  s.assets.get? master

def save (s : MemoryStore) (a : Asset) : MemoryStore :=
  ⟨s.assets.insert a.master a⟩

end MemoryStore

end MasterData
