-- SUMMARY: YAML documents as trees.

/-! # YAML trees

A value that is left out is blank: it may stand for an empty text, an empty list or an empty map. A
plain scalar is a text as it is written, whatever it would mean elsewhere. The keys of a map are
texts; they keep their order and may repeat.
-/

namespace MasterData.Yaml

/-- A YAML document. -/
inductive Node where
  | blank
  | text (s : String)
  | list (items : List Node)
  | map (members : List (String × Node))

namespace Node

def asText? : Node → Option String
  | .blank => some ""
  | .text s => some s
  | _ => none

/-- A list each item of which has a shape. -/
def asListOf? (item : Node → Option α) : Node → Option (List α)
  | .blank => some []
  | .list items => items.mapM item
  | _ => none

/-- A map each value of which has a shape, under any keys. -/
def asMembersOf? (value : Node → Option α) : Node → Option (List (String × α))
  | .blank => some []
  | .map members => members.mapM fun (key, n) => (value n).map (key, ·)
  | _ => none

/-- The members of a map with no other keys than the given ones, each at most once. -/
def onlyFields? (names : List String) : Node → Option (List (String × Node))
  | .blank => some []
  | .map members =>
    if (members.all fun (key, _) => names.contains key) && (members.map (·.1)).Nodup then
      some members
    else none
  | _ => none

end Node

end MasterData.Yaml
