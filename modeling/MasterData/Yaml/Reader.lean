-- SUMMARY: YAML tokens read into trees.
import MasterData.Yaml.Node
import MasterData.Yaml.Token

/-! # Reading YAML

A source holds one document, perhaps between the marks `---` and `...`. Lists and maps stand in
blocks, told by their indentation, or in brackets. A value that is left out is blank, and so is a
key, which reads as the empty text. Anchors, tags, directives and scalars in blocks are no part of
this notation.
-/

namespace MasterData.Yaml

/-- What is left of the tokens of a source. -/
abbrev Tokens := List Token

/-- A part that is blank where one of the given tokens follows, or no token. -/
def blankBefore (ends : List Token) (part : Tokens → Option (Node × Tokens)) (ts : Tokens) :
    Option (Node × Tokens) :=
  if ts.head?.all ends.contains then some (.blank, ts) else part ts

/-- A member from its key and its value; a key is a scalar or left out. -/
def member? (key value : Node) : Option (String × Node) :=
  key.asText?.map (·, value)

/-- The tokens behind the comma that separates parts in brackets. -/
def behindComma? (first : Bool) (ts : Tokens) : Option Tokens :=
  match first, ts with
  | true, _ => some ts
  | false, .comma :: rest => some rest
  | false, _ => none

mutual

/-- The value at a token. Outside brackets it may be a block; where a key may follow it, it may be a
list of items without a block of their own. -/
def node (fuel : Nat) (block atKey : Bool) (ts : Tokens) : Option (Node × Tokens) :=
  match fuel, ts with
  | 0, _ => none
  | _, [] => none
  | fuel + 1, t :: rest =>
    let list := Option.map fun (items, rest) => (Node.list items, rest)
    let map := Option.map fun (members, rest) => (Node.map members, rest)
    match t with
    | .scalar s => some (.text s, rest)
    | .openList => list (flowItems fuel true rest)
    | .openMap => map (flowMembers fuel true rest)
    | .blockList => if block then list (blockItems fuel rest) else none
    | .blockMap => if block then map (blockMembers fuel rest) else none
    | .dash => if atKey then list (looseItems fuel ts) else none
    | _ => none

/-- The items of a block up to its end. -/
def blockItems (fuel : Nat) (ts : Tokens) : Option (List Node × Tokens) :=
  match fuel, ts with
  | fuel + 1, .dash :: rest => do
    let (item, rest) ← blankBefore [.dash, .blockEnd] (node fuel true false) rest
    let (items, rest) ← blockItems fuel rest
    return (item :: items, rest)
  | _, .blockEnd :: rest => some ([], rest)
  | _, _ => none

/-- Items without a block of their own, up to the first token that starts none. -/
def looseItems (fuel : Nat) (ts : Tokens) : Option (List Node × Tokens) :=
  match fuel, ts with
  | 0, _ => none
  | fuel + 1, .dash :: rest => do
    let (item, rest) ← blankBefore [.dash, .key, .value, .blockEnd] (node fuel true false) rest
    let (items, rest) ← looseItems fuel rest
    return (item :: items, rest)
  | _, _ => some ([], ts)

/-- The members of a block up to its end. -/
def blockMembers (fuel : Nat) (ts : Tokens) : Option (List (String × Node) × Tokens) :=
  match fuel, ts with
  | fuel + 1, .key :: rest => do
    let part := blankBefore [.key, .value, .blockEnd] (node fuel true true)
    let (key, rest) ← part rest
    let (value, rest) ←
      match rest with
      | .value :: rest => part rest
      | _ => some (.blank, rest)
    let member ← member? key value
    let (members, rest) ← blockMembers fuel rest
    return (member :: members, rest)
  | _, .blockEnd :: rest => some ([], rest)
  | _, _ => none

/-- The items in brackets up to the closing one, behind a comma unless they are the first. -/
def flowItems (fuel : Nat) (first : Bool) (ts : Tokens) : Option (List Node × Tokens) :=
  match fuel, ts with
  | 0, _ => none
  | _, .closeList :: rest => some ([], rest)
  | fuel + 1, _ => do
    let ts ← behindComma? first ts
    if ts.head? = some .closeList then return ([], ts.tail)
    let (item, rest) ← flowItem fuel ts
    let (items, rest) ← flowItems fuel false rest
    return (item :: items, rest)

/-- An item in brackets; a pair is a map of its own. Where a pair has no key, its colon counts for
nothing. -/
def flowItem (fuel : Nat) (ts : Tokens) : Option (Node × Tokens) :=
  match fuel, ts with
  | 0, _ => none
  | fuel + 1, .key :: rest => do
    let (key, rest) ←
      if rest.head?.all [Token.value, .comma, .closeList].contains then some (.blank, rest.tail)
      else node fuel false false rest
    let (value, rest) ← flowValue fuel .closeList rest
    let member ← member? key value
    return (.map [member], rest)
  | fuel + 1, ts => node fuel false false ts

/-- The members in braces up to the closing one, behind a comma unless they are the first. -/
def flowMembers (fuel : Nat) (first : Bool) (ts : Tokens) :
    Option (List (String × Node) × Tokens) :=
  match fuel, ts with
  | 0, _ => none
  | _, .closeMap :: rest => some ([], rest)
  | fuel + 1, _ => do
    let ts ← behindComma? first ts
    if ts.head? = some .closeMap then return ([], ts.tail)
    let (key, value, rest) ← flowMember fuel ts
    let member ← member? key value
    let (members, rest) ← flowMembers fuel false rest
    return (member :: members, rest)

/-- The key and the value of a member in braces; without a colon its value is blank. -/
def flowMember (fuel : Nat) (ts : Tokens) : Option (Node × Node × Tokens) :=
  match fuel, ts with
  | 0, _ => none
  | fuel + 1, .key :: rest => do
    let (key, rest) ← blankBefore [.value, .comma, .closeMap] (node fuel false false) rest
    let (value, rest) ← flowValue fuel .closeMap rest
    return (key, value, rest)
  | fuel + 1, ts => do
    let (key, rest) ← node fuel false false ts
    return (key, .blank, rest)

/-- The value of a pair in brackets that a token closes. -/
def flowValue (fuel : Nat) (close : Token) (ts : Tokens) : Option (Node × Tokens) :=
  match fuel, ts with
  | 0, _ => none
  | fuel + 1, .value :: rest => blankBefore [.comma, close] (node fuel false false) rest
  | _, _ => some (.blank, ts)

end

/-- The document of the tokens of a source. Behind it only marks may stand. -/
def document? (ts : Tokens) : Option Node :=
  let fuel := 4 * ts.length + 4
  let document :=
    match ts with
    | .documentStart :: rest =>
      blankBefore [.documentStart, .documentEnd] (node fuel true false) rest
    | _ => node fuel true false ts
  match document with
  | some (n, rest) => if rest.all (· = .documentEnd) then some n else none
  | none => none

/-- The document of a text. -/
def parse? (text : String) : Option Node :=
  ((Source.ofText? text).bind tokens?).bind document?

end MasterData.Yaml
