-- SUMMARY: JSON trees from tokens.
import MasterData.Json.Token

/-! # Reading JSON

One pass over the tokens keeps the lists and objects that are still open on a stack, so that the
nesting of a document is not bounded by anything but its length.
-/

namespace MasterData.Json

open Text (Symbol symbols)

/-- A list or object that is still open, its finished parts in reverse. -/
inductive Frame where
  | list (items : List Json)
  | object (members : List (Option String × Json)) (key : Option String)

/-- What must come next. -/
inductive Expected where
  | value
  | valueOrClose
  | key (members : List (Option String × Json))
  | keyOrClose
  | colon (members : List (Option String × Json)) (key : Option String)
  /-- A value is complete; what follows belongs to the innermost open frame. -/
  | after (j : Json)

/-- A reading in progress: what must come next, inside which open frames. -/
structure Progress where
  expected : Expected
  frames : List Frame

/-- The object with the members, last one first. -/
def closeObject (members : List (Option String × Json)) : Json :=
  match members.reverse.mapM fun (key, j) => key.map (·, j) with
  | some members => .object members
  | none => .unreadable

/-- The progress after a token that starts a value. -/
def startValue (token : Token) (frames : List Frame) : Option Progress :=
  match token with
  | .null => some ⟨.after .null, frames⟩
  | .bool b => some ⟨.after (.bool b), frames⟩
  | .number n => some ⟨.after (.number n), frames⟩
  | .text (some s) => some ⟨.after (.text s), frames⟩
  | .text none => some ⟨.after .unreadable, frames⟩
  | .openList => some ⟨.valueOrClose, frames⟩
  | .openObject => some ⟨.keyOrClose, frames⟩
  | _ => none

/-- The progress after a token that follows a complete value. -/
def continueFrame (j : Json) (frames : List Frame) (token : Token) : Option Progress :=
  match frames, token with
  | .list items :: frames, .comma => some ⟨.value, .list (j :: items) :: frames⟩
  | .list items :: frames, .closeList => some ⟨.after (.list (j :: items).reverse), frames⟩
  | .object members key :: frames, .comma => some ⟨.key ((key, j) :: members), frames⟩
  | .object members key :: frames, .closeObject =>
    some ⟨.after (closeObject ((key, j) :: members)), frames⟩
  | _, _ => none

/-- The progress after one more token. -/
def Progress.step (p : Progress) (token : Token) : Option Progress :=
  match p.expected with
  | .value => startValue token p.frames
  | .valueOrClose =>
    match token with
    | .closeList => some ⟨.after (.list []), p.frames⟩
    | token => startValue token (.list [] :: p.frames)
  | .keyOrClose =>
    match token with
    | .closeObject => some ⟨.after (.object []), p.frames⟩
    | .text key => some ⟨.colon [] key, p.frames⟩
    | _ => none
  | .key members =>
    match token with
    | .text key => some ⟨.colon members key, p.frames⟩
    | _ => none
  | .colon members key =>
    match token with
    | .colon => some ⟨.value, .object members key :: p.frames⟩
    | _ => none
  | .after j => continueFrame j p.frames token

/-- The document once all is read and closed. -/
def Progress.finish? (p : Progress) : Option Json :=
  match p.expected, p.frames with
  | .after j, [] => some j
  | _, _ => none

/-- The document that the tokens spell. -/
def ofTokens? (tokens : List Token) : Option Json := do
  let p ← tokens.foldlM Progress.step ⟨.value, []⟩
  p.finish?

/-- The document that the symbols spell. -/
def parse? (input : List Symbol) : Option Json := do
  ofTokens? (← tokens? input)

/-- The document that a text spells. -/
def parseText? (s : String) : Option Json :=
  parse? (symbols s)

end MasterData.Json
