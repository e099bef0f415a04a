-- SUMMARY: The tokens of YAML sources.
import MasterData.Yaml.Scalar

/-! # YAML tokens

The tokens of a source tell its structure without its places: where a block starts and ends, and
which of two scalars is a key, is told by columns while the tokens are collected. A key that no
question mark announces is known by the colon behind it; until then it is a candidate.
-/

namespace MasterData.Yaml

/-- A token. -/
inductive Token where
  | scalar (s : String)
  /-- What follows is a key. -/
  | key
  /-- What follows is the value of a key. -/
  | value
  /-- What follows is an item of a block. -/
  | dash
  | blockList
  | blockMap
  | blockEnd
  | openList
  | closeList
  | openMap
  | closeMap
  | comma
  /-- The mark in front of a document. -/
  | documentStart
  /-- The mark behind a document. -/
  | documentEnd
  deriving DecidableEq

/-! ## Between the tokens -/

/-- The source from its next token on, behind blanks, line endings and comments, and whether a key or
a block can start there. Where one can, a tab is no blank; behind a line ending one can, except in
brackets. -/
def skipToToken (flow fresh comment : Bool) : Source → Bool × Source
  | [] => (fresh, [])
  | p :: rest =>
    if isBreak p.char then skipToToken flow (fresh || !flow) false rest
    else if comment then skipToToken flow fresh true rest
    else if p.char = ' ' || (p.char = '\t' && (flow || !fresh))
        || (p.char = byteOrderMark && p.col = 0) then
      skipToToken flow fresh false rest
    else if p.char = '#' then skipToToken flow fresh true rest
    else (fresh, p :: rest)

theorem length_skipToToken_le (flow fresh comment : Bool) (source : Source) :
    (skipToToken flow fresh comment source).2.length ≤ source.length := by
  fun_induction skipToToken flow fresh comment source with
  | _ => grind

/-! ## Lexemes -/

/-- The token of a character that stands for no scalar. -/
def indicator? (flow : Bool) (c : Char) (rest : Source) : Option Token :=
  match c with
  | '[' => some .openList
  | ']' => some .closeList
  | '\x7b' => some .openMap
  | '\x7d' => some .closeMap
  | ',' => some .comma
  | '-' => if atBlank rest then some .dash else none
  | '?' => if flow || atBlank rest then some .key else none
  | ':' => if flow || atBlank rest then some .value else none
  | _ => none

/-- The scalar that starts with a character, whether it is plain and a line ended behind it, and the
rest of the source. -/
def scalar? (flow : Bool) (least : Nat) (c : Char) (rest : Source) :
    Option (String × Bool × Source) :=
  if c = '\'' then (scanSingle .start rest).map fun (s, rest) => (s, false, rest)
  else if c = '"' then (scanDouble .between .start rest).map fun (s, rest) => (s, false, rest)
  else if startsPlain flow c rest then scanPlain flow least (Folding.start.addChar c) rest
  else none

theorem length_le_of_scalar? {flow : Bool} {least : Nat} {c : Char} {rest rest' : Source}
    {s : String} {broken : Bool} (h : scalar? flow least c rest = some (s, broken, rest')) :
    rest'.length ≤ rest.length := by
  unfold scalar? at h
  split at h
  · obtain ⟨⟨_, _⟩, hs, he⟩ := Option.map_eq_some_iff.1 h
    obtain ⟨-, -, rfl⟩ := by simpa using he
    exact length_le_of_scanSingle hs
  · split at h
    · obtain ⟨⟨_, _⟩, hs, he⟩ := Option.map_eq_some_iff.1 h
      obtain ⟨-, -, rfl⟩ := by simpa using he
      exact length_le_of_scanDouble hs
    · split at h
      · exact length_le_of_scanPlain h
      · contradiction

/-- The token that starts with a character, whether it is a plain scalar and a line ended behind it,
and the rest of the source. -/
def lexeme? (flow : Bool) (least : Nat) (p : Placed) (rest : Source) :
    Option (Token × Bool × Source) :=
  if startsTriple '-' (p :: rest) then some (.documentStart, false, rest.drop 2)
  else if startsTriple '.' (p :: rest) then some (.documentEnd, false, rest.drop 2)
  else
    match indicator? flow p.char rest with
    | some t => some (t, false, rest)
    | none => (scalar? flow least p.char rest).map fun (s, tail) => (.scalar s, tail)

theorem length_le_of_lexeme? {flow : Bool} {least : Nat} {p : Placed} {rest rest' : Source}
    {t : Token} {broken : Bool} (h : lexeme? flow least p rest = some (t, broken, rest')) :
    rest'.length ≤ rest.length := by
  unfold lexeme? at h
  split at h
  · grind
  · split at h
    · grind
    · split at h
      · grind
      · obtain ⟨⟨_, _, _⟩, hs, he⟩ := Option.map_eq_some_iff.1 h
        obtain ⟨-, -, rfl⟩ := by simpa using he
        exact length_le_of_scalar? hs

/-! ## Candidates -/

/-- What may turn out to be a key. -/
structure Candidate where
  /-- How many tokens stand before it. -/
  number : Nat
  place : Placed
  /-- Nothing but a key can stand at its place. -/
  required : Bool

/-- The longest key, with the blanks behind it, in bytes. -/
def maxKeyLength : Nat := 1024

/-- A key ends on its line and before it is too long. -/
def Candidate.isOver (k : Candidate) (p : Placed) : Bool :=
  k.place.line < p.line || k.place.offset + maxKeyLength < p.offset

/-! ## Collecting -/

/-- The tokens of the source so far and what decides about the next one. -/
structure Collected where
  tokens : Array Token
  /-- The columns of the blocks that are open, the innermost first. -/
  columns : List Nat
  /-- Whether a key or a block can start. -/
  fresh : Bool
  /-- The candidate between the innermost brackets, or outside brackets. -/
  candidate : Option Candidate
  /-- The candidates around each open bracket, the innermost first. -/
  around : List (Option Candidate)

namespace Collected

def start : Collected := ⟨#[], [], true, none, []⟩

def inFlow (s : Collected) : Bool := !s.around.isEmpty

/-- The first column of what belongs to the innermost block. -/
def least (s : Collected) : Nat :=
  match s.columns with
  | [] => 0
  | col :: _ => col + 1

def push (t : Token) (s : Collected) : Collected := { s with tokens := s.tokens.push t }

/-- Ends the blocks at columns that pass a test, up to the first one that does not. -/
def closeBlocks (ends : Nat → Bool) (s : Collected) : Collected :=
  if s.inFlow then s
  else
    let ended := s.columns.takeWhile ends
    { s with
      tokens := s.tokens ++ Array.replicate ended.length .blockEnd
      columns := s.columns.drop ended.length }

/-- Starts a block at a column that no open one has, behind a number of tokens. -/
def openBlock (number : Nat) (t : Token) (col : Nat) (s : Collected) : Collected :=
  if !s.inFlow && s.columns.head?.all (· < col) then
    { s with tokens := s.tokens.insertIdxIfInBounds number t, columns := col :: s.columns }
  else s

/-- Starts a block behind all tokens so far. -/
def openBlockHere (t : Token) (col : Nat) (s : Collected) : Collected :=
  s.openBlock s.tokens.size t col

/-- There is no candidate any more; one that has to be a key is a fault. -/
def dropCandidate? (s : Collected) : Option Collected :=
  if s.candidate.any (·.required) then none else some { s with candidate := none }

/-- What starts at a place is a candidate, if a key can start there. -/
def addCandidate? (p : Placed) (s : Collected) : Option Collected :=
  if s.fresh then
    s.dropCandidate?.map fun s =>
      { s with
        candidate := some ⟨s.tokens.size, p, !s.inFlow && s.columns.head? = some p.col⟩ }
  else some s

/-- A candidate is a key. -/
def announce (k : Candidate) (s : Collected) : Collected :=
  { s with tokens := s.tokens.insertIdxIfInBounds k.number .key, candidate := none }
    |>.openBlock k.number .blockMap k.place.col

/-- A bracket opens; what stands in it has candidates of its own. -/
def enter (s : Collected) : Collected :=
  { s with fresh := true, candidate := none, around := s.candidate :: s.around }

/-- A bracket closes; what it closes may be a candidate. -/
def leave (s : Collected) : Collected :=
  { s with fresh := false, candidate := s.around.headD none, around := s.around.tail }

/-- Adds a token where a key or a block can start, or in brackets. -/
def addFresh? (p : Placed) (block t : Token) (s : Collected) : Option Collected :=
  if s.inFlow || s.fresh then some ((s.openBlockHere block p.col).push t) else none

/-- Adds the mark in front of a value. A candidate that is not over is its key. -/
def addValue? (p : Placed) (s : Collected) : Option Collected :=
  match s.candidate.filter (!·.isOver p) with
  | some k => some { (s.announce k).push .value with fresh := false }
  | none =>
    (s.dropCandidate?.bind (addFresh? p .blockMap .value)).map fun s =>
      { s with fresh := !s.inFlow }

/-- Adds a lexeme that starts at a place. -/
def add? (p : Placed) (t : Token) (broken : Bool) (s : Collected) : Option Collected :=
  match t with
  | .scalar _ => (s.addCandidate? p).map fun s => { s.push t with fresh := broken }
  | .openList | .openMap => (s.addCandidate? p).map fun s => (s.push t).enter
  | .closeList | .closeMap => s.dropCandidate?.map fun s => (s.push t).leave
  | .comma => s.dropCandidate?.map fun s => { s.push t with fresh := true }
  | .dash =>
    (s.dropCandidate?.bind (addFresh? p .blockList t)).map fun s => { s with fresh := true }
  | .key =>
    (s.dropCandidate?.bind (addFresh? p .blockMap t)).map fun s => { s with fresh := !s.inFlow }
  | .value => s.addValue? p
  | .documentStart | .documentEnd =>
    (s.closeBlocks fun _ => true).dropCandidate?.map fun s => { s.push t with fresh := false }
  | .blockList | .blockMap | .blockEnd => none

/-- The tokens of a source behind those so far. -/
def tokens? (s : Collected) (source : Source) : Option (List Token) :=
  match _h : skipToToken s.inFlow s.fresh false source with
  | (_, []) => (s.closeBlocks fun _ => true).dropCandidate?.map (·.tokens.toList)
  | (fresh, p :: rest) =>
    let here := closeBlocks (p.col < ·) { s with fresh }
    match _h' : lexeme? here.inFlow here.least p rest with
    | none => none
    | some (t, broken, rest') =>
      match here.add? p t broken with
      | none => none
      | some next => next.tokens? rest'
termination_by source.length
decreasing_by
  have skipped := length_skipToToken_le s.inFlow s.fresh false source
  have scanned := length_le_of_lexeme? _h'
  rw [_h, List.length_cons] at skipped
  omega

end Collected

/-- The tokens of a source. -/
def tokens? (source : Source) : Option (List Token) :=
  Collected.start.tokens? source

end MasterData.Yaml
