-- SUMMARY: YAML sources as characters with their places.

/-! # YAML sources

A source is a list of characters that know where they stand. Every line ending reads as a line feed,
except the line and paragraph separators: they end a line too, but a text keeps them.
-/

namespace MasterData.Yaml

/-- A character of a source with its place, counted from zero. -/
structure Placed where
  char : Char
  line : Nat
  col : Nat
  /-- How many bytes stand before it. -/
  offset : Nat
  deriving Repr

/-- What is left of a source. -/
abbrev Source := List Placed

/-! ## Characters -/

/-- A character that a source may hold. -/
def isAllowed (c : Char) : Bool :=
  c = '\t' || c = '\n' || c = '\r' || c = '\x85' || (0x20 ≤ c.toNat && c.toNat ≤ 0x7E)
    || (0xA0 ≤ c.toNat && c.toNat ≠ 0xFFFE && c.toNat ≠ 0xFFFF)

/-- A space or tab. -/
def isSpace (c : Char) : Bool := c = ' ' || c = '\t'

/-- A character that ends a line of a source. -/
def isBreak (c : Char) : Bool := c = '\n' || c = '\u2028' || c = '\u2029'

/-- A character that a text keeps in front, but that is skipped at the start of a line between two
tokens. -/
def byteOrderMark : Char := '\uFEFF'

/-! ## Places -/

/-- A line ending of one character as it is read. -/
def unifyBreak (c : Char) : Char :=
  if c = '\r' ∨ c = '\x85' then '\n' else c

/-- The characters from a place on, each with its own place. -/
def place (line col offset : Nat) : List Char → Source
  | [] => []
  | '\r' :: '\n' :: cs => ⟨'\n', line, col, offset⟩ :: place (line + 1) 0 (offset + 2) cs
  | c :: cs =>
    ⟨unifyBreak c, line, col, offset⟩ ::
      if isBreak (unifyBreak c) then place (line + 1) 0 (offset + c.utf8Size) cs
      else place line (col + 1) (offset + c.utf8Size) cs

/-- The source of a text, if it holds no other characters than it may. -/
def Source.ofText? (text : String) : Option Source :=
  let cs := text.toList
  if cs.all isAllowed then some (place 0 0 0 cs) else none

/-! ## What a source goes on with -/

/-- Whether a source has ended or goes on with white space. -/
def atBlank : Source → Bool
  | [] => true
  | p :: _ => isSpace p.char || isBreak p.char

/-- Whether a source goes on with a character three times and white space, at the start of a line. -/
def startsTriple (mark : Char) : Source → Bool
  | a :: b :: c :: rest =>
    a.col = 0 && a.char = mark && b.char = mark && c.char = mark && atBlank rest
  | _ => false

/-- Whether a source goes on with a mark between documents. -/
def atDocumentMark (source : Source) : Bool :=
  startsTriple '-' source || startsTriple '.' source

end MasterData.Yaml
