-- SUMMARY: Scalars in YAML sources.
import MasterData.Yaml.Source

/-! # YAML scalars

A scalar is plain, or stands between single or double quotes. White space around a line ending inside
a scalar is dropped; the line ending reads as a space, and each empty line behind it as a line feed.
A line or paragraph separator reads as itself.
-/

namespace MasterData.Yaml

/-! ## Folding -/

/-- The white space behind the last character of a scalar, in reverse. -/
inductive Gap where
  | spaces (reversed : List Char)
  /-- The line endings behind the first one; there is no first one behind a backslash. -/
  | breaks (first : Option Char) (more : List Char)

namespace Gap

def empty : Gap := .spaces []

def addSpace (c : Char) : Gap → Gap
  | .spaces cs => .spaces (c :: cs)
  | .breaks first more => .breaks first more

def addBreak (c : Char) : Gap → Gap
  | .spaces _ => .breaks (some c) []
  | .breaks first more => .breaks first (c :: more)

def isBroken : Gap → Bool
  | .spaces _ => false
  | .breaks _ _ => true

def isEmpty : Gap → Bool
  | .spaces cs => cs.isEmpty
  | .breaks _ _ => false

/-- The characters, in reverse, that stand for the white space. -/
def folded : Gap → List Char
  | .spaces cs => cs
  | .breaks none more => more
  | .breaks (some '\n') [] => [' ']
  | .breaks (some '\n') more => more
  | .breaks (some c) more => more ++ [c]

end Gap

/-- A scalar that is being read: its characters so far in reverse and the white space behind them. -/
structure Folding where
  reversed : List Char
  gap : Gap

namespace Folding

def start : Folding := ⟨[], .empty⟩

/-- The characters with the pending white space, folded. -/
def flush (f : Folding) : List Char :=
  f.gap.folded ++ f.reversed

def addSpace (f : Folding) (c : Char) : Folding := { f with gap := f.gap.addSpace c }

def addBreak (f : Folding) (c : Char) : Folding := { f with gap := f.gap.addBreak c }

def addChar (f : Folding) (c : Char) : Folding := ⟨c :: f.flush, .empty⟩

/-- The scalar goes on behind a line ending that does not count. -/
def join (f : Folding) : Folding := ⟨f.flush, .breaks none []⟩

/-- The text up to the last character that is no white space. -/
def trimmed (f : Folding) : String := String.ofList f.reversed.reverse

/-- The text with the white space behind it. -/
def text (f : Folding) : String := String.ofList f.flush.reverse

end Folding

/-! ## Quoted scalars -/

/-- The rest of a scalar in single quotes, where two quotes stand for one. -/
def scanSingle (f : Folding) : Source → Option (String × Source)
  | [] => none
  | p :: rest =>
    if atDocumentMark (p :: rest) then none
    else if p.char = '\'' then
      match rest with
      | q :: more => if q.char = '\'' then scanSingle (f.addChar '\'') more else some (f.text, rest)
      | [] => some (f.text, rest)
    else if isBreak p.char then scanSingle (f.addBreak p.char) rest
    else if isSpace p.char then scanSingle (f.addSpace p.char) rest
    else scanSingle (f.addChar p.char) rest

/-- The character that a letter behind a backslash stands for. -/
def escape? (c : Char) : Option Char :=
  match c with
  | '0' => some '\x00'
  | 'a' => some '\x07'
  | 'b' => some '\x08'
  | 't' => some '\t'
  | '\t' => some '\t'
  | 'n' => some '\n'
  | 'v' => some '\x0b'
  | 'f' => some '\x0c'
  | 'r' => some '\r'
  | 'e' => some '\x1b'
  | ' ' => some ' '
  | '"' => some '"'
  | '/' => some '/'
  | '\\' => some '\\'
  | 'N' => some '\x85'
  | '_' => some '\xa0'
  | 'L' => some '\u2028'
  | 'P' => some '\u2029'
  | _ => none

/-- How many hexadecimal digits follow a letter behind a backslash. -/
def escapeLength? (c : Char) : Option Nat :=
  match c with
  | 'x' => some 2
  | 'u' => some 4
  | 'U' => some 8
  | _ => none

/-- The value of a hexadecimal digit. -/
def hexValue? (c : Char) : Option Nat :=
  if c.isDigit then some (c.toNat - '0'.toNat)
  else if 'a' ≤ c ∧ c ≤ 'f' then some (c.toNat - 'a'.toNat + 10)
  else if 'A' ≤ c ∧ c ≤ 'F' then some (c.toNat - 'A'.toNat + 10)
  else none

/-- Where a scalar in double quotes stands: between characters, behind a backslash, or inside the
digits of an escape. -/
inductive DoubleState where
  | between
  | escaped
  | digits (missing value : Nat)

/-- The rest of a scalar in double quotes. -/
def scanDouble (state : DoubleState) (f : Folding) : Source → Option (String × Source)
  | [] => none
  | p :: rest =>
    match state with
    | .escaped =>
      if isBreak p.char then scanDouble .between f.join rest
      else
        match escape? p.char, escapeLength? p.char with
        | some c, _ => scanDouble .between (f.addChar c) rest
        | none, some n => scanDouble (.digits n 0) f rest
        | none, none => none
    | .digits missing value =>
      match hexValue? p.char with
      | some d =>
        let value := value * 16 + d
        if missing ≤ 1 then
          if value.isValidChar then scanDouble .between (f.addChar (Char.ofNat value)) rest
          else none
        else scanDouble (.digits (missing - 1) value) f rest
      | none => none
    | .between =>
      if atDocumentMark (p :: rest) then none
      else if p.char = '"' then some (f.text, rest)
      else if p.char = '\\' then scanDouble .escaped f rest
      else if isBreak p.char then scanDouble .between (f.addBreak p.char) rest
      else if isSpace p.char then scanDouble .between (f.addSpace p.char) rest
      else scanDouble .between (f.addChar p.char) rest

/-! ## Plain scalars -/

/-- A mark that separates the parts of a list or map in brackets. -/
def isFlowMark (c : Char) : Bool :=
  c = ',' || c = '[' || c = ']' || c = '\x7b' || c = '\x7d'

/-- Whether a plain scalar can start with a character, in brackets or not. -/
def startsPlain (flow : Bool) (c : Char) (rest : Source) : Bool :=
  if c = '-' then !atBlank rest
  else if c = '?' || c = ':' then !flow && !atBlank rest
  else
    !isFlowMark c && !isSpace c && !isBreak c
      && !(['#', '&', '*', '!', '|', '>', '\'', '"', '%', '@', '\x60'].contains c)

/-- Whether a colon before this source makes a plain scalar in brackets ambiguous. -/
def isTightColon : Source → Bool
  | [] => false
  | p :: _ => isFlowMark p.char || p.char = '?'

/-- The rest of a plain scalar, whether a line ended behind it, and the source behind the white space
that follows it. The scalar ends before a colon with a blank behind it, before a comment, before a
document mark, in brackets before a mark, and outside them before a line that starts left of the
column `least`. -/
def scanPlain (flow : Bool) (least : Nat) (f : Folding) : Source → Option (String × Bool × Source)
  | [] => some (f.trimmed, f.gap.isBroken, [])
  | p :: rest =>
    if isBreak p.char then scanPlain flow least (f.addBreak p.char) rest
    else if isSpace p.char then
      if p.char = '\t' && f.gap.isBroken && p.col < least then none
      else scanPlain flow least (f.addSpace p.char) rest
    else if (!flow && f.gap.isBroken && p.col < least) || atDocumentMark (p :: rest)
        || (p.char = '#' && !f.gap.isEmpty) then
      some (f.trimmed, f.gap.isBroken, p :: rest)
    else if flow && p.char = ':' && isTightColon rest then none
    else if (p.char = ':' && atBlank rest) || (flow && isFlowMark p.char) then
      some (f.trimmed, f.gap.isBroken, p :: rest)
    else scanPlain flow least (f.addChar p.char) rest

/-! ## Scanning moves on -/

theorem length_le_of_scanSingle {f : Folding} {source rest : Source} {s : String}
    (h : scanSingle f source = some (s, rest)) : rest.length ≤ source.length := by
  fun_induction scanSingle f source with
  | _ => grind

theorem length_le_of_scanDouble {state : DoubleState} {f : Folding} {source rest : Source}
    {s : String} (h : scanDouble state f source = some (s, rest)) :
    rest.length ≤ source.length := by
  fun_induction scanDouble state f source with
  | _ => grind

theorem length_le_of_scanPlain {flow : Bool} {least : Nat} {f : Folding} {source rest : Source}
    {s : String} {broken : Bool} (h : scanPlain flow least f source = some (s, broken, rest)) :
    rest.length ≤ source.length := by
  fun_induction scanPlain flow least f source with
  | _ => grind

end MasterData.Yaml
