-- SUMMARY: How texts are written as YAML scalars.
import MasterData.Number.Literal

/-! # Scalar styles

A text is written plain where it reads back as that text: not as another type, and without a mark
that would end it or start something else. Otherwise it stands in single quotes, a text of several
lines in a block below a bar, and one that neither can hold in double quotes with escapes.
-/

namespace MasterData.Yaml

/-- A way to write a text. -/
inductive ScalarStyle where
  | plain
  | single
  | double
  /-- Line by line, below a bar. -/
  | literal
  deriving DecidableEq

/-! ## Texts that read as another type -/

/-- The words that stand for truth values and for nothing. -/
def takenWords : List String :=
  ["true", "True", "TRUE", "false", "False", "FALSE", "", "null", "Null", "NULL", "~"]

/-- The words for doubles that are not finite. -/
def specialDoubles : List String := [
  ".inf", ".Inf", ".INF", "+.inf", "+.Inf", "+.INF", "-.inf", "-.Inf", "-.INF", ".nan", ".NaN",
  ".NAN"]

/-- The value of a digit in a base. -/
def digitIn? (base : Nat) (c : Char) : Option Nat :=
  let value :=
    if c.isDigit then some (c.toNat - '0'.toNat)
    else if 'a' ≤ c ∧ c ≤ 'z' then some (c.toNat - 'a'.toNat + 10)
    else if 'A' ≤ c ∧ c ≤ 'Z' then some (c.toNat - 'A'.toNat + 10)
    else none
  value.filter (· < base)

/-- The value of digits in a base; there must be at least one. -/
def valueIn? (base : Nat) (cs : List Char) : Option Nat :=
  if cs = [] then none
  else (cs.mapM (digitIn? base)).map (·.foldl (fun n d => base * n + d) 0)

/-- The base that two characters in front of a number announce. -/
def announcedBase? : List Char → Option (Nat × List Char)
  | '0' :: 'x' :: cs => some (16, cs)
  | '0' :: 'o' :: cs => some (8, cs)
  | '0' :: 'b' :: cs => some (2, cs)
  | _ => none

/-- A whole number with an announced base: at most 128 bits, with the sign among them if negative. -/
def readsAsBased (cs : List Char) : Bool :=
  let value? (cs : List Char) := (announcedBase? cs).bind fun (base, digits) => valueIn? base digits
  match cs with
  | '-' :: cs => (value? cs).any (· ≤ 1 <<< 127)
  | '+' :: cs => (value? cs).any (· < 1 <<< 128)
  | cs => (value? cs).any (· < 1 <<< 128)

/-- A text without one sign in front. -/
def dropSign : List Char → List Char
  | '-' :: cs => cs
  | '+' :: cs => cs
  | cs => cs

/-- Digits behind a zero, which some readers take for a number and some for a text. -/
def hasIdleZero (cs : List Char) : Bool :=
  match dropSign cs with
  | '0' :: c :: cs => (c :: cs).all Char.isDigit
  | _ => false

/-- A decimal number that a double can hold. -/
def readsAsDecimal (cs : List Char) : Bool :=
  let finite (cs : List Char) := (Double.ofLiteral? (String.ofList cs)).any (·.isFinite)
  match cs with
  | '+' :: '+' :: _ => false
  | '+' :: '-' :: _ => false
  | '+' :: cs => finite cs
  | cs => finite cs

/-- Whether a plain scalar would be read as something else than a text. -/
def readsAsOther (s : String) : Bool :=
  takenWords.contains s || specialDoubles.contains s || readsAsBased s.toList
    || hasIdleZero s.toList || readsAsDecimal s.toList

/-! ## What each style can hold -/

/-- A character that ends a line. -/
def endsLine (c : Char) : Bool :=
  c = '\n' || c = '\r' || c = '\x85' || c = '\u2028' || c = '\u2029'

/-- A character that separates tokens. -/
def isGap (c : Char) : Bool :=
  c = ' ' || c = '\t' || c = '\x00' || endsLine c

/-- A character that is written as it is. -/
def isPrintable (c : Char) : Bool :=
  c = '\n' || (0x20 ≤ c.toNat && c.toNat ≤ 0x7E)
    || (0xA0 ≤ c.toNat && c.toNat ≠ 0xFEFF && c.toNat ≠ 0xFFFE && c.toNat ≠ 0xFFFF)

/-- The marks that start something else than a plain scalar. -/
def openingMarks : List Char :=
  ['#', ',', '[', ']', '\x7b', '\x7d', '&', '*', '!', '|', '>', '\'', '"', '%', '@', '\x60']

/-- Whether a character between two neighbours would not be read as part of a plain scalar. -/
def isMark (previous : Option Char) (c : Char) (next : Option Char) : Bool :=
  match previous with
  | none => openingMarks.contains c || ((c = '?' || c = ':' || c = '-') && next.all isGap)
  | some p => (c = ':' && next.all isGap) || (c = '#' && isGap p)

/-- Whether there is such a character among those behind a previous one. -/
def hasMark (previous : Option Char) : List Char → Bool
  | [] => false
  | c :: cs => isMark previous c cs.head? || hasMark (some c) cs

/-- Whether two neighbours pass a test each. -/
def hasPair (p q : Char → Bool) (cs : List Char) : Bool :=
  (cs.zip (cs.drop 1)).any fun (a, b) => p a && q b

/-- Whether no quotes and no block are needed to see every character in its place. -/
def isClean (cs : List Char) : Bool :=
  cs.all isPrintable && !hasPair (· = ' ') endsLine cs

def fitsPlain (cs : List Char) : Bool :=
  isClean cs && !cs.any endsLine && cs.head? ≠ some ' ' && cs.getLast? ≠ some ' '
    && cs.take 3 ≠ ['-', '-', '-'] && cs.take 3 ≠ ['.', '.', '.'] && !hasMark none cs

def fitsSingle (cs : List Char) : Bool :=
  isClean cs && !hasPair endsLine (· = ' ') cs

def fitsLiteral (cs : List Char) : Bool :=
  isClean cs && cs.getLast? ≠ some ' '

/-- The style of a text. -/
def ScalarStyle.of (s : String) : ScalarStyle :=
  let cs := s.toList
  if cs.contains '\n' then if fitsLiteral cs then .literal else .double
  else if !readsAsOther s && fitsPlain cs then .plain
  else if fitsSingle cs then .single
  else .double

/-! ## Writing -/

/-- Characters with every line that is not empty indented; `broken` tells whether a line starts. -/
def indentLines (indent : Nat) (broken : Bool) : List Char → List Char
  | [] => []
  | c :: cs =>
    if endsLine c then c :: indentLines indent true cs
    else (if broken then List.replicate indent ' ' else []) ++ c :: indentLines indent false cs

/-- An upper-case hexadecimal number of a width. -/
def hexOf (width n : Nat) : List Char :=
  let digits := (Nat.toDigits 16 n).map Char.toUpper
  List.replicate (width - digits.length) '0' ++ digits

/-- A character as it stands in double quotes. -/
def escaped (c : Char) : List Char :=
  let short (letter : Char) := ['\\', letter]
  if c = '\x00' then short '0'
  else if c = '\x07' then short 'a'
  else if c = '\x08' then short 'b'
  else if c = '\t' then short 't'
  else if c = '\n' then short 'n'
  else if c = '\x0b' then short 'v'
  else if c = '\x0c' then short 'f'
  else if c = '\r' then short 'r'
  else if c = '\x1b' then short 'e'
  else if c = '"' then short '"'
  else if c = '\\' then short '\\'
  else if c = '\x85' then short 'N'
  else if c = '\u2028' then short 'L'
  else if c = '\u2029' then short 'P'
  else if isPrintable c then [c]
  else if c.toNat ≤ 0xFF then short 'x' ++ hexOf 2 c.toNat
  else if c.toNat ≤ 0xFFFF then short 'u' ++ hexOf 4 c.toNat
  else short 'U' ++ hexOf 8 c.toNat

/-- The marks behind the bar of a block: the indentation where the first line would hide it, and how
the block ends. -/
def blockHints (cs : List Char) : List Char :=
  let starts := cs.head?.any fun c => c = ' ' || endsLine c
  let ending := (cs.reverse.takeWhile endsLine).length
  (if starts then ['2'] else [])
    ++ if ending = 0 then ['-'] else if ending = 1 ∧ cs.length ≠ 1 then [] else ['+']

/-- A text in a style, with the lines behind the first one indented; a closing quote that starts a
line is indented too. -/
def scalarChars (style : ScalarStyle) (indent : Nat) (cs : List Char) : List Char :=
  match style with
  | .plain => cs
  | .single =>
    let inside := cs.flatMap fun c => if c = '\'' then ['\'', '\''] else [c]
    let last := if cs.getLast?.any endsLine then List.replicate indent ' ' else []
    '\'' :: indentLines indent false inside ++ last ++ ['\'']
  | .double => '"' :: cs.flatMap escaped ++ ['"']
  | .literal => '|' :: blockHints cs ++ '\n' :: indentLines indent true cs

end MasterData.Yaml
