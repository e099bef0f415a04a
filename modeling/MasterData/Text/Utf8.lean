-- SUMMARY: Bytes read as UTF-8 text that may be damaged.

/-! # UTF-8

Bytes are read as a list of symbols: a symbol is a character, or nothing where a run of bytes is no
UTF-8. Such a run is as long as the longest start of a well-formed sequence, and at least one byte.
-/

namespace MasterData.Text

/-- A character, or a place where the bytes hold none. -/
abbrev Symbol := Option Char

namespace Utf8

/-- A byte that continues a sequence. -/
def isContinuation (b : UInt8) : Bool :=
  0x80 ≤ b && b ≤ 0xBF

/-- The bytes that may follow a first byte of a sequence of three or four. -/
def secondRange (first : UInt8) : UInt8 × UInt8 :=
  if first = 0xE0 then (0xA0, 0xBF)
  else if first = 0xED then (0x80, 0x9F)
  else if first = 0xF0 then (0x90, 0xBF)
  else if first = 0xF4 then (0x80, 0x8F)
  else (0x80, 0xBF)

def isSecond (first b : UInt8) : Bool :=
  (secondRange first).1 ≤ b && b ≤ (secondRange first).2

/-- The six payload bits of a continuation. -/
def payload (b : UInt8) : Nat :=
  b.toNat % 64

/-- The number of bytes that a first byte announces; zero if it cannot be one. -/
def announced (b : UInt8) : Nat :=
  if b < 0x80 then 1
  else if b < 0xC2 then 0
  else if b < 0xE0 then 2
  else if b < 0xF0 then 3
  else if b < 0xF5 then 4
  else 0

/-- The symbol at the start of the bytes, and the rest. -/
def decodeFirst (b : UInt8) (bytes : List UInt8) : Symbol × List UInt8 :=
  match announced b, bytes with
  | 1, rest => (some (Char.ofNat b.toNat), rest)
  | 2, c :: rest =>
    if isContinuation c then (some (Char.ofNat (b.toNat % 32 * 64 + payload c)), rest)
    else (none, c :: rest)
  | 3, c :: rest =>
    if isSecond b c then
      match rest with
      | d :: rest =>
        if isContinuation d then
          (some (Char.ofNat ((b.toNat % 16 * 64 + payload c) * 64 + payload d)), rest)
        else (none, d :: rest)
      | [] => (none, [])
    else (none, c :: rest)
  | 4, c :: rest =>
    if isSecond b c then
      match rest with
      | d :: rest =>
        if isContinuation d then
          match rest with
          | e :: rest =>
            if isContinuation e then
              (some (Char.ofNat
                (((b.toNat % 8 * 64 + payload c) * 64 + payload d) * 64 + payload e)), rest)
            else (none, e :: rest)
          | [] => (none, [])
        else (none, d :: rest)
      | [] => (none, [])
    else (none, c :: rest)
  | _, rest => (none, rest)

theorem decodeFirst_length_le (b : UInt8) (bytes : List UInt8) :
    (decodeFirst b bytes).2.length ≤ bytes.length := by
  unfold decodeFirst
  repeat' split
  all_goals simp_all
  all_goals omega

/-- The symbols of the bytes. -/
def decode : List UInt8 → List Symbol
  | [] => []
  | b :: bytes =>
    let next := decodeFirst b bytes
    next.1 :: decode next.2
termination_by bytes => bytes.length
decreasing_by
  have := decodeFirst_length_le b bytes
  simp only [List.length_cons]
  omega

end Utf8

/-- The symbols of a text. -/
def symbols (s : String) : List Symbol :=
  s.toList.map some

/-- A text that shows each damaged place as the replacement character. -/
def repaired (symbols : List Symbol) : String :=
  String.ofList (symbols.map (·.getD '\uFFFD'))

/-- The text of symbols none of which is damaged. -/
def textOfSymbols? (symbols : List Symbol) : Option String :=
  (symbols.mapM id).map String.ofList

theorem textOfSymbols?_symbols (s : String) : textOfSymbols? (symbols s) = some s := by
  have h : ∀ cs : List Char, (cs.map some).mapM id = some cs := by
    intro cs
    induction cs with
    | nil => rfl
    | cons c cs ih => simp [ih]
  simp [textOfSymbols?, symbols, h, String.ofList_toList]

end MasterData.Text
