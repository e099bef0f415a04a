-- SUMMARY: The tokens of a JSON document.
import MasterData.Json.Tree
import MasterData.Text.Utf8

/-! # JSON tokens

A document is cut into tokens from the left; blanks between tokens are space, tab, line feed and
carriage return. A string token holds its text, or nothing where escapes or bytes make no text.
-/

namespace MasterData.Json

open Text (Symbol)

/-- A token. -/
inductive Token where
  | openList
  | closeList
  | openObject
  | closeObject
  | comma
  | colon
  | null
  | bool (b : Bool)
  | number (n : Numeral)
  | text (s : Option String)

/-! ## Strings -/

/-- A part of a string: a character, a 16-bit unit that an escape spells, or a place without
either. -/
inductive Piece where
  | char (c : Char)
  | unit (n : Nat)
  | damage

/-- The value of a hexadecimal digit. -/
def hexValue? (s : Symbol) : Option Nat :=
  match s with
  | some c =>
    if c.isDigit then some (c.toNat - '0'.toNat)
    else if 'a' ≤ c ∧ c ≤ 'f' then some (c.toNat - 'a'.toNat + 10)
    else if 'A' ≤ c ∧ c ≤ 'F' then some (c.toNat - 'A'.toNat + 10)
    else none
  | none => none

/-- The unit that four hexadecimal digits spell. -/
def unit? (a b c d : Symbol) : Option Nat := do
  let a ← hexValue? a
  let b ← hexValue? b
  let c ← hexValue? c
  let d ← hexValue? d
  return ((a * 16 + b) * 16 + c) * 16 + d

/-- The character of a one-letter escape. -/
def shortEscape? (c : Char) : Option Char :=
  match c with
  | '"' => some '"'
  | '\\' => some '\\'
  | '/' => some '/'
  | 'b' => some '\x08'
  | 'f' => some '\x0c'
  | 'n' => some '\n'
  | 'r' => some '\r'
  | 't' => some '\t'
  | _ => none

/-- The pieces of a string up to its closing quote, and what follows it. -/
def scanPieces : List Symbol → Option (List Piece × List Symbol)
  | [] => none
  | some '"' :: rest => some ([], rest)
  | some '\\' :: some 'u' :: a :: b :: c :: d :: rest => do
    let n ← unit? a b c d
    let (pieces, rest) ← scanPieces rest
    return (.unit n :: pieces, rest)
  | some '\\' :: some e :: rest => do
    let c ← shortEscape? e
    let (pieces, rest) ← scanPieces rest
    return (.char c :: pieces, rest)
  | some c :: rest =>
    if c = '\\' ∨ c.toNat < 0x20 then none
    else do
      let (pieces, rest) ← scanPieces rest
      return (.char c :: pieces, rest)
  | none :: rest => do
    let (pieces, rest) ← scanPieces rest
    return (.damage :: pieces, rest)

def isHighSurrogate (n : Nat) : Bool := 0xD800 ≤ n && n < 0xDC00

def isLowSurrogate (n : Nat) : Bool := 0xDC00 ≤ n && n < 0xE000

/-- The characters that the pieces make; two units make one where they are a surrogate pair. -/
def charsOfPieces? : List Piece → Option (List Char)
  | [] => some []
  | .char c :: rest => (charsOfPieces? rest).map (c :: ·)
  | .damage :: _ => none
  | .unit n :: .unit m :: rest =>
    if isHighSurrogate n then
      if isLowSurrogate m then
        (charsOfPieces? rest).map
          (Char.ofNat (0x10000 + (n - 0xD800) * 0x400 + (m - 0xDC00)) :: ·)
      else none
    else if isLowSurrogate n then none
    else (charsOfPieces? (.unit m :: rest)).map (Char.ofNat n :: ·)
  | .unit n :: rest =>
    if isHighSurrogate n || isLowSurrogate n then none
    else (charsOfPieces? rest).map (Char.ofNat n :: ·)

/-- The text that the pieces make. -/
def textOfPieces? (pieces : List Piece) : Option String :=
  (charsOfPieces? pieces).map String.ofList

theorem scanPieces_length_lt {input rest : List Symbol} {pieces : List Piece}
    (h : scanPieces input = some (pieces, rest)) : rest.length < input.length := by
  fun_induction scanPieces input generalizing pieces rest with
  | case1 => simp at h
  | case2 => simp_all
  | case3 a b c d more ih =>
    simp only [Option.bind_eq_bind, Option.bind_eq_some_iff] at h
    obtain ⟨n, -, ⟨ps, r⟩, hs, h⟩ := h
    have := ih hs
    simp_all
    omega
  | case4 e more _ ih =>
    simp only [Option.bind_eq_bind, Option.bind_eq_some_iff] at h
    obtain ⟨n, -, ⟨ps, r⟩, hs, h⟩ := h
    have := ih hs
    simp_all
    omega
  | case5 => simp at h
  | case6 c more _ _ _ _ ih =>
    simp only [Option.bind_eq_bind, Option.bind_eq_some_iff] at h
    obtain ⟨⟨ps, r⟩, hs, h⟩ := h
    have := ih hs
    simp_all
    omega
  | case7 more ih =>
    simp only [Option.bind_eq_bind, Option.bind_eq_some_iff] at h
    obtain ⟨⟨ps, r⟩, hs, h⟩ := h
    have := ih hs
    simp_all
    omega

/-! ## Numbers -/

/-- The digits at the start, and the rest. -/
def scanDigits : List Symbol → List Char × List Symbol
  | some c :: rest =>
    if c.isDigit then
      let (digits, rest) := scanDigits rest
      (c :: digits, rest)
    else ([], some c :: rest)
  | rest => ([], rest)

theorem scanDigits_length_le (input : List Symbol) :
    (scanDigits input).2.length ≤ input.length := by
  fun_induction scanDigits input <;> simp_all
  omega

/-- The digits behind a point, of which there must be one; none at all without a point. -/
def scanFraction : List Symbol → Option (List Char × List Symbol)
  | some '.' :: rest =>
    match scanDigits rest with
    | ([], _) => none
    | scanned => some scanned
  | rest => some ([], rest)

theorem scanFraction_length_le {input rest : List Symbol} {digits : List Char}
    (h : scanFraction input = some (digits, rest)) : rest.length ≤ input.length := by
  unfold scanFraction at h
  split at h
  · rename_i more
    have := scanDigits_length_le more
    split at h
    · simp at h
    · simp_all
      omega
  · simp_all

/-- A sign in front of an exponent. -/
def scanSign : List Symbol → Bool × List Symbol
  | some '-' :: rest => (true, rest)
  | some '+' :: rest => (false, rest)
  | rest => (false, rest)

theorem scanSign_length_le (input : List Symbol) : (scanSign input).2.length ≤ input.length := by
  unfold scanSign
  split <;> simp

/-- The exponent, of which there must be a digit; nothing without its letter. -/
def scanExponent (input : List Symbol) : Option (Option Int × List Symbol) :=
  match input with
  | some c :: rest =>
    if c = 'e' ∨ c = 'E' then
      let signed := scanSign rest
      match scanDigits signed.2 with
      | ([], _) => none
      | (digits, rest) =>
        let n : Int := Double.digitsValue digits
        some (some (if signed.1 then -n else n), rest)
    else some (none, input)
  | _ => some (none, input)

theorem scanExponent_length_le {input rest : List Symbol} {e : Option Int}
    (h : scanExponent input = some (e, rest)) : rest.length ≤ input.length := by
  unfold scanExponent at h
  split at h
  · rename_i c more
    split at h
    · have := scanSign_length_le more
      have := scanDigits_length_le (scanSign more).2
      simp only at h
      split at h
      · simp at h
      · simp_all
        omega
    · simp_all
  · simp_all

/-- The digits before the point: a zero on its own, or digits that start with another one. -/
def scanWhole : List Symbol → Option (List Char × List Symbol)
  | some '0' :: rest => some (['0'], rest)
  | input =>
    match scanDigits input with
    | ([], _) => none
    | scanned => some scanned

theorem scanWhole_length_le {input rest : List Symbol} {digits : List Char}
    (h : scanWhole input = some (digits, rest)) : rest.length ≤ input.length := by
  unfold scanWhole at h
  split at h
  · simp_all
  · have := scanDigits_length_le input
    split at h
    · simp at h
    · simp_all

/-- The literal of a number without its sign, and what follows it. -/
def scanNumeral (negative : Bool) (input : List Symbol) : Option (Numeral × List Symbol) := do
  let (whole, rest) ← scanWhole input
  let (fraction, rest) ← scanFraction rest
  let (exponent, rest) ← scanExponent rest
  return (⟨negative, whole, fraction, exponent⟩, rest)

theorem scanNumeral_length_le {negative : Bool} {input rest : List Symbol} {n : Numeral}
    (h : scanNumeral negative input = some (n, rest)) : rest.length ≤ input.length := by
  simp only [scanNumeral, Option.bind_eq_bind, Option.bind_eq_some_iff] at h
  obtain ⟨⟨w, r₁⟩, h₁, ⟨f, r₂⟩, h₂, ⟨e, r₃⟩, h₃, h⟩ := h
  have := scanWhole_length_le h₁
  have := scanFraction_length_le h₂
  have := scanExponent_length_le h₃
  simp_all
  omega

theorem scanWhole_length_lt {input rest : List Symbol} {digits : List Char}
    (h : scanWhole input = some (digits, rest)) : rest.length < input.length := by
  unfold scanWhole at h
  split at h
  · simp_all
  · cases input with
    | nil => simp [scanDigits] at h
    | cons s input =>
      have := scanDigits_length_le input
      rcases s with _ | c
      · simp [scanDigits] at h
      · by_cases hc : c.isDigit
        · have hs : scanDigits (some c :: input)
              = (c :: (scanDigits input).1, (scanDigits input).2) := by simp [scanDigits, hc]
          rw [hs] at h
          cases h
          exact Nat.lt_succ_of_le this
        · simp_all [scanDigits]

theorem scanNumeral_length_lt {negative : Bool} {input rest : List Symbol} {n : Numeral}
    (h : scanNumeral negative input = some (n, rest)) : rest.length < input.length := by
  simp only [scanNumeral, Option.bind_eq_bind, Option.bind_eq_some_iff] at h
  obtain ⟨⟨w, r₁⟩, h₁, ⟨f, r₂⟩, h₂, ⟨e, r₃⟩, h₃, h⟩ := h
  have := scanWhole_length_lt h₁
  have := scanFraction_length_le h₂
  have := scanExponent_length_le h₃
  simp_all
  omega

/-! ## Documents -/

/-- A blank between tokens. -/
def isGap (c : Char) : Bool :=
  c = ' ' || c = '\t' || c = '\n' || c = '\r'

/-- The token that a punctuation mark is. -/
def punctuation? (c : Char) : Option Token :=
  match c with
  | '[' => some .openList
  | ']' => some .closeList
  | '\x7b' => some .openObject
  | '\x7d' => some .closeObject
  | ',' => some .comma
  | ':' => some .colon
  | _ => none

/-- The token that starts with the character `c`, and what follows it. -/
def scanToken (c : Char) (rest : List Symbol) : Option (Token × List Symbol) :=
  match punctuation? c with
  | some token => some (token, rest)
  | none =>
    if c = '"' then (scanPieces rest).map fun (pieces, rest) => (.text (textOfPieces? pieces), rest)
    else if c = '-' then (scanNumeral true rest).map fun (n, rest) => (.number n, rest)
    else if c.isDigit then (scanNumeral false (some c :: rest)).map fun (n, rest) => (.number n, rest)
    else
      match c, rest with
      | 'n', some 'u' :: some 'l' :: some 'l' :: rest => some (.null, rest)
      | 't', some 'r' :: some 'u' :: some 'e' :: rest => some (.bool true, rest)
      | 'f', some 'a' :: some 'l' :: some 's' :: some 'e' :: rest => some (.bool false, rest)
      | _, _ => none

theorem scanToken_length_le {c : Char} {input rest : List Symbol} {t : Token}
    (h : scanToken c input = some (t, rest)) : rest.length ≤ input.length := by
  unfold scanToken at h
  split at h
  · simp_all
  · split at h
    · simp only [Option.map_eq_some_iff] at h
      obtain ⟨⟨ps, r⟩, hs, h⟩ := h
      cases h
      exact Nat.le_of_lt (scanPieces_length_lt hs)
    · split at h
      · simp only [Option.map_eq_some_iff] at h
        obtain ⟨⟨n, r⟩, hs, h⟩ := h
        cases h
        exact scanNumeral_length_le hs
      · split at h
        · simp only [Option.map_eq_some_iff] at h
          obtain ⟨⟨n, r⟩, hs, h⟩ := h
          cases h
          exact Nat.le_of_lt_succ (scanNumeral_length_lt hs)
        · split at h
          · cases h
            simp only [List.length_cons]
            omega
          · cases h
            simp only [List.length_cons]
            omega
          · cases h
            simp only [List.length_cons]
            omega
          · cases h

/-- The tokens of a document. -/
def tokens? : List Symbol → Option (List Token)
  | [] => some []
  | none :: _ => none
  | some c :: input =>
    if isGap c then tokens? input
    else
      match _h : scanToken c input with
      | none => none
      | some (token, rest) => (tokens? rest).map (token :: ·)
termination_by input => input.length
decreasing_by
  · simp
  · have := scanToken_length_le _h
    simp only [List.length_cons]
    omega

end MasterData.Json
