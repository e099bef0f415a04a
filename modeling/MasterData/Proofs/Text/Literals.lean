-- SUMMARY: Literals read back, and the texts that they stand for.
import MasterData.Proofs.Code.Comments
import MasterData.Yaml.Scalar

/-! # Literals

A literal is read character by character, with a state for what stands inside an escape. The reader stops
at the first quote that is not escaped, and accepts neither the end of a line nor an escape that it does
not know. What is written for a text reads back as that text, whatever stands behind the literal, so
different texts have different literals. Main statements: `readLiteral?_quoted` and `quoted_injective`.
-/

namespace MasterData.Text

/-! ## Reading -/

/-- Where a reader of a literal stands: between characters, behind a backslash, before the brace of a
code point, or behind some digits of it. -/
inductive LiteralState where
  | between
  | escaped
  | opening
  | digits (count value : Nat)

/-- The character that a letter behind a backslash stands for. -/
def shortEscape? (c : Char) : Option Char :=
  [('t', '\t'), ('r', '\r'), ('n', '\n'), ('0', '\x00'), ('\\', '\\'), ('"', '"')].lookup c

/-- The character of a code point that is written with a number of digits. -/
def codePoint? (count value : Nat) : Option Char :=
  if 1 ≤ count ∧ count ≤ 6 ∧ value.isValidChar then some (Char.ofNat value) else none

/-- The characters of a literal up to its closing quote, and what stands behind it. -/
def readCharacters : LiteralState → List Char → Option (List Char × List Char)
  | _, [] => none
  | .between, c :: cs =>
    if c = '"' then some ([], cs)
    else if c = '\\' then readCharacters .escaped cs
    else if c = '\n' ∨ c = '\r' then none
    else (readCharacters .between cs).map fun (read, rest) => (c :: read, rest)
  | .escaped, c :: cs =>
    if c = 'u' then readCharacters .opening cs
    else (shortEscape? c).bind fun d =>
      (readCharacters .between cs).map fun (read, rest) => (d :: read, rest)
  | .opening, c :: cs => if c = '\x7b' then readCharacters (.digits 0 0) cs else none
  | .digits count value, c :: cs =>
    if c = '\x7d' then (codePoint? count value).bind fun d =>
      (readCharacters .between cs).map fun (read, rest) => (d :: read, rest)
    else (Yaml.hexValue? c).bind fun digit =>
      readCharacters (.digits (count + 1) (16 * value + digit)) cs

/-- The text of the literal that characters start with, and what stands behind it. -/
def readLiteral? : List Char → Option (String × List Char)
  | [] => none
  | c :: cs =>
    if c = '"' then (readCharacters .between cs).map fun (read, rest) => (String.ofList read, rest)
    else none

/-! ## Code points -/

theorem readCharacters_digit {d : Nat} (hd : d < 16) (count value : Nat) (cs : List Char) :
    readCharacters (.digits count value) (d.digitChar :: cs)
      = readCharacters (.digits (count + 1) (16 * value + d)) cs := by
  have hdigit : ∀ d < 16, d.digitChar ≠ '\x7d' ∧ Yaml.hexValue? d.digitChar = some d := by decide
  obtain ⟨hbrace, hvalue⟩ := hdigit d hd
  rw [readCharacters, if_neg hbrace, hvalue]
  rfl

/-- The digits of a number read as that number. -/
theorem readCharacters_hexDigits (n : Nat) (cs : List Char) :
    readCharacters (.digits 0 0) (hexDigits n ++ cs)
      = readCharacters (.digits (hexDigits n).length n) cs := by
  induction n using Nat.strongRecOn generalizing cs with
  | ind n ih =>
    have hdigits := Nat.toDigits_eq_if (b := 16) (n := n) (by decide)
    unfold hexDigits at ih ⊢
    rw [hdigits]
    split
    · rename_i hsmall
      simpa using readCharacters_digit hsmall 0 0 cs
    · have hlast : n % 16 < 16 := Nat.mod_lt n (by decide)
      rw [List.append_assoc, List.singleton_append, ih (n / 16) (by omega),
        readCharacters_digit hlast, Nat.div_add_mod, List.length_append, List.length_singleton]

theorem codePoint?_toNat (c : Char) : codePoint? (hexDigits c.toNat).length c.toNat = some c := by
  have hvalid : c.toNat.isValidChar := c.valid
  have hpos : 1 ≤ (hexDigits c.toNat).length := Nat.length_toDigits_pos
  have hle : (hexDigits c.toNat).length ≤ 6 := by
    refine (Nat.length_toDigits_le_iff (by decide) (by decide)).2 ?_
    rcases hvalid with hsmall | ⟨-, hsmall⟩
    · exact Nat.lt_trans hsmall (by decide)
    · exact Nat.lt_trans hsmall (by decide)
  rw [codePoint?, if_pos ⟨hpos, hle, hvalid⟩, Char.ofNat_toNat]

/-! ## Characters and texts -/

/-- What is written for a character reads back as that character. -/
theorem readCharacters_escapeChar (c : Char) (cs : List Char) :
    readCharacters .between (escapeChar '"' c ++ cs)
      = (readCharacters .between cs).map fun (read, rest) => (c :: read, rest) := by
  unfold escapeChar
  split_ifs with htab hreturn hfeed hnull hslash hquote hcode
  · subst htab
    rfl
  · subst hreturn
    rfl
  · subst hfeed
    rfl
  · subst hnull
    rfl
  · subst hslash
    rfl
  · subst hquote
    rfl
  · have hopen : readCharacters .between (['\\', 'u', '\x7b'] ++ hexDigits c.toNat ++ ['\x7d'] ++ cs)
        = readCharacters (.digits 0 0) (hexDigits c.toNat ++ '\x7d' :: cs) := by
      rw [List.append_assoc, List.append_assoc]
      rfl
    rw [hopen, readCharacters_hexDigits, readCharacters, if_pos rfl, codePoint?_toNat]
    rfl
  · rw [List.singleton_append, readCharacters, if_neg hquote, if_neg hslash,
      if_neg (not_or.2 ⟨hfeed, hreturn⟩)]

theorem readCharacters_flatMap_escapeChar (cs rest : List Char) :
    readCharacters .between (cs.flatMap (escapeChar '"') ++ '"' :: rest) = some (cs, rest) := by
  induction cs with
  | nil => rfl
  | cons c cs ih =>
    rw [List.flatMap_cons, List.append_assoc, readCharacters_escapeChar, ih]
    rfl

theorem toList_quoted (s : String) :
    (quoted s).toList = '"' :: (s.toList.flatMap (escapeChar '"') ++ ['"']) := by
  rw [quoted, String.toList_ofList]
  rfl

/-- A literal reads back as its text, and what stands behind it is left. -/
theorem readLiteral?_quoted (s : String) (rest : List Char) :
    readLiteral? ((quoted s).toList ++ rest) = some (s, rest) := by
  rw [toList_quoted, List.cons_append, readLiteral?, if_pos rfl, List.append_assoc,
    List.singleton_append, readCharacters_flatMap_escapeChar, Option.map_some]
  simp only [String.ofList_toList]

theorem quoted_injective : Function.Injective quoted := by
  intro s t h
  have hread := readLiteral?_quoted s []
  rw [h, readLiteral?_quoted t []] at hread
  exact (congrArg Prod.fst (Option.some.inj hread)).symm

end MasterData.Text
