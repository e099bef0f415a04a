-- SUMMARY: Written documents are cut into the tokens they were written from.
import Mathlib.Tactic.ByContra
import Mathlib.Tactic.SplitIfs
import MasterData.Proofs.Json.Numeral

/-! # The tokens of a written document

A printed document, followed by anything that does not go on with a number, is scanned into its own
tokens and then into those of what follows. Main statement: `tokens?_chars`.
-/

namespace MasterData.Json

open Text (Symbol)

/-! ## Strings -/

theorem unit?_hexDigit : ∀ n < 0x20,
    unit? (some '0') (some '0') (some (hexDigit (n / 16))) (some (hexDigit (n % 16))) = some n := by
  decide

theorem scanPieces_short {e c : Char} (hu : e ≠ 'u') (h : shortEscape? e = some c)
    (k : List Symbol) :
    scanPieces (some '\\' :: some e :: k)
      = (scanPieces k).map fun scanned => (.char c :: scanned.1, scanned.2) := by
  rw [scanPieces.eq_def]
  split
  · simp_all
  · simp_all
  · simp_all
  · rename_i heq
    simp only [List.cons.injEq, Option.some.injEq, true_and] at heq
    obtain ⟨rfl, rfl⟩ := heq
    cases scanPieces k <;> simp [h]
  · rename_i hno heq
    simp only [List.cons.injEq, Option.some.injEq] at heq
    exact absurd heq.1.symm (hno _ _ heq.2.symm)
  · simp_all

theorem scanPieces_unit {n : Nat} (hn : n < 0x20) (k : List Symbol) :
    scanPieces (some '\\' :: some 'u' :: some '0' :: some '0' :: some (hexDigit (n / 16))
        :: some (hexDigit (n % 16)) :: k)
      = (scanPieces k).map fun scanned => (.unit n :: scanned.1, scanned.2) := by
  rw [scanPieces]
  cases scanPieces k <;> simp [unit?_hexDigit n hn]

theorem scanPieces_plain {c : Char} (hquote : c ≠ '"') (hback : c ≠ '\\') (hc : 0x20 ≤ c.toNat)
    (k : List Symbol) :
    scanPieces (some c :: k)
      = (scanPieces k).map fun scanned => (.char c :: scanned.1, scanned.2) := by
  have hc' : ¬ c.toNat < 32 := by omega
  rw [scanPieces.eq_def]
  split
  · simp_all
  · simp_all
  · simp_all
  · simp_all
  · rename_i heq
    simp only [List.cons.injEq, Option.some.injEq] at heq
    obtain ⟨rfl, rfl⟩ := heq
    cases scanPieces k <;> simp [hback, hc']
  · simp_all

/-- A character is written with a short escape, by its number, or as it is. -/
theorem escapeChar_cases (c : Char) :
    (∃ e, e ≠ 'u' ∧ shortEscape? e = some c ∧ escapeChar c = ['\\', e])
      ∨ (c.toNat < 0x20 ∧ escapeChar c
          = ['\\', 'u', '0', '0', hexDigit (c.toNat / 16), hexDigit (c.toNat % 16)])
      ∨ (c ≠ '"' ∧ c ≠ '\\' ∧ 0x20 ≤ c.toNat ∧ escapeChar c = [c]) := by
  unfold escapeChar
  split_ifs with hquote hback hbackspace htab hline hform hreturn hcontrol
  · exact .inl ⟨'"', by decide, by rw [hquote]; rfl, rfl⟩
  · exact .inl ⟨'\\', by decide, by rw [hback]; rfl, rfl⟩
  · exact .inl ⟨'b', by decide, by rw [hbackspace]; rfl, rfl⟩
  · exact .inl ⟨'t', by decide, by rw [htab]; rfl, rfl⟩
  · exact .inl ⟨'n', by decide, by rw [hline]; rfl, rfl⟩
  · exact .inl ⟨'f', by decide, by rw [hform]; rfl, rfl⟩
  · exact .inl ⟨'r', by decide, by rw [hreturn]; rfl, rfl⟩
  · exact .inr (.inl ⟨hcontrol, rfl⟩)
  · exact .inr (.inr ⟨hquote, hback, Nat.le_of_not_lt hcontrol, rfl⟩)

/-- The piece that the written form of a character is read as. -/
def pieceOf (c : Char) : Piece :=
  if (escapeChar c).length = 6 then .unit c.toNat else .char c

theorem scanPieces_escapeChar (c : Char) (k : List Symbol) :
    scanPieces ((escapeChar c).map some ++ k)
      = (scanPieces k).map fun scanned => (pieceOf c :: scanned.1, scanned.2) := by
  unfold pieceOf
  rcases escapeChar_cases c with ⟨e, hu, he, hform⟩ | ⟨hc, hform⟩ | ⟨hquote, hback, hc, hform⟩
  · rw [hform]
    exact scanPieces_short hu he k
  · rw [hform]
    exact scanPieces_unit hc k
  · rw [hform]
    exact scanPieces_plain hquote hback hc k

theorem scanPieces_string (cs : List Char) (k : List Symbol) :
    scanPieces ((cs.flatMap escapeChar).map some ++ some '"' :: k) = some (cs.map pieceOf, k) := by
  induction cs with
  | nil => rw [List.flatMap_nil, List.map_nil, List.nil_append, scanPieces]; rfl
  | cons c cs ih =>
    rw [List.flatMap_cons, List.map_append, List.append_assoc, scanPieces_escapeChar, ih]
    rfl

theorem charsOfPieces?_unit {n : Nat} (hn : n < 0x20) (pieces : List Piece) :
    charsOfPieces? (.unit n :: pieces) = (charsOfPieces? pieces).map (Char.ofNat n :: ·) := by
  have hhigh : isHighSurrogate n = false := by simp [isHighSurrogate]; omega
  have hlow : isLowSurrogate n = false := by simp [isLowSurrogate]; omega
  rw [charsOfPieces?.eq_def]
  split <;> simp_all

theorem charsOfPieces?_pieceOf (cs : List Char) : charsOfPieces? (cs.map pieceOf) = some cs := by
  induction cs with
  | nil => rfl
  | cons c cs ih =>
    by_cases hlength : (escapeChar c).length = 6
    · -- Only a control character without a short escape is written with six characters.
      have hc : c.toNat < 0x20 := by
        rcases escapeChar_cases c with ⟨e, -, -, hform⟩ | ⟨hc, -⟩ | ⟨-, -, -, hform⟩
        · simp [hform] at hlength
        · exact hc
        · simp [hform] at hlength
      rw [List.map_cons, pieceOf, if_pos hlength, charsOfPieces?_unit hc, ih, Char.ofNat_toNat]
      rfl
    · rw [List.map_cons, pieceOf, if_neg hlength, charsOfPieces?, ih]
      rfl

/-! ## One token at a time -/

theorem tokens?_gap {c : Char} (h : isGap c) (k : List Symbol) :
    tokens? (some c :: k) = tokens? k := by
  rw [tokens?, if_pos h]

theorem tokens?_gaps {cs : List Char} (h : ∀ c ∈ cs, isGap c) (k : List Symbol) :
    tokens? (cs.map some ++ k) = tokens? k := by
  induction cs with
  | nil => rfl
  | cons c cs ih =>
    rw [List.map_cons, List.cons_append, tokens?_gap (h c (by simp)),
      ih fun x hx => h x (by simp [hx])]

theorem tokens?_of_scanToken {c : Char} {input k : List Symbol} {t : Token}
    (hc : isGap c = false) (h : scanToken c input = some (t, k)) :
    tokens? (some c :: input) = (tokens? k).map (t :: ·) := by
  rw [tokens?, if_neg (by simp [hc])]
  split <;> simp_all

theorem tokens?_mark {c : Char} {t : Token} (h : punctuation? c = some t) (k : List Symbol) :
    tokens? (some c :: k) = (tokens? k).map (t :: ·) := by
  refine tokens?_of_scanToken ?_ (by simp [scanToken, h])
  by_contra hgap
  simp only [Bool.not_eq_false, isGap, Bool.or_eq_true, decide_eq_true_eq] at hgap
  rcases hgap with ((rfl | rfl) | rfl) | rfl <;> cases h

theorem tokens?_string (s : String) (k : List Symbol) :
    tokens? ((stringChars s).map some ++ k) = (tokens? k).map (.text (some s) :: ·) := by
  have hscan : scanToken '"' (((s.toList.flatMap escapeChar).map some) ++ some '"' :: k)
      = some (.text (some s), k) := by
    simp [scanToken, punctuation?, scanPieces_string, textOfPieces?, charsOfPieces?_pieceOf,
      String.ofList_toList]
  simpa [stringChars] using tokens?_of_scanToken rfl hscan

theorem tokens?_number {n : Numeral} (hn : n.IsWritten) {k : List Symbol}
    (hk : StartsWithout goesOn k) :
    tokens? (n.chars.map some ++ k) = (tokens? k).map (.number n :: ·) := by
  obtain ⟨c, cs, hc, hgap, hscan⟩ := Numeral.scanToken_chars hn hk
  rw [hc, List.map_cons, List.cons_append]
  exact tokens?_of_scanToken hgap hscan

/-! ## Documents -/

mutual

/-- The tokens that a document is written with. -/
def tokens : Json → List Token
  | .null => [.null]
  | .bool b => [.bool b]
  | .number n => [.number n]
  | .text s => [.text (some s)]
  | .list [] => [.openList, .closeList]
  | .list (first :: rest) => .openList :: (first.tokens ++ (itemTokens rest ++ [.closeList]))
  | .object [] => [.openObject, .closeObject]
  | .object ((key, first) :: rest) =>
    .openObject :: .text (some key) :: .colon ::
      (first.tokens ++ (memberTokens rest ++ [.closeObject]))
  | .unreadable => [.null]

/-- The tokens of the items of a list behind the first. -/
def itemTokens : List Json → List Token
  | [] => []
  | item :: rest => .comma :: (item.tokens ++ itemTokens rest)

/-- The tokens of the members of an object behind the first. -/
def memberTokens : List (String × Json) → List Token
  | [] => []
  | (key, value) :: rest =>
    .comma :: .text (some key) :: .colon :: (value.tokens ++ memberTokens rest)

end

mutual

/-- Whether each part of a document has a written form: its numbers have literals and its strings
are texts. -/
def IsWritten : Json → Prop
  | .number n => n.IsWritten
  | .list items => AreWritten items
  | .object members => MembersAreWritten members
  | .unreadable => False
  | _ => True

def AreWritten : List Json → Prop
  | [] => True
  | item :: rest => item.IsWritten ∧ AreWritten rest

def MembersAreWritten : List (String × Json) → Prop
  | [] => True
  | (_, value) :: rest => value.IsWritten ∧ MembersAreWritten rest

end

theorem areWritten_iff {items : List Json} : AreWritten items ↔ ∀ j ∈ items, j.IsWritten := by
  induction items with
  | nil => simp [AreWritten]
  | cons item rest ih => simp [AreWritten, ih]

theorem membersAreWritten_iff {members : List (String × Json)} :
    MembersAreWritten members ↔ ∀ m ∈ members, m.2.IsWritten := by
  induction members with
  | nil => simp [MembersAreWritten]
  | cons m rest ih => simp [MembersAreWritten, ih]

theorem isGap_of_mem_lineBreak {style : Style} {level : Nat} :
    ∀ c ∈ style.lineBreak level, isGap c = true := by
  intro c hc
  cases style with
  | compact => simp [Style.lineBreak] at hc
  | indented =>
    simp only [Style.lineBreak, List.mem_cons, List.mem_replicate] at hc
    rcases hc with rfl | ⟨-, rfl⟩ <;> rfl

theorem goesOn_of_isGap {c : Char} (h : isGap c) : goesOn c = false := by
  simp only [isGap, Bool.or_eq_true, decide_eq_true_eq] at h
  rcases h with ((rfl | rfl) | rfl) | rfl <;> decide

/-- Behind a part stands a break and then a mark, neither of which goes on with a number. -/
theorem startsWithout_lineBreak {style : Style} {level : Nat} {c : Char} (hc : goesOn c = false)
    (k : List Symbol) :
    StartsWithout goesOn ((style.lineBreak level).map some ++ some c :: k) := by
  refine .append (fun c' hc' => ?_) (startsWithout_cons hc)
  exact goesOn_of_isGap (isGap_of_mem_lineBreak c' (List.mem_of_mem_head? hc'))

theorem startsWithout_itemChars (style : Style) (level : Nat) (items : List Json) {k : List Symbol}
    (hk : StartsWithout goesOn k) :
    StartsWithout goesOn ((itemChars style level items).map some ++ k) := by
  refine .append (fun c hc => ?_) hk
  cases items with
  | nil => simp [itemChars] at hc
  | cons item rest =>
    rw [itemChars, List.head?_cons, Option.some.injEq] at hc
    exact hc ▸ rfl

theorem startsWithout_memberChars (style : Style) (level : Nat) (members : List (String × Json))
    {k : List Symbol} (hk : StartsWithout goesOn k) :
    StartsWithout goesOn ((memberChars style level members).map some ++ k) := by
  refine .append (fun c hc => ?_) hk
  cases members with
  | nil => simp [memberChars] at hc
  | cons m rest =>
    rw [memberChars, List.head?_cons, Option.some.injEq] at hc
    exact hc ▸ rfl

theorem tokens?_colon (style : Style) (k : List Symbol) :
    tokens? (style.colon.map some ++ k) = (tokens? k).map (.colon :: ·) := by
  cases style with
  | compact => exact tokens?_mark rfl k
  | indented =>
    have hgap : tokens? (some ' ' :: k) = tokens? k := tokens?_gap rfl k
    exact (tokens?_mark rfl (some ' ' :: k)).trans (by rw [hgap])

mutual

/-- A written document is cut into its tokens, and what follows it into those that follow. -/
theorem tokens?_chars (style : Style) (level : Nat) (j : Json) (hj : j.IsWritten) (k : List Symbol)
    (hk : StartsWithout goesOn k) :
    tokens? ((chars style level j).map some ++ k) = (tokens? k).map (j.tokens ++ ·) := by
  match j with
  | .null => exact tokens?_of_scanToken (c := 'n') rfl rfl
  | .bool true => exact tokens?_of_scanToken (c := 't') rfl rfl
  | .bool false => exact tokens?_of_scanToken (c := 'f') rfl rfl
  -- The literal of a number is the one part that needs to know what follows.
  | .number n => exact tokens?_number hj hk
  | .text s => exact tokens?_string s k
  | .list [] =>
    simp only [chars, List.map_cons, List.map_nil, List.cons_append, List.nil_append]
    rw [tokens?_mark rfl, tokens?_mark rfl]
    simp [tokens, Function.comp_def]
  | .list (first :: rest) =>
    have hclose : StartsWithout goesOn ((style.lineBreak level).map some ++ some ']' :: k) :=
      startsWithout_lineBreak rfl k
    simp only [chars, List.map_cons, List.map_append, List.map_nil, List.cons_append,
      List.append_assoc, List.nil_append]
    rw [tokens?_mark rfl, tokens?_gaps isGap_of_mem_lineBreak,
      tokens?_chars style (level + 1) first hj.1 _ (startsWithout_itemChars _ _ _ hclose),
      tokens?_itemChars style (level + 1) rest hj.2 _ hclose,
      tokens?_gaps isGap_of_mem_lineBreak, tokens?_mark rfl]
    simp [tokens, Function.comp_def]
  | .object [] =>
    simp only [chars, List.map_cons, List.map_nil, List.cons_append, List.nil_append]
    rw [tokens?_mark rfl, tokens?_mark rfl]
    simp [tokens, Function.comp_def]
  | .object ((key, first) :: rest) =>
    have hclose : StartsWithout goesOn ((style.lineBreak level).map some ++ some '\x7d' :: k) :=
      startsWithout_lineBreak rfl k
    simp only [chars, List.map_cons, List.map_append, List.map_nil, List.cons_append,
      List.append_assoc, List.nil_append]
    rw [tokens?_mark rfl, tokens?_gaps isGap_of_mem_lineBreak, tokens?_string, tokens?_colon,
      tokens?_chars style (level + 1) first hj.1 _ (startsWithout_memberChars _ _ _ hclose),
      tokens?_memberChars style (level + 1) rest hj.2 _ hclose,
      tokens?_gaps isGap_of_mem_lineBreak, tokens?_mark rfl]
    simp [tokens, Function.comp_def]

theorem tokens?_itemChars (style : Style) (level : Nat) (items : List Json)
    (h : AreWritten items) (k : List Symbol) (hk : StartsWithout goesOn k) :
    tokens? ((itemChars style level items).map some ++ k)
      = (tokens? k).map (itemTokens items ++ ·) := by
  match items with
  | [] => simp [itemChars, itemTokens]
  | item :: rest =>
    simp only [itemChars, List.map_cons, List.map_append, List.cons_append, List.append_assoc]
    rw [tokens?_mark rfl, tokens?_gaps isGap_of_mem_lineBreak,
      tokens?_chars style level item h.1 _ (startsWithout_itemChars _ _ _ hk),
      tokens?_itemChars style level rest h.2 _ hk]
    simp [itemTokens, Function.comp_def]

theorem tokens?_memberChars (style : Style) (level : Nat) (members : List (String × Json))
    (h : MembersAreWritten members) (k : List Symbol) (hk : StartsWithout goesOn k) :
    tokens? ((memberChars style level members).map some ++ k)
      = (tokens? k).map (memberTokens members ++ ·) := by
  match members with
  | [] => simp [memberChars, memberTokens]
  | (key, value) :: rest =>
    simp only [memberChars, List.map_cons, List.map_append, List.cons_append, List.append_assoc]
    rw [tokens?_mark rfl, tokens?_gaps isGap_of_mem_lineBreak, tokens?_string, tokens?_colon,
      tokens?_chars style level value h.1 _ (startsWithout_memberChars _ _ _ hk),
      tokens?_memberChars style level rest h.2 _ hk]
    simp [memberTokens, Function.comp_def]

end

end MasterData.Json
