-- SUMMARY: The lines of a text.

/-! # Lines

A line ends at a line feed, which may follow a carriage return; both belong to the ending. The end
of the text also ends a line unless nothing stands there. Main statement: no line holds a line feed.
-/

namespace MasterData.Text

/-- The pieces between line feeds; there is always at least one. -/
def splitLineFeeds : List Char → List (List Char)
  | [] => [[]]
  | c :: cs =>
    if c = '\n' then [] :: splitLineFeeds cs
    else
      match splitLineFeeds cs with
      | [] => [[c]]
      | piece :: rest => (c :: piece) :: rest

theorem splitLineFeeds_ne_nil (cs : List Char) : splitLineFeeds cs ≠ [] := by
  cases cs with
  | nil => simp [splitLineFeeds]
  | cons c cs =>
    simp only [splitLineFeeds]
    split
    · simp
    · split <;> simp

theorem lineFeed_not_mem_of_mem_splitLineFeeds {cs line : List Char}
    (h : line ∈ splitLineFeeds cs) : '\n' ∉ line := by
  induction cs generalizing line with
  | nil => simp_all [splitLineFeeds]
  | cons c cs ih =>
    simp only [splitLineFeeds] at h
    split at h
    · rcases List.mem_cons.1 h with rfl | h
      · simp
      · exact ih h
    · rename_i hc
      split at h
      · next hn => exact absurd hn (splitLineFeeds_ne_nil cs)
      · next piece rest hs =>
        rcases List.mem_cons.1 h with rfl | h
        · have : '\n' ∉ piece := ih (by simp [hs])
          simp only [List.mem_cons, not_or]
          exact ⟨fun e => hc e.symm, this⟩
        · exact ih (by simp [hs, h])

/-- A piece that a line feed ended, without the carriage return before it. -/
def dropCarriageReturn (piece : List Char) : List Char :=
  if piece.getLast? = some '\r' then piece.dropLast else piece

/-- The lines of a list of pieces: the last piece had no line feed, and is no line if empty. -/
def linesOfPieces : List (List Char) → List (List Char)
  | [] => []
  | [last] => if last = [] then [] else [last]
  | piece :: rest => dropCarriageReturn piece :: linesOfPieces rest

/-- The lines of a text. -/
def lines (s : String) : List String :=
  (linesOfPieces (splitLineFeeds s.toList)).map String.ofList

end MasterData.Text
