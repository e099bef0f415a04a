-- SUMMARY: Written documents are read back as the trees they were written from.
import MasterData.Json.Reader
import MasterData.Proofs.Json.Tokens

/-! # Reading a written document

The tokens of a document lead the reader from wanting a value to having that document, whatever is
still open around it. With the tokens of the written form this gives `parseText?_pretty`.
-/

namespace MasterData.Json

open Text (Symbol symbols)

/-- The reader's progress over some tokens. -/
def Progress.run (p : Progress) (ts : List Token) : Option Progress :=
  ts.foldlM Progress.step p

theorem Progress.run_cons (p : Progress) (t : Token) (ts : List Token) :
    p.run (t :: ts) = (p.step t).bind (·.run ts) := rfl

theorem Progress.run_append (p : Progress) (ts us : List Token) :
    p.run (ts ++ us) = (p.run ts).bind (·.run us) := by
  simp [run, List.foldlM_append]

/-- A member as the reader keeps it. -/
def named (m : String × Json) : Option String × Json := (some m.1, m.2)

theorem closeObject_named (members : List (String × Json)) :
    closeObject (members.map named) = .object members.reverse := by
  have h : ∀ ms : List (String × Json),
      (ms.map named).mapM (fun m : Option String × Json => m.1.map (·, m.2)) = some ms := by
    intro ms
    induction ms with
    | nil => rfl
    | cons m ms ih => simp [named, ih]
  rw [closeObject, ← List.map_reverse, h]

/-- The first token of a document starts a value and closes nothing. -/
theorem exists_tokens_eq_cons (j : Json) : ∃ t ts, j.tokens = t :: ts ∧ t ≠ .closeList := by
  match j with
  | .null | .bool _ | .number _ | .text _ | .unreadable => simp [tokens]
  | .list [] | .list (_ :: _) | .object [] | .object (_ :: _) => simp [tokens]

theorem run_valueOrClose (j : Json) (ts : List Token) (frames : List Frame) :
    Progress.run ⟨.valueOrClose, frames⟩ (j.tokens ++ ts)
      = Progress.run ⟨.value, .list [] :: frames⟩ (j.tokens ++ ts) := by
  -- Only a closing bracket makes a difference between the two, and no document starts with one.
  obtain ⟨t, us, hj, ht⟩ := exists_tokens_eq_cons j
  rw [hj, List.cons_append, Progress.run_cons, Progress.run_cons]
  congr 1
  cases t <;> simp_all [Progress.step]

mutual

/-- The tokens of a document complete it, inside any frames. -/
theorem run_tokens (j : Json) (hj : j.IsWritten) (frames : List Frame) :
    Progress.run ⟨.value, frames⟩ j.tokens = some ⟨.after j, frames⟩ := by
  match j with
  | .null | .bool _ | .number _ | .text _ => rfl
  | .list [] | .object [] => rfl
  | .list (first :: rest) =>
    rw [tokens, Progress.run_cons]
    simp only [Progress.step, startValue, Option.bind_some]
    rw [run_valueOrClose, Progress.run_append, run_tokens first hj.1]
    simpa using run_itemTokens rest hj.2 [] first frames
  | .object ((key, first) :: rest) =>
    rw [tokens]
    simp only [Progress.run_cons, Progress.step, startValue, Option.bind_some]
    rw [Progress.run_append, run_tokens first hj.1]
    simpa using run_memberTokens rest hj.2 [] key first frames

/-- The tokens of further items complete the list that the last finished item is in. -/
theorem run_itemTokens (items : List Json) (h : AreWritten items) (done : List Json) (j : Json)
    (frames : List Frame) :
    Progress.run ⟨.after j, .list done :: frames⟩ (itemTokens items ++ [.closeList])
      = some ⟨.after (.list ((j :: done).reverse ++ items)), frames⟩ := by
  match items with
  | [] =>
    rw [itemTokens, List.append_nil]
    rfl
  | item :: rest =>
    rw [itemTokens, List.cons_append, Progress.run_cons]
    simp only [Progress.step, continueFrame, Option.bind_some]
    rw [List.append_assoc, Progress.run_append, run_tokens item h.1]
    simpa using run_itemTokens rest h.2 (j :: done) item frames

/-- The tokens of further members complete the object that the last finished member is in. -/
theorem run_memberTokens (members : List (String × Json)) (h : MembersAreWritten members)
    (done : List (String × Json)) (key : String) (j : Json) (frames : List Frame) :
    Progress.run ⟨.after j, .object (done.map named) (some key) :: frames⟩
        (memberTokens members ++ [.closeObject])
      = some ⟨.after (.object (((key, j) :: done).reverse ++ members)), frames⟩ := by
  match members with
  | [] =>
    rw [memberTokens, List.append_nil, ← closeObject_named]
    rfl
  | (key', value) :: rest =>
    rw [memberTokens]
    simp only [List.cons_append, Progress.run_cons, Progress.step, continueFrame, Option.bind_some]
    rw [List.append_assoc, Progress.run_append, run_tokens value h.1]
    simpa [named] using run_memberTokens rest h.2 ((key, j) :: done) key' value frames

end

/-- A written document is read back, also with blanks behind it. -/
theorem parse?_chars {style : Style} {j : Json} (hj : j.IsWritten) {blanks : List Char}
    (hblanks : ∀ c ∈ blanks, isGap c) :
    parse? ((chars style 0 j ++ blanks).map some) = some j := by
  have hend : StartsWithout goesOn (blanks.map some) := by
    have h : StartsWithout goesOn (blanks.map some ++ []) :=
      .append (fun c hc => goesOn_of_isGap (hblanks c (List.mem_of_mem_head? hc)))
        fun c hc => by cases hc
    simpa using h
  have hrest : tokens? (blanks.map some) = some [] := by
    have h := tokens?_gaps hblanks []
    rw [List.append_nil] at h
    rw [h, tokens?]
  have htokens : tokens? ((chars style 0 j ++ blanks).map some) = some j.tokens := by
    rw [List.map_append, tokens?_chars style 0 j hj _ hend, hrest]
    simp
  have hrun : j.tokens.foldlM Progress.step ⟨.value, []⟩ = some ⟨.after j, []⟩ :=
    run_tokens j hj []
  simp only [parse?, ofTokens?, htokens, hrun, Option.bind_eq_bind, Option.bind_some,
    Progress.finish?]

/-- The indented text of a document is read back. -/
theorem parseText?_pretty {j : Json} (hj : j.IsWritten) : parseText? j.pretty = some j := by
  have h : parse? ((chars .indented 0 j ++ []).map some) = some j := parse?_chars hj (by simp)
  rw [List.append_nil] at h
  rw [parseText?, symbols, pretty, String.toList_ofList, h]

/-- A line end behind the text changes nothing. -/
theorem parseText?_pretty_line {j : Json} (hj : j.IsWritten) :
    parseText? (j.pretty ++ "\n") = some j := by
  have h : parse? ((chars .indented 0 j ++ ['\n']).map some) = some j :=
    parse?_chars hj (by simp [isGap])
  rw [parseText?, symbols, pretty, String.toList_append, String.toList_ofList]
  exact h

end MasterData.Json
