import SqlWeave.Proofs.Statement.Body
import SqlWeave.Proofs.Statement.WithBlock

/-!
# Where a statement begins and ends

The comment, the WITH block and the statement itself stand in a row, and blanks are trimmed from the ends of the
whole. Each of the three begins with a character that is no blank, so what is trimmed is the end of the last one.
-/

namespace SqlWeave

/-! ## Trimming -/

namespace Text

/-- The text begins with a character that is no blank. -/
def BeginsFirm (s : String) : Prop := ∃ c ∈ s.toList.head?, isBlank c = false

/-- The text ends with a character that is no blank. -/
def EndsFirm (s : String) : Prop := ∃ c ∈ s.toList.getLast?, isBlank c = false

instance (s : String) : Decidable (BeginsFirm s) :=
  decidable_of_iff (s.toList.head?.any fun c => !isBlank c) (by simp [BeginsFirm, Option.any_eq_true])

instance (s : String) : Decidable (EndsFirm s) :=
  decidable_of_iff (s.toList.getLast?.any fun c => !isBlank c) (by simp [EndsFirm, Option.any_eq_true])

variable {a b : String}

theorem BeginsFirm.append (h : BeginsFirm a) (b : String) : BeginsFirm (a ++ b) := by
  obtain ⟨c, hc, hblank⟩ := h
  refine ⟨c, ?_, hblank⟩
  rw [String.toList_append, List.head?_append, Option.mem_def.mp hc]
  rfl

theorem EndsFirm.append (a : String) (h : EndsFirm b) : EndsFirm (a ++ b) := by
  obtain ⟨c, hc, hblank⟩ := h
  refine ⟨c, ?_, hblank⟩
  rw [String.toList_append, List.getLast?_append, Option.mem_def.mp hc]
  rfl

theorem toList_of_beginsFirm (h : BeginsFirm a) : ∃ c rest, a.toList = c :: rest ∧ isBlank c = false := by
  obtain ⟨c, hc, hblank⟩ := h
  obtain ⟨rest, hrest⟩ := List.head?_eq_some_iff.mp hc
  exact ⟨c, rest, hrest, hblank⟩

/-- Of a text that begins with no blank only the end is trimmed. -/
theorem toList_trim_of_beginsFirm (h : BeginsFirm a) :
    (trim a).toList = (a.toList.reverse.dropWhile isBlank).reverse := by
  obtain ⟨c, rest, ha, hc⟩ := toList_of_beginsFirm h
  rw [trim, String.toList_ofList, trimChars, trimBy, ha, List.dropWhile_cons_of_neg (by simp [hc])]

/-- What stands before a text that begins with no blank is not trimmed at its end. -/
theorem trim_append_of_begins (ha : BeginsFirm a) (hb : BeginsFirm b) : trim (a ++ b) = a ++ trim b := by
  obtain ⟨c, rest, hrest, hc⟩ := toList_of_beginsFirm hb
  have hleft : (b.toList.reverse.dropWhile isBlank).isEmpty = false := by
    rw [hrest, List.reverse_cons, List.dropWhile_append]
    split
    · rw [List.dropWhile_cons_of_neg (by simp [hc])]
      rfl
    · simp
  rw [← String.toList_inj, String.toList_append, toList_trim_of_beginsFirm (ha.append b),
    toList_trim_of_beginsFirm hb, String.toList_append, List.reverse_append, List.dropWhile_append, hleft]
  simp

/-- A text between characters that are no blanks stays as it is. -/
theorem trim_eq_self (ha : BeginsFirm a) (hb : EndsFirm a) : trim a = a := by
  obtain ⟨c, hc, hblank⟩ := hb
  obtain ⟨init, hinit⟩ := List.getLast?_eq_some_iff.mp hc
  rw [← String.toList_inj, toList_trim_of_beginsFirm ha, hinit, List.reverse_append, List.reverse_singleton,
    List.singleton_append, List.dropWhile_cons_of_neg (by simp [hblank])]
  simp

end Text

open Text (BeginsFirm EndsFirm)

variable {cat : Catalog}

/-! ## The parts of a statement -/

theorem Draft.beginsFirm_insertLead (style : Option IgnoreStyle) : BeginsFirm (Draft.insertLead style) := by
  rcases style with _ | _ | _ | _ <;> decide

/-- Every kind of statement begins with its keyword. -/
theorem Draft.beginsFirm_statementText {d : Draft} {kind : StatementKind} {text : String}
    (h : d.statementText cat kind = .ok text) : BeginsFirm text := by
  cases kind with
  | select =>
    obtain ⟨selected, source, hidden, -, -, -, rfl⟩ := Draft.selectText_eq_ok.mp h
    simp only [Draft.selectAround, String.append_assoc]
    exact BeginsFirm.append (by decide) _
  | delete =>
    obtain ⟨table, output, returning, -, -, -, rfl⟩ := Draft.deleteText_eq_ok.mp h
    simp only [Draft.deleteAround, String.append_assoc]
    exact BeginsFirm.append (by decide) _
  | update =>
    obtain ⟨items, assigned, table, output, returning, -, -, -, -, -, rfl⟩ := Draft.updateText_eq_ok.mp h
    simp only [Draft.updateAround, String.append_assoc]
    exact BeginsFirm.append (by decide) _
  | insert =>
    obtain ⟨table, columnText, valueText, output, returning, -, -, -, -, rfl⟩ := Draft.insertText_eq_ok.mp h
    simp only [Draft.insertAround, String.append_assoc]
    exact (Draft.beginsFirm_insertLead _).append _

/-- A WITH block begins with its keyword, when there is one. -/
theorem Cte.beginsFirm_block_append (ctes : List (Cte Statement)) (entries : List String) {text : String}
    (h : BeginsFirm text) : BeginsFirm (Cte.block cat.dialect ctes entries ++ text) := by
  unfold Cte.block
  split
  · rwa [String.empty_append]
  · simp only [String.append_assoc]
    exact BeginsFirm.append (by decide) _

/-- A comment begins with its mark, when there is one. -/
theorem Draft.beginsFirm_commentText_append {d : Draft} {comment text : String} (hcomment : d.commentText = .ok comment)
    (h : BeginsFirm text) : BeginsFirm (comment ++ text) := by
  unfold Draft.commentText at hcomment
  split at hcomment
  · cases hcomment
    rwa [String.empty_append]
  · obtain ⟨c, -, rfl⟩ := Result.map_eq_ok.mp hcomment
    simp only [String.append_assoc]
    exact BeginsFirm.append (by decide) _

namespace Statement

/-- A statement is its comment, its WITH block and its own text, trimmed. -/
theorem query_of (b : Builder Statement) : query cat (.of b) = (do
    let comment ← b.draft.commentText
    let entries ← entryTexts cat b.ctes
    let own ← b.draft.statementText cat b.kind
    .ok (Text.trim (comment ++ Cte.block cat.dialect b.ctes entries ++ own))) := by
  obtain ⟨kind, draft, ctes⟩ := b
  rw [query]

end Statement

end SqlWeave
