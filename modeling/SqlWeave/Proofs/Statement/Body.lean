import SqlWeave.Proofs.Result
import SqlWeave.Statement.Lowering

/-!
# The parts of a statement

A statement is put together of parts, each of which may fail: its table, what it selects, sets or inserts, and what
it hands back. It can be written exactly when all of its parts can, and then it is the parts with the words between
them.
-/

namespace SqlWeave.Draft

variable {cat : Catalog} {d : Draft} {sql : String}

/-- A SELECT of a source, around its conditions. -/
def selectAround (cat : Catalog) (d : Draft) (selected source : String) (hidden : Option String) : String :=
  "SELECT " ++ selected ++ source ++ d.whereText hidden ++ d.orderText ++
    cat.dialect.paging d.limit d.offset (!d.orderBys.isEmpty)

theorem selectText_eq_ok : d.selectText cat = .ok sql ↔ ∃ selected source hidden,
    d.selectedText cat.dialect = .ok selected ∧ d.fromText cat = .ok source ∧ d.softDelete cat.dialect = .ok hidden ∧
      sql = d.selectAround cat selected source hidden := by
  constructor
  · intro h
    obtain ⟨selected, hselected, h⟩ := Result.bind_eq_ok.mp h
    obtain ⟨source, hsource, h⟩ := Result.bind_eq_ok.mp h
    obtain ⟨hidden, hhidden, h⟩ := Result.bind_eq_ok.mp h
    exact ⟨selected, source, hidden, hselected, hsource, hhidden, (Result.pure_eq_ok.mp h).symm⟩
  · rintro ⟨selected, source, hidden, hselected, hsource, hhidden, rfl⟩
    exact Result.bind_eq_ok.mpr ⟨selected, hselected, Result.bind_eq_ok.mpr ⟨source, hsource,
      Result.bind_eq_ok.mpr ⟨hidden, hhidden, rfl⟩⟩⟩

/-- A DELETE around its conditions. -/
def deleteAround (d : Draft) (table output returning : String) : String :=
  "DELETE FROM " ++ table ++ output ++ d.whereText none ++ returning

theorem deleteAround_bare (d : Draft) (table : String) :
    d.deleteAround table "" "" = "DELETE FROM " ++ table ++ d.whereText none := by
  show "DELETE FROM " ++ table ++ "" ++ d.whereText none ++ "" = _
  rw [String.append_empty, String.append_empty]

theorem deleteText_eq_ok : d.deleteText cat = .ok sql ↔ ∃ table output returning,
    d.quotedTable cat = .ok table ∧ d.returningClause cat .delete .output = .ok output ∧
      d.returningClause cat .delete .returning = .ok returning ∧ sql = d.deleteAround table output returning := by
  constructor
  · intro h
    obtain ⟨table, htable, h⟩ := Result.bind_eq_ok.mp h
    obtain ⟨output, houtput, h⟩ := Result.bind_eq_ok.mp h
    obtain ⟨returning, hreturning, h⟩ := Result.bind_eq_ok.mp h
    exact ⟨table, output, returning, htable, houtput, hreturning, (Result.pure_eq_ok.mp h).symm⟩
  · rintro ⟨table, output, returning, htable, houtput, hreturning, rfl⟩
    exact Result.bind_eq_ok.mpr ⟨table, htable, Result.bind_eq_ok.mpr ⟨output, houtput,
      Result.bind_eq_ok.mpr ⟨returning, hreturning, rfl⟩⟩⟩

/-- An UPDATE around its assignments. -/
def updateAround (d : Draft) (table output returning assigned : String) : String :=
  "UPDATE " ++ table ++ " SET " ++ assigned ++ output ++ d.whereText none ++ returning

theorem updateAround_bare (d : Draft) (table assigned : String) :
    d.updateAround table "" "" assigned = "UPDATE " ++ table ++ " SET " ++ assigned ++ d.whereText none := by
  show "UPDATE " ++ table ++ " SET " ++ assigned ++ "" ++ d.whereText none ++ "" = _
  rw [String.append_empty, String.append_empty]

/-- Without assignments there is no UPDATE. -/
theorem updateText_eq_ok : d.updateText cat = .ok sql ↔ ∃ items assigned table output returning,
    (Update.assignments cat.dialect d = .ok items ∧ items ≠ []) ∧ Update.render cat.dialect 0 items = .ok assigned ∧
      d.quotedTable cat = .ok table ∧ d.returningClause cat .update .output = .ok output ∧
      d.returningClause cat .update .returning = .ok returning ∧
      sql = d.updateAround table output returning (String.intercalate ", " assigned) := by
  constructor
  · intro h
    obtain ⟨items, hitems, h⟩ := Result.bind_eq_ok.mp h
    dsimp only at h
    split at h
    · cases h
    · next hempty =>
      obtain ⟨assigned, hassigned, h⟩ := Result.bind_eq_ok.mp h
      obtain ⟨table, htable, h⟩ := Result.bind_eq_ok.mp h
      obtain ⟨output, houtput, h⟩ := Result.bind_eq_ok.mp h
      obtain ⟨returning, hreturning, h⟩ := Result.bind_eq_ok.mp h
      have hne : items ≠ [] := fun hnil => hempty (by rw [hnil]; rfl)
      exact ⟨items, assigned, table, output, returning, ⟨hitems, hne⟩, hassigned, htable, houtput, hreturning,
        (Result.pure_eq_ok.mp h).symm⟩
  · rintro ⟨items, assigned, table, output, returning, ⟨hitems, hne⟩, hassigned, htable, houtput, hreturning, rfl⟩
    obtain ⟨item, rest, rfl⟩ := List.exists_cons_of_ne_nil hne
    exact Result.bind_eq_ok.mpr ⟨_, hitems, Result.bind_eq_ok.mpr ⟨assigned, hassigned,
      Result.bind_eq_ok.mpr ⟨table, htable, Result.bind_eq_ok.mpr ⟨output, houtput,
        Result.bind_eq_ok.mpr ⟨returning, hreturning, rfl⟩⟩⟩⟩⟩

/-- An INSERT around its column list and its rows. -/
def insertAround (cat : Catalog) (d : Draft) (table output returning columnText valueText : String) : String :=
  let ignore := if d.onIgnore.truth then cat.dialect.capabilities.insertIgnore else none
  insertLead ignore ++ " " ++ table ++ columnText ++ output ++ " " ++ valueText ++
    (if ignore = some .onConflict then " ON CONFLICT DO NOTHING" else "") ++ returning

theorem insertText_eq_ok : d.insertText cat = .ok sql ↔
    ∃ table columnText valueText output returning, d.quotedTable cat = .ok table ∧
      d.insertedText cat = .ok (columnText, valueText) ∧ d.returningClause cat .insert .output = .ok output ∧
      d.returningClause cat .insert .returning = .ok returning ∧
      sql = d.insertAround cat table output returning columnText valueText := by
  constructor
  · intro h
    obtain ⟨table, htable, h⟩ := Result.bind_eq_ok.mp h
    obtain ⟨⟨columnText, valueText⟩, hinserted, h⟩ := Result.bind_eq_ok.mp h
    obtain ⟨output, houtput, h⟩ := Result.bind_eq_ok.mp h
    obtain ⟨returning, hreturning, h⟩ := Result.bind_eq_ok.mp h
    exact ⟨table, columnText, valueText, output, returning, htable, hinserted, houtput, hreturning,
      (Result.pure_eq_ok.mp h).symm⟩
  · rintro ⟨table, columnText, valueText, output, returning, htable, hinserted, houtput, hreturning, rfl⟩
    exact Result.bind_eq_ok.mpr ⟨table, htable, Result.bind_eq_ok.mpr ⟨_, hinserted,
      Result.bind_eq_ok.mpr ⟨output, houtput, Result.bind_eq_ok.mpr ⟨returning, hreturning, rfl⟩⟩⟩⟩

end SqlWeave.Draft
