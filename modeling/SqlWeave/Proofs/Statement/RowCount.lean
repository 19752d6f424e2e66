import SqlWeave.Proofs.Condition.Comparison
import SqlWeave.Proofs.Statement.ValueGrid

/-!
# How many rows an INSERT inserts

What an INSERT puts into a table is read off its text: a row for each tuple behind VALUES, or one row of defaults.
Main result: an INSERT that names columns inserts a row for each row that it was given. One that names none writes
the words for a single row of defaults, however many rows it was given; so rows are lost exactly when there are
several and none of them gives a column.
-/

namespace SqlWeave

/-! ## Reading tuples -/

namespace Reading

variable {d : Dialect} {a b : String} {xs ys : List Item}

/-- The number of tuples: texts in parentheses, with commas between them. -/
def tupleCount : List Item → Option Nat
  | [.nest ..] => some 1
  | .nest .. :: .leaf (.sign ',') :: rest => (tupleCount rest).map (· + 1)
  | _ => none

/-- The number of rows that an INSERT puts into its table, by what stands behind its columns. -/
def insertedRows (d : Dialect) (sql : String) : Option Nat :=
  (pieces d sql).bind fun items => match items with
    | .leaf t :: rest =>
      if t.isWord "VALUES" then tupleCount rest
      else if t.isWord "DEFAULT" && rest.map (Item.isWord "VALUES") = [true] then some 1
      else none
    | _ => none

/-- The words for a row of defaults insert one row, in each dialect. -/
theorem insertedRows_emptyInsertExpression (d : Dialect) :
    insertedRows d d.capabilities.emptyInsertExpression = some 1 := by
  cases d <;> rfl

/-- A comma finishes every token that can be finished. -/
theorem tokensFrom_concat_comma {m : Mode} {cs : List Char} {ts : List Token} (h : tokensFrom d m cs = some ts) :
    tokensFrom d m (cs ++ [',']) = some (ts ++ [.sign ',']) := by
  induction cs generalizing m ts with
  | nil =>
    rw [tokensFrom_nil] at h
    have hnext : m.next d ',' = some (ts, .sign ',') := by
      cases m with
      | between =>
        cases h
        cases d <;> rfl
      | word cs =>
        cases h
        cases d <;> rfl
      | sign c =>
        cases h
        have hcomment : beginsComment c ',' = false := by simp [beginsComment]
        rw [Mode.next, hcomment]
        cases d <;> rfl
      | quoted q cs => cases h
      | escaped q cs => cases h
    rw [List.nil_append, tokensFrom_cons hnext, tokensFrom_nil]
    rfl
  | cons c cs ih =>
    obtain ⟨finished, m', more, hnext, hmore, rfl⟩ := tokensFrom_cons_eq_some h
    rw [List.cons_append, tokensFrom_cons hnext, ih hmore, Option.map_some, List.append_assoc]

theorem pieces_append_comma (ha : pieces d a = some xs) (hb : pieces d b = some ys) :
    pieces d (a ++ ", " ++ b) = some (xs ++ .leaf (.sign ',') :: ys) := by
  have hcomma : pieces d (a ++ ",") = some (xs ++ [.leaf (.sign ',')]) := by
    obtain ⟨ts, hts, hxs⟩ := pieces_eq_some.mp ha
    have htokens : tokens d (a ++ ",").toList = some (ts ++ [.sign ',']) := by
      rw [String.toList_append]
      exact tokensFrom_concat_comma hts
    exact pieces_eq_some.mpr ⟨_, htokens, items_append hxs (items_leaf nofun nofun rfl)⟩
  have htext : a ++ ", " ++ b = a ++ "," ++ " " ++ b := by simp [← String.toList_inj]
  rw [htext, pieces_append_blank hcomma hb, List.append_assoc]
  rfl

/-- Texts that can be read can be read with commas between them. -/
theorem exists_pieces_intercalate {texts : List String} (h : ∀ t ∈ texts, (pieces d t).isSome) :
    ∃ xs, pieces d (String.intercalate ", " texts) = some xs := by
  induction texts with
  | nil => exact ⟨[], pieces_empty⟩
  | cons text texts ih =>
    obtain ⟨htext, hrest⟩ := List.forall_mem_cons.mp h
    obtain ⟨xs, hxs⟩ := Option.isSome_iff_exists.mp htext
    obtain ⟨ys, hys⟩ := ih hrest
    cases texts with
    | nil => exact ⟨xs, by rwa [String.intercalate_singleton]⟩
    | cons next more => exact ⟨_, by rw [String.intercalate_cons_cons]; exact pieces_append_comma hxs hys⟩

theorem pieces_tupleText {cells : List String} (h : ∀ t ∈ cells, (pieces d t).isSome) :
    ∃ ts said, pieces d (Insert.tupleText cells) = some [.nest ts said] := by
  obtain ⟨xs, hxs⟩ := exists_pieces_intercalate h
  obtain ⟨whole, hwhole⟩ := pieces_parentheses hxs
  exact ⟨whole, expression xs, hwhole⟩

/-- As many tuples are read as were written. -/
theorem tupleCount_of_grid {cells : List String} {grid : List (List String)}
    (h : ∀ cells' ∈ cells :: grid, ∀ t ∈ cells', (pieces d t).isSome) :
    ∃ xs, pieces d (String.intercalate ", " ((cells :: grid).map Insert.tupleText)) = some xs ∧
      tupleCount xs = some (cells :: grid).length := by
  induction grid generalizing cells with
  | nil =>
    obtain ⟨ts, said, hone⟩ := pieces_tupleText (h cells List.mem_cons_self)
    exact ⟨_, by rwa [List.map_singleton, String.intercalate_singleton], rfl⟩
  | cons next grid ih =>
    obtain ⟨hfirst, hrest⟩ := List.forall_mem_cons.mp h
    obtain ⟨ts, said, hone⟩ := pieces_tupleText hfirst
    obtain ⟨ys, hys, hcount⟩ := ih hrest
    refine ⟨[.nest ts said] ++ .leaf (.sign ',') :: ys, ?_, ?_⟩
    · rw [List.map_cons, List.map_cons, String.intercalate_cons_cons]
      exact pieces_append_comma hone hys
    · rw [List.singleton_append, tupleCount, hcount]
      rfl

theorem insertedRows_of_grid {grid : List (List String)} (hne : grid ≠ [])
    (h : ∀ cells ∈ grid, ∀ t ∈ cells, (pieces d t).isSome) :
    insertedRows d ("VALUES " ++ String.intercalate ", " (grid.map Insert.tupleText)) = some grid.length := by
  obtain ⟨cells, rest, rfl⟩ := List.exists_cons_of_ne_nil hne
  obtain ⟨xs, hxs, hcount⟩ := tupleCount_of_grid h
  have hvalues : pieces d "VALUES" = some [.leaf (.word "VALUES".toList)] := by cases d <;> rfl
  have hpieces := pieces_append_blank hvalues hxs
  have htext : "VALUES" ++ " " = "VALUES " := by decide
  rw [htext] at hpieces
  rw [insertedRows, hpieces, Option.bind_some]
  exact hcount

theorem isWordChar_cellName (i j : Nat) : ∀ c ∈ (Insert.cellName i j).toList, isWordChar c := by
  have hdigits (n : Nat) : ∀ c ∈ (toString n).toList, isWordChar c :=
    fun _ hc => isWordChar_of_isDigit (isDigit_of_mem_toString hc)
  simp only [Insert.cellName, String.toList_append, List.forall_mem_append]
  exact ⟨⟨⟨List.all_eq_true.mp rfl, hdigits i⟩, List.all_eq_true.mp rfl⟩, hdigits j⟩

/-- A cell can be read when the SQL that a function supplies for it can be. -/
theorem isSome_pieces_cell {i j : Nat} {row : Value} {c : InsertColumn} {text : String}
    (h : Insert.IsCell d i j row c text)
    (hsupplied : ∀ sql, Insert.held row c.key = .ok (some (.fragment sql)) → (pieces d sql).isSome) :
    (pieces d text).isSome := by
  cases h with
  | bound => rw [pieces_parameter (isWordChar_cellName i j)]; rfl
  | null => cases d <;> rfl
  | supplied hheld => exact hsupplied text hheld
  | missing =>
    have hwords : ∀ word ∈ Insert.fallbacks, (pieces d word).isSome := List.all_eq_true.mp (by cases d <;> rfl)
    exact hwords _ (Insert.fallback_mem d c)

end Reading

/-! ## Columns that are not there -/

namespace Insert

variable {cat : Catalog} {d : Draft} {rows : List Record} {cols : List InsertColumn}

/-- Without an entity there is no column when none was asked for and every row is empty. -/
theorem columns_eq_nil_without_entity (hentity : d.entity = .ok none)
    (hcols : columns d (rows.map .record) = .ok cols) :
    cols = [] ↔ d.insertColumns.getD [] = [] ∧ ∀ row ∈ rows, row = [] := by
  rw [columns_without_entity hentity] at hcols
  cases hcols
  rw [List.map_eq_nil_iff]
  split
  · next hrequested =>
    have hunion : (rows.flatMap Assoc.keys).eraseDups = [] ↔ ∀ row ∈ rows, row = [] := by
      simp only [List.eq_nil_iff_forall_not_mem (l := List.eraseDups _), List.mem_eraseDups]
      rw [← List.eq_nil_iff_forall_not_mem, List.flatMap_eq_nil_iff]
      exact forall₂_congr fun row _ => List.map_eq_nil_iff
    rw [List.map_eq_nil_iff, hunion, List.isEmpty_iff.mp hrequested]
    simp
  · next hrequested =>
    have hsome : d.insertColumns.getD [] ≠ [] := fun h => hrequested (by rw [h]; rfl)
    simp [hsome]

/-- With an entity there is no column when none of its columns is written. -/
theorem columns_eq_nil_of_entity {e : Entity} (hentity : d.entity = .ok (some e))
    (hcols : columns d (rows.map .record) = .ok cols) :
    cols = [] ↔ ∀ c ∈ e.columns, writesColumn rows (d.insertColumns.getD []) c = false := by
  rw [columns_of_entity hentity] at hcols
  cases hcols
  rw [List.map_eq_nil_iff, List.filter_eq_nil_iff]
  exact forall₂_congr fun c _ => iff_of_eq (Bool.not_eq_true _)

/-- The SQL that functions supply for a row can be read by itself. -/
def IsReadable (dialect : Dialect) (row : Record) : Prop :=
  ∀ p ∈ row, ∀ sql, p.2 = .fragment sql → (Reading.pieces dialect sql).isSome

/-- The rows of a grid are read as they were written. -/
theorem insertedRows_of_isGrid {dialect : Dialect} {grid : List (List String)} (hne : rows ≠ [])
    (hgrid : IsGrid dialect cols (rows.map .record) grid) (hreadable : ∀ row ∈ rows, IsReadable dialect row) :
    Reading.insertedRows dialect ("VALUES " ++ String.intercalate ", " (grid.map tupleText)) = some rows.length := by
  have hlength : grid.length = rows.length := hgrid.length_eq.trans (List.length_map _)
  rw [← hlength]
  refine Reading.insertedRows_of_grid ?_ (hgrid.forall_cells fun {i j row c text} hrow hc hcell => ?_)
  · rintro rfl
    exact hne (List.length_eq_zero_iff.mp hlength.symm)
  · obtain ⟨r, hr, rfl⟩ := List.mem_map.mp hrow
    refine Reading.isSome_pieces_cell hcell fun sql hheld => ?_
    obtain ⟨p, hp, hvalue⟩ := exists_of_held hheld
    exact hreadable r hr p hp sql hvalue

/-- How many rows an INSERT inserts: all that it was given when it has columns, and one when it has none. -/
theorem rows_inserted {b : Builder Statement} (hkind : b.kind = .insert)
    (hrows : b.draft.valueSets = .ok (rows.map .record)) (hne : rows ≠ [])
    (hcols : columns b.draft (rows.map .record) = .ok cols) :
    (cols = [] → b.draft.insertedText cat = .ok ("", cat.dialect.capabilities.emptyInsertExpression)) ∧
    (∀ sql, Statement.query cat (.of b) = .ok sql → ∃ before table output returning columnText valueText,
      b.draft.quotedTable cat = .ok table ∧ b.draft.returningClause cat .insert .output = .ok output ∧
      b.draft.returningClause cat .insert .returning = .ok returning ∧
      sql = Text.trim (before ++ b.draft.insertAround cat table output returning columnText valueText) ∧
      (cols ≠ [] → ∃ grid, IsGrid cat.dialect cols (rows.map .record) grid ∧ grid.length = rows.length ∧
        valueText = "VALUES " ++ String.intercalate ", " (grid.map tupleText)) ∧
      (cols = [] → valueText = cat.dialect.capabilities.emptyInsertExpression) ∧
      ((∀ row ∈ rows, IsReadable cat.dialect row) →
        Reading.insertedRows cat.dialect valueText = some (if cols = [] then 1 else rows.length) ∧
        (Reading.insertedRows cat.dialect valueText = some rows.length ↔ cols ≠ [] ∨ rows.length = 1))) ∧
    (b.draft.entity = .ok none → (cols = [] ↔ b.draft.insertColumns.getD [] = [] ∧ ∀ row ∈ rows, row = [])) ∧
    (∀ e, b.draft.entity = .ok (some e) →
      (cols = [] ↔ ∀ c ∈ e.columns, writesColumn rows (b.draft.insertColumns.getD []) c = false)) := by
  have hempty (hnone : cols = []) :
      b.draft.insertedText cat = .ok ("", cat.dialect.capabilities.emptyInsertExpression) :=
    Draft.insertedText_without_columns hrows (hnone ▸ hcols)
  refine ⟨hempty, fun sql hsql => ?_, fun h => columns_eq_nil_without_entity h hcols,
    fun e h => columns_eq_nil_of_entity h hcols⟩
  obtain ⟨before, table, output, returning, columnText, valueText, htable, hinserted, houtput, hreturning, rfl⟩ :=
    Draft.query_of_insert hkind hsql
  refine ⟨before, table, output, returning, columnText, valueText, htable, houtput, hreturning, rfl, ?_⟩
  by_cases hnone : cols = []
  · cases (hempty hnone).symm.trans hinserted
    refine ⟨absurd hnone, fun _ => rfl, fun _ => ?_⟩
    rw [Reading.insertedRows_emptyInsertExpression]
    simp [hnone, eq_comm]
  · obtain ⟨names, grid, -, hgrid, htexts⟩ :=
      (Draft.insertedText_of_columns hrows (by simpa using hne) hcols hnone).mp hinserted
    cases htexts
    refine ⟨fun _ => ⟨grid, hgrid, hgrid.length_eq.trans (List.length_map _), rfl⟩, (absurd · hnone), fun h => ?_⟩
    rw [insertedRows_of_isGrid hne hgrid h]
    simp [hnone]

/-- An INSERT of two rows that give nothing. -/
def blankPair : Builder Statement := ({} : Builder Statement).reached { dialect := .mysql }
  [.toInsert, .into (.text "audit") .null, .values (.list [.record [], .record []])]

set_option maxRecDepth 4000 in
/-- Two rows are given and one is inserted. -/
theorem rows_inserted_blank_pair : blankPair.kind = .insert ∧
    blankPair.draft.valueSets = .ok ([[], []].map .record) ∧ columns blankPair.draft ([[], []].map .record) = .ok [] ∧
    Statement.query { dialect := .mysql } (.of blankPair) = .ok "INSERT INTO \x60audit\x60 VALUES ()" ∧
    ∃ before table output returning columnText valueText,
      "INSERT INTO \x60audit\x60 VALUES ()" = Text.trim (before ++
        blankPair.draft.insertAround { dialect := .mysql } table output returning columnText valueText) ∧
      Reading.insertedRows .mysql valueText = some 1 ∧ Reading.insertedRows .mysql valueText ≠ some 2 := by
  have hkind : blankPair.kind = .insert := rfl
  have hrows : blankPair.draft.valueSets = .ok ([[], []].map .record) := rfl
  have hcols : columns blankPair.draft ([[], []].map .record) = .ok [] := rfl
  have hquery : Statement.query { dialect := .mysql } (.of blankPair) = .ok "INSERT INTO \x60audit\x60 VALUES ()" := rfl
  refine ⟨hkind, hrows, hcols, hquery, ?_⟩
  obtain ⟨before, table, output, returning, columnText, valueText, -, -, -, htext, -, -, hread⟩ :=
    (rows_inserted hkind hrows nofun hcols).2.1 _ hquery
  obtain ⟨hcount, -⟩ := hread (by simp [IsReadable])
  refine ⟨before, table, output, returning, columnText, valueText, htext, hcount, ?_⟩
  rw [hcount]
  decide

end Insert

end SqlWeave
