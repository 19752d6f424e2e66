import Mathlib.Data.List.Forall2
import SqlWeave.Proofs.Condition.Call
import SqlWeave.Proofs.Statement.Body
import SqlWeave.Proofs.Statement.Derived
import SqlWeave.Proofs.Statement.InsertedRows
import SqlWeave.Proofs.Statement.WithBlock

/-!
# The grid of an INSERT

An INSERT writes its rows as a grid: a tuple for each row, and in it a cell for each column. The cells and the
values that they refer to come from two walks over the rows, which are not told of each other. Main result: they
agree cell by cell. A cell refers to the parameter of its row and column exactly when its row holds a value there
that can be bound, and then this value is bound under the name; nothing else is bound.
-/

namespace SqlWeave

variable {cat : Catalog} {d : Draft}

theorem Value.supplied_eq_ok {v : Value} {sql : String} : v.supplied = .ok sql ↔ v = .fragment sql := by
  cases v <;> simp [Value.supplied]

theorem Dialect.exists_escapeValue {dialect : Dialect} {name : Value} :
    (∃ quoted, dialect.escapeValue name = .ok quoted) ↔ name.text?.isSome := by
  unfold escapeValue nameText
  cases name <;> simp [Value.text?, Except.map]

namespace Insert

/-! ## Cells -/

/-- What stands in the cell of row number `i` and column number `j`, by what the row holds for the column. -/
inductive IsCell (dialect : Dialect) (i j : Nat) (row : Value) (c : InsertColumn) : String → Prop where
  | bound {v : Value} (h : cellValue? row c = some v) : IsCell dialect i j row c (":" ++ cellName i j)
  | null (h : held row c.key = .ok (some .null)) : IsCell dialect i j row c "NULL"
  | supplied {sql : String} (h : held row c.key = .ok (some (.fragment sql))) : IsCell dialect i j row c sql
  | missing (h : held row c.key = .ok none) : IsCell dialect i j row c (c.fallback dialect)

/-- The cells of a row, one for each column. -/
def IsTuple (dialect : Dialect) (cols : List InsertColumn) (i : Nat) (row : Value) (cells : List String) : Prop :=
  List.Forall₂ (fun c text => IsCell dialect i c.2 row c.1 text) cols.zipIdx cells

/-- The tuples of rows, one for each row, in their order. -/
def IsGrid (dialect : Dialect) (cols : List InsertColumn) (rows : List Value) (grid : List (List String)) : Prop :=
  List.Forall₂ (fun row cells => IsTuple dialect cols row.2 row.1 cells) rows.zipIdx grid

/-- The cells of a row as they are written. -/
def tupleText (cells : List String) : String := "(" ++ String.intercalate ", " cells ++ ")"

section
variable {dialect : Dialect} {i j : Nat} {row : Value} {c : InsertColumn} {cols : List InsertColumn} {text : String}

theorem bind_cell_eq_ok :
    (held row c.key >>= cell dialect (cellName i j) c) = .ok text ↔ IsCell dialect i j row c text := by
  rw [Result.bind_eq_ok]
  constructor
  · rintro ⟨v?, hheld, h⟩
    unfold cell at h
    split at h
    · cases h
      exact .missing hheld
    · cases h
      exact .null hheld
    · next v hnull =>
      have hthere : v.isNull = false := by
        cases v with
        | null => exact absurd rfl hnull
        | _ => rfl
      cases hv : v.isCallable with
      | true =>
        rw [hv, if_pos rfl, Value.supplied_eq_ok] at h
        exact .supplied (h ▸ hheld)
      | false =>
        rw [hv] at h
        cases h
        exact .bound (cellValue?_eq_some.mpr ⟨hheld, hthere, hv⟩)
  · intro h
    cases h with
    | @bound v hvalue =>
      obtain ⟨hheld, hthere, hv⟩ := cellValue?_eq_some.mp hvalue
      refine ⟨_, hheld, ?_⟩
      cases v with
      | null => cases hthere
      | fragment | template | receiver | type => cases hv
      | _ => rfl
    | null hheld => exact ⟨_, hheld, rfl⟩
    | supplied hheld => exact ⟨_, hheld, rfl⟩
    | missing hheld => exact ⟨_, hheld, rfl⟩

theorem cells_eq_ok {j : Nat} {texts : List String} : cells dialect i j row cols = .ok texts ↔
    List.Forall₂ (fun c text => IsCell dialect i c.2 row c.1 text) (cols.zipIdx j) texts := by
  induction cols generalizing j texts with
  | nil =>
    rw [List.zipIdx_nil, List.forall₂_nil_left_iff]
    exact ⟨fun h => (Except.ok.inj h).symm, fun h => h ▸ rfl⟩
  | cons c rest ih =>
    rw [List.zipIdx_cons, List.forall₂_cons_left_iff]
    have hcons : cells dialect i j row (c :: rest) = (held row c.key >>= cell dialect (cellName i j) c) >>= fun here =>
        cells dialect i (j + 1) row rest >>= fun more => .ok (here :: more) := by
      rw [bind_assoc]
      rfl
    simp only [hcons, Result.bind_eq_ok (x := held row c.key >>= _), bind_cell_eq_ok]
    constructor
    · rintro ⟨here, hhere, h⟩
      obtain ⟨more, hmore, h⟩ := Result.bind_eq_ok.mp h
      cases h
      exact ⟨here, more, hhere, ih.mp hmore, rfl⟩
    · rintro ⟨here, more, hhere, hmore, rfl⟩
      exact ⟨here, hhere, Result.bind_eq_ok.mpr ⟨more, ih.mpr hmore, rfl⟩⟩

theorem tuples_eq_ok {i : Nat} {rows : List Value} {texts : List String} : tuples dialect i cols rows = .ok texts ↔
    ∃ grid, List.Forall₂ (fun row cells => IsTuple dialect cols row.2 row.1 cells) (rows.zipIdx i) grid ∧
      texts = grid.map tupleText := by
  induction rows generalizing i texts with
  | nil =>
    simp only [List.zipIdx_nil, List.forall₂_nil_left_iff, exists_eq_left, List.map_nil]
    exact ⟨fun h => (Except.ok.inj h).symm, fun h => h ▸ rfl⟩
  | cons row rest ih =>
    simp only [List.zipIdx_cons, List.forall₂_cons_left_iff]
    constructor
    · intro h
      obtain ⟨here, hhere, h⟩ := Result.bind_eq_ok.mp h
      obtain ⟨more, hmore, h⟩ := Result.bind_eq_ok.mp h
      cases h
      obtain ⟨grid, hgrid, rfl⟩ := ih.mp hmore
      exact ⟨here :: grid, ⟨here, grid, cells_eq_ok.mp hhere, hgrid, rfl⟩, rfl⟩
    · rintro ⟨_, ⟨here, grid, hhere, hgrid, rfl⟩, rfl⟩
      exact Result.bind_eq_ok.mpr ⟨here, cells_eq_ok.mpr hhere,
        Result.bind_eq_ok.mpr ⟨grid.map tupleText, ih.mpr ⟨grid, hgrid, rfl⟩, rfl⟩⟩

theorem ne_reference (h : text.toList.head? ≠ some ':') (name : String) : text ≠ ":" ++ name := by
  rintro rfl
  exact h (by simp)

/-- A cell that a row leaves open is filled with a word. -/
theorem fallback_ne_reference (dialect : Dialect) (c : InsertColumn) (name : String) :
    c.fallback dialect ≠ ":" ++ name := by
  have hwords : ∀ word ∈ fallbacks, word.toList.head? ≠ some ':' := by decide
  exact ne_reference (hwords _ (fallback_mem dialect c)) name

/-- A cell refers to its own parameter when a value is bound for it, unless a function supplies the very text of
the reference. -/
theorem IsCell.eq_reference_iff (h : IsCell dialect i j row c text) : text = ":" ++ cellName i j ↔
    (∃ v, cellValue? row c = some v) ∨ held row c.key = .ok (some (.fragment (":" ++ cellName i j))) := by
  have hopen {v? : Option Value} (hheld : held row c.key = .ok v?) (hnot : ∀ v ∈ v?, v.isNull) :
      ¬ ((∃ v, cellValue? row c = some v) ∨ held row c.key = .ok (some (.fragment (":" ++ cellName i j)))) := by
    rintro (⟨v, hv⟩ | hsupplied)
    · obtain ⟨hheld', hthere, -⟩ := cellValue?_eq_some.mp hv
      cases hheld.symm.trans hheld'
      exact absurd (hnot v rfl) (by simp [hthere])
    · cases hheld.symm.trans hsupplied
      exact absurd (hnot _ rfl) Bool.false_ne_true
  cases h with
  | bound hv => exact iff_of_true rfl (.inl ⟨_, hv⟩)
  | null hheld =>
    exact iff_of_false (ne_reference (by decide) _) (hopen hheld (by simp [Value.isNull]))
  | missing hheld => exact iff_of_false (fallback_ne_reference dialect c _) (hopen hheld (by simp))
  | @supplied sql hheld =>
    constructor
    · rintro rfl
      exact .inr hheld
    · rintro (⟨v, hv⟩ | hsupplied)
      · obtain ⟨hheld', -, hcall⟩ := cellValue?_eq_some.mp hv
        cases hheld.symm.trans hheld'
        cases hcall
      · cases hheld.symm.trans hsupplied
        rfl

/-- A grid has a tuple for each row. -/
theorem IsGrid.length_eq {rows : List Value} {grid : List (List String)} (h : IsGrid dialect cols rows grid) :
    grid.length = rows.length :=
  (List.Forall₂.length_eq h).symm.trans List.length_zipIdx

theorem IsTuple.length_eq {cells : List String} (h : IsTuple dialect cols i row cells) : cells.length = cols.length :=
  (List.Forall₂.length_eq h).symm.trans List.length_zipIdx

theorem exists_of_mem_forall₂ {α β : Type} {R : α → β → Prop} {as : List α} {bs : List β} (h : List.Forall₂ R as bs)
    {b : β} (hb : b ∈ bs) : ∃ a ∈ as, R a b := by
  induction h with
  | nil => cases hb
  | @cons a b' as bs hab _ ih =>
    rcases List.mem_cons.mp hb with rfl | hb
    · exact ⟨a, List.mem_cons_self, hab⟩
    · obtain ⟨a', ha', hR⟩ := ih hb
      exact ⟨a', List.mem_cons_of_mem a ha', hR⟩

theorem IsGrid.width {rows : List Value} {grid : List (List String)} (h : IsGrid dialect cols rows grid) :
    ∀ cells ∈ grid, cells.length = cols.length := fun _ hcells => by
  obtain ⟨_, -, htuple⟩ := exists_of_mem_forall₂ h hcells
  exact htuple.length_eq

/-- What holds of every text that a cell can have holds of the cells of a grid. -/
theorem IsGrid.forall_cells {rows : List Value} {grid : List (List String)} (h : IsGrid dialect cols rows grid)
    {P : String → Prop} (hP : ∀ {i j row c text}, row ∈ rows → c ∈ cols → IsCell dialect i j row c text → P text) :
    ∀ cells ∈ grid, ∀ text ∈ cells, P text := by
  intro cells hcells text htext
  obtain ⟨row, hrow, htuple⟩ := exists_of_mem_forall₂ h hcells
  obtain ⟨c, hc, hcell⟩ := exists_of_mem_forall₂ htuple htext
  exact hP (List.fst_mem_of_mem_zipIdx hrow) (List.fst_mem_of_mem_zipIdx hc) hcell

theorem getElem?_of_forall₂_zipIdx {α β : Type} {R : α × Nat → β → Prop} {as : List α} {bs : List β} {k : Nat} {a : α}
    (h : List.Forall₂ R as.zipIdx bs) (ha : as[k]? = some a) : ∃ b, bs[k]? = some b ∧ R (a, k) b := by
  have hzip : as.zipIdx[k]? = some (a, k) := by rw [List.getElem?_zipIdx, ha, Option.map_some, Nat.zero_add]
  obtain ⟨hk, hget⟩ := List.getElem?_eq_some_iff.mp hzip
  have hk' : k < bs.length := h.length_eq ▸ hk
  have hrel := h.get hk hk'
  rw [List.get_eq_getElem, List.get_eq_getElem, hget] at hrel
  exact ⟨bs[k], List.getElem?_eq_getElem hk', hrel⟩

/-- The cell of each row and column stands at its place. -/
theorem IsGrid.cell {rows : List Value} {grid : List (List String)} (h : IsGrid dialect cols rows grid)
    (hrow : rows[i]? = some row) (hc : cols[j]? = some c) :
    ∃ cells text, grid[i]? = some cells ∧ cells[j]? = some text ∧ IsCell dialect i j row c text := by
  obtain ⟨cells, hcells, htuple⟩ := getElem?_of_forall₂_zipIdx h hrow
  obtain ⟨text, htext, hcell⟩ := getElem?_of_forall₂_zipIdx htuple hc
  exact ⟨cells, text, hcells, htext, hcell⟩

theorem exists_isCell : (∃ text, IsCell dialect i j row c text) ↔
    ∃ v?, held row c.key = .ok v? ∧ ∀ v ∈ v?, v.isCallable → ∃ sql, v = .fragment sql := by
  constructor
  · rintro ⟨text, h⟩
    cases h with
    | bound hv =>
      obtain ⟨hheld, -, hv⟩ := cellValue?_eq_some.mp hv
      exact ⟨_, hheld, by simp [hv]⟩
    | null hheld => exact ⟨_, hheld, by simp [Value.isCallable]⟩
    | supplied hheld => exact ⟨_, hheld, by simp⟩
    | missing hheld => exact ⟨_, hheld, by simp⟩
  · rintro ⟨v?, hheld, hsupplied⟩
    cases v? with
    | none => exact ⟨_, .missing hheld⟩
    | some v =>
      cases hv : v.isCallable with
      | true =>
        obtain ⟨sql, rfl⟩ := hsupplied v rfl hv
        exact ⟨_, .supplied hheld⟩
      | false =>
        cases v with
        | null => exact ⟨_, .null hheld⟩
        | _ => exact ⟨_, .bound (cellValue?_eq_some.mpr ⟨hheld, rfl, hv⟩)⟩

theorem exists_forall₂_zipIdx {α β : Type} {R : α × Nat → β → Prop} {P : α → Prop}
    (hR : ∀ a k, (∃ b, R (a, k) b) ↔ P a) (as : List α) (k : Nat) :
    (∃ bs, List.Forall₂ R (as.zipIdx k) bs) ↔ ∀ a ∈ as, P a := by
  induction as generalizing k with
  | nil => exact iff_of_true ⟨[], .nil⟩ (List.forall_mem_nil P)
  | cons a as ih =>
    simp only [List.forall_mem_cons, ← hR a k, ← ih (k + 1), List.zipIdx_cons, List.forall₂_cons_left_iff]
    constructor
    · rintro ⟨_, b, bs, hb, hbs, rfl⟩
      exact ⟨⟨b, hb⟩, bs, hbs⟩
    · rintro ⟨⟨b, hb⟩, bs, hbs⟩
      exact ⟨b :: bs, b, bs, hb, hbs, rfl⟩

/-- Rows can be written when every function in a cell supplies SQL. -/
theorem exists_isGrid {rows : List Value} : (∃ grid, IsGrid dialect cols rows grid) ↔
    ∀ row ∈ rows, ∀ c ∈ cols, ∃ v?, held row c.key = .ok v? ∧ ∀ v ∈ v?, v.isCallable → ∃ sql, v = .fragment sql :=
  exists_forall₂_zipIdx (fun _ _ => exists_forall₂_zipIdx (fun _ _ => exists_isCell) cols 0) rows 0

/-- The values of rows can be bound when the rows hold something, or nothing, for each column. -/
theorem exists_rowParameters {rows : List Value} (h : ∀ row ∈ rows, ∀ c ∈ cols, ∃ v?, held row c.key = .ok v?)
    (i : Nat) : ∃ own, rowParameters i cols rows = .ok own := by
  have hcells {row : Value} (i j : Nat) {cols : List InsertColumn} (h : ∀ c ∈ cols, ∃ v?, held row c.key = .ok v?) :
      ∃ own, cellParameters i j row cols = .ok own := by
    induction cols generalizing j with
    | nil => exact ⟨[], rfl⟩
    | cons c rest ih =>
      obtain ⟨⟨v?, hheld⟩, hrest⟩ := List.forall_mem_cons.mp h
      obtain ⟨more, hmore⟩ := ih (j + 1) hrest
      exact ⟨_, Result.bind_eq_ok.mpr ⟨v?, hheld, Result.bind_eq_ok.mpr ⟨more, hmore, rfl⟩⟩⟩
  induction rows generalizing i with
  | nil => exact ⟨[], rfl⟩
  | cons row rest ih =>
    obtain ⟨hrow, hrest⟩ := List.forall_mem_cons.mp h
    obtain ⟨here, hhere⟩ := hcells i 0 hrow
    obtain ⟨more, hmore⟩ := ih hrest (i + 1)
    exact ⟨here ++ more, Result.bind_eq_ok.mpr ⟨here, hhere, Result.bind_eq_ok.mpr ⟨more, hmore, rfl⟩⟩⟩

end

/-! ## Columns -/

theorem eraseDups_concat (names : List String) (name : String) :
    (names ++ [name]).eraseDups = if name ∈ names then names.eraseDups else names.eraseDups ++ [name] := by
  rw [List.eraseDups_append, List.removeAll]
  split
  · next h => simp [h]
  · next h => simp [h, List.eraseDups_cons]

theorem nodup_eraseDups (names : List String) : names.eraseDups.Nodup := by
  induction names using List.reverseRecOn with
  | nil => exact List.nodup_nil
  | append_singleton names name ih =>
    rw [eraseDups_concat]
    split
    · exact ih
    · next h =>
      refine List.nodup_append.mpr ⟨ih, List.nodup_singleton name, fun a ha b hb hab => h ?_⟩
      rwa [← List.mem_singleton.mp hb, ← hab, ← List.mem_eraseDups]

theorem isAmong_map_text (name : String) (names : List String) :
    (Value.text name).isAmong (names.map .text) = decide (name ∈ names) := by
  have hequals (other : String) : (Value.text other).equals (.text name) = decide (other = name) := by
    unfold Value.equals
    by_cases h : other = name <;> simp [h, Value.text?, Value.sameNumber, Value.sameObject, Value.int?]
  rw [Value.isAmong, List.any_map, Bool.eq_iff_iff, List.any_eq_true, decide_eq_true_eq]
  simp only [Function.comp_apply, hequals, decide_eq_true_eq, exists_eq_right]

/-- Without an entity and without a request the columns are the keys of all rows, each where it appears first. -/
theorem allKeys_records (names : List String) (rows : List Record) :
    allKeys (names.eraseDups.map .text) (rows.map .record) =
      .ok ((names ++ rows.flatMap Assoc.keys).eraseDups.map .text) := by
  have hfold (keys names : List String) : (keys.map Value.text).foldl
      (fun acc k => if k.isAmong acc then acc else acc ++ [k]) (names.eraseDups.map .text) =
        (names ++ keys).eraseDups.map .text := by
    induction keys generalizing names with
    | nil => rw [List.append_nil]; rfl
    | cons key keys ih =>
      rw [List.append_cons, ← ih, List.map_cons, List.foldl_cons, isAmong_map_text, eraseDups_concat]
      by_cases h : key ∈ names <;> simp [h]
  induction rows generalizing names with
  | nil => simp [allKeys]
  | cons row rows ih =>
    have helements : (Value.record row).elements? = some ((Assoc.keys row).map .text) := by
      simp [Value.elements?, Assoc.keys]
    rw [List.map_cons, allKeys, helements, List.flatMap_cons, ← List.append_assoc, ← ih (names ++ Assoc.keys row)]
    dsimp only
    rw [hfold]

theorem columns_without_entity (hentity : d.entity = .ok none) (rows : List Record) :
    columns d (rows.map .record) = .ok ((if (d.insertColumns.getD []).isEmpty
      then (rows.flatMap Assoc.keys).eraseDups.map .text else d.insertColumns.getD []).map fun key => { key }) := by
  refine Result.bind_eq_ok.mpr ⟨_, hentity, ?_⟩
  dsimp only
  split
  · exact Result.bind_eq_ok.mpr ⟨_, allKeys_records [] rows, rfl⟩
  · rfl

/-- A column whose name is a text has a text for its key. -/
theorem key_of_mem_columns {rows : List Record} {cols : List InsertColumn}
    (hcols : columns d (rows.map .record) = .ok cols) {c : InsertColumn} (hc : c ∈ cols) (hname : c.name.text?.isSome) :
    ∃ key, c.key.text? = some key := by
  obtain ⟨e?, hentity, -⟩ := Result.bind_eq_ok.mp hcols
  cases e? with
  | none =>
    rw [columns_without_entity hentity] at hcols
    cases hcols
    obtain ⟨key, -, rfl⟩ := List.mem_map.mp hc
    exact Option.isSome_iff_exists.mp hname
  | some e =>
    rw [columns_of_entity hentity] at hcols
    cases hcols
    obtain ⟨k, -, rfl⟩ := List.mem_map.mp hc
    exact ⟨k.property, rfl⟩

theorem held_of_text {key : Value} {k : String} (hkey : key.text? = some k) (row : Record) :
    held (.record row) key = .ok (Assoc.get? row k) := by
  cases key with
  | text | keyword =>
    cases hkey
    rfl
  | _ => cases hkey

end Insert

/-! ## The statement -/

namespace Draft

variable {rows : List Value} {cols : List InsertColumn}

/-- With columns the rows are written as a grid. -/
theorem insertedText_of_columns (hrows : d.valueSets = .ok rows) (hne : rows ≠ [])
    (hcols : Insert.columns d rows = .ok cols) (hfilled : cols ≠ []) {texts : String × String} :
    d.insertedText cat = .ok texts ↔ ∃ names grid,
      cols.mapM (fun c => cat.dialect.escapeValue c.name) = .ok names ∧ Insert.IsGrid cat.dialect cols rows grid ∧
      texts = ("(" ++ String.intercalate ", " names ++ ")",
        "VALUES " ++ String.intercalate ", " (grid.map Insert.tupleText)) := by
  have hbody : d.insertedText cat = cols.mapM (fun c => cat.dialect.escapeValue c.name) >>= fun names =>
      Insert.tuples cat.dialect 0 cols rows >>= fun tuples =>
        pure ("(" ++ String.intercalate ", " names ++ ")", "VALUES " ++ String.intercalate ", " tuples) := by
    rw [insertedText, hrows]
    obtain ⟨row, rest, rfl⟩ := List.exists_cons_of_ne_nil hne
    obtain ⟨c, more, rfl⟩ := List.exists_cons_of_ne_nil hfilled
    show Insert.columns d (row :: rest) >>= _ = _
    rw [hcols]
    rfl
  rw [hbody]
  constructor
  · intro h
    obtain ⟨names, hnames, h⟩ := Result.bind_eq_ok.mp h
    obtain ⟨tuples, htuples, h⟩ := Result.bind_eq_ok.mp h
    obtain ⟨grid, hgrid, rfl⟩ := Insert.tuples_eq_ok.mp htuples
    exact ⟨names, grid, hnames, hgrid, (Result.pure_eq_ok.mp h).symm⟩
  · rintro ⟨names, grid, hnames, hgrid, rfl⟩
    exact Result.bind_eq_ok.mpr ⟨names, hnames,
      Result.bind_eq_ok.mpr ⟨_, Insert.tuples_eq_ok.mpr ⟨grid, hgrid, rfl⟩, rfl⟩⟩

/-- Without columns nothing of the rows is written, however many there are. -/
theorem insertedText_without_columns (hrows : d.valueSets = .ok rows) (hcols : Insert.columns d rows = .ok []) :
    d.insertedText cat = .ok ("", cat.dialect.capabilities.emptyInsertExpression) := by
  rw [insertedText, hrows]
  cases rows with
  | nil => rfl
  | cons row rest =>
    show Insert.columns d (row :: rest) >>= _ = _
    rw [hcols]
    rfl

/-- The text of an INSERT stands behind its comment and its WITH block. -/
theorem query_of_insert {b : Builder Statement} (hkind : b.kind = .insert) {sql : String}
    (h : Statement.query cat (.of b) = .ok sql) : ∃ before table output returning columnText valueText,
      b.draft.quotedTable cat = .ok table ∧ b.draft.insertedText cat = .ok (columnText, valueText) ∧
      b.draft.returningClause cat .insert .output = .ok output ∧
      b.draft.returningClause cat .insert .returning = .ok returning ∧
      sql = Text.trim (before ++ b.draft.insertAround cat table output returning columnText valueText) := by
  obtain ⟨comment, entries, body, -, -, hbody, rfl⟩ := Statement.query_of_eq_ok.mp h
  rw [hkind] at hbody
  obtain ⟨table, columnText, valueText, output, returning, htable, hinserted, houtput, hreturning, rfl⟩ :=
    insertText_eq_ok.mp hbody
  exact ⟨comment ++ Cte.block cat.dialect b.ctes entries, table, output, returning, columnText, valueText, htable,
    hinserted, houtput, hreturning, rfl⟩

end Draft

/-- A grid and the values that are bound for it agree, cell by cell. -/
structure Insert.Agrees (dialect : Dialect) (rows : List Record) (cols : List InsertColumn)
    (grid : List (List String)) (own : Bindings) : Prop where
  /-- A tuple for each row, in the order of the rows, and in it a cell for each column. -/
  written : IsGrid dialect cols (rows.map .record) grid
  height : grid.length = rows.length
  width : ∀ cells ∈ grid, cells.length = cols.length
  /-- A cell refers to its own parameter exactly when this is bound, or when a function supplies the very text of
  the reference. -/
  refers : ∀ {i j : Nat} {row : Record} {c : InsertColumn}, rows[i]? = some row → cols[j]? = some c →
    ∃ cells text, grid[i]? = some cells ∧ cells[j]? = some text ∧ IsCell dialect i j (.record row) c text ∧
      (text = ":" ++ cellName i j ↔ (∃ v, own.get? (cellName i j) = some v) ∨
        held (.record row) c.key = .ok (some (.fragment (":" ++ cellName i j))))
  /-- Bound is what a row holds for a column, unless it is absent or a function, and nothing else. -/
  binds : ∀ name v, own.get? name = some v ↔ ∃ i j row c, rows[i]? = some row ∧ cols[j]? = some c ∧
    (held (.record row) c.key = .ok (some v) ∧ v.isNull = false ∧ v.isCallable = false) ∧ name = cellName i j
  nodup : own.keys.Nodup

namespace Insert

theorem agrees {b : Builder Statement} {rows : List Record} {cols : List InsertColumn} {grid : List (List String)}
    {own : Bindings} (hkind : b.kind = .insert) (hrows : b.draft.valueSets = .ok (rows.map .record))
    (hcols : columns b.draft (rows.map .record) = .ok cols) (hgrid : IsGrid cat.dialect cols (rows.map .record) grid)
    (hown : b.draft.statementParameters cat b.kind = .ok own) : Agrees cat.dialect rows cols grid own := by
  obtain ⟨hnodup, hderives⟩ := Builder.derives_of_statementParameters hown
  have hbinds (name : String) (v : Value) : own.get? name = some v ↔
      ∃ i j row c, rows[i]? = some row ∧ cols[j]? = some c ∧
        (held (.record row) c.key = .ok (some v) ∧ v.isNull = false ∧ v.isCallable = false) ∧ name = cellName i j := by
    have hmem : own.get? name = some v ↔ (name, v) ∈ own := ⟨Assoc.mem_of_get?, Assoc.get?_of_mem hnodup⟩
    rw [hmem, hderives]
    constructor
    · intro h
      cases h with
      | @cell rows' cols' i j row v c _ hrows' hcols' hrow hc hheld hthere hv =>
        cases hrows.symm.trans hrows'
        cases hcols.symm.trans hcols'
        rw [List.getElem?_map] at hrow
        obtain ⟨r, hr, rfl⟩ := Option.map_eq_some_iff.mp hrow
        exact ⟨i, j, r, c, hr, hc, ⟨hheld, hthere, hv⟩, rfl⟩
      | assignment hupdate => cases hkind.symm.trans hupdate
    · rintro ⟨i, j, row, c, hrow, hc, ⟨hheld, hthere, hv⟩, rfl⟩
      exact .cell hkind hrows hcols (by rw [List.getElem?_map, hrow]; rfl) hc hheld hthere hv
  refine ⟨hgrid, ?_, hgrid.width, ?_, hbinds, hnodup⟩
  · rw [hgrid.length_eq, List.length_map]
  · intro i j row c hrow hc
    obtain ⟨cells, text, hcells, htext, hcell⟩ := hgrid.cell (by rw [List.getElem?_map, hrow]; rfl) hc
    refine ⟨cells, text, hcells, htext, hcell, hcell.eq_reference_iff.trans (or_congr_left ?_)⟩
    refine exists_congr fun v => cellValue?_eq_some.trans ?_
    rw [hbinds]
    constructor
    · exact fun hv => ⟨i, j, row, c, hrow, hc, hv, rfl⟩
    · rintro ⟨i', j', row', c', hrow', hc', hv, hname⟩
      obtain ⟨rfl, rfl⟩ := cellName_inj.mp hname
      cases hrow.symm.trans hrow'
      cases hc.symm.trans hc'
      exact hv

section
variable {rows : List Record} {cols : List InsertColumn}

theorem exists_names : (∃ names, cols.mapM (fun c => cat.dialect.escapeValue c.name) = .ok names) ↔
    ∀ c ∈ cols, c.name.text?.isSome :=
  Result.exists_mapM.trans (forall₂_congr fun _ _ => Dialect.exists_escapeValue)

theorem exists_held (hcols : columns d (rows.map .record) = .ok cols) (hnames : ∀ c ∈ cols, c.name.text?.isSome) :
    ∀ row ∈ rows.map Value.record, ∀ c ∈ cols, ∃ v?, held row c.key = .ok v? := by
  refine List.forall_mem_map.mpr fun row _ c hc => ?_
  obtain ⟨key, hkey⟩ := key_of_mem_columns hcols hc (hnames c hc)
  exact ⟨_, held_of_text hkey row⟩

/-- Rows can be written when the columns have names that can be quoted and every function in a cell supplies SQL. -/
theorem exists_insertedText (hrows : d.valueSets = .ok (rows.map .record)) (hne : rows ≠ [])
    (hcols : columns d (rows.map .record) = .ok cols) (hfilled : cols ≠ []) :
    (∃ texts, d.insertedText cat = .ok texts) ↔ (∀ c ∈ cols, c.name.text?.isSome) ∧
      ∀ row ∈ rows, ∀ c ∈ cols, ∀ v, held (.record row) c.key = .ok (some v) → v.isCallable →
        ∃ sql, v = .fragment sql := by
  have hgiven : rows.map Value.record ≠ [] := by simpa using hne
  have hparts : (∃ texts, d.insertedText cat = .ok texts) ↔
      (∃ names, cols.mapM (fun c => cat.dialect.escapeValue c.name) = .ok names) ∧
        ∃ grid, IsGrid cat.dialect cols (rows.map .record) grid := by
    simp only [Draft.insertedText_of_columns hrows hgiven hcols hfilled]
    constructor
    · rintro ⟨_, names, grid, hnames, hgrid, -⟩
      exact ⟨⟨names, hnames⟩, grid, hgrid⟩
    · rintro ⟨⟨names, hnames⟩, grid, hgrid⟩
      exact ⟨_, names, grid, hnames, hgrid, rfl⟩
  rw [hparts, exists_names, exists_isGrid, List.forall_mem_map]
  refine and_congr_right fun hnames => forall₂_congr fun row hrow => forall₂_congr fun c hc => ?_
  obtain ⟨v?, hheld⟩ := exists_held hcols hnames _ (List.mem_map_of_mem hrow) c hc
  rw [hheld]
  constructor
  · rintro ⟨_, h, hsupplied⟩ v hv
    cases h
    exact hsupplied v (Except.ok.inj hv)
  · exact fun h => ⟨v?, rfl, fun v hv => h v (congrArg Except.ok hv)⟩

/-- The rows of an INSERT with columns: when they are written, how they are written, and what is bound for them. -/
theorem rows_agree {b : Builder Statement} (hkind : b.kind = .insert)
    (hrows : b.draft.valueSets = .ok (rows.map .record)) (hne : rows ≠ [])
    (hcols : columns b.draft (rows.map .record) = .ok cols) (hfilled : cols ≠ []) :
    ((∃ texts, b.draft.insertedText cat = .ok texts) ↔ (∀ c ∈ cols, c.name.text?.isSome) ∧
      ∀ row ∈ rows, ∀ c ∈ cols, ∀ v, held (.record row) c.key = .ok (some v) → v.isCallable →
        ∃ sql, v = .fragment sql) ∧
    (∀ sql, Statement.query cat (.of b) = .ok sql → ∃ before table output returning names grid own,
      b.draft.quotedTable cat = .ok table ∧ b.draft.returningClause cat .insert .output = .ok output ∧
      b.draft.returningClause cat .insert .returning = .ok returning ∧
      cols.mapM (fun c => cat.dialect.escapeValue c.name) = .ok names ∧
      b.draft.statementParameters cat b.kind = .ok own ∧ Agrees cat.dialect rows cols grid own ∧
      sql = Text.trim (before ++ b.draft.insertAround cat table output returning
        ("(" ++ String.intercalate ", " names ++ ")") ("VALUES " ++ String.intercalate ", " (grid.map tupleText)))) ∧
    (∀ i j i' j', cellName i j = cellName i' j' ↔ i = i' ∧ j = j') ∧
    (b.draft.entity = .ok none → b.draft.insertColumns.getD [] = [] →
      cols.map (·.key) = (rows.flatMap Assoc.keys).eraseDups.map .text ∧
        (rows.flatMap Assoc.keys).eraseDups.Nodup) := by
  refine ⟨exists_insertedText hrows hne hcols hfilled, ?_, fun _ _ _ _ => cellName_inj, ?_⟩
  · intro sql hsql
    obtain ⟨before, table, output, returning, columnText, valueText, htable, hinserted, houtput, hreturning, rfl⟩ :=
      Draft.query_of_insert hkind hsql
    obtain ⟨names, grid, hnames, hgrid, htexts⟩ :=
      (Draft.insertedText_of_columns hrows (by simpa using hne) hcols hfilled).mp hinserted
    cases htexts
    obtain ⟨own, hown⟩ := exists_rowParameters (exists_held hcols (exists_names.mp ⟨names, hnames⟩)) 0
    have hparameters : b.draft.statementParameters cat b.kind = .ok own := by
      rw [hkind]
      exact Result.bind_eq_ok.mpr ⟨_, hrows, Result.bind_eq_ok.mpr ⟨cols, hcols, hown⟩⟩
    exact ⟨before, table, output, returning, names, grid, own, htable, houtput, hreturning, hnames, hparameters,
      agrees hkind hrows hcols hgrid hparameters, rfl⟩
  · intro hentity hrequested
    rw [columns_without_entity hentity, hrequested] at hcols
    cases hcols
    exact ⟨by simp, nodup_eraseDups _⟩

end

/-! ### Entries of an audit -/

/-- Two entries: a note that is absent, a time that a function supplies, and columns that not every entry has. -/
def auditRows : List Record := [[("who", .int 7), ("note", .null)], [("note", .text "late"), ("at", .fragment "now()")]]

def auditColumns : List InsertColumn := [{ key := .text "who" }, { key := .text "note" }, { key := .text "at" }]

/-- The INSERT of the entries. -/
def audit : Builder Statement := ({} : Builder Statement).reached { dialect := .postgres }
  [.toInsert, .into (.text "audit") .null, .values (.list (auditRows.map .record))]

set_option maxRecDepth 4000 in
theorem rows_agree_audit : audit.kind = .insert ∧ audit.draft.valueSets = .ok (auditRows.map .record) ∧
    columns audit.draft (auditRows.map .record) = .ok auditColumns ∧
    Statement.query { dialect := .postgres } (.of audit) = .ok ("INSERT INTO \"audit\"(\"who\", " ++
      "\"note\", \"at\") VALUES (:i0_0, NULL, DEFAULT), (DEFAULT, :i1_1, now())") ∧
    ∃ grid, Agrees .postgres auditRows auditColumns grid [("i0_0", .int 7), ("i1_1", .text "late")] := by
  have hkind : audit.kind = .insert := rfl
  have hrows : audit.draft.valueSets = .ok (auditRows.map .record) := rfl
  have hcols : columns audit.draft (auditRows.map .record) = .ok auditColumns := rfl
  have hquery : Statement.query { dialect := .postgres } (.of audit) = .ok ("INSERT INTO \"audit\"(\"who\", " ++
      "\"note\", \"at\") VALUES (:i0_0, NULL, DEFAULT), (DEFAULT, :i1_1, now())") := rfl
  refine ⟨hkind, hrows, hcols, hquery, ?_⟩
  obtain ⟨-, -, -, -, -, grid, own, -, -, -, -, hown, hagrees, -⟩ :=
    (rows_agree hkind hrows nofun hcols nofun).2.1 _ hquery
  cases hown
  exact ⟨grid, hagrees⟩

end Insert

end SqlWeave
