import SqlWeave.Proofs.Statement.HandedBack
import SqlWeave.Proofs.Statement.Layout
import SqlWeave.Proofs.Statement.QuotedName

/-!
# The target of an INSERT reads back

Behind its comment and its WITH block, an INSERT says where it inserts: its first words, the path of its table and the
list of its columns. The text is trimmed at its end alone, so this much of it stands as it was written.

Main result: identifiers, table paths and the column lists of INSERTs read back as the names that they were made of, so
no two names, paths or column lists are written alike.
-/

namespace SqlWeave

namespace Quoted

open Dialect (segments)

/-- What is left of a text behind the words that an INSERT begins with. -/
def behindLead? (text : List Char) : Option (List Char) :=
  [some .orIgnore, some .ignore, none].findSome? fun style => behind? (Draft.insertLead style ++ " ").toList text

/-- What an INSERT says of its target: the segments of its table's path and the names of its columns. -/
structure Target where
  path : List (List Char)
  columns : List (List Char)
  deriving DecidableEq

/-- Reads the words that an INSERT begins with, its table and its columns. -/
def readInsert (quote : Char) (text : List Char) : Option (Target × List Char) := do
  let (path, rest) ← readPath quote (← behindLead? text)
  let (columns, rest) ← readColumns quote rest
  return (⟨path, columns⟩, rest)

theorem behindLead?_append (style : Option IgnoreStyle) (rest : List Char) :
    behindLead? ((Draft.insertLead style).toList ++ ' ' :: rest) = some rest := by
  rcases style with _ | _ | _ | _ <;> simp [behindLead?, Draft.insertLead, behind?]

/-- What stands behind the words of an INSERT is read as its target, unless it goes on where the target ends. -/
theorem readInsert_append {d : Dialect} {rest : List Char} (style : Option IgnoreStyle) (path : String)
    (names : List String) (hrest : rest.head? = some ' ') :
    readInsert d.quoteChar ((Draft.insertLead style).toList ++
        ' ' :: ((d.tablePath path).toList ++ ((columnList d names).toList ++ rest))) =
      some (⟨segments path.toList, names.map String.toList⟩, rest) := by
  obtain ⟨c, hhead, hc⟩ : ∃ c, ((columnList d names).toList ++ rest).head? = some c ∧ (c = '(' ∨ c = ' ') := by
    rw [columnList]
    split
    · exact ⟨' ', hrest, .inr rfl⟩
    · exact ⟨'(', by simp, .inl rfl⟩
  have hquote : ((columnList d names).toList ++ rest).head? ≠ some d.quoteChar := by
    rw [hhead]
    rcases hc with rfl | rfl <;> cases d <;> decide
  have hdot : ((columnList d names).toList ++ rest).head? ≠ some '.' := by
    rw [hhead]
    rcases hc with rfl | rfl <;> decide
  have hcolumns : readColumns d.quoteChar ((columnList d names).toList ++ rest) =
      some (names.map String.toList, rest) := readColumns_columnList names (by rw [hrest]; decide)
  simp only [readInsert, behindLead?_append, Option.bind_eq_bind, Option.bind_some, readPath_tablePath path hquote hdot,
    hcolumns]
  rfl

end Quoted

open Quoted (columnList readInsert Target)
open Text (BeginsFirm)

variable {cat : Catalog}

theorem Dialect.text?_of_nameText {v : Value} {s : String} (h : nameText v = .ok s) : v.text? = some s := by
  unfold nameText at h
  split at h
  · next hs => rw [hs, Except.ok.inj h]
  · cases h
  · cases h

namespace Draft

/-- The columns that an INSERT lists: those of its rows, and none without rows. -/
def listedColumns (d : Draft) : Result (List InsertColumn) := do
  let rows ← d.valueSets
  if rows.isEmpty then return []
  Insert.columns d rows

/-- An INSERT is into the table at a path, and lists columns of these names. -/
structure InsertsInto (cat : Catalog) (d : Draft) (path : String) (names : List String) : Prop where
  table : ∃ v, d.mainTable cat = .ok v ∧ v.text? = some path
  columns : ∃ cols, d.listedColumns = .ok cols ∧ cols.map (·.name.text?) = names.map some

variable {d : Draft}

theorem exists_path_of_quotedTable {table : String} (h : d.quotedTable cat = .ok table) :
    ∃ v path, d.mainTable cat = .ok v ∧ v.text? = some path ∧ table = cat.dialect.tablePath path := by
  obtain ⟨v, hv, h⟩ := Result.bind_eq_ok.mp h
  obtain ⟨path, hpath, rfl⟩ := Result.map_eq_ok.mp h
  exact ⟨v, path, hv, Dialect.text?_of_nameText hpath, rfl⟩

theorem exists_names_of_mapM {cols : List InsertColumn} {quoted : List String}
    (h : cols.mapM (fun c => cat.dialect.escapeValue c.name) = .ok quoted) :
    ∃ names : List String, cols.map (·.name.text?) = names.map some ∧ quoted = names.map cat.dialect.escape := by
  induction cols generalizing quoted with
  | nil =>
    cases h
    exact ⟨[], rfl, rfl⟩
  | cons c cols ih =>
    obtain ⟨_, rest, hname, hrest, rfl⟩ := Result.mapM_cons_eq_ok.mp h
    obtain ⟨name, htext, rfl⟩ := Result.map_eq_ok.mp hname
    obtain ⟨names, hnames, rfl⟩ := ih hrest
    exact ⟨name :: names, by simp [Dialect.text?_of_nameText htext, hnames], rfl⟩

/-- The column list and the rows of an INSERT are both there or both left out. -/
theorem exists_names_of_insertedText {columnText valueText : String}
    (h : d.insertedText cat = .ok (columnText, valueText)) :
    (∃ cols names, d.listedColumns = .ok cols ∧ cols.map (·.name.text?) = names.map some ∧
      columnText = columnList cat.dialect names) ∧ BeginsFirm valueText := by
  obtain ⟨rows, hrows, h⟩ := Result.bind_eq_ok.mp h
  have hbody : (if rows.isEmpty then pure [] else Insert.columns d rows) >>= (fun cols =>
      if cols.isEmpty then pure ("", cat.dialect.capabilities.emptyInsertExpression) else do
        let names ← cols.mapM fun c => cat.dialect.escapeValue c.name
        let tuples ← Insert.tuples cat.dialect 0 cols rows
        return ("(" ++ String.intercalate ", " names ++ ")", "VALUES " ++ String.intercalate ", " tuples)) =
      .ok (columnText, valueText) := by
    rw [← h]
    cases rows <;> rfl
  obtain ⟨cols, hcols, h⟩ := Result.bind_eq_ok.mp hbody
  have hlisted : d.listedColumns = .ok cols := Result.bind_eq_ok.mpr ⟨rows, hrows, hcols⟩
  cases cols with
  | nil =>
    cases h
    refine ⟨⟨[], [], hlisted, rfl, rfl⟩, ?_⟩
    cases cat.dialect <;> decide
  | cons c cols =>
    obtain ⟨quoted, hquoted, h⟩ := Result.bind_eq_ok.mp h
    obtain ⟨tuples, -, h⟩ := Result.bind_eq_ok.mp h
    cases h
    obtain ⟨names, hnames, rfl⟩ := exists_names_of_mapM hquoted
    refine ⟨⟨c :: cols, names, hlisted, hnames, ?_⟩, BeginsFirm.append (by decide) _⟩
    have hne : names ≠ [] := by
      rintro rfl
      cases hnames
    rw [columnList, if_neg hne]

/-- In the place in front of the rows stands a clause of its own, or nothing. -/
theorem head?_output {kind : StatementKind} {output : String} (h : d.returningClause cat kind .output = .ok output)
    (rest : List Char) : (output.toList ++ ' ' :: rest).head? = some ' ' := by
  rcases returningClause_eq_ok.mp h with ⟨-, rfl⟩ | ⟨-, columns, -, rfl⟩
  · rfl
  · unfold ReturningStyle.clause
    split
    · rfl
    · simp

theorem InsertsInto.unique {path path' : String} {names names' : List String} (h : d.InsertsInto cat path names)
    (h' : d.InsertsInto cat path' names') : path = path' ∧ names = names' := by
  obtain ⟨v, hv, hpath⟩ := h.table
  obtain ⟨v', hv', hpath'⟩ := h'.table
  cases hv.symm.trans hv'
  obtain ⟨cols, hcols, hnames⟩ := h.columns
  obtain ⟨cols', hcols', hnames'⟩ := h'.columns
  cases hcols.symm.trans hcols'
  exact ⟨Option.some.inj (hpath.symm.trans hpath'),
    (List.map_inj_right fun _ _ => Option.some.inj).mp (hnames.symm.trans hnames')⟩

end Draft

namespace Statement

/-- What stands in front of a statement's own text: its comment and its WITH block. -/
def Fronted (cat : Catalog) (b : Builder Statement) (front : String) : Prop :=
  ∃ comment entries, b.draft.commentText = .ok comment ∧ entryTexts cat b.ctes = .ok entries ∧
    front = comment ++ Cte.block cat.dialect b.ctes entries

/-- Behind its comment and its WITH block, an INSERT reads as what it inserts into. -/
theorem reads_insert {b : Builder Statement} {sql : String} (hkind : b.kind = .insert)
    (h : query cat (.of b) = .ok sql) :
    ∃ front own path names after, Fronted cat b front ∧ sql = front ++ own ∧ b.draft.InsertsInto cat path names ∧
      readInsert cat.dialect.quoteChar own.toList =
        some (⟨Dialect.segments path.toList, names.map String.toList⟩, after) := by
  obtain ⟨comment, entries, body, hcomment, hentries, hbody, rfl⟩ := query_of_eq_ok.mp h
  rw [hkind] at hbody
  obtain ⟨table, columnText, valueText, output, returning, htable, hinserted, houtput, -, rfl⟩ :=
    Draft.insertText_eq_ok.mp hbody
  obtain ⟨v, path, hv, hpath, rfl⟩ := Draft.exists_path_of_quotedTable htable
  obtain ⟨⟨cols, names, hcols, hnames, rfl⟩, hfirm⟩ := Draft.exists_names_of_insertedText hinserted
  set ignore := if b.draft.onIgnore.truth then cat.dialect.capabilities.insertIgnore else none with hignore
  set table := cat.dialect.tablePath path
  set columnText := columnList cat.dialect names
  -- The text is trimmed at its end alone, and that is behind the target.
  let head := Draft.insertLead ignore ++ " " ++ table ++ columnText ++ output ++ " "
  let tail := valueText ++ (if ignore = some .onConflict then " ON CONFLICT DO NOTHING" else "") ++ returning
  have hsplit : b.draft.insertAround cat table output returning columnText valueText = head ++ tail := by
    simp only [Draft.insertAround, ← hignore, head, tail, String.append_assoc]
  have hhead : BeginsFirm head := by
    simp only [head, String.append_assoc]
    exact (Draft.beginsFirm_insertLead ignore).append _
  have hfront : BeginsFirm (comment ++ Cte.block cat.dialect b.ctes entries ++ head) := by
    rw [String.append_assoc]
    exact Draft.beginsFirm_commentText_append hcomment (Cte.beginsFirm_block_append b.ctes entries hhead)
  have htail : BeginsFirm tail := by
    simp only [tail, String.append_assoc]
    exact hfirm.append _
  have hown : (head ++ Text.trim tail).toList = (Draft.insertLead ignore).toList ++
      ' ' :: (table.toList ++ (columnText.toList ++ (output.toList ++ ' ' :: (Text.trim tail).toList))) := by
    simp [head]
  refine ⟨_, head ++ Text.trim tail, path, names, output.toList ++ ' ' :: (Text.trim tail).toList,
    ⟨comment, entries, hcomment, hentries, rfl⟩, ?_, ⟨⟨v, hv, hpath⟩, ⟨cols, hcols, hnames⟩⟩, ?_⟩
  · rw [hsplit, ← String.append_assoc, Text.trim_append_of_begins hfront htail, String.append_assoc]
  · rw [hown]
    exact Quoted.readInsert_append ignore path names (Draft.head?_output houtput _)

theorem Fronted.unique {b : Builder Statement} {front front' : String} (h : Fronted cat b front)
    (h' : Fronted cat b front') : front = front' := by
  obtain ⟨comment, entries, hcomment, hentries, rfl⟩ := h
  obtain ⟨comment', entries', hcomment', hentries', rfl⟩ := h'
  cases hcomment.symm.trans hcomment'
  cases hentries.symm.trans hentries'
  rfl

/-- Behind one front, INSERTs into different tables or of different columns are written differently. -/
theorem target_unique {b b' : Builder Statement} {sql front path path' : String} {names names' : List String}
    (hkind : b.kind = .insert) (hkind' : b'.kind = .insert) (h : query cat (.of b) = .ok sql)
    (h' : query cat (.of b') = .ok sql) (hfront : Fronted cat b front) (hfront' : Fronted cat b' front)
    (hinto : b.draft.InsertsInto cat path names) (hinto' : b'.draft.InsertsInto cat path' names') :
    path = path' ∧ names = names' := by
  obtain ⟨_, own, _, _, after, hown, rfl, hread, htarget⟩ := reads_insert hkind h
  obtain ⟨_, own', _, _, after', hown', hsql, hread', htarget'⟩ := reads_insert hkind' h'
  obtain ⟨rfl, rfl⟩ := hinto.unique hread
  obtain ⟨rfl, rfl⟩ := hinto'.unique hread'
  obtain rfl : own = own' := by
    rw [hown.unique hfront, hown'.unique hfront'] at hsql
    exact (String.append_right_inj front).mp hsql
  have hsame := Option.some.inj (htarget.symm.trans htarget')
  obtain ⟨hpath, hnames⟩ := Target.mk.inj (Prod.ext_iff.mp hsame).1
  exact ⟨Quoted.toList_injective (Quoted.segments_injective hpath),
    (List.map_inj_right fun _ _ => (Quoted.toList_injective ·)).mp hnames⟩

/-- **Quoted names read back.** An identifier is read as its name and a table path as its segments, with nothing left
over, and an INSERT, behind its comment and its WITH block, as its table's path and the names of its columns. So
different names, paths and column lists are written differently, by themselves and in an INSERT. -/
theorem names_read_back (cat : Catalog) :
    (∀ name, (Quoted.identifier cat.dialect.quoteChar).read (cat.dialect.escape name).toList =
      some (name.toList, [])) ∧
    (∀ path, Quoted.readPath cat.dialect.quoteChar (cat.dialect.tablePath path).toList =
        some (Dialect.segments path.toList, []) ∧
      List.intercalate ['.'] (Dialect.segments path.toList) = path.toList ∧
      ∀ s ∈ Dialect.segments path.toList, '.' ∉ s) ∧
    (∀ names, Quoted.readColumns cat.dialect.quoteChar (columnList cat.dialect names).toList =
      some (names.map String.toList, [])) ∧
    (∀ (b : Builder Statement) sql, b.kind = .insert → query cat (.of b) = .ok sql →
      ∃ front own path names after, Fronted cat b front ∧ sql = front ++ own ∧ b.draft.InsertsInto cat path names ∧
        readInsert cat.dialect.quoteChar own.toList =
          some (⟨Dialect.segments path.toList, names.map String.toList⟩, after)) ∧
    Function.Injective cat.dialect.escape ∧ Function.Injective cat.dialect.tablePath ∧
    Function.Injective (columnList cat.dialect) ∧
    (∀ (b b' : Builder Statement) sql front path path' names names', b.kind = .insert → b'.kind = .insert →
      query cat (.of b) = .ok sql → query cat (.of b') = .ok sql → Fronted cat b front → Fronted cat b' front →
      b.draft.InsertsInto cat path names → b'.draft.InsertsInto cat path' names' → path = path' ∧ names = names') := by
  refine ⟨Quoted.read_escape _, fun path => ⟨Quoted.readPath_whole _ path, Quoted.intercalate_segments _,
    fun _ => Quoted.dot_notMem_segments⟩, Quoted.readColumns_whole _, fun _ _ => reads_insert, ?_, ?_, ?_, ?_⟩
  · exact Quoted.injective_of_read Quoted.toList_injective (Quoted.read_escape cat.dialect)
  · have hsegments : Function.Injective fun path : String => Dialect.segments path.toList := fun _ _ h =>
      Quoted.toList_injective (Quoted.segments_injective h)
    exact Quoted.injective_of_read hsegments (Quoted.readPath_whole cat.dialect)
  · exact Quoted.injective_of_read (List.map_injective_iff.mpr Quoted.toList_injective)
      (Quoted.readColumns_whole cat.dialect)
  · intro b b' sql front path path' names names'
    exact target_unique

/-- The path of a table and the names of its columns, with quotes, dots, commas and parentheses in them. -/
def awkwardPath : String := "app.a\x60b..\"c"

def awkwardColumns : List String := ["x\x60, \x60y)", "("]

/-- A row for this table that gives a value for the second column. -/
def awkwardRow : Builder Statement := ({} : Builder Statement).reached { dialect := .mysql }
  [.toInsert, .into (.text awkwardPath) (.list (awkwardColumns.map .text)), .values (.record [("(", .int 1)])]

set_option maxRecDepth 4000 in
/-- The names are read back, and no INSERT into another table or of other columns is written so. -/
theorem names_read_back_awkward : ∃ sql, query { dialect := .mysql } (.of awkwardRow) = .ok sql ∧
    sql = "INSERT INTO \x60app\x60.\x60a\x60\x60b\x60..\x60\"c\x60(\x60x\x60\x60, \x60\x60y)\x60, \x60(\x60) " ++
      "VALUES (DEFAULT, :i0_1)" ∧
    (∃ after : List Char, readInsert '\x60' sql.toList =
      some (⟨["app".toList, "a\x60b".toList, [], "\"c".toList], awkwardColumns.map String.toList⟩, after)) ∧
    ∀ (b : Builder Statement) path names, b.kind = .insert → query { dialect := .mysql } (.of b) = .ok sql →
      Fronted { dialect := .mysql } b "" → b.draft.InsertsInto { dialect := .mysql } path names →
      path = awkwardPath ∧ names = awkwardColumns := by
  have hkind : awkwardRow.kind = .insert := rfl
  have hquery : query { dialect := .mysql } (.of awkwardRow) = .ok
      ("INSERT INTO \x60app\x60.\x60a\x60\x60b\x60..\x60\"c\x60(\x60x\x60\x60, \x60\x60y)\x60, \x60(\x60) " ++
        "VALUES (DEFAULT, :i0_1)") := rfl
  have hinto : awkwardRow.draft.InsertsInto { dialect := .mysql } awkwardPath awkwardColumns :=
    ⟨⟨_, rfl, rfl⟩, ⟨_, rfl, rfl⟩⟩
  have hfront : Fronted { dialect := .mysql } awkwardRow "" := ⟨_, _, rfl, rfl, rfl⟩
  obtain ⟨-, -, -, hreads, -, -, -, hunique⟩ := names_read_back { dialect := .mysql }
  refine ⟨_, hquery, rfl, ?_, fun b path names hkind' hquery' hfront' hinto' =>
    hunique b awkwardRow _ "" _ _ _ _ hkind' hkind hquery' hquery hfront' hfront hinto' hinto⟩
  obtain ⟨front, own, path, names, after, hfront', hsql, hinto', hread⟩ := hreads awkwardRow _ hkind hquery
  obtain ⟨rfl, rfl⟩ := hinto'.unique hinto
  obtain rfl := hfront'.unique hfront
  rw [String.empty_append] at hsql
  exact ⟨after, hsql ▸ hread⟩

end Statement

end SqlWeave
