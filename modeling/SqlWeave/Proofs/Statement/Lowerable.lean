import SqlWeave.Proofs.Statement.Assignments
import SqlWeave.Proofs.Statement.Layout
import SqlWeave.Proofs.Statement.Typed

/-!
# When a statement can be written

Every part of a typed statement can be written but two: a write needs a table, and an UPDATE needs something to set.
So a statement that typed calls lead to is refused only for these, in itself or in a statement of its WITH block, and
the refusal that it ends with is the one that the first such statement ends with.
-/

namespace SqlWeave

variable {cat : Catalog}

/-- The failure is a problem of this library: a value or a call is refused. -/
def Failure.IsRefusal (f : Failure) : Prop := ∃ problem, f = .problem problem none ∧ problem.code = .code .validation

theorem Failure.isRefusal_validation (message : String) (field value : Value) :
    (Failure.validation message field value).IsRefusal := ⟨_, rfl, rfl⟩

theorem Value.IsText.exists_escapeValue {v : Value} (h : v.IsText) (dialect : Dialect) :
    ∃ quoted, dialect.escapeValue v = .ok quoted := Dialect.exists_escapeValue.mpr h

/-- Texts can be joined. -/
theorem Value.exists_joined {vs : List Value} (h : ∀ v ∈ vs, v.IsText) (between : String) :
    ∃ sql, Value.joined between vs = .ok sql := by
  unfold Value.joined
  refine Result.exists_mapM_bind (fun v hv => ?_) fun texts _ => ⟨_, rfl⟩
  obtain ⟨s, hs⟩ := Option.isSome_iff_exists.mp (h v hv)
  exact ⟨s, by rw [hs]⟩

theorem Alias.IsTyped.exists_entity {a : Alias} (ha : a.IsTyped) :
    ∃ e, a.entity = .ok e ∧ a.namingEntity = .ok e := by
  unfold namingEntity Alias.entity
  cases hsubject : a.subject with
  | none => exact ⟨none, rfl, rfl⟩
  | some subject =>
    cases subject with
    | entity e => exact ⟨some e, rfl, rfl⟩
    | other v => exact absurd hsubject (ha.subject v)

namespace Draft

variable {d : Draft}

/-- A write without a table, or an UPDATE with nothing to set. -/
def Incomplete (cat : Catalog) (kind : StatementKind) (d : Draft) : Prop :=
  kind ∈ [.insert, .update, .delete] ∧ d.main = none ∨
    kind = .update ∧ Update.assignments cat.dialect d = .ok []

/-! ## Parts of a typed statement -/

theorem IsTyped.exists_entity (hd : d.IsTyped) : ∃ e, d.entity = .ok e := by
  unfold Draft.entity
  cases hmain : d.main with
  | none => exact ⟨none, rfl⟩
  | some a =>
    obtain ⟨e, he, -⟩ := (hd.scope.main a hmain).exists_entity
    exact ⟨e, he⟩

theorem IsTyped.exists_commentText (hd : d.IsTyped) : ∃ comment, d.commentText = .ok comment := by
  unfold commentText
  cases htruth : d.comment.truth with
  | false => exact ⟨"", rfl⟩
  | true =>
    obtain ⟨text, htext⟩ := Option.isSome_iff_exists.mp (hd.comment htruth)
    exact ⟨_, Result.map_eq_ok.mpr ⟨text, Dialect.nameText_of_text htext, rfl⟩⟩

/-- With a main alias there is a table. -/
theorem IsTyped.exists_quotedTable (hd : d.IsTyped) (cat : Catalog) {a : Alias} (hmain : d.main = some a) :
    ∃ table, d.quotedTable cat = .ok table := by
  have ha := hd.scope.main a hmain
  obtain ⟨path, hpath, htext⟩ : ∃ path, d.mainTable cat = .ok path ∧ path.IsText := by
    unfold mainTable
    rw [hmain]
    obtain ⟨e?, he, -⟩ := ha.exists_entity
    cases e? with
    | some e => exact ⟨_, Result.bind_eq_ok.mpr ⟨_, he, rfl⟩, rfl⟩
    | none => exact ⟨_, Result.bind_eq_ok.mpr ⟨_, he, rfl⟩, ha.path.orElse ha.name⟩
  obtain ⟨text, htext⟩ := Option.isSome_iff_exists.mp htext
  exact ⟨_, Result.bind_eq_ok.mpr ⟨path, hpath,
    Result.map_eq_ok.mpr ⟨text, Dialect.nameText_of_text htext, rfl⟩⟩⟩

theorem quotedTable_of_unset (hmain : d.main = none) : d.quotedTable cat = .error .mainAliasUnset := by
  unfold quotedTable mainTable
  rw [hmain]
  rfl

theorem IsTyped.exists_fromText (hd : d.IsTyped) (cat : Catalog) : ∃ source, d.fromText cat = .ok source := by
  unfold fromText
  cases hmain : d.main with
  | none => exact ⟨"", rfl⟩
  | some a =>
    obtain ⟨table, htable⟩ := hd.exists_quotedTable cat hmain
    obtain ⟨name, hname⟩ := (hd.scope.main a hmain).name.exists_escapeValue cat.dialect
    exact ⟨_, Result.bind_eq_ok.mpr ⟨table, htable, Result.bind_eq_ok.mpr ⟨name, hname, rfl⟩⟩⟩

theorem IsTyped.exists_columnReference (hd : d.IsTyped) (dialect : Dialect) (property : String) :
    ∃ column, d.columnReference dialect property = .ok column := by
  unfold columnReference
  cases hmain : d.main with
  | none => exact ⟨_, rfl⟩
  | some a =>
    have ha := hd.scope.main a hmain
    obtain ⟨e, -, he⟩ := ha.exists_entity
    obtain ⟨name, hname⟩ := ha.name.exists_escapeValue dialect
    dsimp only
    rw [he, hname]
    cases d.qualified <;> exact ⟨_, rfl⟩

theorem IsTyped.exists_softDelete (hd : d.IsTyped) (dialect : Dialect) :
    ∃ hidden, d.softDelete dialect = .ok hidden := by
  obtain ⟨e, he⟩ := hd.exists_entity
  unfold softDelete
  rw [he]
  cases d.withDeleted with
  | true => exact ⟨none, rfl⟩
  | false =>
    cases hcolumn : e.bind (·.deleteDate?) with
    | none => exact ⟨none, Result.bind_eq_ok.mpr ⟨e, rfl, by rw [hcolumn]; rfl⟩⟩
    | some c =>
      obtain ⟨column, hreference⟩ := hd.exists_columnReference dialect c.property
      refine ⟨some (column ++ " IS NULL"), Result.bind_eq_ok.mpr ⟨e, rfl, ?_⟩⟩
      rw [hcolumn]
      exact Result.bind_eq_ok.mpr ⟨column, hreference, rfl⟩

theorem IsTyped.exists_selectedText (hd : d.IsTyped) (dialect : Dialect) :
    ∃ selected, d.selectedText dialect = .ok selected := by
  have hselection : ∀ s ∈ d.selects, ∃ v, selection dialect s = .ok v ∧ v.IsText := by
    intro s hs
    unfold selection
    split
    · next htruth =>
      obtain ⟨name, hname⟩ := ((hd.selects s hs).name htruth).exists_escapeValue dialect
      exact ⟨_, Result.map_eq_ok.mpr ⟨name, hname, rfl⟩, rfl⟩
    · exact ⟨_, rfl, (hd.selects s hs).expression⟩
  unfold selectedText
  split
  · exact ⟨"*", rfl⟩
  · refine Result.exists_mapM_bind (fun s hs => (hselection s hs).imp fun _ h => h.1) fun vs hvs => ?_
    refine Value.exists_joined (fun v hv => ?_) ", "
    obtain ⟨s, hs, hv⟩ := Result.exists_of_mem_mapM hvs hv
    obtain ⟨v', hv', htext⟩ := hselection s hs
    obtain rfl := Except.ok.inj (hv.symm.trans hv')
    exact htext

/-- What an INSERT hands back without being asked are properties of its entity. -/
theorem IsTyped.exists_insertReturning (hd : d.IsTyped) (cat : Catalog) : ∃ asked, Insert.returning cat d = .ok asked ∧
    ∀ r ∈ asked, r.IsTyped := by
  have himplicit : ∃ asked, Insert.implicitReturning cat d = .ok asked ∧ ∀ r ∈ asked, r.IsTyped := by
    obtain ⟨e, he⟩ := hd.exists_entity
    unfold Insert.implicitReturning
    rw [he]
    cases e with
    | none => exact ⟨none, rfl, nofun⟩
    | some e =>
      by_cases hreturns : (d.updateEntity.truth && cat.dialect.returns .insert) = true
      · refine ⟨_, Result.bind_eq_ok.mpr ⟨_, rfl, if_pos hreturns⟩, fun r hr => ?_⟩
        cases hr
        exact List.forall_mem_map.mpr fun _ _ => rfl
      · exact ⟨none, Result.bind_eq_ok.mpr ⟨_, rfl, if_neg hreturns⟩, nofun⟩
  unfold Insert.returning
  split
  · next r hr =>
    split
    · exact himplicit
    · exact ⟨some r, rfl, fun r' hr' => hd.returning r' (hr.trans hr')⟩
  · exact himplicit

theorem IsTyped.exists_returningColumns (hd : d.IsTyped) (kind : StatementKind) {asked : Option Returning}
    (hasked : ∀ r ∈ asked, r.IsTyped) : ∃ columns, d.returningColumns cat kind asked = .ok columns := by
  unfold returningColumns
  split
  · exact ⟨"", rfl⟩
  · exact ⟨_, rfl⟩
  · next names =>
    have hnames : ∀ v ∈ names, v.IsText := hasked (.columns names) rfl
    obtain ⟨e, he⟩ := hd.exists_entity
    rw [he]
    cases e with
    | none => exact Value.exists_joined hnames ", "
    | some e =>
      refine Result.exists_mapM_bind (fun v hv => ?_) fun columns _ => ⟨_, rfl⟩
      obtain ⟨s, hs⟩ := Option.isSome_iff_exists.mp (hnames v hv)
      exact ⟨_, by rw [hs]⟩

theorem IsTyped.exists_returned (hd : d.IsTyped) (cat : Catalog) (kind : StatementKind) :
    ∃ columns, d.returned cat kind = .ok columns := by
  unfold returned
  dsimp only
  split
  · obtain ⟨asked, hasked, htyped⟩ := hd.exists_insertReturning cat
    rw [hasked]
    exact hd.exists_returningColumns kind htyped
  · exact hd.exists_returningColumns kind hd.returning

theorem IsTyped.exists_returningClause (hd : d.IsTyped) (cat : Catalog) (kind : StatementKind)
    (style : ReturningStyle) : ∃ text, d.returningClause cat kind style = .ok text := by
  obtain ⟨columns, hcolumns⟩ := hd.exists_returned cat kind
  by_cases hstyle : cat.dialect.capabilities.returningStyle = style
  · exact ⟨_, returningClause_eq_ok.mpr (.inr ⟨hstyle, columns, hcolumns, rfl⟩)⟩
  · exact ⟨"", returningClause_eq_ok.mpr (.inl ⟨hstyle, rfl⟩)⟩

/-! ## Rows and assignments of a typed statement -/

theorem IsTyped.exists_valueSets (hd : d.IsTyped) : ∃ rows : List Record, d.valueSets = .ok (rows.map .record) ∧
    ∀ row ∈ rows, ∀ p ∈ row, p.2.IsAssignable := by
  have hvalues := hd.values
  unfold valueSets
  cases hgiven : d.values with
  | null => exact ⟨[], rfl, nofun⟩
  | record r =>
    rw [hgiven] at hvalues
    exact ⟨[r], rfl, List.forall_mem_singleton.mpr hvalues⟩
  | list rows =>
    rw [hgiven] at hvalues
    clear hgiven
    suffices h : ∃ records : List Record, rows = records.map .record ∧ ∀ row ∈ records, ∀ p ∈ row, p.2.IsAssignable by
      obtain ⟨records, rfl, hrecords⟩ := h
      exact ⟨records, rfl, hrecords⟩
    induction rows with
    | nil => exact ⟨[], rfl, nofun⟩
    | cons row rows ih =>
      obtain ⟨⟨r, rfl, hr⟩, hrest⟩ := List.forall_mem_cons.mp hvalues
      obtain ⟨records, rfl, hrecords⟩ := ih hrest
      exact ⟨r :: records, rfl, List.forall_mem_cons.mpr ⟨hr, hrecords⟩⟩
  | _ =>
    rw [hgiven] at hvalues
    exact hvalues.elim

/-- The columns of an INSERT have names, with an entity or without one. -/
theorem IsTyped.exists_columns (hd : d.IsTyped) (rows : List Record) : ∃ cols,
    Insert.columns d (rows.map .record) = .ok cols ∧ ∀ c ∈ cols, c.name.IsText := by
  obtain ⟨e?, he⟩ := hd.exists_entity
  cases e? with
  | some e =>
    refine ⟨_, Insert.columns_of_entity he rows, List.forall_mem_map.mpr fun c _ => ?_⟩
    exact rfl
  | none =>
    refine ⟨_, Insert.columns_without_entity he rows, List.forall_mem_map.mpr fun key hkey => ?_⟩
    split at hkey
    · obtain ⟨name, -, rfl⟩ := List.mem_map.mp hkey
      exact rfl
    · cases hcolumns : d.insertColumns with
      | none =>
        rw [hcolumns] at hkey
        cases hkey
      | some names =>
        rw [hcolumns] at hkey
        exact hd.columns names hcolumns key hkey

theorem IsTyped.exists_insertedText (hd : d.IsTyped) (cat : Catalog) : ∃ texts, d.insertedText cat = .ok texts := by
  obtain ⟨rows, hrows, hassignable⟩ := hd.exists_valueSets
  obtain ⟨cols, hcols, hnames⟩ := hd.exists_columns rows
  by_cases hfilled : cols = []
  · exact ⟨_, insertedText_without_columns hrows (hfilled ▸ hcols)⟩
  · by_cases hne : rows = []
    · subst hne
      refine ⟨("", cat.dialect.capabilities.emptyInsertExpression), ?_⟩
      rw [insertedText, hrows]
      rfl
    · refine (Insert.exists_insertedText hrows hne hcols hfilled).mpr ⟨hnames, ?_⟩
      intro row hrow c hc v hheld
      obtain ⟨key, hkey⟩ := Insert.key_of_mem_columns hcols hc (hnames c hc)
      rw [Insert.held_of_text hkey] at hheld
      exact hassignable row hrow (key, v) (Assoc.mem_of_get? (Except.ok.inj hheld))

theorem IsTyped.exists_assigned (hd : d.IsTyped) : ∃ values : Record, d.assigned = .record values ∧
    ∀ p ∈ values, p.2.IsAssignable := by
  have hvalues := hd.values
  unfold assigned
  cases hgiven : d.values with
  | null => exact ⟨[], rfl, nofun⟩
  | record r =>
    rw [hgiven] at hvalues
    cases r with
    | nil => exact ⟨[], rfl, nofun⟩
    | cons p r => exact ⟨p :: r, rfl, hvalues⟩
  | list rows =>
    rw [hgiven] at hvalues
    cases rows with
    | nil => exact ⟨[], rfl, nofun⟩
    | cons row rows => exact hvalues row List.mem_cons_self
  | _ =>
    rw [hgiven] at hvalues
    exact hvalues.elim

/-- The list of assignments can be made and written, even when it is empty. -/
theorem IsTyped.exists_assignments (hd : d.IsTyped) (dialect : Dialect) : ∃ items texts,
    Update.assignments dialect d = .ok items ∧ Update.render dialect 0 items = .ok texts := by
  obtain ⟨values, hvalues, hassignable⟩ := hd.exists_assigned
  obtain ⟨e, he⟩ := hd.exists_entity
  obtain ⟨items, hitems, hlist⟩ : ∃ items, Update.assignments dialect d = .ok items ∧
    Update.IsSetList dialect e values items := Update.exists_assignments hvalues he
  obtain ⟨texts, htexts⟩ : ∃ texts, Update.render dialect 0 items = .ok texts :=
    Update.exists_render.mpr (hlist.forall_supplied.mpr hassignable)
  exact ⟨items, texts, hitems, htexts⟩

/-! ## The statement itself -/

/-- A typed statement can be written, unless something is missing. -/
theorem IsTyped.exists_statementText (hd : d.IsTyped) {kind : StatementKind} (h : ¬ d.Incomplete cat kind) :
    ∃ sql, d.statementText cat kind = .ok sql := by
  have hmain (hwrite : kind ∈ [.insert, .update, .delete]) : ∃ table, d.quotedTable cat = .ok table := by
    cases hmain : d.main with
    | none => exact absurd (.inl ⟨hwrite, hmain⟩) h
    | some a => exact hd.exists_quotedTable cat hmain
  obtain ⟨output, houtput⟩ := hd.exists_returningClause cat kind .output
  obtain ⟨returning, hreturning⟩ := hd.exists_returningClause cat kind .returning
  cases kind with
  | select =>
    obtain ⟨selected, hselected⟩ := hd.exists_selectedText cat.dialect
    obtain ⟨source, hsource⟩ := hd.exists_fromText cat
    obtain ⟨hidden, hhidden⟩ := hd.exists_softDelete cat.dialect
    exact ⟨_, selectText_eq_ok.mpr ⟨selected, source, hidden, hselected, hsource, hhidden, rfl⟩⟩
  | insert =>
    obtain ⟨table, htable⟩ := hmain (by decide)
    obtain ⟨⟨columnText, valueText⟩, hinserted⟩ := hd.exists_insertedText cat
    exact ⟨_, insertText_eq_ok.mpr
      ⟨table, columnText, valueText, output, returning, htable, hinserted, houtput, hreturning, rfl⟩⟩
  | update =>
    obtain ⟨table, htable⟩ := hmain (by decide)
    obtain ⟨items, texts, hitems, htexts⟩ := hd.exists_assignments cat.dialect
    have hne : items ≠ [] := fun hnil => h (.inr ⟨rfl, hnil ▸ hitems⟩)
    exact ⟨_, updateText_eq_ok.mpr
      ⟨items, texts, table, output, returning, ⟨hitems, hne⟩, htexts, htable, houtput, hreturning, rfl⟩⟩
  | delete =>
    obtain ⟨table, htable⟩ := hmain (by decide)
    exact ⟨_, deleteText_eq_ok.mpr ⟨table, output, returning, htable, houtput, hreturning, rfl⟩⟩

/-- What is missing is said. -/
theorem IsTyped.statementText_of_incomplete (hd : d.IsTyped) {kind : StatementKind} (h : d.Incomplete cat kind) :
    ∃ f, d.statementText cat kind = .error f ∧ f.IsRefusal := by
  have hunset : Failure.mainAliasUnset.IsRefusal := Failure.isRefusal_validation ..
  obtain ⟨items, texts, hitems, htexts⟩ := hd.exists_assignments cat.dialect
  cases kind with
  | select => exact absurd h (by simp [Incomplete])
  | insert =>
    obtain ⟨-, hmain⟩ := h.resolve_right nofun
    refine ⟨_, ?_, hunset⟩
    rw [statementText, insertText, quotedTable_of_unset hmain]
    rfl
  | delete =>
    obtain ⟨-, hmain⟩ := h.resolve_right nofun
    refine ⟨_, ?_, hunset⟩
    rw [statementText, deleteText, quotedTable_of_unset hmain]
    rfl
  | update =>
    -- The list of assignments is looked at before the table.
    rw [statementText, updateText, hitems]
    cases items with
    | nil => exact ⟨_, rfl, Failure.isRefusal_validation ..⟩
    | cons item items =>
      have hmain : d.main = none := by
        rcases h with ⟨-, hmain⟩ | ⟨-, hnil⟩
        · exact hmain
        · cases hitems.symm.trans hnil
      refine ⟨_, ?_, hunset⟩
      rw [quotedTable_of_unset hmain]
      show Update.render cat.dialect 0 (item :: items) >>= _ = _
      rw [htexts]
      rfl

end Draft

/-! ## WITH blocks -/

theorem Cte.IsTyped.exists_head {σ : Type} {c : Cte σ} (hc : c.IsTyped) (dialect : Dialect) :
    ∃ head, c.head dialect = .ok head := by
  obtain ⟨name, hname⟩ := hc.name.exists_escapeValue dialect
  have htexts : ∀ v ∈ c.columns.getD [], v.IsText := by
    cases hgiven : c.columns with
    | none => exact List.forall_mem_nil _
    | some names => exact hc.columns names hgiven
  obtain ⟨columns, hcolumns⟩ := Result.exists_mapM.mpr fun v hv => (htexts v hv).exists_escapeValue dialect
  exact ⟨_, Result.bind_eq_ok.mpr ⟨name, hname, Result.bind_eq_ok.mpr ⟨columns, hcolumns, rfl⟩⟩⟩

namespace Statement

/-- Entries can be written when what they stand for can be; otherwise they fail as one of them does. -/
theorem entryTexts_cases (cat : Catalog) {ctes : List (Cte Statement)} (h : ∀ c ∈ ctes, c.IsTyped) :
    (∃ texts, entryTexts cat ctes = .ok texts ∧ ∀ c ∈ ctes, ∃ sql, c.inner cat = .ok sql) ∨
      ∃ c ∈ ctes, ∃ f, c.inner cat = .error f ∧ entryTexts cat ctes = .error f := by
  induction ctes with
  | nil => exact .inl ⟨[], by rw [entryTexts], nofun⟩
  | cons c ctes ih =>
    obtain ⟨hc, hrest⟩ := List.forall_mem_cons.mp h
    cases hinner : c.inner cat with
    | error f =>
      refine .inr ⟨c, List.mem_cons_self, f, hinner, ?_⟩
      rw [entryTexts_cons, hinner]
      rfl
    | ok sql =>
      obtain ⟨head, hhead⟩ := hc.exists_head cat.dialect
      rcases ih hrest with ⟨texts, htexts, hinners⟩ | ⟨c', hc', f, hf, htexts⟩
      · exact .inl ⟨_, entryTexts_cons_eq_ok.mpr ⟨head, sql, texts, hhead, hinner, htexts, rfl⟩,
          List.forall_mem_cons.mpr ⟨⟨sql, hinner⟩, hinners⟩⟩
      · refine .inr ⟨c', List.mem_cons_of_mem c hc', f, hf, ?_⟩
        have hrender : c.render cat.dialect sql = .ok (head ++ sql ++ ")") := Result.bind_eq_ok.mpr ⟨head, hhead, rfl⟩
        rw [entryTexts_cons, hinner, htexts]
        show c.render cat.dialect sql >>= _ = _
        rw [hrender]
        rfl

variable {b : Builder Statement}

/-- A typed statement can be written when its WITH block can be and nothing is missing in the statement itself;
otherwise it fails as an entry does, or it says what is missing. -/
theorem query_cases (cat : Catalog) (hb : b.IsTyped) :
    (∃ sql, query cat (.of b) = .ok sql ∧ (∀ c ∈ b.ctes, ∃ sql, c.inner cat = .ok sql) ∧
        ¬ b.draft.Incomplete cat b.kind) ∨
      ∃ f, query cat (.of b) = .error f ∧
        ((∃ c ∈ b.ctes, c.inner cat = .error f) ∨ b.draft.Incomplete cat b.kind ∧ f.IsRefusal) := by
  obtain ⟨comment, hcomment⟩ := hb.draft.exists_commentText
  rw [query_of, hcomment]
  rcases entryTexts_cases cat hb.ctes with ⟨entries, hentries, hinner⟩ | ⟨c, hc, f, hf, hentries⟩
  · rw [hentries]
    by_cases h : b.draft.Incomplete cat b.kind
    · obtain ⟨f, hown, hf⟩ := hb.draft.statementText_of_incomplete h
      rw [hown]
      exact .inr ⟨f, rfl, .inr ⟨h, hf⟩⟩
    · obtain ⟨own, hown⟩ := hb.draft.exists_statementText h
      rw [hown]
      exact .inl ⟨_, rfl, hinner, h⟩
  · rw [hentries]
    exact .inr ⟨f, rfl, .inl ⟨c, hc, hf⟩⟩

/-- When a typed statement cannot be written. -/
theorem query_fails_iff (hb : b.IsTyped) : (∃ f, query cat (.of b) = .error f) ↔
    (∃ c ∈ b.ctes, ∃ f, c.inner cat = .error f) ∨ b.draft.Incomplete cat b.kind := by
  rcases query_cases cat hb with ⟨sql, hsql, hinner, h⟩ | ⟨f, hf, hwhy⟩
  · refine iff_of_false (fun ⟨f, hf⟩ => ?_) (not_or.mpr ⟨fun ⟨c, hc, f, hf⟩ => ?_, h⟩)
    · cases hf.symm.trans hsql
    · obtain ⟨sql, hsql⟩ := hinner c hc
      cases hf.symm.trans hsql
  · exact iff_of_true ⟨f, hf⟩ (hwhy.imp (fun ⟨c, hc, hf⟩ => ⟨c, hc, f, hf⟩) And.left)

/-- A statement that is typed throughout its WITH block, to any depth; the block has an end. -/
inductive IsTyped : Statement → Prop where
  | of {b : Builder Statement} (hb : b.IsTyped)
    (hinner : ∀ c ∈ b.ctes, ∀ s, c.source = .statement s → IsTyped s) : IsTyped (.of b)

/-- A typed statement fails only by a refusal, wherever in its WITH block it fails. -/
theorem IsTyped.isRefusal {s : Statement} (hs : s.IsTyped) {f : Failure} (h : s.query cat = .error f) :
    f.IsRefusal := by
  induction hs generalizing f with
  | @of b hb _ ih =>
    rcases query_cases cat hb with ⟨sql, hsql, -⟩ | ⟨g, hg, hwhy⟩
    · cases h.symm.trans hsql
    · obtain rfl := Except.error.inj (h.symm.trans hg)
      rcases hwhy with ⟨c, hc, hf⟩ | ⟨-, hf⟩
      · unfold Cte.inner at hf
        split at hf
        · cases hf
        · next s hsource => exact ih c hc s hsource hf
      · exact hf

end Statement

end SqlWeave
