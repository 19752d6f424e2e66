import SqlWeave.Proofs.Statement.ClearText

/-!
# Writes over names without colons

An INSERT refers to the values of its cells, row by row, an UPDATE to those of its assignments and then to those
of its conditions. Main result: the references of a statement are the names that are derived when it is
lowered, in the order in which they are derived, and then, in any statement but an INSERT, the references of
its conditions.
-/

namespace SqlWeave

open Reference (Refers IsLead IsTail)

variable {cat : Catalog} {d : Draft} {rs : List Reference}

/-- References to each of some bindings. -/
def Bindings.references (m : Bindings) : List Reference := m.map fun p => ⟨false, p.1⟩

theorem Bindings.references_append (m n : Bindings) : (m ++ n).references = m.references ++ n.references :=
  List.map_append

/-! ## Assignments -/

namespace Draft

theorem IsClear.assigned (hd : d.IsClear) {r : Record} (h : d.assigned = .record r) : Record.IsClear r := by
  have hvalues := hd.values
  unfold Draft.assigned at h
  split at h
  · cases h
    exact List.forall_mem_nil _
  · next v rest hrows =>
    rw [hrows] at hvalues
    obtain ⟨r', rfl, hclear⟩ := hvalues v List.mem_cons_self
    cases h
    exact hclear
  · unfold Value.orElse at h
    split at h
    · rw [h] at hvalues
      exact hvalues
    · cases h
      exact List.forall_mem_nil _

/-- The values that are assigned by name, and after them what the entity adds. -/
theorem assignments_eq_ok {dialect : Dialect} {items : List Update.Assignment}
    (h : Update.assignments dialect d = .ok items) : ∃ r e added, d.assigned = .record r ∧ d.entity = .ok e ∧
      items = Update.explicit e r ++ added ∧
      ∀ p ∈ added, ∃ e' c, e = some e' ∧ c ∈ e'.columns ∧ p.1 = c.database ∧
        (p.2 = .fragment "CURRENT_TIMESTAMP" ∨ p.2 = .fragment (dialect.escape c.database ++ " + 1")) := by
  unfold Update.assignments at h
  split at h
  · next r hr =>
    obtain ⟨e?, he, h⟩ := Result.bind_eq_ok.mp h
    cases e? with
    | none =>
      cases h
      exact ⟨r, none, [], hr, he, (List.append_nil _).symm, List.forall_mem_nil _⟩
    | some e =>
      cases h
      refine ⟨r, some e, _, hr, he, rfl, ?_⟩
      unfold Update.automatic
      refine List.forall_mem_append.mpr ⟨?_, ?_⟩
      · split
        · next c hc =>
          split
          · refine List.forall_mem_singleton.mpr ⟨e, c, rfl, ?_, rfl, .inl rfl⟩
            exact List.mem_of_find?_eq_some hc
          · exact List.forall_mem_nil _
        · exact List.forall_mem_nil _
      · split
        · next c hc =>
          split
          · refine List.forall_mem_singleton.mpr ⟨e, c, rfl, ?_, rfl, .inr rfl⟩
            exact List.mem_of_find?_eq_some hc
          · exact List.forall_mem_nil _
        · exact List.forall_mem_nil _
  · cases h

theorem IsClear.assignments (hd : d.IsClear) {dialect : Dialect} {items : List Update.Assignment}
    (h : Update.assignments dialect d = .ok items) : Record.IsClear items := by
  obtain ⟨r, e, added, hr, he, rfl, hadded⟩ := assignments_eq_ok h
  refine List.forall_mem_append.mpr ⟨fun p hp => ?_, fun p hp => ?_⟩
  · obtain ⟨q, hq, rfl⟩ := List.mem_map.mp hp
    obtain ⟨hkey, hsupplied⟩ := hd.assigned hr q hq
    refine ⟨?_, hsupplied⟩
    cases e with
    | none => exact hkey
    | some e => exact (hd.entity he).columnName hkey
  · obtain ⟨e', c, rfl, hc, hname, hvalue⟩ := hadded p hp
    have hcolumn := (hd.entity he).columns c hc
    refine ⟨hname ▸ hcolumn, fun sql hsql => ?_⟩
    rcases hvalue with hvalue | hvalue
    · rw [hvalue] at hsql
      cases hsql
      decide
    · rw [hvalue] at hsql
      cases hsql
      exact noColon_append.mpr ⟨Dialect.noColon_escape hcolumn, by decide⟩

end Draft

/-- Assignments refer to the values that they bind, in their order. -/
theorem Update.refers_render {dialect : Dialect} {i : Nat} {items : List Assignment} {texts : List String}
    (hitems : Record.IsClear items) (h : render dialect i items = .ok texts) :
    ∃ rss, List.Forall₂ Refers texts rss ∧ rss.flatten = (parametersFrom i items).references := by
  induction items generalizing i texts with
  | nil =>
    cases h
    exact ⟨[], .nil, rfl⟩
  | cons p rest ih =>
    obtain ⟨name, v⟩ := p
    obtain ⟨⟨hname, hsupplied⟩, hrest⟩ := List.forall_mem_cons.mp hitems
    have hlead : IsLead (dialect.escape name ++ " = ") :=
      IsLead.less (Dialect.noColon_escape hname) (by decide) (by decide)
    have hcons {here : String} {rs : List Reference} {more : List String} (hhere : Refers here rs)
        (hmore : render dialect (i + 1) rest = .ok more) :
        ∃ rss, List.Forall₂ Refers ((dialect.escape name ++ " = " ++ here) :: more) rss ∧
          rss.flatten = rs ++ (parametersFrom (i + 1) rest).references := by
      obtain ⟨rss, hrss, hflatten⟩ := ih hrest hmore
      exact ⟨rs :: rss, .cons (hhere.after hlead) hrss, by rw [List.flatten_cons, hflatten]⟩
    unfold render at h
    rw [parametersFrom]
    cases hv : v.isCallable with
    | true =>
      rw [hv] at h
      obtain ⟨here, hhere, h⟩ := Result.bind_eq_ok.mp h
      obtain ⟨more, hmore, h⟩ := Result.bind_eq_ok.mp h
      cases h
      exact hcons (Reference.refers_of_noColon (hsupplied here hhere)) hmore
    | false =>
      rw [hv] at h
      obtain ⟨here, hhere, h⟩ := Result.bind_eq_ok.mp h
      obtain ⟨more, hmore, h⟩ := Result.bind_eq_ok.mp h
      cases h
      cases hhere
      exact hcons (Reference.refers_one (isPlainName_parameterName i)) hmore

/-! ## Cells -/

namespace Insert

variable {dialect : Dialect} {c : InsertColumn} {cols : List InsertColumn} {r : Record} {i j : Nat}

/-- A cell refers to its parameter when its row holds a value that no function supplies. -/
theorem refers_cell {name text : String} {v? : Option Value} (hname : Reference.IsPlainName name)
    (hr : Record.IsClear r) (hheld : held (.record r) c.key = .ok v?) (h : cell dialect name c v? = .ok text) :
    Refers text (if (Value.ofOption v?).isNull || (Value.ofOption v?).isCallable then [] else [⟨false, name⟩]) := by
  unfold cell at h
  split at h
  · cases h
    have hwords : ∀ word ∈ fallbacks, NoColon word := by decide
    exact Reference.refers_of_noColon (hwords _ (fallback_mem dialect c))
  · cases h
    exact Reference.refers_of_noColon (by decide)
  · next v hnull =>
    have hthere : v.isNull = false := by
      cases v with
      | null => exact absurd rfl hnull
      | _ => rfl
    rw [Value.ofOption, hthere, Bool.false_or]
    cases hv : v.isCallable with
    | true =>
      rw [hv] at h
      obtain ⟨p, hp, rfl⟩ := exists_of_held hheld
      exact Reference.refers_of_noColon ((hr p hp).2 text h)
    | false =>
      rw [hv] at h
      cases h
      exact Reference.refers_one hname

/-- The cells of a row refer to the values that they bind, in their order. -/
theorem refers_cells {texts : List String} (hr : Record.IsClear r)
    (h : cells dialect i j (.record r) cols = .ok texts) : ∃ own, cellParameters i j (.record r) cols = .ok own ∧
      ∃ rss, List.Forall₂ Refers texts rss ∧ rss.flatten = own.references := by
  induction cols generalizing j texts with
  | nil =>
    cases h
    exact ⟨[], rfl, [], .nil, rfl⟩
  | cons c rest ih =>
    obtain ⟨v?, hheld, h⟩ := Result.bind_eq_ok.mp h
    obtain ⟨here, hhere, h⟩ := Result.bind_eq_ok.mp h
    obtain ⟨more, hmore, h⟩ := Result.bind_eq_ok.mp h
    cases h
    obtain ⟨own, hown, rss, hrss, hflatten⟩ := ih hmore
    refine ⟨_, Result.bind_eq_ok.mpr ⟨v?, hheld, Result.bind_eq_ok.mpr ⟨own, hown, rfl⟩⟩, _,
      .cons (refers_cell (isPlainName_cellName i j) hr hheld hhere) hrss, ?_⟩
    rw [List.flatten_cons, hflatten]
    split <;> rfl

theorem refers_tuples {rows : List Value} {texts : List String}
    (hrows : ∀ row ∈ rows, ∃ r, row = .record r ∧ Record.IsClear r) (h : tuples dialect i cols rows = .ok texts) :
    ∃ own, rowParameters i cols rows = .ok own ∧
      ∃ rss, List.Forall₂ Refers texts rss ∧ rss.flatten = own.references := by
  induction rows generalizing i texts with
  | nil =>
    cases h
    exact ⟨[], rfl, [], .nil, rfl⟩
  | cons row rest ih =>
    obtain ⟨⟨r, rfl, hr⟩, hrest⟩ := List.forall_mem_cons.mp hrows
    obtain ⟨here, hhere, h⟩ := Result.bind_eq_ok.mp h
    obtain ⟨more, hmore, h⟩ := Result.bind_eq_ok.mp h
    cases h
    obtain ⟨own, hown, rss, hrss, hflatten⟩ := refers_cells hr hhere
    obtain ⟨own', hown', rss', hrss', hflatten'⟩ := ih hrest hmore
    have hcells : Refers ("(" ++ String.intercalate ", " here) rss.flatten :=
      (Reference.refers_intercalate (by decide) hrss).after (by decide)
    refine ⟨own ++ own', Result.bind_eq_ok.mpr ⟨own, hown, Result.bind_eq_ok.mpr ⟨own', hown', rfl⟩⟩, _,
      .cons (hcells.before (by decide)) hrss', ?_⟩
    rw [List.flatten_cons, hflatten, hflatten', Bindings.references_append]

end Insert

/-! ## Rows and columns -/

namespace Draft

theorem IsClear.valueSets (hd : d.IsClear) {rows : List Value} (h : d.valueSets = .ok rows) :
    ∀ row ∈ rows, ∃ r, row = .record r ∧ Record.IsClear r := by
  have hvalues := hd.values
  unfold Draft.valueSets at h
  cases hv : d.values with
  | null =>
    rw [hv] at h
    cases h
    exact List.forall_mem_nil _
  | record r =>
    rw [hv] at h hvalues
    cases h
    exact List.forall_mem_singleton.mpr ⟨r, rfl, hvalues⟩
  | list items | tuple items =>
    rw [hv] at h hvalues
    cases h
    exact hvalues
  | _ =>
    rw [hv] at hvalues
    cases hvalues

end Draft

namespace Insert

theorem allKeys_clear {rows names keys : List Value} (hrows : ∀ row ∈ rows, ∃ r, row = .record r ∧ Record.IsClear r)
    (hnames : ∀ v ∈ names, v.IsClear) (h : allKeys names rows = .ok keys) : ∀ v ∈ keys, v.IsClear := by
  induction rows generalizing names with
  | nil =>
    cases h
    exact hnames
  | cons row rest ih =>
    obtain ⟨⟨r, rfl, hr⟩, hrest⟩ := List.forall_mem_cons.mp hrows
    have hkeys : ∀ v ∈ r.map fun p => Value.text p.1, v.IsClear :=
      List.forall_mem_map.mpr fun p hp => Value.isClear_text.mpr (hr p hp).1
    refine ih hrest (fun v hv => ?_) h
    rcases mem_of_mem_foldl hv with hold | ⟨k, hk, rfl⟩
    · exact hnames v hold
    · exact hkeys k hk

theorem columns_clear {rows : List Value} (hd : d.IsClear)
    (hrows : ∀ row ∈ rows, ∃ r, row = .record r ∧ Record.IsClear r) (h : columns d rows = .ok cols) :
    ∀ c ∈ cols, c.name.IsClear := by
  have hrequested : ∀ v ∈ d.insertColumns.getD [], v.IsClear := by
    cases hcolumns : d.insertColumns with
    | none => exact List.forall_mem_nil _
    | some names => exact hd.columns names hcolumns
  have hkeyed {keys : List Value} (hkeys : ∀ v ∈ keys, v.IsClear) :
      ∀ c ∈ keys.map fun key => ({ key } : InsertColumn), c.name.IsClear := List.forall_mem_map.mpr hkeys
  obtain ⟨e?, he, h⟩ := Result.bind_eq_ok.mp h
  cases e? with
  | none =>
    dsimp only at h
    split at h
    · obtain ⟨keys, hkeys, h⟩ := Result.bind_eq_ok.mp h
      cases h
      exact hkeyed (allKeys_clear hrows (List.forall_mem_nil _) hkeys)
    · cases h
      exact hkeyed hrequested
  | some e =>
    obtain ⟨written, hwritten, h⟩ := Result.bind_eq_ok.mp h
    cases h
    refine List.forall_mem_map.mpr fun c hc => Value.isClear_text.mpr ?_
    exact (hd.entity he).columns c (Result.mem_of_mem_filterM hwritten c hc)

theorem rowParameters_nil (i : Nat) (rows : List Value) : rowParameters i [] rows = .ok [] := by
  induction rows generalizing i with
  | nil => rfl
  | cons row rest ih => exact Result.bind_eq_ok.mpr ⟨[], rfl, Result.bind_eq_ok.mpr ⟨[], ih (i + 1), rfl⟩⟩

/-- Without rows there are columns all the same. -/
theorem exists_columns_nil {e : Option Entity} (he : d.entity = .ok e) : ∃ cols, columns d [] = .ok cols := by
  cases e with
  | none =>
    unfold columns
    rw [he]
    let keyed (keys : List Value) : Result (List InsertColumn) := pure (keys.map fun key => { key })
    show ∃ cols, (if (d.insertColumns.getD []).isEmpty then allKeys [] [] >>= keyed
      else pure (d.insertColumns.getD []) >>= keyed) = Except.ok cols
    split
    · exact ⟨_, rfl⟩
    · exact ⟨_, rfl⟩
  | some e =>
    have htest : ∀ c ∈ e.columns, ∃ b, isWritten [] (d.insertColumns.getD []) c = .ok b := by
      intro c _
      unfold isWritten
      dsimp only
      split
      · exact ⟨false, rfl⟩
      · cases c.isGenerated
        · exact ⟨_, rfl⟩
        · exact ⟨_, rfl⟩
    obtain ⟨written, hwritten⟩ := Result.exists_filterM htest
    exact ⟨_, Result.bind_eq_ok.mpr ⟨some e, he, Result.bind_eq_ok.mpr ⟨written, hwritten, rfl⟩⟩⟩

end Insert

/-! ## The text of a write -/

namespace Draft

theorem refers_updateText (hd : d.IsClear) (hwheres : Refers (Condition.renderLevel d.wheres) rs) {sql : String}
    (h : d.updateText cat = .ok sql) :
    ∃ own, Update.parameters cat.dialect d = .ok own ∧ Refers sql (own.references ++ rs) := by
  obtain ⟨items, assigned, table, output, returning, ⟨hitems, -⟩, hassigned, htable, houtput, hreturning, rfl⟩ :=
    updateText_eq_ok.mp h
  refine ⟨_, Result.bind_eq_ok.mpr ⟨items, hitems, rfl⟩, ?_⟩
  obtain ⟨rss, hrss, hflatten⟩ := Update.refers_render (hd.assignments hitems) hassigned
  obtain ⟨hwhere, hbegins⟩ := refers_whereText none hwheres nofun
  have hlead : IsLead ("UPDATE " ++ table ++ " SET ") :=
    IsLead.less (noColon_append.mpr ⟨by decide, noColon_quotedTable hd htable⟩) (by decide) (by decide)
  have hset : Refers ("UPDATE " ++ table ++ " SET " ++ String.intercalate ", " assigned ++ output) rss.flatten :=
    ((Reference.refers_intercalate (by decide) hrss).after hlead).before
      (isTail_returningClause hd houtput)
  rw [← hflatten]
  exact (hset.append_beginsOpen hbegins hwhere).before (isTail_returningClause hd hreturning)

theorem refers_insertedText (hd : d.IsClear) {e : Option Entity} (he : d.entity = .ok e) {columnText valueText : String}
    (h : d.insertedText cat = .ok (columnText, valueText)) :
    NoColon columnText ∧ ∃ own, Insert.parameters d = .ok own ∧ Refers valueText own.references := by
  obtain ⟨rows, hrows, h⟩ := Result.bind_eq_ok.mp h
  have hclear := hd.valueSets hrows
  have hexpression : NoColon cat.dialect.capabilities.emptyInsertExpression := by cases cat.dialect <;> decide
  split at h
  · next hempty =>
    cases h
    obtain ⟨cols, hcols⟩ := Insert.exists_columns_nil he
    obtain rfl := List.isEmpty_iff.mp hempty
    refine ⟨by decide, [], Result.bind_eq_ok.mpr ⟨[], hrows, Result.bind_eq_ok.mpr ⟨cols, hcols, rfl⟩⟩, ?_⟩
    exact Reference.refers_of_noColon hexpression
  · obtain ⟨cols, hcols, h⟩ := Result.bind_eq_ok.mp h
    have hown {own : Bindings} (h : Insert.rowParameters 0 cols rows = .ok own) : Insert.parameters d = .ok own :=
      Result.bind_eq_ok.mpr ⟨rows, hrows, Result.bind_eq_ok.mpr ⟨cols, hcols, h⟩⟩
    dsimp only at h
    split at h
    · next hempty =>
      cases h
      obtain rfl := List.isEmpty_iff.mp hempty
      exact ⟨by decide, [], hown (Insert.rowParameters_nil 0 rows), Reference.refers_of_noColon hexpression⟩
    · obtain ⟨names, hnames, h⟩ := Result.bind_eq_ok.mp h
      obtain ⟨tuples, htuples, h⟩ := Result.bind_eq_ok.mp h
      cases h
      have hlisted : ∀ name ∈ names, NoColon name := fun name hname => by
        obtain ⟨c, hc, hquoted⟩ := Result.exists_of_mem_mapM hnames hname
        exact Dialect.noColon_escapeValue (Insert.columns_clear hd hclear hcols c hc) hquoted
      obtain ⟨own, hparameters, rss, hrss, hflatten⟩ := Insert.refers_tuples hclear htuples
      refine ⟨?_, own, hown hparameters, ?_⟩
      · simp only [noColon_append]
        exact ⟨⟨by decide, noColon_intercalate (by decide) hlisted⟩, by decide⟩
      · rw [← hflatten]
        exact (Reference.refers_intercalate (by decide) hrss).after (by decide)

theorem refers_insertText (hd : d.IsClear) {sql : String} (h : d.insertText cat = .ok sql) :
    ∃ own, Insert.parameters d = .ok own ∧ Refers sql own.references := by
  obtain ⟨table, columnText, valueText, output, returning, htable, hinserted, houtput, hreturning, rfl⟩ :=
    insertText_eq_ok.mp h
  obtain ⟨e, he⟩ := entity_of_quotedTable htable
  obtain ⟨hcolumns, own, hown, hvalues⟩ := refers_insertedText hd he hinserted
  refine ⟨own, hown, ?_⟩
  have hwords (style : Option IgnoreStyle) : NoColon (insertLead style) := by
    rcases style with _ | style
    · decide
    · cases style <;> decide
  have hconflict (style : Option IgnoreStyle) :
      IsTail (if style = some .onConflict then " ON CONFLICT DO NOTHING" else "") := by
    split
    · decide
    · decide
  have htable := noColon_quotedTable hd htable
  have houtput := (isTail_returningClause hd houtput).noColon
  refine ((hvalues.after (IsLead.less ?_ (by decide) (by decide))).before (hconflict _)).before
    (isTail_returningClause hd hreturning)
  simp only [noColon_append]
  exact ⟨⟨⟨⟨hwords _, by decide⟩, htable⟩, hcolumns⟩, houtput⟩

/-- A statement refers to the names that are derived when it is lowered, and then, if it is no INSERT, to those
of its conditions. -/
theorem refers_statementText (hd : d.IsClear) (hwheres : Refers (Condition.renderLevel d.wheres) rs)
    {kind : StatementKind} {sql : String} (h : d.statementText cat kind = .ok sql) :
    ∃ own, d.statementParameters cat kind = .ok own ∧
      Refers sql (own.references ++ if kind = .insert then [] else rs) := by
  cases kind with
  | select => exact ⟨[], rfl, refers_selectText hd hwheres h⟩
  | delete => exact ⟨[], rfl, refers_deleteText hd hwheres h⟩
  | update => exact refers_updateText hd hwheres h
  | insert =>
    obtain ⟨own, hown, hsql⟩ := refers_insertText hd h
    refine ⟨own, hown, ?_⟩
    rw [if_pos rfl, List.append_nil]
    exact hsql

end Draft

end SqlWeave
