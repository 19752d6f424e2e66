import SqlWeave.Proofs.Statement.ClearName
import SqlWeave.Proofs.Statement.HandedBack

/-!
# Statements over names without colons

Between the fixed words and the quoted names of a statement, the only colons are those of the references in its
conditions, or in what it writes. So a SELECT and a DELETE have the references of their conditions.
-/

namespace SqlWeave

open Reference (Refers BeginsOpen IsTail)

variable {cat : Catalog} {d : Draft} {rs : List Reference}

namespace Draft

/-! ## The parts of a statement -/

theorem IsClear.entity (hd : d.IsClear) {e : Entity} (he : d.entity = .ok (some e)) : e.IsClear := by
  unfold Draft.entity at he
  split at he
  · next a ha =>
    refine (hd.scope.main a ha).entity e ?_
    unfold Alias.entity at he
    split at he
    · cases he
    · next hsubject =>
      cases he
      exact hsubject
    · cases he
  · cases he

/-- A column is written without a colon, when neither the entity's name for it nor the property has one. -/
theorem noColon_columnReference (hd : d.IsClear) {dialect : Dialect} {property ref : String}
    (hname : ∀ e, d.entity = .ok (some e) → NoColon (e.columnName property))
    (hproperty : (∀ e, d.entity ≠ .ok (some e)) → NoColon property)
    (h : d.columnReference dialect property = .ok ref) : NoColon ref := by
  unfold columnReference at h
  split at h
  · next hmain =>
    cases h
    refine Dialect.noColon_escape (hproperty fun e he => ?_)
    rw [Draft.entity, hmain] at he
    cases he
  · next a hmain =>
    have hentity : d.entity = a.entity := by rw [Draft.entity, hmain]
    have hquoted {column : String} (hcolumn : NoColon column) (h : (if d.qualified then
        dialect.escapeValue a.name >>= fun name => pure (name ++ "." ++ dialect.escape column)
          else pure (dialect.escape column)) = Except.ok ref) : NoColon ref := by
      split at h
      · obtain ⟨name, hname, h⟩ := Result.bind_eq_ok.mp h
        cases h
        have hqualifier := Dialect.noColon_escapeValue (hd.scope.main a hmain).name hname
        exact noColon_append.mpr ⟨noColon_append.mpr ⟨hqualifier, by decide⟩, Dialect.noColon_escape hcolumn⟩
      · cases h
        exact Dialect.noColon_escape hcolumn
    obtain ⟨e?, he, h⟩ := Result.bind_eq_ok.mp h
    unfold Alias.namingEntity at he
    cases e? with
    | some e =>
      refine hquoted (hname e (hentity.trans ?_)) h
      split at he
      · split at he <;> cases he
      · exact he
    | none =>
      refine hquoted (hproperty fun e hsome => ?_) h
      rw [hentity] at hsome
      split at he
      · next hsubject =>
        rw [Alias.entity, hsubject] at hsome
        cases hsome
      · cases he.symm.trans hsome

theorem noColon_quotedTable (hd : d.IsClear) {sql : String} (h : d.quotedTable cat = .ok sql) : NoColon sql := by
  obtain ⟨path, hpath, h⟩ := Result.bind_eq_ok.mp h
  refine Dialect.noColon_tablePathValue ?_ h
  unfold mainTable at hpath
  cases hmain : d.main with
  | none =>
    rw [hmain] at hpath
    cases hpath
  | some a =>
    rw [hmain] at hpath
    have ha := hd.scope.main a hmain
    obtain ⟨e?, he, hpath⟩ := Result.bind_eq_ok.mp hpath
    cases e? with
    | none =>
      cases hpath
      exact ha.path.orElse ha.name
    | some e =>
      cases hpath
      have hentity : d.entity = .ok (some e) := by
        rw [Draft.entity, hmain]
        exact he
      exact Value.isClear_text.mpr (Dialect.noColon_tableName (hd.entity hentity))

theorem noColon_fromText (hd : d.IsClear) {sql : String} (h : d.fromText cat = .ok sql) : NoColon sql := by
  unfold fromText at h
  split at h
  · cases h
    decide
  · next a hmain =>
    obtain ⟨table, htable, h⟩ := Result.bind_eq_ok.mp h
    obtain ⟨name, hname, h⟩ := Result.bind_eq_ok.mp h
    cases h
    have hquoted := Dialect.noColon_escapeValue (hd.scope.main a hmain).name hname
    simp only [noColon_append]
    exact ⟨⟨⟨by decide, noColon_quotedTable hd htable⟩, by decide⟩, hquoted⟩

theorem noColon_selectedText (hd : d.IsClear) {dialect : Dialect} {sql : String}
    (h : d.selectedText dialect = .ok sql) : NoColon sql := by
  unfold selectedText at h
  split at h
  · cases h
    decide
  · obtain ⟨vs, hvs, h⟩ := Result.bind_eq_ok.mp h
    refine Value.noColon_joined (fun v hv => ?_) h
    obtain ⟨s, hs, hselected⟩ := Result.exists_of_mem_mapM hvs hv
    have hclear := hd.selects s hs
    unfold selection at hselected
    split at hselected
    · obtain ⟨name, hname, rfl⟩ := Result.map_eq_ok.mp hselected
      have hquoted := Dialect.noColon_escapeValue hclear.name hname
      rw [Value.isClear_text, noColon_append, noColon_append]
      exact ⟨⟨hclear.expression.display, by decide⟩, hquoted⟩
    · cases hselected
      exact hclear.expression

theorem noColon_softDelete (hd : d.IsClear) {dialect : Dialect} {guard : Option String}
    (h : d.softDelete dialect = .ok guard) : ∀ g ∈ guard, NoColon g := by
  rintro g rfl
  unfold softDelete at h
  split at h
  · cases h
  · obtain ⟨e?, he, h⟩ := Result.bind_eq_ok.mp h
    cases e? with
    | none => cases h
    | some e =>
      dsimp only [Option.bind_some] at h
      split at h
      · next c hc =>
        obtain ⟨ref, href, h⟩ := Result.bind_eq_ok.mp h
        cases h
        refine noColon_append.mpr
          ⟨noColon_columnReference hd (fun e' he' => ?_) (fun hnone => absurd he (hnone e)) href, by decide⟩
        obtain rfl : e = e' := by simpa [he] using he'
        exact (hd.entity he).columnName_property (List.mem_of_find?_eq_some hc)
      · cases h

theorem isTail_orderText (hd : d.IsClear) : IsTail d.orderText := by
  unfold orderText
  split
  · decide
  · refine IsTail.more (by decide) (by decide) (noColon_intercalate (by decide) fun t ht => ?_)
    obtain ⟨⟨key, order⟩, hp, rfl⟩ := List.mem_map.mp ht
    have hkey : NoColon key.display := (hd.orderBys _ hp).display
    have hdirection : NoColon order.direction.word := by cases order.direction <;> decide
    simp only [noColon_append]
    refine ⟨⟨⟨hkey, by decide⟩, hdirection⟩, ?_⟩
    split
    · next n _ => exact noColon_append.mpr ⟨by decide, by cases n <;> decide⟩
    · decide

/-! ### Columns that are handed back -/

theorem exists_column_of_mem_generatedNames {e : Entity} {name : String} (h : name ∈ Insert.generatedNames e) :
    ∃ c ∈ e.columns, c.property = name := by
  rcases mem_of_mem_foldl h with hnone | ⟨c, hc, hname⟩
  · cases hnone
  · exact ⟨c, List.mem_of_mem_filter hc, hname⟩

theorem noColon_returningColumns (hd : d.IsClear) {kind : StatementKind} {r : Option Returning} {sql : String}
    (h : d.returningColumns cat kind r = .ok sql) (htext : ∀ v, r = some (.text v) → v.IsClear)
    (hnames : ∀ names, r = some (.columns names) → ∀ v ∈ names, v.IsClear ∨
      ∃ e c, d.entity = .ok (some e) ∧ c ∈ e.columns ∧ v = .text c.property) : NoColon sql := by
  unfold returningColumns at h
  split at h
  · cases h
    decide
  · next v =>
    cases h
    split
    · exact (htext v rfl).display
    · decide
  · next names =>
    obtain ⟨e?, he, h⟩ := Result.bind_eq_ok.mp h
    cases e? with
    | none =>
      refine Value.noColon_joined (fun v hv => ?_) h
      rcases hnames names rfl v hv with hclear | ⟨e, c, hsome, -⟩
      · exact hclear
      · cases he.symm.trans hsome
    | some e =>
      dsimp only at h
      obtain ⟨columns, hcolumns, h⟩ := Result.bind_eq_ok.mp h
      cases h
      refine noColon_intercalate (by decide) fun t ht => ?_
      obtain ⟨column, hcolumn, rfl⟩ := List.mem_map.mp ht
      refine noColon_append.mpr ⟨?_, ?_⟩
      · split
        · split <;> decide
        · decide
      · obtain ⟨v, hv, hquoted⟩ := Result.exists_of_mem_mapM hcolumns hcolumn
        have hclear := hd.entity he
        rcases hnames names rfl v hv with hv | ⟨e', c, he', hc, rfl⟩
        · split at hquoted
          · next hproperty =>
            cases hquoted
            exact Dialect.noColon_escape (hclear.columnName (hv.text _ hproperty))
          · exact Dialect.noColon_escapeValue hv hquoted
        · cases hquoted
          obtain rfl : e = e' := by simpa [he] using he'
          exact Dialect.noColon_escape (hclear.columnName_property hc)

theorem noColon_returned (hd : d.IsClear) {kind : StatementKind} {sql : String} (h : d.returned cat kind = .ok sql) :
    NoColon sql := by
  -- What is asked for has no colon, and what an INSERT adds are columns of its entity.
  have hasked (h : d.returningColumns cat kind d.returning = .ok sql) : NoColon sql :=
    noColon_returningColumns hd h (fun v hv => hd.returning _ hv)
      fun names hnames v hv => .inl (hd.returning _ hnames v hv)
  have himplicit {r : Option Returning} (hr : Insert.implicitReturning cat d = .ok r)
      (h : d.returningColumns cat kind r = .ok sql) : NoColon sql := by
    unfold Insert.implicitReturning at hr
    obtain ⟨e?, he, hr⟩ := Result.bind_eq_ok.mp hr
    cases e? with
    | none =>
      cases hr
      exact noColon_returningColumns hd h nofun nofun
    | some e =>
      dsimp only at hr
      split at hr
      · cases hr
        refine noColon_returningColumns hd h nofun fun names hnames v hv => .inr ?_
        cases hnames
        obtain ⟨name, hname, rfl⟩ := List.mem_map.mp hv
        obtain ⟨c, hc, rfl⟩ := exists_column_of_mem_generatedNames hname
        exact ⟨e, c, he, hc, rfl⟩
      · cases hr
        exact noColon_returningColumns hd h nofun nofun
  unfold returned at h
  split at h
  · obtain ⟨r, hr, h⟩ := Result.bind_eq_ok.mp h
    unfold Insert.returning at hr
    split at hr
    · next r' hreturning =>
      split at hr
      · exact himplicit hr h
      · cases hr
        exact hasked (hreturning ▸ h)
    · exact himplicit hr h
  · exact hasked h

theorem isTail_returningClause (hd : d.IsClear) {kind : StatementKind} {style : ReturningStyle} {sql : String}
    (h : d.returningClause cat kind style = .ok sql) : IsTail sql := by
  rcases returningClause_eq_ok.mp h with ⟨-, rfl⟩ | ⟨-, columns, hcolumns, rfl⟩
  · decide
  · have hclear := noColon_returned hd hcolumns
    unfold ReturningStyle.clause
    split
    · decide
    · cases style with
      | output | returning => exact IsTail.more (by decide) (by decide) hclear
      | none => exact (by decide : IsTail "")

/-! ## Conditions -/

/-- The WHERE part has the references of the conditions. -/
theorem refers_whereText (guard : Option String) (h : Refers (Condition.renderLevel d.wheres) rs)
    (hguard : ∀ g ∈ guard, NoColon g) : Refers (d.whereText guard) rs ∧ BeginsOpen (d.whereText guard) := by
  have hempty (hstated : Condition.renderLevel d.wheres = "") : rs = [] := by
    rw [hstated] at h
    exact h.references.symm
  unfold whereText
  dsimp only
  cases guard with
  | none =>
    dsimp only
    split
    · next hstated =>
      rw [hempty hstated]
      exact ⟨Reference.refers_of_noColon (by decide), .inl rfl⟩
    · exact ⟨h.after (by decide), BeginsOpen.append (by decide) (by simp)⟩
  | some g =>
    have hg := hguard g rfl
    dsimp only
    split
    · next hstated =>
      rw [hempty hstated]
      exact ⟨Reference.refers_of_noColon (noColon_append.mpr ⟨by decide, hg⟩), BeginsOpen.append (by decide) (by simp)⟩
    · have hjoined : IsTail (" ) AND ( " ++ g ++ " )") :=
        (IsTail.more (by decide) (by decide) hg).append (by decide)
      have hstated : Refers (" WHERE ( " ++ Condition.renderLevel d.wheres) rs := h.after (by decide)
      have htext : " WHERE ( " ++ Condition.renderLevel d.wheres ++ " ) AND ( " ++ g ++ " )" =
          " WHERE ( " ++ Condition.renderLevel d.wheres ++ (" ) AND ( " ++ g ++ " )") := by
        simp only [String.append_assoc]
      rw [htext]
      refine ⟨hstated.before hjoined, ?_⟩
      rw [String.append_assoc]
      exact BeginsOpen.append (by decide) (by simp)

/-! ## Statements that read or delete -/

theorem refers_selectText (hd : d.IsClear) (hwheres : Refers (Condition.renderLevel d.wheres) rs) {sql : String}
    (h : d.selectText cat = .ok sql) : Refers sql rs := by
  obtain ⟨selected, source, hidden, hselected, hsource, hhidden, rfl⟩ := selectText_eq_ok.mp h
  obtain ⟨hwhere, hbegins⟩ := refers_whereText _ hwheres (noColon_softDelete hd hhidden)
  have hlead : NoColon ("SELECT " ++ selected ++ source) := by
    simp only [noColon_append]
    exact ⟨⟨by decide, noColon_selectedText hd hselected⟩, noColon_fromText hd hsource⟩
  have hstated := (Reference.refers_of_noColon hlead).append_beginsOpen hbegins hwhere
  exact (hstated.before (isTail_orderText hd)).before (Dialect.isTail_paging ..)

theorem refers_deleteText (hd : d.IsClear) (hwheres : Refers (Condition.renderLevel d.wheres) rs) {sql : String}
    (h : d.deleteText cat = .ok sql) : Refers sql rs := by
  obtain ⟨table, output, returning, htable, houtput, hreturning, rfl⟩ := deleteText_eq_ok.mp h
  obtain ⟨hwhere, hbegins⟩ := refers_whereText none hwheres nofun
  have hlead : NoColon ("DELETE FROM " ++ table ++ output) := by
    simp only [noColon_append]
    exact ⟨⟨by decide, noColon_quotedTable hd htable⟩, (isTail_returningClause hd houtput).noColon⟩
  have hstated := (Reference.refers_of_noColon hlead).append_beginsOpen hbegins hwhere
  exact hstated.before (isTail_returningClause hd hreturning)

end Draft

end SqlWeave
