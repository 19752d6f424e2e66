import Mathlib.Data.List.NodupEquivFin
import SqlWeave.Proofs.Statement.Assignments
import SqlWeave.Proofs.Statement.QuotedName

/-!
# Columns that are assigned twice

Nothing keeps two keys of the values from standing for one column, and for the update date and the version of an
entity only the keys are looked at. Main result: a column is assigned at two places of the list after SET exactly when
two keys stand for it, or when it is the update date and the version at once and no key stands for it. So no column is
assigned twice when the keys are properties and the entity's columns can be told apart.
-/

namespace SqlWeave

/-! ## Lists that are related element by element -/

section
variable {α β : Type} {R : α → β → Prop} {as : List α} {bs : List β} {b : β}

theorem mem_right_iff (hR : Relator.RightUnique R) (h : List.Forall₂ R as bs) :
    b ∈ bs ↔ ∃ a ∈ as, R a b := by
  induction h with
  | nil => simp
  | @cons a b' as bs hab _ ih =>
    rw [List.mem_cons, ih, List.exists_mem_cons_iff]
    refine or_congr_left ⟨?_, fun h => hR h hab⟩
    rintro rfl
    exact hab

/-- An element is met twice on the right exactly when two elements on the left are related to it. -/
theorem duplicate_right_iff (hR : Relator.RightUnique R) (h : List.Forall₂ R as bs) (has : as.Nodup) :
    bs.Duplicate b ↔ ∃ a ∈ as, ∃ a' ∈ as, a ≠ a' ∧ R a b ∧ R a' b := by
  induction h with
  | nil => simp
  | @cons a b' as bs hab hrest ih =>
    obtain ⟨ha, has⟩ := List.nodup_cons.mp has
    rw [List.duplicate_cons_iff, ih has, mem_right_iff hR hrest]
    constructor
    · rintro (⟨rfl, a', ha', hr⟩ | ⟨a₁, h₁, a₂, h₂, hne, hr₁, hr₂⟩)
      · exact ⟨a, List.mem_cons_self, a', List.mem_cons_of_mem a ha', fun he => ha (he ▸ ha'), hab, hr⟩
      · exact ⟨a₁, List.mem_cons_of_mem a h₁, a₂, List.mem_cons_of_mem a h₂, hne, hr₁, hr₂⟩
    · rintro ⟨a₁, h₁, a₂, h₂, hne, hr₁, hr₂⟩
      rw [List.mem_cons] at h₁ h₂
      rcases h₁ with rfl | h₁ <;> rcases h₂ with rfl | h₂
      · exact absurd rfl hne
      · exact .inl ⟨hR hab hr₁, a₂, h₂, hr₂⟩
      · exact .inl ⟨hR hab hr₂, a₁, h₁, hr₁⟩
      · exact .inr ⟨a₁, h₁, a₂, h₂, hne, hr₁, hr₂⟩

end

namespace Update

variable {dialect : Dialect} {e? : Option Entity} {values : Record} {items : List Assignment} {column : String}

/-! ## Columns in a list of assignments -/

theorem names_unique (e? : Option Entity) : Relator.RightUnique (Names e?) := by
  intro key name name' h h'
  cases e? with
  | none =>
    cases h
    exact h'.symm
  | some e => exact (Entity.resolves_iff.mp h).symm.trans (Entity.resolves_iff.mp h')

/-- How a column comes to be assigned more than once. -/
inductive Repeats (e? : Option Entity) (values : Record) (column : String) : Prop where
  /-- Two keys stand for it. -/
  | keys {key key' : String} (hkey : key ∈ values.keys) (hkey' : key' ∈ values.keys) (hne : key ≠ key')
    (hnames : Names e? key column) (hnames' : Names e? key' column) : Repeats e? values column
  /-- It is the update date and the version, and no key stands for it. -/
  | added {date version : Column} (hdate : e?.bind Entity.updateDate? = some date)
    (hversion : e?.bind Entity.version? = some version) (hcolumn : date.database = column)
    (hcolumn' : version.database = column) (hfree : ∀ key ∈ values.keys, ¬ Names e? key column) :
    Repeats e? values column

theorem forall₂_keys {given : List Assignment}
    (h : List.Forall₂ (fun p item => Names e? p.1 item.1 ∧ item.2 = p.2) values given) :
    List.Forall₂ (Names e?) values.keys (given.map Prod.fst) := by
  rw [Assoc.keys, List.forall₂_map_left_iff, List.forall₂_map_right_iff]
  exact h.imp fun _ _ hp => hp.1

section
variable {c? : Option Column} {value : Column → Value} {added : List Assignment}

/-- What is added is the column itself, and only where no key stands for it. -/
theorem Adds.mem_iff (h : Adds e? values c? value added) :
    column ∈ added.map Prod.fst ↔
      (∃ c, c? = some c ∧ c.database = column) ∧ ∀ key ∈ values.keys, ¬ Names e? key column := by
  have hkeys {P : String → Prop} : (∀ key ∈ values.keys, P key) ↔ ∀ p ∈ values, P p.1 := List.forall_mem_map
  rw [hkeys]
  cases h with
  | @added c hc hfree =>
    constructor
    · intro h
      cases List.mem_singleton.mp h
      exact ⟨⟨c, hc, rfl⟩, hfree⟩
    · rintro ⟨⟨c', hc', rfl⟩, -⟩
      cases hc.symm.trans hc'
      exact List.mem_singleton_self _
  | kept hused =>
    refine iff_of_false List.not_mem_nil ?_
    rintro ⟨⟨c, hc, rfl⟩, hfree⟩
    obtain ⟨p, hp, hnames⟩ := hused c hc
    exact hfree p hp hnames

theorem Adds.nodup (h : Adds e? values c? value added) : (added.map Prod.fst).Nodup := by
  cases h with
  | added => exact List.nodup_singleton _
  | kept => exact List.nodup_nil

end

theorem duplicate_append_of_not_mem_left {xs ys : List String} (hxs : column ∉ xs) :
    (xs ++ ys).Duplicate column ↔ ys.Duplicate column := by
  rw [List.duplicate_iff_two_le_count, List.duplicate_iff_two_le_count, List.count_append,
    List.count_eq_zero.mpr hxs, Nat.zero_add]

theorem duplicate_append_of_not_mem_right {xs ys : List String} (hys : column ∉ ys) :
    (xs ++ ys).Duplicate column ↔ xs.Duplicate column := by
  rw [List.duplicate_iff_two_le_count, List.duplicate_iff_two_le_count, List.count_append,
    List.count_eq_zero.mpr hys, Nat.add_zero]

theorem duplicate_append_nodup_iff {xs ys : List String} (hxs : xs.Nodup) (hys : ys.Nodup) :
    (xs ++ ys).Duplicate column ↔ column ∈ xs ∧ column ∈ ys := by
  rw [List.duplicate_iff_two_le_count, List.count_append, hxs.count, hys.count]
  by_cases hx : column ∈ xs <;> by_cases hy : column ∈ ys <;> simp [hx, hy]

/-- A column stands twice among the assignments exactly when it repeats. -/
theorem IsSetList.duplicate_iff (h : IsSetList dialect e? values items) (hkeys : values.keys.Nodup) :
    (items.map Prod.fst).Duplicate column ↔ Repeats e? values column := by
  obtain ⟨given, dates, versions, rfl, hgiven, hdates, hversions⟩ := h
  have hnames := forall₂_keys hgiven
  have hmem := mem_right_iff (b := column) (names_unique e?) hnames
  rw [List.map_append, List.map_append, List.append_assoc]
  by_cases hused : ∃ key ∈ values.keys, Names e? key column
  · -- A key stands for the column, so the entity adds it neither as the date nor as the version.
    have hfree : ¬ ∀ key ∈ values.keys, ¬ Names e? key column := by simpa using hused
    have hnone : column ∉ dates.map Prod.fst ++ versions.map Prod.fst := by
      rw [List.mem_append, hdates.mem_iff, hversions.mem_iff]
      tauto
    rw [duplicate_append_of_not_mem_right hnone, duplicate_right_iff (names_unique e?) hnames hkeys]
    constructor
    · rintro ⟨key, hkey, key', hkey', hne, hn, hn'⟩
      exact .keys hkey hkey' hne hn hn'
    · intro h
      cases h with
      | keys hkey hkey' hne hn hn' => exact ⟨_, hkey, _, hkey', hne, hn, hn'⟩
      | added _ _ _ _ h => exact absurd h hfree
  · rw [duplicate_append_of_not_mem_left (hmem.not.mpr hused), duplicate_append_nodup_iff hdates.nodup hversions.nodup,
      hdates.mem_iff, hversions.mem_iff]
    constructor
    · rintro ⟨⟨⟨date, hdate, hd⟩, hfree⟩, ⟨version, hversion, hv⟩, -⟩
      exact .added hdate hversion hd hv hfree
    · intro h
      cases h with
      | keys hkey _ _ hn => exact absurd ⟨_, hkey, hn⟩ hused
      | added hdate hversion hd hv hfree => exact ⟨⟨⟨_, hdate, hd⟩, hfree⟩, ⟨_, hversion, hv⟩, hfree⟩

/-- Keys that are properties stand for columns of their own, when the columns of the entity can be told apart. -/
theorem not_repeats_of_properties {e : Entity} (hproperties : ∀ key ∈ values.keys, ∃ c ∈ e.columns, c.property = key)
    (hcolumns : (e.columns.map (·.database)).Nodup) (hone : ∀ c ∈ e.columns, c.isUpdateDate → ¬ c.isVersion) :
    ¬ Repeats (some e) values column := by
  have hfound {key : String} (hkey : key ∈ values.keys) (hnames : Names (some e) key column) :
      ∃ c ∈ e.columns, c.property = key ∧ c.database = column := by
    obtain ⟨c, hc, rfl⟩ := hproperties key hkey
    cases hnames with
    | property h => exact ⟨_, List.mem_of_find?_eq_some h, by simpa using List.find?_some h, rfl⟩
    | column hproperty => exact absurd rfl (hproperty c hc)
    | itself h => exact absurd rfl (h c hc).1
  have hsame {c c' : Column} (hc : c ∈ e.columns) (hc' : c' ∈ e.columns) (h : c.database = c'.database) : c = c' :=
    List.inj_on_of_nodup_map hcolumns hc hc' h
  intro h
  cases h with
  | keys hkey hkey' hne hnames hnames' =>
    obtain ⟨c, hc, rfl, hd⟩ := hfound hkey hnames
    obtain ⟨c', hc', rfl, hd'⟩ := hfound hkey' hnames'
    exact hne (congrArg Column.property (hsame hc hc' (hd.trans hd'.symm)))
  | @added date version hdate hversion hd hv =>
    have hdate : e.columns.find? (·.isUpdateDate) = some date := hdate
    have hversion : e.columns.find? (·.isVersion) = some version := hversion
    obtain rfl : date = version :=
      hsame (List.mem_of_find?_eq_some hdate) (List.mem_of_find?_eq_some hversion) (hd.trans hv.symm)
    exact hone date (List.mem_of_find?_eq_some hdate) (by simpa using List.find?_some hdate)
      (by simpa using List.find?_some hversion)

/-! ## Columns in the text -/

/-- The list after SET assigns the column at place `i`. -/
def AssignsAt (dialect : Dialect) (texts : List String) (i : Nat) (column : String) : Prop :=
  ∃ value, texts[i]? = some (dialect.escape column ++ " = " ++ value)

/-- The column that an assignment begins with can be read off it. -/
theorem column_eq_of_written {column column' value value' : String}
    (h : dialect.escape column ++ " = " ++ value = dialect.escape column' ++ " = " ++ value') : column = column' := by
  have hread (column value : String) : (Quoted.identifier dialect.quoteChar).read
      (dialect.escape column ++ " = " ++ value).toList = some (column.toList, (" = " ++ value).toList) := by
    have hblank : (" = " ++ value).toList.head? ≠ some dialect.quoteChar := by
      rw [String.toList_append]
      cases dialect <;> simp [Dialect.quoteChar]
    rw [String.append_assoc, String.toList_append, Quoted.toList_escape, Quoted.read_identifier _ hblank]
  have hpair := (hread column value).symm.trans (h ▸ hread column' value')
  exact Quoted.toList_injective (congrArg Prod.fst (Option.some.inj hpair))

theorem assignsAt_iff {texts : List String} (h : render dialect 0 items = .ok texts) {i : Nat} :
    AssignsAt dialect texts i column ↔ (items.map Prod.fst)[i]? = some column := by
  have htexts := render_eq_ok.mp h
  have hlength : items.length = texts.length := List.length_zipIdx.symm.trans htexts.length_eq
  rw [List.getElem?_map, Option.map_eq_some_iff]
  constructor
  · rintro ⟨value, hvalue⟩
    obtain ⟨hi, -⟩ := List.getElem?_eq_some_iff.mp hvalue
    rw [← hlength] at hi
    obtain ⟨text, htext, hwritten⟩ := Insert.getElem?_of_forall₂_zipIdx htexts (List.getElem?_eq_getElem hi)
    cases hvalue.symm.trans htext
    refine ⟨_, List.getElem?_eq_getElem hi, ?_⟩
    generalize items[i] = item at hwritten
    generalize hsame : dialect.escape column ++ " = " ++ value = text at hwritten
    cases hwritten with
    | bound => exact (column_eq_of_written hsame).symm
    | supplied => exact (column_eq_of_written hsame).symm
  · rintro ⟨item, hitem, rfl⟩
    obtain ⟨text, htext, hwritten⟩ := Insert.getElem?_of_forall₂_zipIdx htexts hitem
    cases hwritten with
    | bound => exact ⟨_, htext⟩
    | supplied => exact ⟨_, htext⟩

theorem duplicate_iff_places {names : List String} :
    names.Duplicate column ↔ ∃ i j : Nat, i < j ∧ names[i]? = some column ∧ names[j]? = some column := by
  rw [List.duplicate_iff_exists_distinct_get]
  constructor
  · rintro ⟨i, j, hlt, hi, hj⟩
    exact ⟨i, j, hlt, List.getElem?_eq_some_iff.mpr ⟨i.2, hi.symm⟩, List.getElem?_eq_some_iff.mpr ⟨j.2, hj.symm⟩⟩
  · rintro ⟨i, j, hlt, hi, hj⟩
    obtain ⟨hi, hci⟩ := List.getElem?_eq_some_iff.mp hi
    obtain ⟨hj, hcj⟩ := List.getElem?_eq_some_iff.mp hj
    exact ⟨⟨i, hi⟩, ⟨j, hj⟩, hlt, hci.symm, hcj.symm⟩

/-- An UPDATE assigns a column at two places exactly when the column repeats: two keys stand for it, or it is the
update date and the version, and no key stands for it. The same is read off its text, in which the assignments stand
between the quoted table and the clauses that follow them. -/
theorem assigned_twice_iff {cat : Catalog} {b : Builder Statement} {values : Record} {e? : Option Entity}
    (hkind : b.kind = .update) (hvalues : b.draft.assigned = .record values) (hkeys : values.keys.Nodup)
    (hentity : b.draft.entity = .ok e?) :
    ∃ items, assignments cat.dialect b.draft = .ok items ∧
      (∀ column, (items.map Prod.fst).Duplicate column ↔ Repeats e? values column) ∧
      ∀ sql, Statement.query cat (.of b) = .ok sql → ∃ comment entries table output returning texts,
        b.draft.commentText = .ok comment ∧ Statement.entryTexts cat b.ctes = .ok entries ∧
        b.draft.quotedTable cat = .ok table ∧ b.draft.returningClause cat .update .output = .ok output ∧
        b.draft.returningClause cat .update .returning = .ok returning ∧ render cat.dialect 0 items = .ok texts ∧
        sql = Text.trim (comment ++ Cte.block cat.dialect b.ctes entries ++
          b.draft.updateAround table output returning (String.intercalate ", " texts)) ∧
        ∀ column, (∃ i j, i < j ∧ AssignsAt cat.dialect texts i column ∧ AssignsAt cat.dialect texts j column) ↔
          Repeats e? values column := by
  obtain ⟨items, hitems, hlist⟩ : ∃ items, assignments cat.dialect b.draft = .ok items ∧
      IsSetList cat.dialect e? values items := exists_assignments hvalues hentity
  refine ⟨items, hitems, fun column => hlist.duplicate_iff hkeys, fun sql hsql => ?_⟩
  obtain ⟨comment, entries, table, output, returning, texts, hcomment, hentries, htable, houtput, hreturning, htexts,
    rfl⟩ := Draft.query_of_update hkind hitems hsql
  refine ⟨comment, entries, table, output, returning, texts, hcomment, hentries, htable, houtput, hreturning, htexts,
    rfl, fun column => ?_⟩
  simp only [assignsAt_iff htexts]
  rw [← duplicate_iff_places, hlist.duplicate_iff hkeys]

/-! ### A text that is set twice -/

/-- The text of a note by its property and by its column. -/
def twiceValues : Record := [("text", .text "late"), ("body", .text "later")]

/-- An UPDATE that sets the text twice. -/
def ofNotesTwice : Builder Statement :=
  ({} : Builder Statement).reached noteCatalog [.toUpdate (.text "Note") (.record twiceValues)]

set_option maxRecDepth 4000 in
theorem assigned_twice_notes : ofNotesTwice.kind = .update ∧ ofNotesTwice.draft.assigned = .record twiceValues ∧
    twiceValues.keys.Nodup ∧ ofNotesTwice.draft.entity = .ok (some note) ∧
    Statement.query noteCatalog (.of ofNotesTwice) = .ok ("UPDATE \"notes\" SET \"body\" = :upd_0, " ++
      "\"body\" = :upd_1, \"changed_at\" = CURRENT_TIMESTAMP, \"rev\" = \"rev\" + 1") ∧
    ∃ items texts, assignments .postgres ofNotesTwice.draft = .ok items ∧ (items.map Prod.fst).Duplicate "body" ∧
      ∃ i j, i < j ∧ AssignsAt .postgres texts i "body" ∧ AssignsAt .postgres texts j "body" := by
  have hnodup : twiceValues.keys.Nodup := by decide
  have hrepeats : Repeats (some note) twiceValues "body" := by
    have htext : Names (some note) "text" "body" := Entity.resolves_iff.mpr rfl
    have hbody : Names (some note) "body" "body" := Entity.resolves_iff.mpr rfl
    exact .keys (by decide) (by decide) (by decide) htext hbody
  have hvalues : ofNotesTwice.draft.assigned = .record twiceValues := rfl
  have hentity : ofNotesTwice.draft.entity = .ok (some note) := rfl
  have hquery : Statement.query noteCatalog (.of ofNotesTwice) = .ok ("UPDATE \"notes\" SET \"body\" = :upd_0, " ++
      "\"body\" = :upd_1, \"changed_at\" = CURRENT_TIMESTAMP, \"rev\" = \"rev\" + 1") := rfl
  obtain ⟨items, hitems, htwice, hwritten⟩ := assigned_twice_iff rfl hvalues hnodup hentity
  obtain ⟨-, -, -, -, -, texts, -, -, -, -, -, -, -, hplaces⟩ := hwritten _ hquery
  exact ⟨rfl, hvalues, hnodup, hentity, hquery, items, texts, hitems, (htwice "body").mpr hrepeats,
    (hplaces "body").mpr hrepeats⟩

end Update

end SqlWeave
