import SqlWeave.Proofs.Statement.HandedBack

/-!
# Calls with arguments of their kinds

A call takes any values, and keeps as they are those that it does not look at; what is of the wrong kind fails only
when the statement is written. A call is typed when what it keeps is of the kind that the text is made of: texts for
names, for what is selected and for a comment, records for values, and functions among these that supply SQL. Whatever
typed calls are made, and however they end, the statement holds nothing of another kind.
-/

namespace SqlWeave

variable {σ : Type} {cat : Catalog}

/-! ## Kinds of values -/

namespace Value

/-- A text, or a word that counts as one. -/
def IsText (v : Value) : Prop := v.text?.isSome = true

/-- A text, or what counts as none. -/
def IsTextIfAny (v : Value) : Prop := v.truth = true → v.IsText

/-- What can be walked through gives texts. -/
def GivesTexts (v : Value) : Prop := ∀ items ∈ v.elements?, ∀ item ∈ items, item.IsText

/-- A text, or several in a list. -/
def IsSelection : Value → Prop
  | .list items | .tuple items => ∀ item ∈ items, item.IsText
  | v => v.IsText

/-- A function in the place of a value supplies SQL. -/
def IsAssignable (v : Value) : Prop := v.isCallable = true → ∃ sql, v = .fragment sql

/-- Rows, or one row, or none; a row is a record. -/
def AreRows : Value → Prop
  | .null => True
  | .record r => ∀ p ∈ r, p.2.IsAssignable
  | .list rows => ∀ row ∈ rows, ∃ r, row = .record r ∧ ∀ p ∈ r, p.2.IsAssignable
  | _ => False

variable {v w : Value}

theorem isTextIfAny_null : Value.null.IsTextIfAny := nofun

theorem IsText.ifAny (h : v.IsText) : v.IsTextIfAny := fun _ => h

theorem IsTextIfAny.orElse (hv : v.IsTextIfAny) (hw : w.IsText) : (v.orElse w).IsText := by
  unfold Value.orElse
  split
  · next htruth => exact hv htruth
  · exact hw

end Value

structure Alias.IsTyped (a : Alias) : Prop where
  name : a.name.IsText
  path : a.path.IsTextIfAny
  subject : ∀ v, a.subject ≠ some (.other v)

structure Selection.IsTyped (s : Selection) : Prop where
  expression : s.expression.IsText
  name : s.name.IsTextIfAny

def Returning.IsTyped : Returning → Prop
  | .text _ => True
  | .columns names => ∀ v ∈ names, v.IsText

/-- A statement that holds texts and records where it is written from them. -/
structure Draft.IsTyped (d : Draft) : Prop where
  scope : d.scope.Each Alias.IsTyped
  comment : d.comment.IsTextIfAny
  selects : ∀ s ∈ d.selects, s.IsTyped
  values : d.values.AreRows
  columns : ∀ names ∈ d.insertColumns, ∀ v ∈ names, v.IsText
  returning : ∀ r ∈ d.returning, r.IsTyped

structure Cte.IsTyped (c : Cte σ) : Prop where
  name : c.name.IsText
  columns : ∀ names ∈ c.columns, ∀ v ∈ names, v.IsText

structure Builder.IsTyped (b : Builder σ) : Prop where
  draft : b.draft.IsTyped
  ctes : ∀ c ∈ b.ctes, c.IsTyped

/-! ## Typed calls -/

/-- Texts for names, columns, selections and comments, records for values, and SQL from the functions among them. What
a call looks at itself may be anything: a value that it cannot use makes the call fail. -/
def Call.IsTyped : Call σ → Prop
  | .comment text => text.IsTextIfAny
  | .toSelect selection name | .select selection name =>
    selection.isNull = true ∨ selection.IsSelection ∧ name.IsTextIfAny
  | .addSelect selection name => selection.IsSelection ∧ name.IsTextIfAny
  | .addCte _ name columns _ _ => name.IsText ∧ columns.GivesTexts
  | .from _ name => name.IsTextIfAny
  | .into _ columns | .returning columns => columns.GivesTexts
  | .toUpdate _ rows | .values rows | .set rows => rows.AreRows
  | .toInsert | .toDelete | .clone | .useTransaction _ | .callListeners _ | .setParameter .. | .setParameters _
  | .where .. | .whereInIds .. | .orIgnore _ | .updateEntity _ | .orderBy .. | .addOrderBy .. | .limit _ | .offset _
  | .withDeleted => True

theorem Draft.isTyped_empty : ({} : Draft).IsTyped where
  scope := Scope.each_empty
  comment := Value.isTextIfAny_null
  selects := nofun
  values := trivial
  columns := nofun
  returning := nofun

theorem Builder.isTyped_empty : ({} : Builder σ).IsTyped := ⟨Draft.isTyped_empty, nofun⟩

/-- What the statement holds of what was given. -/
def Draft.given (d : Draft) := (d.scope, d.comment, d.selects, d.values, d.insertColumns, d.returning)

theorem Draft.IsTyped.of_given {d d' : Draft} (h : d'.given = d.given) (hd : d.IsTyped) : d'.IsTyped := by
  simp only [given, Prod.mk.injEq] at h
  obtain ⟨hscope, hcomment, hselects, hvalues, hcolumns, hreturning⟩ := h
  exact ⟨hscope ▸ hd.scope, hcomment ▸ hd.comment, hselects ▸ hd.selects, hvalues ▸ hd.values, hcolumns ▸ hd.columns,
    hreturning ▸ hd.returning⟩

namespace Build

theorem typed_selected {selection name : Value} (hselection : selection.IsSelection) (hname : name.IsTextIfAny) :
    ∀ s ∈ selected selection name, s.IsTyped := by
  have hone {v : Value} (hv : v.IsText) : ∀ s ∈ [({ expression := v, name } : Selection)], s.IsTyped :=
    List.forall_mem_singleton.mpr ⟨hv, hname⟩
  cases selection with
  | list items | tuple items =>
    exact List.forall_mem_map.mpr fun item hitem => ⟨hselection item hitem, Value.isTextIfAny_null⟩
  | _ => exact hone hselection

theorem typed_columnNames {columns : Value} (h : columns.GivesTexts) {names? : Option (List Value)}
    (hnames : columnNames columns = .ok names?) : ∀ names ∈ names?, ∀ v ∈ names, v.IsText := by
  unfold columnNames at hnames
  split at hnames
  · cases hnames
    nofun
  · split at hnames
    · next names helements =>
      cases hnames
      exact fun _ heq => Option.some.inj heq ▸ h names helements
    · cases hnames

/-- A target is known by a text, however it is called. -/
theorem typed_stands {target name called path : Value} {subject : Option Registered} (hname : name.IsTextIfAny)
    (h : cat.Stands target name called subject path) (id : Nat) :
    ({ id, name := called, subject, path } : Alias).IsTyped := by
  cases h with
  | entity => exact ⟨hname.orElse rfl, Value.isTextIfAny_null, nofun⟩
  | table _ hpath =>
    have hkey : (Registry.lookupKey target).IsText := Option.isSome_of_eq_some hpath
    exact ⟨hname.orElse hkey, hkey.ifAny, nofun⟩

theorem preserves_typed_setTarget (target : Value) {name : Value} (hname : name.IsTextIfAny) :
    Preserves Draft.IsTyped (setTarget cat target name) := by
  intro d hd
  obtain ⟨scope, hscope, h⟩ := exists_each_setTarget
    (fun id _ _ _ (hstands : cat.Stands target name _ _ _) => typed_stands hname hstands id) hd.scope
  rw [h]
  exact { hd with scope := hscope }

theorem preserves_typed_setReturning {kind : StatementKind} {columns : Value} (h : columns.GivesTexts) :
    Preserves Draft.IsTyped (setReturning cat kind columns) := by
  intro d hd
  have hasked (r : Returning) (hr : Returning.ofValue? columns = some r) : r.IsTyped := by
    unfold Returning.ofValue? at hr
    split at hr
    · cases hr
      trivial
    · obtain ⟨names, hnames, rfl⟩ := Option.map_eq_some_iff.mp hr
      exact h names hnames
  obtain ⟨returning, hreturning, he⟩ := exists_returning_setReturning hasked hd.returning
  rw [he]
  exact { hd with returning := hreturning }

/-- Typed calls keep a statement typed, however they end. -/
theorem preserves_typed_call (kind : StatementKind) {c : Call σ} (hc : c.IsTyped) :
    Preserves Draft.IsTyped (call cat kind c) := by
  have hkeeps {s : Build Unit} (h : Keeps Draft.given s) : Preserves Draft.IsTyped s :=
    preserves_of_keeps (fun _ _ hgiven hd => hd.of_given hgiven) h
  have hbindings : IgnoresBindings Draft.given := ⟨fun _ _ => rfl, fun _ _ _ => rfl⟩
  have hwhere (link : Connector) (criterion : Criterion) (given : Value) :
      Keeps Draft.given (whereCall cat.dialect link criterion given) :=
    keeps_whereCall cat.dialect hbindings (fun _ _ => rfl) link criterion given
  have horder (sort order nulls : Value) : Keeps Draft.given (addOrderBy sort order nulls) :=
    keeps_addOrderBy (fun _ _ => rfl) sort order nulls
  cases c with
  | comment text => exact preserves_modify fun d hd => { hd with comment := hc }
  | «from» target name => exact preserves_typed_setTarget target hc
  | into target columns =>
    refine preserves_bind (preserves_typed_setTarget target Value.isTextIfAny_null) fun _ => ?_
    cases hcolumns : columnNames columns with
    | error f => exact preserves_throw f
    | ok names => exact preserves_modify fun d hd => { hd with columns := typed_columnNames hc hcolumns }
  | returning columns => exact preserves_typed_setReturning hc
  | values rows | set rows => exact preserves_modify fun d hd => { hd with values := hc }
  | select selection name =>
    refine preserves_modify fun d hd => { hd with selects := ?_ }
    split
    · exact List.forall_mem_nil _
    · next hselection =>
      obtain ⟨hselection, hname⟩ := hc.resolve_left hselection
      exact typed_selected hselection hname
  | addSelect selection name =>
    exact preserves_modify fun d hd =>
      { hd with selects := List.forall_mem_append.mpr ⟨hd.selects, typed_selected hc.1 hc.2⟩ }
  | «where» link criterion given => exact hkeeps (hwhere link criterion given)
  | whereInIds link ids =>
    exact hkeeps (keeps_bind keeps_get fun _ => keeps_bind (keeps_ofExcept _) fun c => hwhere link _ _)
  | setParameter key value => exact hkeeps (keeps_setParameter hbindings key value)
  | setParameters given => exact hkeeps (keeps_setGiven hbindings given)
  | orderBy sort order nulls =>
    exact hkeeps (keeps_bind (keeps_modify fun _ => rfl) fun _ => keeps_ite (horder sort order nulls) (keeps_pure _))
  | addOrderBy sort order nulls => exact hkeeps (horder sort order nulls)
  | orIgnore on => exact hkeeps (keeps_unless (keeps_modify fun _ => rfl))
  | limit given | offset given =>
    exact hkeeps (keeps_bind (keeps_paging _ given) fun _ => keeps_modify fun _ => rfl)
  | useTransaction | callListeners | updateEntity | withDeleted => exact hkeeps (keeps_modify fun _ => rfl)
  | toSelect | toInsert | toUpdate | toDelete | clone | addCte => exact preserves_pure _

end Build

/-- The calls that a typed call is made of are typed. -/
theorem Call.IsTyped.parts {call : Call σ} (h : call.IsTyped) : ∀ c ∈ call.parts, c.IsTyped :=
  Call.forall_mem_parts (fun _ _ h => h) (fun _ _ _ _ => Value.isTextIfAny_null) (fun _ _ h => h) h

namespace Builder

variable {b : Builder σ} {call : Call σ}

theorem IsTyped.ctes_apply (hb : b.IsTyped) (hcall : call.IsTyped) : ∀ c ∈ (b.apply cat call).1.ctes, c.IsTyped := by
  by_cases hcte : ∃ source name columns recursive materialized,
      call = .addCte source name columns recursive materialized
  · obtain ⟨source, name, columns, recursive, materialized, rfl⟩ := hcte
    unfold apply
    dsimp only
    split
    · split
      · next names hnames =>
        have hnew : Cte.IsTyped ⟨source, name, names, recursive, materialized⟩ :=
          ⟨hcall.1, Build.typed_columnNames hcall.2 hnames⟩
        exact List.forall_mem_append.mpr ⟨hb.ctes, List.forall_mem_singleton.mpr hnew⟩
      · exact hb.ctes
    · exact hb.ctes
  · rw [Builder.ctes_apply cat b fun source name columns recursive materialized h =>
      hcte ⟨source, name, columns, recursive, materialized, h⟩]
    exact hb.ctes

/-- A typed call on a typed statement leaves a typed statement, however it ends. -/
theorem IsTyped.apply (hb : b.IsTyped) (hcall : call.IsTyped) : (b.apply cat call).1.IsTyped where
  draft := preserves_apply
    (fun _ _ hd => { hd with scope := hd.scope.copy fun _ _ ha => ⟨ha.name, ha.path, ha.subject⟩ })
    (fun kind c hc => Build.preserves_typed_call kind (hcall.parts c hc)) hb.draft
  ctes := hb.ctes_apply hcall

end Builder

end SqlWeave
