import Mathlib.Data.List.Forall2
import SqlWeave.Proofs.Condition.Conversion
import SqlWeave.Proofs.Statement.Derived
import SqlWeave.Proofs.Statement.ValueGrid

/-!
# Assignments and what they refer to

The list after SET has the values that were set, in their order, each under the name that its key stands for; then
the update date and the version of the entity, each unless a key stands for its column. The texts and the values
that they refer to are numbered by two walks over the list. Main result: both walks agree at every place, and they
go over the same list after the statement was copied, or made another kind and an UPDATE again.
-/

namespace SqlWeave

variable {cat : Catalog} {d : Draft}

/-! ## Names -/

namespace Entity

variable {e : Entity} {key name : String}

/-- The name that a key stands for: the column of the property that is called so, or else the column that is itself
called so, or else the key. -/
inductive Resolves (e : Entity) (key : String) : String → Prop where
  | property {c : Column} (h : e.columns.find? (·.property = key) = some c) : Resolves e key c.database
  | column {c : Column} (hproperty : ∀ k ∈ e.columns, k.property ≠ key)
      (h : e.columns.find? (·.database = key) = some c) : Resolves e key c.database
  | itself (h : ∀ k ∈ e.columns, k.property ≠ key ∧ k.database ≠ key) : Resolves e key key

theorem resolves_iff : e.Resolves key name ↔ e.columnName key = name := by
  unfold columnName column?
  constructor
  · intro h
    cases h with
    | property h => rw [h]
    | column hproperty h =>
      have hnone : e.columns.find? (·.property = key) = none := by simpa using hproperty
      rw [hnone, h]
    | itself h =>
      have hproperty : e.columns.find? (·.property = key) = none := by simpa using fun k hk => (h k hk).1
      have hcolumn : e.columns.find? (·.database = key) = none := by simpa using fun k hk => (h k hk).2
      rw [hproperty, hcolumn]
  · rintro rfl
    cases hproperty : e.columns.find? (·.property = key) with
    | some c => exact .property hproperty
    | none =>
      have hnot : ∀ k ∈ e.columns, k.property ≠ key := by simpa using hproperty
      cases hcolumn : e.columns.find? (·.database = key) with
      | some c => exact .column hnot hcolumn
      | none =>
        have hneither : ∀ k ∈ e.columns, k.database ≠ key := by simpa using hcolumn
        exact .itself fun k hk => ⟨hnot k hk, hneither k hk⟩

end Entity

namespace Update

/-- The name that a key of the values stands for, with an entity or without one. -/
def Names : Option Entity → String → String → Prop
  | some e, key, name => e.Resolves key name
  | none, key, name => name = key

/-- A column that an entity adds, unless a key of the values stands for it. -/
inductive Adds (e? : Option Entity) (values : Record) (c? : Option Column) (value : Column → Value) :
    List Assignment → Prop where
  | added {c : Column} (hc : c? = some c) (hfree : ∀ p ∈ values, ¬ Names e? p.1 c.database) :
      Adds e? values c? value [(c.database, value c)]
  | kept (h : ∀ c ∈ c?, ∃ p ∈ values, Names e? p.1 c.database) : Adds e? values c? value []

/-- The list after SET: the values in their order, the update date, the version. -/
def IsSetList (dialect : Dialect) (e? : Option Entity) (values : Record) (items : List Assignment) : Prop :=
  ∃ given dates versions, items = given ++ dates ++ versions ∧
    List.Forall₂ (fun p item => Names e? p.1 item.1 ∧ item.2 = p.2) values given ∧
    Adds e? values (e?.bind Entity.updateDate?) (fun _ => .fragment "CURRENT_TIMESTAMP") dates ∧
    Adds e? values (e?.bind Entity.version?) (fun c => .fragment (dialect.escape c.database ++ " + 1")) versions

section
variable {dialect : Dialect} {e? : Option Entity} {values : Record} {items : List Assignment}

theorem forall₂_explicit :
    List.Forall₂ (fun p item => Names e? p.1 item.1 ∧ item.2 = p.2) values (explicit e? values) := by
  rw [explicit, List.forall₂_map_right_iff, List.forall₂_same]
  intro p _
  cases e? with
  | none => exact ⟨rfl, rfl⟩
  | some e => exact ⟨Entity.resolves_iff.mpr rfl, rfl⟩

theorem mem_explicit {name : String} :
    name ∈ (explicit e? values).map Prod.fst ↔ ∃ p ∈ values, Names e? p.1 name := by
  rw [explicit, List.map_map, List.mem_map]
  refine exists_congr fun p => and_congr_right fun _ => ?_
  cases e? with
  | none => exact eq_comm
  | some e => exact Entity.resolves_iff.symm

theorem Adds.none (value : Column → Value) : Adds e? values none value [] :=
  .kept fun c hc => absurd hc (Option.not_mem_none c)

theorem adds_of_match (c? : Option Column) (value : Column → Value) :
    Adds e? values c? value (match c? with
      | some c => if !((explicit e? values).map Prod.fst).contains c.database then [(c.database, value c)] else []
      | none => []) := by
  cases c? with
  | none => exact .none value
  | some c =>
    dsimp only
    split
    · next h => exact .added rfl fun p hp hnames => by simp [mem_explicit.mpr ⟨p, hp, hnames⟩] at h
    · next h =>
      refine .kept fun c' hc' => ?_
      cases hc'
      exact mem_explicit.mp (by simpa using h)

/-- The assignments of values that were set by name. -/
theorem exists_assignments (hvalues : d.assigned = .record values) (hentity : d.entity = .ok e?) :
    ∃ items, assignments dialect d = .ok items ∧ IsSetList dialect e? values items := by
  unfold assignments
  rw [hvalues]
  cases e? with
  | none =>
    exact ⟨explicit none values, Result.bind_eq_ok.mpr ⟨none, hentity, rfl⟩, _, [], [], by simp, forall₂_explicit,
      .none _, .none _⟩
  | some e =>
    exact ⟨_, Result.bind_eq_ok.mpr ⟨some e, hentity, rfl⟩, _, _, _, (List.append_assoc ..).symm, forall₂_explicit,
      adds_of_match e.updateDate? _, adds_of_match e.version? _⟩

/-- What an entity adds is SQL, so only the values themselves may hold a function that supplies none. -/
theorem IsSetList.forall_supplied (h : IsSetList dialect e? values items) :
    (∀ p ∈ items, p.2.isCallable → ∃ sql, p.2 = .fragment sql) ↔
      ∀ p ∈ values, p.2.isCallable → ∃ sql, p.2 = .fragment sql := by
  obtain ⟨given, dates, versions, rfl, hgiven, hdates, hversions⟩ := h
  have hadded {c? : Option Column} {value : Column → Value} {added : List Assignment}
      (hvalue : ∀ c, ∃ sql, value c = .fragment sql) (h : Adds e? values c? value added) :
      ∀ p ∈ added, p.2.isCallable → ∃ sql, p.2 = .fragment sql := by
    cases h with
    | added => exact List.forall_mem_singleton.mpr fun _ => hvalue _
    | kept => exact List.forall_mem_nil _
  rw [List.forall_mem_append, List.forall_mem_append,
    and_iff_left (hadded (fun _ => ⟨_, rfl⟩) hversions), and_iff_left (hadded (fun _ => ⟨_, rfl⟩) hdates)]
  clear hdates hversions hadded
  induction hgiven with
  | nil => exact iff_of_true (List.forall_mem_nil _) (List.forall_mem_nil _)
  | @cons p item values given hp _ ih =>
    rw [List.forall_mem_cons, List.forall_mem_cons, hp.2]
    exact and_congr_right fun _ => ih

theorem IsSetList.ne_nil (h : IsSetList dialect e? values items) (hne : values ≠ []) : items ≠ [] := by
  obtain ⟨given, dates, versions, rfl, hgiven, -, -⟩ := h
  cases hgiven with
  | nil => exact absurd rfl hne
  | cons => simp

/-! ## Texts -/

/-- An assignment as it is written at place `i`. -/
inductive IsWritten (dialect : Dialect) (i : Nat) : Assignment → String → Prop where
  | bound {name : String} {v : Value} (hv : v.isCallable = false) :
      IsWritten dialect i (name, v) (dialect.escape name ++ " = " ++ (":" ++ parameterName i))
  | supplied {name sql : String} : IsWritten dialect i (name, .fragment sql) (dialect.escape name ++ " = " ++ sql)

theorem render_cons (dialect : Dialect) (i : Nat) (p : Assignment) (rest : List Assignment) :
    render dialect i (p :: rest) =
      (if p.2.isCallable then p.2.supplied else .ok (":" ++ parameterName i)) >>= fun here =>
        render dialect (i + 1) rest >>= fun more => .ok ((dialect.escape p.1 ++ " = " ++ here) :: more) := by
  obtain ⟨name, v⟩ := p
  rw [render]
  dsimp only
  cases v.isCallable <;> rfl

theorem render_eq_ok {i : Nat} {texts : List String} : render dialect i items = .ok texts ↔
    List.Forall₂ (fun item text => IsWritten dialect item.2 item.1 text) (items.zipIdx i) texts := by
  induction items generalizing i texts with
  | nil =>
    rw [List.zipIdx_nil, List.forall₂_nil_left_iff]
    exact ⟨fun h => (Except.ok.inj h).symm, fun h => h ▸ rfl⟩
  | cons p rest ih =>
    obtain ⟨name, v⟩ := p
    rw [List.zipIdx_cons, List.forall₂_cons_left_iff, render_cons]
    constructor
    · intro h
      obtain ⟨here, hhere, h⟩ := Result.bind_eq_ok.mp h
      obtain ⟨more, hmore, h⟩ := Result.bind_eq_ok.mp h
      cases h
      refine ⟨_, more, ?_, ih.mp hmore, rfl⟩
      cases hv : v.isCallable with
      | true =>
        rw [hv, if_pos rfl] at hhere
        obtain rfl := Value.supplied_eq_ok.mp hhere
        exact .supplied
      | false =>
        rw [hv] at hhere
        cases hhere
        exact .bound hv
    · rintro ⟨text, more, hhere, hmore, rfl⟩
      cases hhere with
      | bound hv =>
        refine Result.bind_eq_ok.mpr ⟨":" ++ parameterName i, by rw [hv]; rfl, ?_⟩
        exact Result.bind_eq_ok.mpr ⟨more, ih.mpr hmore, rfl⟩
      | supplied => exact Result.bind_eq_ok.mpr ⟨_, rfl, Result.bind_eq_ok.mpr ⟨more, ih.mpr hmore, rfl⟩⟩

/-- Assignments can be written when every function among the values supplies SQL. -/
theorem exists_render : (∃ texts, render dialect 0 items = .ok texts) ↔
    ∀ p ∈ items, p.2.isCallable → ∃ sql, p.2 = .fragment sql := by
  simp only [render_eq_ok]
  refine Insert.exists_forall₂_zipIdx (fun p k => ?_) items 0
  obtain ⟨name, v⟩ := p
  constructor
  · rintro ⟨text, h⟩ hv
    cases h with
    | bound hnot => cases hv.symm.trans hnot
    | supplied => exact ⟨_, rfl⟩
  · intro h
    cases hv : v.isCallable with
    | true =>
      obtain ⟨sql, rfl⟩ := h hv
      exact ⟨_, .supplied⟩
    | false => exact ⟨_, .bound hv⟩

/-- An assignment refers to its own parameter when its value is no function, unless a function supplies the very text
of the reference. -/
theorem IsWritten.eq_reference_iff {i : Nat} {name : String} {v : Value} {text : String}
    (h : IsWritten dialect i (name, v) text) : text = dialect.escape name ++ " = " ++ (":" ++ parameterName i) ↔
      v.isCallable = false ∨ v = .fragment (":" ++ parameterName i) := by
  cases h with
  | bound hv => exact iff_of_true rfl (.inl hv)
  | @supplied _ sql =>
    rw [String.append_right_inj, Value.fragment.injEq]
    exact (or_iff_right nofun).symm

end

/-- The texts of assignments and the values that are bound for them agree, place by place. -/
structure Agrees (dialect : Dialect) (items : List Assignment) (texts : List String) (own : Bindings) : Prop where
  length : texts.length = items.length
  /-- An assignment refers to the parameter of its place exactly when its value is no function, or when a function
  supplies the very text of the reference. -/
  refers : ∀ {i : Nat} {name : String} {v : Value}, items[i]? = some (name, v) →
    ∃ text, texts[i]? = some text ∧ IsWritten dialect i (name, v) text ∧
      (text = dialect.escape name ++ " = " ++ (":" ++ parameterName i) ↔
        v.isCallable = false ∨ v = .fragment (":" ++ parameterName i))
  /-- Bound are the values that are no functions, and nothing else. -/
  binds : ∀ name v, own.get? name = some v ↔
    ∃ i column, items[i]? = some (column, v) ∧ v.isCallable = false ∧ name = parameterName i
  nodup : own.keys.Nodup

theorem agrees {dialect : Dialect} {items : List Assignment} {texts : List String}
    (h : render dialect 0 items = .ok texts) : Agrees dialect items texts (parametersFrom 0 items) := by
  have htexts := render_eq_ok.mp h
  have hnodup := nodup_parametersFrom 0 items
  refine ⟨(List.Forall₂.length_eq htexts).symm.trans List.length_zipIdx, fun {i name v} hitem => ?_, fun name v => ?_,
    hnodup⟩
  · obtain ⟨text, htext, hwritten⟩ := Insert.getElem?_of_forall₂_zipIdx htexts hitem
    exact ⟨text, htext, hwritten, hwritten.eq_reference_iff⟩
  · have hmem : (parametersFrom 0 items).get? name = some v ↔ (name, v) ∈ parametersFrom 0 items :=
      ⟨Assoc.mem_of_get?, Assoc.get?_of_mem hnodup⟩
    simp only [hmem, mem_parametersFrom, Nat.zero_add]

end Update

/-! ## The statement -/

namespace Draft

/-- The text of an UPDATE stands behind its comment and its WITH block. -/
theorem query_of_update {b : Builder Statement} (hkind : b.kind = .update) {items : List Update.Assignment}
    (hitems : Update.assignments cat.dialect b.draft = .ok items) {sql : String}
    (h : Statement.query cat (.of b) = .ok sql) : ∃ comment entries table output returning texts,
      b.draft.commentText = .ok comment ∧ Statement.entryTexts cat b.ctes = .ok entries ∧
      b.draft.quotedTable cat = .ok table ∧ b.draft.returningClause cat .update .output = .ok output ∧
      b.draft.returningClause cat .update .returning = .ok returning ∧
      Update.render cat.dialect 0 items = .ok texts ∧
      sql = Text.trim (comment ++ Cte.block cat.dialect b.ctes entries ++
        b.draft.updateAround table output returning (String.intercalate ", " texts)) := by
  obtain ⟨comment, entries, body, hcomment, hentries, hbody, rfl⟩ := Statement.query_of_eq_ok.mp h
  rw [hkind] at hbody
  obtain ⟨items', texts, table, output, returning, ⟨hitems', -⟩, htexts, htable, houtput, hreturning, rfl⟩ :=
    updateText_eq_ok.mp hbody
  cases hitems.symm.trans hitems'
  exact ⟨comment, entries, table, output, returning, texts, hcomment, hentries, htable, houtput, hreturning, htexts,
    rfl⟩

end Draft

/-! ## Copies and conversions -/

/-- A call that copies a statement, as it is or to another kind, with its target and its values. -/
inductive Call.Recasts {σ : Type} : Call σ → Prop where
  | clone : Recasts .clone
  | toInsert : Recasts .toInsert
  | toDelete : Recasts .toDelete
  | toSelect (selection name : Value) : Recasts (.toSelect selection name)
  | toUpdate : Recasts (.toUpdate .null .null)

namespace Builder

variable {σ : Type}

/-- What is set and where it is set. -/
def Sets (o d : Draft) : Prop := d.scope.Sound ∧ d.scope.target = o.scope.target ∧ d.values = o.values

theorem sets_next {o : Draft} {b : Builder σ} (h : Sets o b.draft) {call : Call σ} (hcall : call.Recasts) :
    Sets o (b.next cat call).draft := by
  rcases next_cases cat b call with hnext | ⟨-, hnext⟩
  · rw [hnext]
    refine preserves_apply (P := Sets o) (fun d _ hd => ?_) (fun kind c hc => ?_) h
    · exact ⟨hd.1.copy, hd.1.target_copy.trans hd.2.1, hd.2.2⟩
    · cases hcall with
      | toSelect selection name =>
        rw [Call.parts] at hc
        split at hc
        · cases hc
        · cases List.mem_singleton.mp hc
          exact Build.preserves_modify fun _ hd => hd
      | clone | toInsert | toDelete => cases hc
      | toUpdate => cases hc
  · rwa [hnext]

theorem sets_reached {o : Draft} {b : Builder σ} (h : Sets o b.draft) {calls : List (Call σ)}
    (hcalls : ∀ call ∈ calls, call.Recasts) : Sets o (b.reached cat calls).draft := by
  induction calls generalizing b with
  | nil => exact h
  | cons call rest ih =>
    obtain ⟨hcall, hrest⟩ := List.forall_mem_cons.mp hcalls
    exact ih (sets_next h hcall) hrest

end Builder

namespace Update

/-- The assignments of an UPDATE agree with what is bound for them. They are those of the statement that the UPDATE
was made from by copies and conversions. -/
theorem assignments_agree {calls conversions : List (Call Statement)} {b b' : Builder Statement} {values : Record}
    {e? : Option Entity} (hb : ({} : Builder Statement).reached cat calls = b)
    (hconversions : ∀ call ∈ conversions, call.Recasts) (hb' : b.reached cat conversions = b')
    (hkind : b'.kind = .update) (hvalues : b.draft.assigned = .record values) (hne : values ≠ [])
    (hentity : b.draft.entity = .ok e?) :
    ∃ items, IsSetList cat.dialect e? values items ∧ items ≠ [] ∧
      assignments cat.dialect b.draft = .ok items ∧ assignments cat.dialect b'.draft = .ok items ∧
      ((∃ texts, render cat.dialect 0 items = .ok texts) ↔
        ∀ p ∈ values, p.2.isCallable → ∃ sql, p.2 = .fragment sql) ∧
      b'.draft.statementParameters cat b'.kind = .ok (parametersFrom 0 items) ∧
      ∀ sql, Statement.query cat (.of b') = .ok sql → ∃ before table output returning texts,
        b'.draft.quotedTable cat = .ok table ∧ b'.draft.returningClause cat .update .output = .ok output ∧
        b'.draft.returningClause cat .update .returning = .ok returning ∧
        Agrees cat.dialect items texts (parametersFrom 0 items) ∧
        sql = Text.trim (before ++ b'.draft.updateAround table output returning (String.intercalate ", " texts)) := by
  have hsound : b.draft.scope.Sound := by
    rw [← hb]
    exact Builder.sound_reached Scope.sound_empty calls
  obtain ⟨-, htarget, hsame⟩ : Builder.Sets b.draft b'.draft := by
    rw [← hb']
    exact Builder.sets_reached ⟨hsound, rfl, rfl⟩ hconversions
  have hvalues' : b'.draft.assigned = .record values := by
    rw [← hvalues, Draft.assigned, Draft.assigned, hsame]
  have hentity' : b'.draft.entity = .ok e? := (Draft.entity_eq_of_target htarget).trans hentity
  obtain ⟨items, hitems, hlist⟩ : ∃ items, assignments cat.dialect b.draft = .ok items ∧
      IsSetList cat.dialect e? values items := exists_assignments hvalues hentity
  have hitems' : assignments cat.dialect b'.draft = .ok items := by
    rw [← hitems, assignments, assignments, hvalues, hvalues', hentity, hentity']
  refine ⟨items, hlist, hlist.ne_nil hne, hitems, hitems', exists_render.trans hlist.forall_supplied, ?_, ?_⟩
  · rw [hkind]
    exact Result.bind_eq_ok.mpr ⟨items, hitems', rfl⟩
  · intro sql hsql
    obtain ⟨comment, entries, table, output, returning, texts, -, -, htable, houtput, hreturning, htexts, rfl⟩ :=
      Draft.query_of_update hkind hitems' hsql
    exact ⟨comment ++ Cte.block cat.dialect b'.ctes entries, table, output, returning, texts, htable, houtput, hreturning, agrees htexts, rfl⟩

/-! ### Notes -/

/-- Notes are in a table with another name for the text, a date of the last change and a number of the revision. -/
def note : Entity :=
  { name := .text "Note", table := "notes"
    columns :=
      [{ property := "text", database := "body" },
        { property := "changed", database := "changed_at", isUpdateDate := true },
        { property := "revision", database := "rev", isVersion := true }] }

/-- A dialect with notes. -/
def noteCatalog : Catalog := { dialect := .postgres, entities := [.entity note] }

/-- The text by its property, the revision by its column. -/
def noteValues : Record := [("text", .text "late"), ("rev", .fragment "7")]

/-- An UPDATE of notes. -/
def ofNotes : Builder Statement :=
  ({} : Builder Statement).reached noteCatalog [.toUpdate (.text "Note") (.record noteValues)]

/-- The UPDATE, copied, made a DELETE and made an UPDATE again. -/
def ofNotesAgain : Builder Statement := ofNotes.reached noteCatalog [.clone, .toDelete, .toUpdate .null .null]

set_option maxRecDepth 4000 in
theorem assignments_agree_notes : ofNotes.draft.assigned = .record noteValues ∧
    ofNotes.draft.entity = .ok (some note) ∧ ofNotesAgain.kind = .update ∧
    Statement.query noteCatalog (.of ofNotesAgain) = .ok ("UPDATE \"notes\" SET \"body\" = :upd_0, \"rev\" = 7, " ++
      "\"changed_at\" = CURRENT_TIMESTAMP") ∧
    ∃ items texts, IsSetList .postgres (some note) noteValues items ∧
      assignments .postgres ofNotes.draft = .ok items ∧ assignments .postgres ofNotesAgain.draft = .ok items ∧
      Agrees .postgres items texts [("upd_0", .text "late")] := by
  refine ⟨rfl, rfl, rfl, rfl, ?_⟩
  have hrecasts : ∀ call ∈ ([.clone, .toDelete, .toUpdate .null .null] : List (Call Statement)), call.Recasts := by
    simp only [List.forall_mem_cons]
    exact ⟨.clone, .toDelete, .toUpdate, List.forall_mem_nil _⟩
  have hmade : ({} : Builder Statement).reached noteCatalog
      [.toUpdate (.text "Note") (.record noteValues)] = ofNotes := rfl
  have hagain : ofNotes.reached noteCatalog [.clone, .toDelete, .toUpdate .null .null] = ofNotesAgain := rfl
  have hvalues : ofNotes.draft.assigned = .record noteValues := rfl
  have hentity : ofNotes.draft.entity = .ok (some note) := rfl
  obtain ⟨items, hlist, -, hitems, hitems', -, hown, hwritten⟩ :=
    assignments_agree hmade hrecasts hagain rfl hvalues nofun hentity
  obtain ⟨-, -, -, -, texts, -, -, -, hagrees, -⟩ := hwritten _ rfl
  have hbound : parametersFrom 0 items = [("upd_0", .text "late")] := (Except.ok.inj hown).symm
  rw [hbound] at hagrees
  exact ⟨items, texts, hlist, hitems, hitems', hagrees⟩

end Update

end SqlWeave
