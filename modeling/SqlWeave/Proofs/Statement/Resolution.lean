import SqlWeave.Proofs.Condition.Call
import SqlWeave.Proofs.Statement.Scope
import SqlWeave.Statement.Lowering

/-!
# What a target stands for

An entity is registered for a class, or for a schema that declares it. A class is looked up as the object that it is,
and so always stands for the entity of its own that was registered first. A schema is looked up by its name alone: it
stands for the first entity whose target that very text is, or else for the first one that is called so or whose table
is, which need not be its own.

Main result: what each of them stands for, in every registry of entities, is the same for the registry and for the
calls that choose the table of a statement.
-/

namespace SqlWeave

/-! ## Entities of schemas -/

/-- An entity that was made for a schema: its target is the schema itself, and it is called like it. A schema without a
name leaves the entity to be called like its table. -/
structure Entity.MadeFor (e : Entity) (name : String) (id : Nat) : Prop where
  target : e.target = .schema name id
  called : name ≠ "" → e.name = .text name

namespace Entity

variable {e e' : Entity} {name : String} {id : Nat}

theorem MadeFor.isCalled (h : e.MadeFor name id) (hname : name ≠ "") : Registry.isCalled name e = true := by
  have hcalled : e.name.text? = some name := by rw [h.called hname]; rfl
  simp [Registry.isCalled, hcalled]

/-- Names that are filled in leave the target and a name that is there. -/
theorem madeFor_of_settled (htarget : e.target = .schema name id) (hname : e.name = .text name)
    (h : e.settled = .ok e') : e'.MadeFor name id := by
  have hcalled : name ≠ "" → (e.name.orElse (calledAfter e.target)).orElse (.text e.table) = .text name := by
    intro hne
    simp [hname, Value.orElse, Value.truth, hne]
  unfold settled at h
  dsimp only at h
  split at h
  · cases h
    exact ⟨htarget, hcalled⟩
  · split at h
    · cases h
      exact ⟨htarget, hcalled⟩
    · cases h

/-- What a declared schema is read into was made for a schema. -/
theorem madeFor_of_read {given : Record} (h : Entity.read true given = .ok e) : ∃ name, e.MadeFor name 0 := by
  obtain ⟨columns, h⟩ : ∃ columns, ((gatherSchema given columns).run >>= settled) = .ok e := by
    unfold Entity.read at h
    dsimp only at h
    split at h
    · obtain ⟨columns, -, h⟩ := Result.bind_eq_ok.mp h
      exact ⟨columns, h⟩
    · exact ⟨[], h⟩
    · exact ⟨[], h⟩
    · cases h
  obtain ⟨gathered, hgathered, h⟩ := Result.bind_eq_ok.mp h
  have hparts : ∃ name table schema database,
      gathered = { target := .schema name, name := .text name, table, schema, database, columns } := by
    unfold Field.Gather.run at hgathered
    split at hgathered
    · next a ha =>
      cases hgathered
      exact ⟨_, _, _, _, (congrArg Prod.fst ha).symm⟩
    · cases hgathered
  obtain ⟨name, table, schema, database, rfl⟩ := hparts
  exact ⟨name, madeFor_of_settled rfl rfl h⟩

end Entity

namespace Registry

variable {es : List Entity}

theorem first?_entities (holds : Entity → Bool) (es : List Entity) :
    first? holds (es.map .entity) = .ok (es.find? holds) := by
  induction es with
  | nil => rfl
  | cons e es ih =>
    rw [List.map_cons, first?, List.find?_cons]
    cases holds e with
    | true => rfl
    | false => exact ih

/-- Among entities a target is looked up as an object first, and then, when it is a text, as a name. -/
theorem find?_entities (es : List Entity) (target : Value) : find? (es.map .entity) target =
    .ok ((es.find? (hasTarget (lookupKey target))).or
      ((lookupKey target).text?.bind fun name => es.find? (isCalled name))) := by
  unfold find?
  dsimp only
  rw [first?_entities]
  cases es.find? (hasTarget (lookupKey target)) with
  | some e => rfl
  | none =>
    cases (lookupKey target).text? with
    | none => rfl
    | some name => exact first?_entities _ es

/-- A class is looked up as the object that it is. -/
theorem find?_type (es : List Entity) (name : String) (id : Nat) :
    find? (es.map .entity) (.type name id) = .ok (es.find? (hasTarget (.type name id))) := by
  rw [find?_entities]
  exact congrArg Except.ok Option.or_none

/-- A schema is looked up as its name. -/
theorem find?_schema (es : List Entity) (name : String) (id : Nat) : find? (es.map .entity) (.schema name id) =
    .ok ((es.find? (hasTarget (.text name))).or (es.find? (isCalled name))) := find?_entities es _

theorem hasTarget_type {e : Entity} {name : String} {id : Nat} :
    hasTarget (.type name id) e = true ↔ e.target = .type name id := by
  unfold hasTarget
  cases h : e.target <;> simp [Value.sameObject]

/-- A text is looked up as the object that it is, too: a target of the same text may be this object or another one. -/
theorem hasTarget_text {e : Entity} {name : String} : hasTarget (.text name) e = true ↔
    e.target = .text name ∧ (e.sharesTarget = true ∨ (Value.text name).sameObject (.text name) = true) := by
  unfold hasTarget
  cases h : e.target
  case text s =>
    by_cases hs : s = name
    · subst hs
      simp [Value.sameObject]
    · simp [Value.sameObject, hs]
  all_goals simp [Value.sameObject]

theorem lookupKey_lookupKey (target : Value) : lookupKey (lookupKey target) = lookupKey target := by
  cases target <;> rfl

theorem find?_lookupKey (r : Registry) (target : Value) : r.find? (lookupKey target) = r.find? target := by
  unfold find?
  rw [lookupKey_lookupKey]

end Registry

/-! ## The calls that choose a table -/

/-- A target stands for an entity wherever it is given: to the registry, and to the calls that choose the table of a
statement, which make it the main one even when they fail over something else. -/
structure Catalog.Resolves (cat : Catalog) (target : Value) (e : Entity) : Prop where
  found : cat.entities.find? target = .ok (some e)
  got : cat.entities.get target = .ok e
  read {σ : Type} (b : Builder σ) (name : Value) :
    (b.apply cat (.from target name)).2 = none ∧ (b.apply cat (.from target name)).1.draft.entity = .ok (some e)
  written {σ : Type} (b : Builder σ) (columns : Value) :
    (b.apply cat (.into target columns)).1.draft.entity = .ok (some e)
  updated {σ : Type} (b : Builder σ) (values : Value) :
    (b.apply cat (.toUpdate target values)).2 = none ∧
      (b.apply cat (.toUpdate target values)).1.draft.entity = .ok (some e)

namespace Catalog

variable {cat : Catalog} {target : Value} {e : Entity}

/-- The table of a statement that is chosen by a target is the one that the target stands for. -/
theorem ends_setTarget_of_found (h : cat.entities.find? target = .ok (some e)) (name : Value) (d : Draft) :
    ∃ d', Build.ends (Build.setTarget cat target name) d = (.ok ⟨⟩, d') ∧ d'.entity = .ok (some e) := by
  have hkey : cat.entities.find? (Registry.lookupKey target) = .ok (some e) :=
    (Registry.find?_lookupKey _ target).trans h
  rcases Build.ends_setTarget_cases cat target name d with ⟨f, hends⟩ | ⟨called, subject, path, hstands, hends⟩
  · unfold Build.setTarget Build.createFromAlias at hends
    dsimp only at hends
    rw [hkey] at hends
    cases hends
  · refine ⟨_, hends, ?_⟩
    cases hstands with
    | entity hfound =>
      cases hkey.symm.trans hfound
      rfl
    | table hfound => cases hkey.symm.trans hfound

theorem resolves_of_find? (hthere : target.isNull = false) (h : cat.entities.find? target = .ok (some e)) :
    cat.Resolves target e where
  found := h
  got := Result.bind_eq_ok.mpr ⟨_, h, rfl⟩
  read b name := by
    obtain ⟨d', hends, hentity⟩ := ends_setTarget_of_found h name b.draft
    show (b.step (Build.setTarget cat target name)).2 = none ∧ _
    rw [show b.apply cat (.from target name) = b.step (Build.setTarget cat target name) from rfl,
      Builder.step_eq, hends]
    exact ⟨rfl, hentity⟩
  written b columns := by
    obtain ⟨d', hends, hentity⟩ := ends_setTarget_of_found h .null b.draft
    have hstep : b.apply cat (.into target columns) = b.step (Build.setTarget cat target .null >>= fun _ =>
        MonadExcept.ofExcept (Build.columnNames columns) >>= fun insertColumns =>
          modify fun d => { d with insertColumns }) := rfl
    rw [hstep, Builder.step_eq, Build.ends_bind, hends]
    cases Build.columnNames columns with
    | ok names => exact hentity
    | error f => exact hentity
  updated b values := by
    obtain ⟨d', hends, hentity⟩ := ends_setTarget_of_found h .null (b.convert .update).draft
    have hstep : b.apply cat (.toUpdate target values) =
        (b.convert .update).step (Build.setTarget cat target .null >>= fun _ =>
          if !values.isNull then modify fun d => { d with values } else pure ⟨⟩) := by
      show (b.convert .update).step (if !target.isNull then _ else _) = _
      rw [hthere]
      rfl
    rw [hstep, Builder.step_eq, Build.ends_bind, hends]
    cases values.isNull with
    | true => exact ⟨rfl, hentity⟩
    | false => exact ⟨rfl, hentity⟩

/-! ## What was registered -/

/-- The catalogue of a dialect after entities were registered in this order. -/
def registering (d : Dialect) (es : List Entity) : Catalog := { dialect := d, entities := es.map .entity }

variable {d : Dialect} {es before after : List Entity} {name : String} {id : Nat}

/-- A class stands for the first entity whose target it is. -/
theorem exists_resolves_type (h : ∃ e ∈ es, e.target = .type name id) : ∃ before e after,
    es = before ++ e :: after ∧ e.target = .type name id ∧ (∀ x ∈ before, x.target ≠ .type name id) ∧
      (registering d es).Resolves (.type name id) e := by
  obtain ⟨own, hown, htarget⟩ := h
  have hsome : (es.find? (Registry.hasTarget (.type name id))).isSome :=
    List.find?_isSome.mpr ⟨own, hown, Registry.hasTarget_type.mpr htarget⟩
  obtain ⟨e, he⟩ := Option.isSome_iff_exists.mp hsome
  obtain ⟨hmine, before, after, rfl, hbefore⟩ := List.find?_eq_some_iff_append.mp he
  refine ⟨before, e, after, rfl, Registry.hasTarget_type.mp hmine, fun x hx htarget => ?_, ?_⟩
  · have hnot := hbefore x hx
    rw [Registry.hasTarget_type.mpr htarget] at hnot
    cases hnot
  · exact resolves_of_find? rfl ((Registry.find?_type _ name id).trans (congrArg Except.ok he))

/-- A schema stands for the entity that its name stands for. -/
theorem resolves_schema {e : Entity}
    (h : (es.find? (Registry.hasTarget (.text name))).or (es.find? (Registry.isCalled name)) = some e) :
    (registering d es).Resolves (.schema name id) e :=
  resolves_of_find? rfl ((Registry.find?_schema es name id).trans (congrArg Except.ok h))

/-- Where a target is the name itself, a schema stands for the first entity of which that holds, whatever the others are
called. -/
theorem resolves_schema_of_target {e : Entity} (he : Registry.hasTarget (.text name) e = true)
    (hbefore : ∀ x ∈ before, Registry.hasTarget (.text name) x = false) :
    (registering d (before ++ e :: after)).Resolves (.schema name id) e := by
  refine resolves_schema ?_
  have hfound : (before ++ e :: after).find? (Registry.hasTarget (.text name)) = some e :=
    List.find?_eq_some_iff_append.mpr ⟨he, before, after, rfl, fun x hx => by rw [hbefore x hx]; rfl⟩
  rw [hfound, Option.some_or]

/-- Where no target is the name itself, a schema stands for the first entity that is called so. -/
theorem resolves_schema_of_first {e : Entity}
    (htext : ∀ x ∈ before ++ e :: after, Registry.hasTarget (.text name) x = false)
    (hbefore : ∀ x ∈ before, Registry.isCalled name x = false) (he : Registry.isCalled name e = true) :
    (registering d (before ++ e :: after)).Resolves (.schema name id) e := by
  refine resolves_schema ?_
  rw [List.find?_eq_none.mpr fun x hx => by rw [htext x hx]; exact Bool.false_ne_true, Option.none_or]
  exact List.find?_eq_some_iff_append.mpr ⟨he, before, after, rfl, fun x hx => by rw [hbefore x hx]; rfl⟩

/-- **What registered objects stand for.** A class that an entity was registered for stands for the first one that it
is the target of. A schema is read into an entity of its own, and stands for what its name stands for: the first entity
whose target is the very text that is its name, or else the first one that is called so or whose table is. So where no
target is that text, it stands for its own when nothing that was registered before is called so, and for what was
otherwise. -/
theorem registered_resolve (d : Dialect) (es : List Entity) :
    (∀ name id, (∃ e ∈ es, e.target = .type name id) → ∃ before e after, es = before ++ e :: after ∧
      e.target = .type name id ∧ (∀ x ∈ before, x.target ≠ .type name id) ∧
      (registering d es).Resolves (.type name id) e) ∧
    (∀ given e, Entity.read true given = .ok e → ∃ name, e.MadeFor name 0) ∧
    (∀ name id, name ≠ "" → (∃ own ∈ es, own.MadeFor name id) → ∃ e ∈ es,
      (es.find? (Registry.hasTarget (.text name))).or (es.find? (Registry.isCalled name)) = some e ∧
      (registering d es).Resolves (.schema name id) e) ∧
    (∀ name id before e after, es = before ++ e :: after → e.target = .text name →
      (e.sharesTarget = true ∨ (Value.text name).sameObject (.text name) = true) →
      (∀ x ∈ before, Registry.hasTarget (.text name) x = false) → (registering d es).Resolves (.schema name id) e) ∧
    (∀ name id before own after, name ≠ "" → es = before ++ own :: after → own.MadeFor name id →
      (∀ x ∈ es, Registry.hasTarget (.text name) x = false) →
      ((∀ x ∈ before, Registry.isCalled name x = false) → (registering d es).Resolves (.schema name id) own) ∧
      ((∃ x ∈ before, Registry.isCalled name x = true) →
        ∃ x ∈ before, Registry.isCalled name x = true ∧ (registering d es).Resolves (.schema name id) x)) := by
  refine ⟨fun name id => exists_resolves_type, fun given e => Entity.madeFor_of_read, ?_, ?_, ?_⟩
  · rintro name id hname ⟨own, hown, hmade⟩
    have hcalled : (es.find? (Registry.isCalled name)).isSome :=
      List.find?_isSome.mpr ⟨own, hown, hmade.isCalled hname⟩
    obtain ⟨e, he⟩ :
        ∃ e, (es.find? (Registry.hasTarget (.text name))).or (es.find? (Registry.isCalled name)) = some e :=
      Option.isSome_iff_exists.mp (by rw [Option.isSome_or, hcalled, Bool.or_true])
    refine ⟨e, ?_, he, resolves_schema he⟩
    rcases Option.or_eq_some_iff.mp he with hfound | ⟨-, hfound⟩
    · exact List.mem_of_find?_eq_some hfound
    · exact List.mem_of_find?_eq_some hfound
  · rintro name id before e after rfl htarget hshares hbefore
    exact resolves_schema_of_target (Registry.hasTarget_text.mpr ⟨htarget, hshares⟩) hbefore
  · rintro name id before own after hname rfl hmade htext
    refine ⟨fun hbefore => resolves_schema_of_first htext hbefore (hmade.isCalled hname), ?_⟩
    intro hearlier
    obtain ⟨x, hx⟩ := Option.isSome_iff_exists.mp (List.find?_isSome.mpr hearlier)
    obtain ⟨hcalled, front, back, rfl, hfront⟩ := List.find?_eq_some_iff_append.mp hx
    refine ⟨x, by simp, hcalled, ?_⟩
    rw [List.append_assoc, List.cons_append] at htext ⊢
    exact resolves_schema_of_first htext (fun y hy => by simpa using hfront y hy) hcalled

/-- The entity of a class whose table is called `Tag`. -/
def tagTable : Entity := { target := .type "X", name := .text "X", table := "Tag" }

/-- The entity of the schema `Tag`. -/
def tagSchema : Entity := { target := .schema "Tag", name := .text "Tag", table := "tags" }

/-- An entity whose target is the text that is the name of the schema. -/
def tagText : Entity := { target := .text "Tag", sharesTarget := true, name := .text "Label", table := "labels" }

/-- Registered first, the schema stands for its own entity; registered second, for the one whose table has its name; and
wherever it was registered, for the one whose target its name is. -/
theorem registered_resolve_tag :
    (registering .postgres [tagSchema, tagTable]).Resolves (.schema "Tag") tagSchema ∧
    (∃ e, (registering .postgres [tagSchema, tagTable]).Resolves (.type "X") e ∧ e.target = .type "X") ∧
    (∃ x ∈ [tagTable], Registry.isCalled "Tag" x = true ∧
      (registering .postgres [tagTable, tagSchema]).Resolves (.schema "Tag") x) ∧
    (∃ e ∈ [tagTable, tagSchema], (registering .postgres [tagTable, tagSchema]).Resolves (.schema "Tag") e) ∧
    (registering .postgres [tagSchema, tagText]).Resolves (.schema "Tag") tagText := by
  have hmade : tagSchema.MadeFor "Tag" 0 := ⟨rfl, fun _ => rfl⟩
  obtain ⟨hclass, -, -, -, hown⟩ := registered_resolve .postgres [tagSchema, tagTable]
  obtain ⟨-, -, hschema, -, hother⟩ := registered_resolve .postgres [tagTable, tagSchema]
  obtain ⟨-, -, -, htext, -⟩ := registered_resolve .postgres [tagSchema, tagText]
  refine ⟨?_, ?_, ?_, ?_, ?_⟩
  · exact (hown "Tag" 0 [] tagSchema [tagTable] (by decide) rfl hmade (by decide)).1 (by decide)
  · obtain ⟨before, e, after, -, htarget, -, hresolves⟩ := hclass "X" 0 ⟨tagTable, by simp, rfl⟩
    exact ⟨e, hresolves, htarget⟩
  · exact (hother "Tag" 0 [tagTable] tagSchema [] (by decide) rfl hmade (by decide)).2 ⟨tagTable, by simp, by decide⟩
  · obtain ⟨e, he, -, hresolves⟩ := hschema "Tag" 0 (by decide) ⟨tagSchema, by simp, hmade⟩
    exact ⟨e, he, hresolves⟩
  · exact htext "Tag" 0 [tagSchema] tagText [] rfl rfl (.inl rfl) (by decide)

/-- A schema need not stand for an entity of its own, though one was registered: an INSERT into the schema `Tag` goes
into the table of another entity. -/
theorem schema_stands_for_another :
    Entity.read false [("target", .type "X"), ("table_name", .text "Tag")] = .ok tagTable ∧
    Entity.read true [("name", .text "Tag"), ("table_name", .text "tags")] = .ok tagSchema ∧
    (∃ sql, Statement.query (registering .postgres [tagTable, tagSchema])
      (.of (({} : Builder Statement).reached (registering .postgres [tagTable, tagSchema])
        [.toInsert, .into (.schema "Tag") .null])) = .ok sql ∧ sql = "INSERT INTO \"Tag\" DEFAULT VALUES") ∧
    ¬ ∀ (d : Dialect) (es : List Entity) (name : String) (id : Nat) (e : Entity), (∃ own ∈ es, own.MadeFor name id) →
      (registering d es).Resolves (.schema name id) e → e.target = .schema name id := by
  refine ⟨rfl, rfl, ⟨_, rfl, rfl⟩, fun hclaim => ?_⟩
  have hmade : tagSchema.MadeFor "Tag" 0 := ⟨rfl, fun _ => rfl⟩
  cases hclaim .postgres [tagTable, tagSchema] "Tag" 0 tagTable ⟨tagSchema, by simp, hmade⟩ (resolves_of_find? rfl rfl)

end Catalog

end SqlWeave
