import SqlWeave.Proofs.Session.Standing
import SqlWeave.Proofs.Statement.TwinCall
import SqlWeave.Proofs.Statement.TwinText
import SqlWeave.Proofs.Statement.WithBlock
import SqlWeave.Session.Method

/-!
# Bound values never reach the text

A caller makes the same fluent calls twice, with values of the same kinds. Both runs leave worlds whose
builders are twins, and twins are lowered to one text, together with all that their WITH blocks refer to.
-/

namespace SqlWeave

open Value (SameKind)

namespace World

/-- Worlds whose builders are twins and are lowered for one dialect and the same entities. -/
structure Twin (w v : World) : Prop where
  dialect : w.dialect = v.dialect
  entities : w.entities = v.entities
  next : w.builders.next = v.builders.next
  builders : ∀ id, (w.builders.get id).builder.Twin (v.builders.get id).builder

theorem Twin.refl (w : World) : w.Twin w := ⟨rfl, rfl, rfl, fun _ => .refl _⟩

theorem Twin.catalog {w v : World} (h : w.Twin v) : w.catalog = v.catalog := by
  unfold World.catalog
  rw [h.dialect, h.entities]

theorem Twin.noted {w v w' v' : World} (h : w.Twin v) (hw : Noted w w') (hv : Noted v v') :
    w'.Twin v' := by
  unfold Noted at hw hv
  rw [hw, hv]
  exact ⟨h.dialect, h.entities, h.next, h.builders⟩

/-! ## Statements of twins -/

/-- An entry of a WITH block with the statement that its builder makes. -/
def entryAt (w : World) (fuel : Nat) (c : Cte Nat) : Cte Statement where
  source := match c.source with
    | .value sql => .value sql
    | .statement id => .statement (w.statementAt fuel (w.builders.get id).builder)
  name := c.name
  columns := c.columns
  recursive := c.recursive
  materialized := c.materialized

theorem statementAt_succ (w : World) (fuel : Nat) (b : Builder Nat) :
    w.statementAt (fuel + 1) b = .of ⟨b.kind, b.draft, b.ctes.map (w.entryAt fuel)⟩ := rfl

/-- How statements are lowered that differ in values of the same kinds: to one text, and to bindings of the
same names. -/
structure LowersAlike (cat : Catalog) (s t : Statement) : Prop where
  query : s.query cat = t.query cat
  parameters : Result.Rel Eq (Assoc.Rel SameKind) (s.parameters cat) (t.parameters cat)

variable {w v : World} {cat : Catalog}

/-- Entries of twins are written alike when their builders' statements are. -/
theorem entries_twin {fuel : Nat} (hs : ∀ id, LowersAlike cat
      (w.statementAt fuel (w.builders.get id).builder) (v.statementAt fuel (v.builders.get id).builder))
    (ctes : List (Cte Nat)) :
    Statement.entryTexts cat (ctes.map (w.entryAt fuel)) =
        Statement.entryTexts cat (ctes.map (v.entryAt fuel)) ∧
    Result.Rel Eq (Assoc.Rel SameKind) (Statement.entryParameters cat (ctes.map (w.entryAt fuel)))
      (Statement.entryParameters cat (ctes.map (v.entryAt fuel))) := by
  induction ctes with
  | nil =>
    refine ⟨rfl, ?_⟩
    rw [List.map_nil, List.map_nil, Statement.entryParameters]
    exact .ok .nil
  | cons c ctes ih =>
    obtain ⟨source, name, columns, recursive, materialized⟩ := c
    have hinner : (w.entryAt fuel ⟨source, name, columns, recursive, materialized⟩).inner cat =
        (v.entryAt fuel ⟨source, name, columns, recursive, materialized⟩).inner cat := by
      cases source with
      | value sql => rfl
      | statement id => exact (hs id).query
    have hbindings : Result.Rel Eq (Assoc.Rel SameKind)
        ((w.entryAt fuel ⟨source, name, columns, recursive, materialized⟩).bindings cat)
        ((v.entryAt fuel ⟨source, name, columns, recursive, materialized⟩).bindings cat) := by
      cases source with
      | value sql => exact .ok .nil
      | statement id => exact (hs id).parameters
    rw [List.map_cons, List.map_cons, Statement.entryTexts_cons, Statement.entryTexts_cons,
      Statement.entryParameters_cons, Statement.entryParameters_cons, hinner, ih.1]
    refine ⟨rfl, hbindings.bind fun here here' hhere => ih.2.bind fun more more' hmore => ?_⟩
    exact .ok (hhere.merge hmore)

/-- Twin builders of twin worlds make statements that are lowered alike. -/
theorem Twin.statementAt (h : w.Twin v) (cat : Catalog) (fuel : Nat) :
    ∀ {b b' : Builder Nat}, b.Twin b' →
      LowersAlike cat (w.statementAt fuel b) (v.statementAt fuel b') := by
  -- The builders of a WITH block are lowered with one unit of fuel less.
  induction fuel with
  | zero =>
    intro b b' _
    refine ⟨rfl, ?_⟩
    rw [World.statementAt, World.statementAt, Statement.parameters]
    exact .error rfl
  | succ fuel ih =>
    intro b b' hb
    cases hb with
    | @mk kind d e ctes hde =>
      obtain ⟨hentries, hbindings⟩ := entries_twin (fun id => ih (h.builders id)) ctes
      have hcomment : d.commentText = e.commentText := by
        cases hde
        rfl
      rw [statementAt_succ, statementAt_succ]
      refine ⟨?_, ?_⟩
      · have hblock : ∀ entries, Cte.block cat.dialect (ctes.map (w.entryAt fuel)) entries =
            Cte.block cat.dialect (ctes.map (v.entryAt fuel)) entries := by
          intro entries
          unfold Cte.block
          rw [List.isEmpty_map, List.isEmpty_map, List.any_map, List.any_map]
          rfl
        rw [Statement.query, Statement.query, hcomment, hentries, Draft.statementText_twin cat hde]
        simp only [hblock]
      · rw [Statement.parameters, Statement.parameters]
        refine hbindings.bind fun inherited inherited' hinherited => ?_
        refine (Draft.statementParameters_twin cat hde kind).bind fun own own' hown => ?_
        cases hde with
        | mk hp hv => exact .ok ((hinherited.merge hp).merge hown)

/-- A statement that is lowered alike is sent with one text, when no expansion refers to different values
that are bound as one value. -/
theorem LowersAlike.bound {s t : Statement} (h : LowersAlike cat s t)
    (hexpands : ∀ sql m n, s.query cat = .ok sql → s.parameters cat = .ok m → t.parameters cat = .ok n →
      ∀ r ∈ Reference.all sql, Dialect.ExpandsSame m n r) :
    Dialect.SameText (s.bound cat) (t.bound cat) := by
  have hparameters := h.parameters
  unfold Statement.bound
  rw [← h.query]
  cases hsql : s.query cat with
  | error f => exact .error rfl
  | ok sql =>
    have hexpands := hexpands sql
    generalize s.parameters cat = x at hparameters hexpands ⊢
    generalize t.parameters cat = y at hparameters hexpands ⊢
    cases hparameters with
    | error h => exact .error h
    | ok hmn => exact cat.dialect.bindReferences_twin hmn (hexpands _ _ hsql rfl rfl)

end World

namespace Session

/-! ## Runs -/

/-- What a caller does with builders. -/
inductive FluentStep where
  /-- A new builder, about a target when one is given. -/
  | start (target name runner : Value)
  /-- A fluent call on a builder. -/
  | call (id : Nat) (c : Call Nat)

namespace FluentStep

def run : FluentStep → Session Unit
  | .start target name runner => do
    let _ ← newBuilder target name runner
  | .call id c => do
    let _ ← fluent id c

/-- Steps that differ in values of the same kinds alone. -/
inductive Twin : FluentStep → FluentStep → Prop where
  | start {target name runner : Value} : Twin (.start target name runner) (.start target name runner)
  | call {id : Nat} {c c' : Call Nat} : c.Twin c' → Twin (.call id c) (.call id c')

end FluentStep

/-- What is left of the world after some steps. A step that fails leaves what it did, and the next one is
made all the same. -/
def after (w : World) (steps : List FluentStep) : World := steps.foldl (fun w s => (ends s.run w).2) w

theorem noted_raise {α : Type} (f : Failure) (w : World) : World.Noted w (ends (raise f : Session α) w).2 :=
  (moves_raise f).along w

theorem builder_keep (id : Nat) (b : Builder Nat) (w : World) (i : Nat) :
    ((ends (keep id b) w).2.builders.get i).builder = if id = i then b else (w.builders.get i).builder := by
  show ((w.builders.update id fun h => { h with builder := b }).get i).builder = _
  rw [Store.get_update]
  split <;> rfl

theorem builder_hold (h : HeldBuilder) (w : World) (i : Nat) :
    ((ends (hold h) w).2.builders.get i).builder =
      if w.builders.next = i then h.builder else (w.builders.get i).builder := by
  show ((w.builders.add h).2.get i).builder = _
  rw [Store.get_add]
  split <;> rfl

theorem twin_keep {w v : World} (h : w.Twin v) (id : Nat) {b b' : Builder Nat} (hb : b.Twin b') :
    (ends (keep id b) w).2.Twin (ends (keep id b') v).2 := by
  refine ⟨h.dialect, h.entities, h.next, fun i => ?_⟩
  rw [builder_keep, builder_keep]
  split
  · exact hb
  · exact h.builders i

theorem twin_hold {w v : World} (h : w.Twin v) {b b' : Builder Nat} (hb : b.Twin b')
    (runner runner' : Value) :
    (ends (hold ⟨b, runner⟩) w).2.Twin (ends (hold ⟨b', runner'⟩) v).2 := by
  refine ⟨h.dialect, h.entities, congrArg (· + 1) h.next, fun i => ?_⟩
  rw [builder_hold, builder_hold, h.next]
  split
  · exact hb
  · exact h.builders i

theorem ends_held (id : Nat) (w : World) : ends (held id) w = (.ok (w.builders.get id), w) := rfl

/-- What a fluent call leaves of the world. -/
theorem after_fluent (id : Nat) (c : Call Nat) (w : World) :
    (ends (fluent id c) w).2 = match (w.builders.get id).builder.apply w.catalog c with
      | (b, failure) =>
        if c.isConversion then
          match failure with
          | some f => (ends (raise f : Session Nat) w).2
          | none => (ends (hold { w.builders.get id with builder := b }) w).2
        else
          match failure with
          | some f => (ends (raise f : Session Nat) (ends (keep id b) w).2).2
          | none => (ends (keep id b) w).2 := by
  rcases hb : (w.builders.get id).builder.apply w.catalog c with ⟨b, failure⟩
  unfold fluent
  rw [ends_bind_ok (ends_held id w), ends_bind_ok (ends_get w)]
  dsimp only
  rw [hb]
  dsimp only
  split
  · cases failure <;> rfl
  · have hkeep : ends (keep id b) w = (.ok ⟨⟩, (ends (keep id b) w).2) := rfl
    rw [ends_bind_ok hkeep]
    cases failure <;> rfl

theorem after_newBuilder (target name runner : Value) (w : World) :
    (ends (newBuilder target name runner) w).2 =
      if target.isNull then (ends (hold ⟨{}, runner⟩) w).2
      else match ({} : Builder Nat).apply w.catalog (.from target name) with
        | (b, failure) =>
          match failure with
          | some f => (ends (raise f : Session Nat) w).2
          | none => (ends (hold ⟨b, runner⟩) w).2 := by
  rcases hb : ({} : Builder Nat).apply w.catalog (.from target name) with ⟨b, failure⟩
  unfold newBuilder
  dsimp only
  split
  · rfl
  · rw [ends_bind_ok (ends_get w), hb]
    cases failure <;> rfl

theorem after_ignored {α : Type} (s : Session α) (w : World) :
    (ends (s >>= fun _ => pure ⟨⟩ : Session Unit) w).2 = (ends s w).2 := by
  rw [ends_bind]
  rcases ends s w with ⟨f | a, v⟩ <;> rfl

/-- Each step keeps twins. -/
theorem FluentStep.Twin.run {s t : FluentStep} (hst : s.Twin t) {w v : World} (h : w.Twin v) :
    (ends s.run w).2.Twin (ends t.run v).2 := by
  cases hst with
  | @start target name runner =>
    unfold FluentStep.run
    rw [after_ignored, after_ignored, after_newBuilder, after_newBuilder, h.catalog]
    split
    · exact twin_hold h (.refl _) runner runner
    · rcases ({} : Builder Nat).apply v.catalog (.from target name) with ⟨b, failure⟩
      cases failure with
      | some f => exact h.noted (noted_raise f w) (noted_raise f v)
      | none => exact twin_hold h (.refl b) runner runner
  | @call id c c' hc =>
    have hconversion : c.isConversion = c'.isConversion := by
      cases hc <;> rfl
    obtain ⟨hbuilder, hfailure⟩ := (h.builders id).apply w.catalog hc
    unfold FluentStep.run
    rw [after_ignored, after_ignored, after_fluent, after_fluent, ← h.catalog, ← hconversion]
    generalize (w.builders.get id).builder.apply w.catalog c = x at hbuilder hfailure ⊢
    generalize (v.builders.get id).builder.apply w.catalog c' = y at hbuilder hfailure ⊢
    obtain ⟨b, failure⟩ := x
    obtain ⟨b', failure'⟩ := y
    have hkept := twin_keep h id hbuilder
    dsimp only at hfailure ⊢
    split
    · cases failure with
      | some f =>
        obtain ⟨g, rfl⟩ := Option.isSome_iff_exists.mp hfailure.symm
        exact h.noted (noted_raise f w) (noted_raise g v)
      | none =>
        obtain rfl := Option.isNone_iff_eq_none.mp (Option.isSome_eq_false_iff.mp hfailure.symm)
        exact twin_hold h hbuilder _ _
    · cases failure with
      | some f =>
        obtain ⟨g, rfl⟩ := Option.isSome_iff_exists.mp hfailure.symm
        exact hkept.noted (noted_raise f _) (noted_raise g _)
      | none =>
        obtain rfl := Option.isNone_iff_eq_none.mp (Option.isSome_eq_false_iff.mp hfailure.symm)
        exact hkept

/-- Every run keeps twins. -/
theorem twin_after {steps steps' : List FluentStep} (hsteps : List.Forall₂ FluentStep.Twin steps steps') :
    ∀ {w v : World}, w.Twin v → (after w steps).Twin (after v steps') := by
  induction hsteps with
  | nil => exact fun h => h
  | cons hst _ ih => exact fun h => ih (hst.run h)

/-! ## What a builder answers -/

/-- An answer that is told of the world alone. -/
theorem result_told {α β : Type} (tell : World → Result α) (f : α → β) (w : World) :
    (ends ((get >>= fun w => ofResult (tell w)) >>= fun a => pure (f a) : Session β) w).1 =
      (tell w).map f := by
  rw [ends_bind, ends_bind_ok (ends_get w)]
  cases tell w with
  | ok a => rfl
  | error g =>
    obtain ⟨v, hv⟩ := ends_raise (α := α) g w
    have hraise : ends (ofResult (.error g) : Session α) w = (.error g, v) := hv
    rw [hraise]
    rfl

/-- A method that is no fluent call is answered. -/
theorem ends_callBuilder {method : String} {args : List Value} (h : ∀ kind, fluentCall? kind method args = none)
    (id : Nat) (w : World) : ends (callBuilder id method args) w = ends (answerBuilder id method args) w := by
  unfold callBuilder
  rw [ends_bind_ok (ends_held id w), h]

theorem result_getQuery (id : Nat) (w : World) :
    (ends (callBuilder id "get_query" []) w).1 =
      ((w.statement (w.builders.get id).builder).query w.catalog).map Value.text := by
  have hanswer : answerBuilder id "get_query" [] = (do
      let _ ← get
      let h ← held id
      return .text (← queryText h.builder)) := rfl
  rw [ends_callBuilder fun _ => rfl, hanswer, ends_bind_ok (ends_get w), ends_bind_ok (ends_held id w)]
  exact result_told (fun w => (w.statement _).query w.catalog) Value.text w

theorem result_getBound (id : Nat) (w : World) :
    (ends (callBuilder id "get_query_and_parameters" []) w).1 =
      ((w.statement (w.builders.get id).builder).bound w.catalog).map
        fun p => boundValue (.text p.1) p.2 := by
  have hanswer : answerBuilder id "get_query_and_parameters" [] = (do
      let _ ← get
      let h ← held id
      let p ← queryBound h.builder
      return boundValue (.text p.1) p.2) := rfl
  rw [ends_callBuilder fun _ => rfl, hanswer, ends_bind_ok (ends_get w), ends_bind_ok (ends_held id w)]
  exact result_told (fun w => (w.statement _).bound w.catalog) (fun p => boundValue (.text p.1) p.2) w

/-- Two answers are sent with one text, or fail in one way. -/
def SentAlike (x y : Result Value) : Prop :=
  Result.Rel Eq (fun a b => ∃ text values values', a = boundValue (.text text) values ∧
    b = boundValue (.text text) values') x y

/-- Bound values never reach the text. Two runs of the same fluent calls, which differ in values of the
same kinds alone, leave builders with one text; and where no expansion in it refers to different values
that are bound as one value, the text that is sent with positional placeholders is one, too. -/
theorem text_of_twin_runs {steps steps' : List FluentStep}
    (hsteps : List.Forall₂ FluentStep.Twin steps steps') (w : World) (id : Nat) :
    let v := after w steps
    let v' := after w steps'
    let s := v.statement (v.builders.get id).builder
    let s' := v'.statement (v'.builders.get id).builder
    (ends (callBuilder id "get_query" []) v).1 = (ends (callBuilder id "get_query" []) v').1 ∧
      ((∀ sql m m', s.query v.catalog = .ok sql → s.parameters v.catalog = .ok m →
          s'.parameters v'.catalog = .ok m' → ∀ r ∈ Reference.all sql, Dialect.ExpandsSame m m' r) →
        SentAlike (ends (callBuilder id "get_query_and_parameters" []) v).1
          (ends (callBuilder id "get_query_and_parameters" []) v').1) := by
  have h := twin_after hsteps (.refl w)
  intro v v' s s'
  have hlowered : World.LowersAlike v.catalog s s' := by
    unfold s s' World.statement
    rw [← h.next]
    exact h.statementAt v.catalog _ (h.builders id)
  rw [result_getQuery, result_getQuery, result_getBound, result_getBound, ← h.catalog]
  refine ⟨congrArg (Except.map Value.text) hlowered.query, fun hexpands => ?_⟩
  have hbound := hlowered.bound hexpands
  show SentAlike ((s.bound v.catalog).map fun p => boundValue (.text p.1) p.2)
    ((s'.bound v.catalog).map fun p => boundValue (.text p.1) p.2)
  generalize s.bound v.catalog = x at hbound ⊢
  generalize s'.bound v.catalog = y at hbound ⊢
  cases hbound with
  | error hfg => exact .error hfg
  | @ok p q hpq => exact .ok ⟨p.1, p.2, q.2, rfl, by rw [hpq]⟩

/-- A search for a name among some ages. -/
def FluentStep.search (name : String) (ages : List Value) : List FluentStep :=
  [.start (.text "users") .null .null,
    .call 0 (.where .simple (.simple (.record [("name", .text name), ("age", .list ages)])) .null)]

/-- The text of the search. -/
def searchText : String :=
  "SELECT * FROM \"users\" \"users\" WHERE " ++
    "\"users\".\"name\" = :orm_param_0 AND \"users\".\"age\" IN (:...orm_param_1)"

/-- The world after a search for Ann. -/
def foundAnn : World := after {} (FluentStep.search "ann" [.int 1, .int 2])

set_option maxRecDepth 10000 in
theorem query_foundAnn :
    (foundAnn.statement (foundAnn.builders.get 0).builder).query foundAnn.catalog = .ok searchText := by
  rfl

set_option maxRecDepth 10000 in
theorem parameters_foundAnn :
    (foundAnn.statement (foundAnn.builders.get 0).builder).parameters foundAnn.catalog =
      .ok [("orm_param_0", .text "ann"), ("orm_param_1", .list [.int 1, .int 2])] := by
  rfl

/-- Whatever name is searched for, the text is the same. -/
theorem text_of_search :
    let v := after {} (FluentStep.search "' OR 1=1 --" [.int 3, .int 4])
    (ends (callBuilder 0 "get_query" []) foundAnn).1 = .ok (.text searchText) ∧
      (ends (callBuilder 0 "get_query" []) v).1 = .ok (.text searchText) ∧
      SentAlike (ends (callBuilder 0 "get_query_and_parameters" []) foundAnn).1
        (ends (callBuilder 0 "get_query_and_parameters" []) v).1 := by
  intro v
  have htwin : List.Forall₂ FluentStep.Twin (FluentStep.search "ann" [.int 1, .int 2])
      (FluentStep.search "' OR 1=1 --" [.int 3, .int 4]) :=
    .cons .start (.cons (.call (.where (.simple (.record
      (.cons (.single rfl rfl) (.cons (.list rfl) .nil)))) (.same .null))) .nil)
  have hann : (ends (callBuilder 0 "get_query" []) foundAnn).1 = .ok (.text searchText) := by
    rw [result_getQuery, query_foundAnn]
    rfl
  obtain ⟨hquery, hsent⟩ := text_of_twin_runs htwin {} 0
  refine ⟨hann, hquery.symm.trans hann, hsent ?_⟩
  intro sql m m' hsql hm _ r hr hexpands a b ha _ hsingle
  obtain rfl := Except.ok.inj (query_foundAnn.symm.trans hsql)
  obtain rfl := Except.ok.inj (parameters_foundAnn.symm.trans hm)
  have hall : Reference.all searchText = [⟨false, "orm_param_0"⟩, ⟨true, "orm_param_1"⟩] := by
    decide +kernel
  rw [hall, List.mem_cons, List.mem_singleton] at hr
  rcases hr with rfl | rfl
  · cases hexpands
  · obtain rfl : .list [.int 1, .int 2] = a := Option.some.inj ha
    cases hsingle

end Session

end SqlWeave
