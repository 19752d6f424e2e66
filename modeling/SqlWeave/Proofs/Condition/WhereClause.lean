import SqlWeave.Proofs.Condition.Apart
import SqlWeave.Proofs.Condition.Call
import SqlWeave.Proofs.Statement.Body
import SqlWeave.Proofs.Statement.WithBlock

/-!
# The WHERE clause of a statement

A SELECT, an UPDATE or a DELETE has one place for its WHERE clause. The clause is made of the conditions of
the statement and, in a SELECT, of a guard that hides deleted rows. Main result: the clause means what the
calls said, with the guard conjoined to the whole.
-/

namespace SqlWeave

/-! ## The guard -/

/-- The column by which a statement hides deleted rows: that of a SELECT's entity, unless deleted rows are
asked for. -/
def Builder.hiding? {σ : Type} (b : Builder σ) : Option Column :=
  if b.kind = .select ∧ b.draft.withDeleted = false then
    match b.draft.entity with
    | .ok (some e) => e.deleteDate?
    | _ => none
  else none

/-- The guard of a statement: the column that hides deleted rows is compared with nothing. -/
def Builder.Guarded {σ : Type} (cat : Catalog) (b : Builder σ) (guard : Option String) : Prop :=
  match b.hiding? with
  | none => guard = none
  | some c => ∃ ref, b.draft.columnReference cat.dialect c.property = .ok ref ∧ guard = some (ref ++ " IS NULL")

/-- The statement with other conditions. -/
def Builder.withWheres {σ : Type} (b : Builder σ) (wheres : List Clause) : Builder σ :=
  { b with draft := { b.draft with wheres } }

theorem Builder.guarded_softDelete {σ : Type} {cat : Catalog} {b : Builder σ} {guard : Option String}
    (hkind : b.kind = .select) (h : b.draft.softDelete cat.dialect = .ok guard) : b.Guarded cat guard := by
  unfold Draft.softDelete at h
  rw [Guarded, hiding?]
  cases hdeleted : b.draft.withDeleted with
  | true =>
    rw [hdeleted] at h
    cases h
    simp
  | false =>
    rw [if_pos ⟨hkind, rfl⟩]
    rw [hdeleted] at h
    obtain ⟨e, he, h⟩ := Result.bind_eq_ok.mp h
    rw [he]
    cases e with
    | none =>
      cases h
      rfl
    | some e =>
      dsimp only [Option.bind_some] at h
      cases hcolumn : e.deleteDate? with
      | none =>
        rw [hcolumn] at h
        cases h
        simp only [hcolumn]
      | some c =>
        rw [hcolumn] at h
        obtain ⟨ref, href, h⟩ := Result.bind_eq_ok.mp h
        cases h
        simp only [hcolumn]
        exact ⟨ref, href, rfl⟩

namespace Draft

/-- The place of the WHERE clause: what stands before it and after it does not depend on the conditions. -/
theorem statementText_eq_ok {cat : Catalog} {d : Draft} {kind : StatementKind} {sql : String}
    (hkind : kind ≠ .insert) (h : d.statementText cat kind = .ok sql) :
    ∃ lead guard tail,
      (if kind = .select then d.softDelete cat.dialect else .ok none) = .ok guard ∧ ∀ wheres,
        ({ d with wheres } : Draft).statementText cat kind =
          .ok (lead ++ ({ d with wheres } : Draft).whereText guard ++ tail) := by
  cases kind with
  | insert => exact absurd rfl hkind
  | select =>
    obtain ⟨selected, source, hidden, hselected, hsource, hhidden, rfl⟩ := selectText_eq_ok.mp h
    refine ⟨"SELECT " ++ selected ++ source, hidden,
      d.orderText ++ cat.dialect.paging d.limit d.offset (!d.orderBys.isEmpty), hhidden, fun wheres => ?_⟩
    refine selectText_eq_ok.mpr ⟨selected, source, hidden, hselected, hsource, hhidden, ?_⟩
    rw [selectAround, ← String.append_assoc]
    rfl
  | delete =>
    obtain ⟨table, output, returning, htable, houtput, hreturning, rfl⟩ := deleteText_eq_ok.mp h
    exact ⟨"DELETE FROM " ++ table ++ output, none, returning, rfl, fun wheres =>
      deleteText_eq_ok.mpr ⟨table, output, returning, htable, houtput, hreturning, rfl⟩⟩
  | update =>
    obtain ⟨items, assigned, table, output, returning, hitems, hassigned, htable, houtput, hreturning, rfl⟩ :=
      updateText_eq_ok.mp h
    exact ⟨"UPDATE " ++ table ++ " SET " ++ String.intercalate ", " assigned ++ output, none, returning, rfl,
      fun wheres => updateText_eq_ok.mpr
        ⟨items, assigned, table, output, returning, hitems, hassigned, htable, houtput, hreturning, rfl⟩⟩

end Draft

/-! ## The clause as it is read -/

namespace Reading

variable {d : Dialect}

/-- What a WHERE clause says, with the blank before it. Where nothing is said there is no clause, and of a
clause may be nothing readable. -/
def ClauseSays (d : Dialect) (clause : String) (m : (List Token → Truth) → Option (Option Truth)) : Prop :=
  (clause = "" ∧ ∀ v, m v = none) ∨
    ∃ cond, clause = " WHERE " ++ cond ∧ ∀ v, m v = some (value? v (read d cond))

/-- Two texts in parentheses, joined by AND. -/
theorem value?_both {a b : String} {xs ys : List Item} (ha : pieces d a = some xs) (hb : pieces d b = some ys)
    (v : List Token → Truth) : value? v (read d ("( " ++ a ++ " ) AND ( " ++ b ++ " )")) =
      Option.map₂ .and (value? v (expression xs)) (value? v (expression ys)) := by
  have hblanks {a : String} {xs : List Item} (h : pieces d a = some xs) :
      ∃ whole, pieces d ("( " ++ a ++ " )") = some [.nest whole (expression xs)] := by
    have hinner : pieces d ("" ++ " " ++ a ++ " " ++ "") = some ([] ++ xs ++ []) :=
      pieces_append_blank (pieces_append_blank pieces_empty h) pieces_empty
    obtain ⟨whole, hwhole⟩ := pieces_parentheses hinner
    have htext : "(" ++ ("" ++ " " ++ a ++ " " ++ "") ++ ")" = "( " ++ a ++ " )" := by
      simp [← String.toList_inj]
    rw [htext, List.nil_append, List.append_nil] at hwhole
    exact ⟨whole, hwhole⟩
  obtain ⟨whole, hwhole⟩ := hblanks ha
  obtain ⟨whole', hwhole'⟩ := hblanks hb
  have htight (ts : List Token) (f : Option Formula) : Tight [.nest ts f] := ⟨by simp [Item.isWord], rfl⟩
  have hboth : Spells d ("( " ++ a ++ " )" ++ " " ++ (Condition.joiner false .and ++ ("( " ++ b ++ " )")))
      ([(.simple, [.nest whole (expression xs)])] ++ [(.and, [.nest whole' (expression ys)])]) :=
    (Spells.one hwhole (htight _ _) (by simp) .simple).append (by simp)
      (.one hwhole' (htight _ _) (by simp) .and) (by decide)
  have htext : "( " ++ a ++ " )" ++ " " ++ (Condition.joiner false .and ++ ("( " ++ b ++ " )")) =
      "( " ++ a ++ " ) AND ( " ++ b ++ " )" := by
    simp [← String.toList_inj, Condition.joiner]
  rw [htext] at hboth
  rw [read_eq_bind, hboth.pieces, Option.bind_some]
  exact hboth.value?

/-- The clause says what the conditions of the statement say, with the guard conjoined to the whole. -/
theorem clauseSays_whereText {dr : Draft} {guard : Option String} {xs : List Item}
    {m : (List Token → Truth) → Option (Option Truth)}
    (hpieces : pieces d (Condition.renderLevel dr.wheres) = some xs)
    (hm : ∀ v, (Condition.renderLevel dr.wheres = "" ↔ m v = none) ∧ value? v (expression xs) = (m v).join)
    (hguard : ∀ g ∈ guard, IsUnit d g) :
    ClauseSays d (dr.whereText guard) fun v =>
      Option.merge (Option.map₂ .and) (m v) (guard.map fun g => some (textTruth d v g)) := by
  have hread (v : List Token → Truth) (hne : Condition.renderLevel dr.wheres ≠ "") :
      m v = some (value? v (expression xs)) := by
    rw [(hm v).2]
    cases hmv : m v with
    | none => exact absurd ((hm v).1.mpr hmv) hne
    | some t => rfl
  cases guard with
  | none =>
    by_cases hempty : Condition.renderLevel dr.wheres = ""
    · refine .inl ⟨by rw [Draft.whereText, if_pos hempty], fun v => ?_⟩
      dsimp only
      rw [(hm v).1.mp hempty]
      rfl
    · refine .inr ⟨Condition.renderLevel dr.wheres, by rw [Draft.whereText, if_neg hempty], fun v => ?_⟩
      dsimp only
      rw [hread v hempty, read_eq_bind, hpieces]
      rfl
  | some g =>
    obtain ⟨ys, f, hys, htight, hf⟩ := hguard g rfl
    have hvalue (v : List Token → Truth) : value? v (expression ys) = some (textTruth d v g) := by
      rw [expression_of_noOr htight.noOr, IsUnit.textTruth hys htight hf, hf]
      rfl
    by_cases hempty : Condition.renderLevel dr.wheres = ""
    · refine .inr ⟨g, by rw [Draft.whereText, if_pos hempty], fun v => ?_⟩
      dsimp only
      rw [(hm v).1.mp hempty, read_eq_bind, hys, Option.bind_some, hvalue v]
      rfl
    · refine .inr ⟨"( " ++ Condition.renderLevel dr.wheres ++ " ) AND ( " ++ g ++ " )", ?_, fun v => ?_⟩
      · rw [Draft.whereText, if_neg hempty]
        simp [← String.toList_inj]
      · dsimp only
        rw [hread v hempty, value?_both hpieces hys, hvalue v]
        rfl

/-- What a WHERE clause says, with the blank before it. Where nothing is said there is no clause, and every
clause can be read. -/
def ClauseReads (d : Dialect) (clause : String) (m : (List Token → Truth) → Option Truth) : Prop :=
  (clause = "" ∧ ∀ v, m v = none) ∨
    ∃ cond f, clause = " WHERE " ++ cond ∧ read d cond = some f ∧ ∀ v, m v = some (f.truth v)

theorem ClauseSays.reads {clause : String} {m : (List Token → Truth) → Option (Option Truth)}
    {m' : (List Token → Truth) → Option Truth} (h : ClauseSays d clause m) (hm : ∀ v, m v = (m' v).map some) :
    ClauseReads d clause m' := by
  rcases h with ⟨hclause, hnone⟩ | ⟨cond, hclause, hsome⟩
  · exact .inl ⟨hclause, fun v => Option.map_eq_none_iff.mp ((hm v).symm.trans (hnone v))⟩
  · have hvalue (v : List Token → Truth) : ∃ t, m' v = some t ∧ value? v (read d cond) = some t := by
      obtain ⟨t, ht, hread⟩ := Option.map_eq_some_iff.mp ((hm v).symm.trans (hsome v))
      exact ⟨t, ht, hread.symm⟩
    obtain ⟨t, -, hread⟩ := hvalue fun _ => .unknown
    obtain ⟨f, hf, -⟩ := Option.map_eq_some_iff.mp hread
    refine .inr ⟨cond, f, hclause, hf, fun v => ?_⟩
    obtain ⟨t, ht, hread⟩ := hvalue v
    rw [hf] at hread
    rw [ht, ← hread]
    rfl

/-- The condition of a WHERE clause, with the blank before it, has a property. Of no clause there is no
condition. -/
def ClauseAll (P : String → Prop) (clause : String) : Prop := ∀ cond, clause = " WHERE " ++ cond → P cond

theorem clauseAll_empty {P : String → Prop} : ClauseAll P "" := fun cond h => by
  have hlength := congrArg (·.toList.length) h
  simp at hlength

theorem clauseAll_where {P : String → Prop} {cond : String} : ClauseAll P (" WHERE " ++ cond) ↔ P cond := by
  refine ⟨fun h => h cond rfl, fun h cond' heq => ?_⟩
  obtain rfl : cond = cond' := by simpa [← String.toList_inj] using heq
  exact h

end Reading

/-! ## The clause of a statement -/

open Reading (ClauseSays ClauseReads textTruth IsUnit)

/-- The statement holds a WHERE clause and has a guard: without conditions the clause would be the guard
alone, and all else would stay. -/
structure Builder.HasClause (cat : Catalog) (b : Builder Statement) (sql clause : String)
    (guard : Option String) : Prop where
  guarded : b.Guarded cat guard
  place : ∃ lead tail, sql = Text.trim (lead ++ clause ++ tail) ∧
    Statement.query cat (.of (b.withWheres [])) =
      .ok (Text.trim (lead ++ guard.elim "" (" WHERE " ++ ·) ++ tail))

variable {cat : Catalog} {b b' : Builder Statement} {calls : List (Call Statement)} {sql : String}

theorem Builder.Guarded.isUnit {guard : Option String} (h : b.Guarded cat guard) :
    ∀ g ∈ guard, IsUnit cat.dialect g := by
  unfold Guarded at h
  split at h
  · simp [h]
  · obtain ⟨ref, href, rfl⟩ := h
    rintro g ⟨⟩
    exact Reading.isUnit_isNull (Reading.isReference_columnReference href)

/-- Every statement but an INSERT holds its WHERE clause in one place. -/
theorem Builder.hasClause_of_query (hkind : b.kind ≠ .insert) (h : Statement.query cat (.of b) = .ok sql) :
    ∃ guard, b.HasClause cat sql (b.draft.whereText guard) guard := by
  obtain ⟨comment, entries, body, hcomment, hentries, hbody, rfl⟩ := Statement.query_of_eq_ok.mp h
  obtain ⟨lead, guard, tail, hguard, hplace⟩ := Draft.statementText_eq_ok hkind hbody
  have hown : body = lead ++ b.draft.whereText guard ++ tail :=
    Except.ok.inj (hbody.symm.trans (hplace b.draft.wheres))
  refine ⟨guard, ?_, comment ++ Cte.block cat.dialect b.ctes entries ++ lead, tail, ?_, ?_⟩
  · split at hguard
    · next hselect => exact guarded_softDelete hselect hguard
    · next hselect =>
      cases hguard
      rw [Guarded, hiding?, if_neg fun h => hselect h.1]
  · rw [hown]
    simp only [String.append_assoc]
  · refine Statement.query_of_eq_ok.mpr ⟨comment, entries, _, hcomment, hentries, hplace [], ?_⟩
    have hbare : ({ b.draft with wheres := [] } : Draft).whereText guard = guard.elim "" (" WHERE " ++ ·) := by
      cases guard <;> rfl
    rw [hbare]
    simp only [withWheres, String.append_assoc]

theorem Builder.forall_mem_saidBy {P : Said → Prop} (hP : ∀ call ∈ calls, ∀ link step,
    call.said? cat = some (link, step) → Build.Returns P step) : ∀ s ∈ b.saidBy cat calls, P s.2 := by
  induction calls generalizing b with
  | nil => simp [saidBy]
  | cons call rest ih =>
    rw [List.forall_mem_cons] at hP
    rw [saidBy, List.forall_mem_append]
    refine ⟨?_, ih hP.2⟩
    unfold saidOf
    split
    · simp
    · next link step hsaid =>
      split
      · next s hs =>
        rw [List.forall_mem_singleton]
        exact hP.1 link step hsaid _ s _ (Prod.ext hs rfl)
      · simp

/-- What the calls on a statement say is made of units, and is no list where no list is given. -/
theorem Call.returns_said {σ : Type} {call : Call σ} {P : Said → Prop} (hP : Said.Closed cat.dialect P)
    (hsimples : ∀ c ∈ call.simples, Build.Returns P (Build.saidSimple cat.dialect c)) {link : Connector}
    {step : Build Said} (h : call.said? cat = some (link, step)) : Build.Returns P step := by
  cases call with
  | «where» link' c given =>
    cases h
    exact Build.returns_said hP c hsimples
  | whereInIds link' ids =>
    cases h
    exact Build.returns_saidIds hP ids
  | _ => cases h

/-- The clause of a statement says what is written for the calls that its conditions are made of. -/
theorem Builder.clauseSays_of_level {said : List (Connector × Said)} (hwheres : b.draft.wheres = Said.level [] said)
    (htexts : ∀ t ∈ Said.callTexts said, IsUnit cat.dialect t) {guard : Option String}
    (hguard : b.Guarded cat guard) :
    ClauseSays cat.dialect (b.draft.whereText guard) fun v => Option.merge (Option.map₂ .and)
      (rowValue (spread (sinceReset (Said.callUnits (textTruth cat.dialect v) said))))
      (guard.map fun g => some (textTruth cat.dialect v g)) := by
  obtain ⟨xs, hxs, hvalues⟩ := Reading.pieces_renderLevel htexts
  rw [← hwheres] at hxs hvalues
  exact Reading.clauseSays_whereText hxs hvalues hguard.isUnit

/-- The clause of a statement says what is written for the calls on it. -/
theorem Builder.clauseSays_of_run (hfresh : b.draft.wheres = []) (hrun : b.run cat calls = .ok b')
    (hunits : ∀ call ∈ calls, ∀ c ∈ call.simples, c.OfUnits cat.dialect) {guard : Option String}
    (hguard : b'.Guarded cat guard) :
    ClauseSays cat.dialect (b'.draft.whereText guard) fun v => Option.merge (Option.map₂ .and)
      (rowValue (spread (sinceReset (Said.callUnits (textTruth cat.dialect v) (b.saidBy cat calls)))))
      (guard.map fun g => some (textTruth cat.dialect v g)) := by
  have hsaid : ∀ s ∈ b.saidBy cat calls, ∀ t ∈ s.2.texts, IsUnit cat.dialect t :=
    forall_mem_saidBy (P := fun s => ∀ t ∈ s.texts, IsUnit cat.dialect t) fun call hcall link step hstep =>
      Call.returns_said Build.closed_units (fun c hc => Build.returns_saidSimple_units (hunits call hcall c hc))
        hstep
  refine clauseSays_of_level ?_ (fun t ht => ?_) hguard
  · rw [wheres_of_run hrun, hfresh]
  · obtain ⟨s, hs, ht⟩ := Said.mem_callTexts.mp ht
    exact hsaid s hs t ht

/-- The WHERE clause means what the calls said, at every level and with the guard conjoined to the whole. It
can be read, so it holds no empty parentheses and no connector that lacks a side; and where nothing is said
and nothing hidden, there is none. -/
theorem Builder.clause_of_run (hfresh : b.draft.wheres = [])
    (hplain : ∀ call ∈ calls, ∀ c ∈ call.simples, c.OfUnits cat.dialect ∧ c.IsSingle)
    (hrun : b.run cat calls = .ok b') (hkind : b'.kind ≠ .insert)
    (hsql : Statement.query cat (.of b') = .ok sql) :
    ∃ clause guard, b'.HasClause cat sql clause guard ∧
      ClauseReads cat.dialect clause fun v => Option.merge Truth.and
        (levelTruth (Said.truths (textTruth cat.dialect v) (b.saidBy cat calls)))
        (guard.map (textTruth cat.dialect v)) := by
  obtain ⟨guard, hclause⟩ := hasClause_of_query hkind hsql
  refine ⟨_, guard, hclause, ?_⟩
  have hsaid := clauseSays_of_run hfresh hrun (fun call hcall c hc => (hplain call hcall c hc).1)
    hclause.guarded
  have hlists : Said.NoneListed (b.saidBy cat calls) :=
    (Said.noneListed_iff _).mpr (forall_mem_saidBy fun call hcall link step hstep =>
      Call.returns_said Build.closed_noLists
        (fun c hc => Build.returns_saidSimple_noLists (hplain call hcall c hc).2) hstep)
  refine hsaid.reads fun v => ?_
  rw [Said.rowValue_of_standApart (Said.standApart_of_noneListed hlists)]
  cases levelTruth (Said.truths (textTruth cat.dialect v) (b.saidBy cat calls)) <;> cases guard <;> rfl

/-! ## Articles -/

/-- Articles, of which deleted ones stay in the table. -/
def Entity.articles : Entity :=
  { name := .text "articles"
    table := "articles"
    columns := [{ property := "id", database := "id", isPrimary := true },
      { property := "deleted", database := "deleted_at", isDeleteDate := true }] }

def Builder.ofArticles : Builder Statement :=
  { draft := { scope := { main := some { id := 0, name := .text "articles", subject := some (.entity .articles) } } } }

/-- A level whose first connector does not count, with a negated group that an empty group stands in. -/
def Call.nestedCalls : List (Call Statement) :=
  [.where .and (.simple (.text "a = 1")) .null,
    .where .or (.group true [.where .simple (.simple (.text "b = 2")) .null, .where .or (.group false []) .null,
      .where .and (.simple (.record [("id", .int 3)])) .null]) .null]

def Builder.nestedArticles : Builder Statement :=
  { Builder.ofArticles with
    draft := { Builder.ofArticles.draft with
      wheres := [(.and, .text "a = 1"),
        (.or, .group true [(.simple, .text "b = 2"), (.and, .text "\"articles\".\"id\" = :orm_param_0")])]
      parameters := [("orm_param_0", .int 3)]
      parameterIndex := 1 } }

def Catalog.sqlite : Catalog := { dialect := .sqlite }

def Builder.nestedText : String :=
  "SELECT * FROM \"articles\" \"articles\" WHERE ( a = 1 OR NOT(b = 2 AND \"articles\".\"id\" = :orm_param_0) ) " ++
    "AND ( \"articles\".\"deleted_at\" IS NULL )"

set_option maxRecDepth 4000 in
theorem Builder.clause_of_nested_calls :
    Builder.ofArticles.run .sqlite Call.nestedCalls = .ok Builder.nestedArticles ∧
    Statement.query .sqlite (.of Builder.nestedArticles) = .ok Builder.nestedText ∧
    ∃ clause guard, Builder.nestedArticles.HasClause .sqlite Builder.nestedText clause guard ∧
      ClauseReads Catalog.sqlite.dialect clause fun v => Option.merge Truth.and
        (levelTruth (Said.truths (textTruth Catalog.sqlite.dialect v)
          (Builder.ofArticles.saidBy .sqlite Call.nestedCalls)))
        (guard.map (textTruth Catalog.sqlite.dialect v)) := by
  have hrun : Builder.ofArticles.run .sqlite Call.nestedCalls = .ok Builder.nestedArticles := rfl
  have hsql : Statement.query .sqlite (.of Builder.nestedArticles) = .ok Builder.nestedText := rfl
  have ha : IsUnit .sqlite "a = 1" :=
    Reading.isUnit_of_read (f := .atom [.word ['a'], .sign '=', .word ['1']]) (by decide) nofun
  have hb : IsUnit .sqlite "b = 2" :=
    Reading.isUnit_of_read (f := .atom [.word ['b'], .sign '=', .word ['2']]) (by decide) nofun
  refine ⟨hrun, hsql, clause_of_run rfl ?_ hrun nofun hsql⟩
  simp only [Call.nestedCalls, List.forall_mem_cons, Call.simples, Criterion.simples, GroupCall.simples]
  simp only [List.nil_append, List.append_nil, List.singleton_append, List.forall_mem_cons, List.not_mem_nil,
    false_implies, implies_true, and_true]
  exact ⟨⟨.inr ha, trivial⟩, ⟨.inr hb, trivial⟩, trivial, trivial⟩

end SqlWeave
