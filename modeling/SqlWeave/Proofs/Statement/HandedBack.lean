import SqlWeave.Proofs.Condition.Conversion
import SqlWeave.Proofs.Statement.Body
import SqlWeave.Proofs.Statement.WithBlock

/-!
# Columns that a write hands back

Whether a dialect can hand rows back is looked at when columns are asked for, of the kind that the statement
has at that time. What was asked for stays with the statement through clones and conversions, and it is
written wherever the dialect has a clause for it. So a clause stands in a kind of statement that the dialect
hands nothing back from exactly when columns that were asked of one kind end up in another: an UPDATE for
MariaDB, made of an INSERT or of a DELETE.
-/

namespace SqlWeave

variable {σ : Type} {cat : Catalog}

/-! ## Requests -/

/-- Columns that were asked for, and the kind of statement that they were asked of. -/
structure Request where
  kind : StatementKind
  columns : Returning

/-- The columns that a value names: a text, or a list of names. -/
def Returning.ofValue? (v : Value) : Option Returning :=
  match v.text? with
  | some _ => some (.text v)
  | none => v.elements?.map .columns

/-- The request that a call makes, where the dialect takes it. -/
def Call.request? (cat : Catalog) (kind : StatementKind) : Call σ → Option Request
  | .returning v => if cat.dialect.returns kind then (Returning.ofValue? v).map (⟨kind, ·⟩) else none
  | _ => none

namespace Build

theorem ends_setReturning (kind : StatementKind) (v : Value) (d : Draft) :
    (ends (setReturning cat kind v) d).2 =
      { d with returning := (((Call.returning v : Call σ).request? cat kind).map Request.columns).or d.returning } := by
  simp only [setReturning, Call.request?, Returning.ofValue?]
  cases cat.dialect.returns kind with
  | false => rfl
  | true => cases v.text? <;> cases v.elements? <;> rfl

/-- What is handed back has afterwards what it had and what the request has. -/
theorem exists_returning_setReturning {P : Returning → Prop} {kind : StatementKind} {v : Value}
    (hv : ∀ r, Returning.ofValue? v = some r → P r) {d : Draft} (h : ∀ r ∈ d.returning, P r) :
    ∃ returning, (∀ r ∈ returning, P r) ∧ (ends (setReturning cat kind v) d).2 = { d with returning } := by
  refine ⟨_, fun r hr => ?_, ends_setReturning (σ := Statement) kind v d⟩
  rcases Option.or_eq_some_iff.mp hr with hr | ⟨-, hr⟩
  · rw [Call.request?] at hr
    split at hr
    · obtain ⟨request, hrequest, hcolumns⟩ := Option.map_eq_some_iff.mp hr
      obtain ⟨columns, hvalue, rfl⟩ := Option.map_eq_some_iff.mp hrequest
      exact hcolumns ▸ hv columns hvalue
    · cases hr
  · exact h r hr

/-- Every other call leaves what was asked for. -/
theorem keeps_returning (kind : StatementKind) {c : Call σ} (h : ∀ v, c ≠ .returning v) :
    Keeps Draft.returning (call cat kind c) := by
  have hbindings : IgnoresBindings Draft.returning := ⟨fun _ _ => rfl, fun _ _ _ => rfl⟩
  have hwhere (link : Connector) (criterion : Criterion) (given : Value) :=
    keeps_whereCall cat.dialect hbindings (fun _ _ => rfl) link criterion given
  have htarget (target name : Value) : Keeps Draft.returning (setTarget cat target name) :=
    keeps_setTarget_of_scope (fun _ _ => rfl) cat target name
  have horder (sort order nulls : Value) : Keeps Draft.returning (addOrderBy sort order nulls) :=
    keeps_addOrderBy (fun _ _ => rfl) sort order nulls
  cases c with
  | returning v => exact absurd rfl (h v)
  | «where» link criterion given => exact hwhere link criterion given
  | whereInIds link ids =>
    exact keeps_bind keeps_get fun _ => keeps_bind (keeps_ofExcept _) fun c => hwhere link _ _
  | setParameter key v => exact keeps_setParameter hbindings key v
  | setParameters given => exact keeps_setGiven hbindings given
  | «from» target name => exact htarget target name
  | into target columns =>
    exact keeps_bind (htarget target _) fun _ => keeps_bind (keeps_ofExcept _) fun _ => keeps_modify fun _ => rfl
  | orderBy sort order nulls =>
    exact keeps_bind (keeps_modify fun _ => rfl) fun _ => keeps_ite (horder sort order nulls) (keeps_pure _)
  | addOrderBy sort order nulls => exact horder sort order nulls
  | orIgnore on => exact keeps_unless (keeps_modify fun _ => rfl)
  | limit given | offset given =>
    exact keeps_bind (keeps_paging _ given) fun _ => keeps_modify fun _ => rfl
  | comment | useTransaction | callListeners | values | updateEntity | set | select | addSelect | withDeleted =>
    exact keeps_modify fun _ => rfl
  | toSelect | toInsert | toUpdate | toDelete | clone | addCte => exact keeps_pure _

end Build

namespace Builder

theorem returning_apply (b : Builder σ) (call : Call σ) :
    (b.apply cat call).1.draft.returning =
      ((call.request? cat b.kind).map Request.columns).or b.draft.returning := by
  by_cases hreturning : ∃ v, call = .returning v
  · obtain ⟨v, rfl⟩ := hreturning
    exact congrArg Draft.returning ((draft_step b _).trans (Build.ends_setReturning b.kind v b.draft))
  · have hnone : call.request? cat b.kind = none := by
      cases call with
      | returning v => exact absurd ⟨v, rfl⟩ hreturning
      | _ => rfl
    rw [hnone]
    refine preserves_apply (P := fun d => d.returning = b.draft.returning) (fun _ _ h => h) (fun kind c hc => ?_) rfl
    refine Build.preserves_of_keeps (f := Draft.returning) (fun _ _ h h' => h.trans h')
      (Build.keeps_returning kind fun v hv => ?_)
    rcases Call.eq_of_mem_parts hc with rfl | ⟨_, _, rfl⟩ | ⟨_, rfl⟩ | ⟨_, rfl⟩
    · exact hreturning ⟨v, hv⟩
    all_goals cases hv

/-- The last request that the dialect took. -/
def lastRequest (cat : Catalog) (last : Option Request) : Builder σ → List (Call σ) → Option Request
  | _, [] => last
  | b, call :: rest => lastRequest cat ((call.request? cat b.kind).or last) (b.next cat call) rest

/-- A conversion asks for nothing. -/
theorem request?_of_isConversion {call : Call σ} (h : call.isConversion) (kind : StatementKind) :
    call.request? cat kind = none := by
  cases call with
  | toSelect | toInsert | toUpdate | toDelete | clone => rfl
  | _ => cases h

theorem returning_next (b : Builder σ) (call : Call σ) :
    (b.next cat call).draft.returning =
      ((call.request? cat b.kind).map Request.columns).or b.draft.returning := by
  rcases next_cases cat b call with h | ⟨hconversion, h⟩
  · rw [h]
    exact returning_apply b call
  · rw [h, request?_of_isConversion hconversion]
    rfl

/-- A statement keeps the columns of the last request that was taken, whatever its kind is by now. -/
theorem returning_reached {b : Builder σ} {last : Option Request} (calls : List (Call σ))
    (h : b.draft.returning = last.map Request.columns) :
    (b.reached cat calls).draft.returning = (lastRequest cat last b calls).map Request.columns := by
  induction calls generalizing b last with
  | nil => exact h
  | cons call rest ih =>
    refine ih ?_
    rw [returning_next, h]
    cases call.request? cat b.kind <;> rfl

/-- The dialect hands rows back from the kind of statement that a request was made of. -/
theorem returns_lastRequest {b : Builder σ} {last : Option Request} (calls : List (Call σ))
    (h : ∀ r ∈ last, cat.dialect.returns r.kind) :
    ∀ r ∈ lastRequest cat last b calls, cat.dialect.returns r.kind := by
  induction calls generalizing b last with
  | nil => exact h
  | cons call rest ih =>
    refine ih fun r hr => ?_
    rcases Option.or_eq_some_iff.mp hr with hr | ⟨-, hr⟩
    · cases call with
      | returning v =>
        rw [Call.request?] at hr
        split at hr
        · next hreturns =>
          obtain ⟨columns, -, rfl⟩ := Option.map_eq_some_iff.mp hr
          exact hreturns
        · cases hr
      | _ => cases hr
    · exact h r hr

end Builder

/-! ## The clause -/

/-- The clause of a style for some columns; without columns there is none. -/
def ReturningStyle.clause (style : ReturningStyle) (columns : String) : String :=
  if columns = "" then ""
  else match style with
    | .output => " OUTPUT " ++ columns
    | .returning => " RETURNING " ++ columns
    | .none => ""

theorem ReturningStyle.clause_eq_empty {style : ReturningStyle} {columns : String} :
    style.clause columns = "" ↔ style = .none ∨ columns = "" := by
  unfold clause
  split
  · next hempty => exact iff_of_true rfl (.inr hempty)
  · next hsome => cases style <;> simp [hsome]

namespace Draft

/-- The statement when nothing is to be handed back, whether it was asked for or not. -/
def withoutReturning (d : Draft) : Draft := { d with returning := none, updateEntity := .bool false }

/-- What stands in the place of one style: the clause, when it is the style of the dialect. -/
theorem returningClause_eq_ok {d : Draft} {kind : StatementKind} {style : ReturningStyle} {text : String} :
    d.returningClause cat kind style = .ok text ↔
      (cat.dialect.capabilities.returningStyle ≠ style ∧ text = "") ∨
      (cat.dialect.capabilities.returningStyle = style ∧
        ∃ columns, d.returned cat kind = .ok columns ∧ text = style.clause columns) := by
  unfold returningClause
  by_cases hstyle : cat.dialect.capabilities.returningStyle = style
  · simp only [hstyle, ne_eq, not_true_eq_false, if_false, false_and, true_and, false_or]
    refine Result.bind_eq_ok.trans (exists_congr fun columns => and_congr_right fun _ => ?_)
    unfold ReturningStyle.clause
    split <;> exact Result.pure_eq_ok.trans eq_comm
  · simp only [hstyle, ne_eq, not_false_eq_true, if_true, true_and, false_and, or_false]
    exact Result.pure_eq_ok.trans eq_comm

/-- A write has two places for a clause, one for each style, and only the dialect's own is filled. -/
theorem exists_place {d : Draft} {kind : StatementKind} {output returning : String}
    (houtput : d.returningClause cat kind .output = .ok output)
    (hreturning : d.returningClause cat kind .returning = .ok returning) (a b : String) :
    ∃ lead columns tail,
      a ++ output ++ b ++ returning = lead ++ cat.dialect.capabilities.returningStyle.clause columns ++ tail ∧
      a ++ b = lead ++ tail ∧
      (cat.dialect.capabilities.returningStyle ≠ .none → d.returned cat kind = .ok columns) := by
  rw [returningClause_eq_ok] at houtput hreturning
  cases hstyle : cat.dialect.capabilities.returningStyle with
  | none =>
    obtain rfl : output = "" := by simpa [hstyle] using houtput
    obtain rfl : returning = "" := by simpa [hstyle] using hreturning
    exact ⟨a, "", b, by simp [ReturningStyle.clause], rfl, nofun⟩
  | output =>
    obtain ⟨columns, hcolumns, rfl⟩ : ∃ columns, d.returned cat kind = .ok columns ∧
        output = ReturningStyle.output.clause columns := by simpa [hstyle] using houtput
    obtain rfl : returning = "" := by simpa [hstyle] using hreturning
    exact ⟨a, columns, b, by simp, rfl, fun _ => hcolumns⟩
  | returning =>
    obtain rfl : output = "" := by simpa [hstyle] using houtput
    obtain ⟨columns, hcolumns, rfl⟩ : ∃ columns, d.returned cat kind = .ok columns ∧
        returning = ReturningStyle.returning.clause columns := by simpa [hstyle] using hreturning
    exact ⟨a ++ b, columns, "", by simp, by simp, fun _ => hcolumns⟩

/-- Where nothing is to be handed back, there is no clause. -/
theorem returningClause_withoutReturning {d : Draft} {e : Option Entity} (h : d.entity = .ok e)
    (kind : StatementKind) (style : ReturningStyle) :
    d.withoutReturning.returningClause cat kind style = .ok "" := by
  have hentity : d.withoutReturning.entity = .ok e := h
  have hreturned : d.withoutReturning.returned cat kind = .ok "" := by
    unfold returned
    split
    · have hnone : Insert.returning cat d.withoutReturning = .ok none := by
        rw [Insert.returning]
        dsimp only [withoutReturning]
        show Insert.implicitReturning cat d.withoutReturning = _
        unfold Insert.implicitReturning
        rw [hentity]
        cases e <;> rfl
      rw [hnone]
      rfl
    · rfl
  rw [returningClause_eq_ok]
  by_cases hstyle : cat.dialect.capabilities.returningStyle = style
  · exact .inr ⟨hstyle, "", hreturned, rfl⟩
  · exact .inl ⟨hstyle, rfl⟩

theorem entity_of_quotedTable {d : Draft} {table : String} (h : d.quotedTable cat = .ok table) :
    ∃ e, d.entity = .ok e := by
  obtain ⟨path, hpath, -⟩ := Result.bind_eq_ok.mp h
  unfold mainTable at hpath
  unfold entity
  cases hmain : d.main with
  | none => exact ⟨none, rfl⟩
  | some a =>
    rw [hmain] at hpath
    obtain ⟨e, he, -⟩ := Result.bind_eq_ok.mp hpath
    exact ⟨e, he⟩

/-- The place of the clause: without it the text is the one in which nothing is handed back. -/
theorem statementText_handsBack {d : Draft} {kind : StatementKind} {sql : String}
    (h : d.statementText cat kind = .ok sql) :
    ∃ lead columns tail,
      sql = lead ++ cat.dialect.capabilities.returningStyle.clause columns ++ tail ∧
      d.withoutReturning.statementText cat kind = .ok (lead ++ tail) ∧
      (if kind = .select then columns = ""
        else cat.dialect.capabilities.returningStyle ≠ .none → d.returned cat kind = .ok columns) := by
  cases kind with
  | select =>
    refine ⟨sql, "", "", ?_, ?_, rfl⟩
    · simp [ReturningStyle.clause]
    · rw [String.append_empty]
      exact h
  | delete =>
    obtain ⟨table, output, returning, htable, houtput, hreturning, rfl⟩ := deleteText_eq_ok.mp h
    obtain ⟨e, he⟩ := entity_of_quotedTable htable
    obtain ⟨lead, columns, tail, htext, hbare, hcolumns⟩ :=
      exists_place houtput hreturning ("DELETE FROM " ++ table) (d.whereText none)
    refine ⟨lead, columns, tail, htext, deleteText_eq_ok.mpr ⟨table, "", "", htable,
      returningClause_withoutReturning he _ _, returningClause_withoutReturning he _ _, ?_⟩, hcolumns⟩
    exact hbare.symm.trans (deleteAround_bare _ _).symm
  | update =>
    obtain ⟨items, assigned, table, output, returning, hitems, hassigned, htable, houtput, hreturning, rfl⟩ :=
      updateText_eq_ok.mp h
    obtain ⟨e, he⟩ := entity_of_quotedTable htable
    obtain ⟨lead, columns, tail, htext, hbare, hcolumns⟩ := exists_place houtput hreturning
      ("UPDATE " ++ table ++ " SET " ++ String.intercalate ", " assigned) (d.whereText none)
    refine ⟨lead, columns, tail, htext, updateText_eq_ok.mpr ⟨items, assigned, table, "", "", hitems, hassigned, htable,
      returningClause_withoutReturning he _ _, returningClause_withoutReturning he _ _, ?_⟩, hcolumns⟩
    exact hbare.symm.trans (updateAround_bare _ _ _).symm
  | insert =>
    obtain ⟨table, columnText, valueText, output, returning, htable, hinserted, houtput, hreturning, rfl⟩ :=
      insertText_eq_ok.mp h
    obtain ⟨e, he⟩ := entity_of_quotedTable htable
    let ignore := if d.onIgnore.truth then cat.dialect.capabilities.insertIgnore else none
    obtain ⟨lead, columns, tail, htext, hbare, hcolumns⟩ := exists_place houtput hreturning
      (insertLead ignore ++ " " ++ table ++ columnText)
      (" " ++ valueText ++ if ignore = some .onConflict then " ON CONFLICT DO NOTHING" else "")
    simp only [← String.append_assoc] at htext hbare
    refine ⟨lead, columns, tail, htext, insertText_eq_ok.mpr ⟨table, columnText, valueText, "", "", htable, hinserted,
      returningClause_withoutReturning he _ _, returningClause_withoutReturning he _ _, ?_⟩, hcolumns⟩
    rw [← hbare, insertAround, String.append_empty, String.append_empty]
    rfl

end Draft

namespace Builder

def withoutReturning (b : Builder σ) : Builder σ := { b with draft := b.draft.withoutReturning }

/-- The statement holds a clause of the dialect's style, or an empty one: when nothing is to be handed back,
all else of the statement stays. -/
structure HandsBack (cat : Catalog) (b : Builder Statement) (sql clause : String) : Prop where
  style : ∃ columns, clause = cat.dialect.capabilities.returningStyle.clause columns
  place : ∃ lead tail, sql = Text.trim (lead ++ clause ++ tail) ∧
    Statement.query cat (.of b.withoutReturning) = .ok (Text.trim (lead ++ tail))

variable {b : Builder Statement} {sql : String}

/-- Every statement has its clause in one place, with the columns that it hands back. -/
theorem handsBack_of_query (h : Statement.query cat (.of b) = .ok sql) :
    ∃ columns, b.HandsBack cat sql (cat.dialect.capabilities.returningStyle.clause columns) ∧
      (if b.kind = .select then columns = ""
        else cat.dialect.capabilities.returningStyle ≠ .none → b.draft.returned cat b.kind = .ok columns) := by
  obtain ⟨comment, entries, body, hcomment, hentries, hbody, rfl⟩ := Statement.query_of_eq_ok.mp h
  obtain ⟨lead, columns, tail, rfl, hbare, hcolumns⟩ := Draft.statementText_handsBack hbody
  refine ⟨columns, ⟨⟨columns, rfl⟩, comment ++ Cte.block cat.dialect b.ctes entries ++ lead, tail, ?_, ?_⟩, hcolumns⟩
  · simp only [String.append_assoc]
  · refine Statement.query_of_eq_ok.mpr ⟨comment, entries, _, hcomment, hentries, hbare, ?_⟩
    simp only [withoutReturning, String.append_assoc]

/-- A dialect that has a clause at all hands rows back from every write, but for MariaDB's UPDATE. -/
theorem not_returns_iff {d : Dialect} {kind : StatementKind} (hkind : kind ≠ .select)
    (hstyle : d.capabilities.returningStyle ≠ .none) : ¬ d.returns kind ↔ d = .mariadb ∧ kind = .update := by
  cases d <;> cases kind <;> simp_all [Dialect.returns, Dialect.capabilities]

/-- Calls on a new statement, whether they succeed or fail, and the clause that the statement hands rows back
by. It stands in a kind of statement that the dialect hands nothing back from exactly when, for MariaDB,
columns that were asked of an INSERT or of a DELETE come out in an UPDATE. -/
theorem clause_of_requests (calls : List (Call Statement))
    (hsql : Statement.query cat (.of (reached cat {} calls)) = .ok sql) :
    ∃ clause, (reached cat {} calls).HandsBack cat sql clause ∧
      (clause ≠ "" ∧ ¬ cat.dialect.returns (reached cat {} calls).kind ↔
        cat.dialect = .mariadb ∧ (reached cat {} calls).kind = .update ∧
          ∃ r ∈ lastRequest cat none {} calls, (r.kind = .insert ∨ r.kind = .delete) ∧ ∃ columns,
            (reached cat {} calls).draft.returningColumns cat .update (some r.columns) = .ok columns ∧
              columns ≠ "") := by
  have hlast : (reached cat {} calls).draft.returning =
      (lastRequest cat none {} calls).map Request.columns := returning_reached calls rfl
  have htaken : ∀ r ∈ lastRequest cat none ({} : Builder Statement) calls, cat.dialect.returns r.kind :=
    returns_lastRequest calls nofun
  revert hsql hlast
  generalize reached cat {} calls = b
  intro hsql hlast
  obtain ⟨columns, hclause, hcolumns⟩ := handsBack_of_query hsql
  refine ⟨_, hclause, ?_⟩
  rw [Ne, ReturningStyle.clause_eq_empty, not_or]
  constructor
  · rintro ⟨⟨hstyle, hsome⟩, hreturns⟩
    have hwrite : b.kind ≠ .select := fun hselect => hsome (by rwa [if_pos hselect] at hcolumns)
    obtain ⟨hdialect, hupdate⟩ := (not_returns_iff hwrite hstyle).mp hreturns
    rw [if_neg hwrite] at hcolumns
    have hwritten := hcolumns hstyle
    rw [hupdate, Draft.returned, if_neg nofun, hlast] at hwritten
    refine ⟨hdialect, hupdate, ?_⟩
    cases hrequest : lastRequest cat none ({} : Builder Statement) calls with
    | none =>
      rw [hrequest] at hwritten
      cases hwritten
      exact absurd rfl hsome
    | some r =>
      rw [hrequest] at hwritten
      have hkind := htaken r hrequest
      rw [hdialect] at hkind
      refine ⟨r, rfl, ?_, columns, hwritten, hsome⟩
      revert hkind
      cases r.kind <;> decide
  · rintro ⟨hdialect, hupdate, r, hrequest, -, columns', hwritten, hsome⟩
    have hstyle : cat.dialect.capabilities.returningStyle ≠ .none := by
      rw [hdialect]
      decide
    have hwrite : b.kind ≠ .select := by
      rw [hupdate]
      decide
    rw [if_neg hwrite] at hcolumns
    have hreturned := hcolumns hstyle
    rw [hupdate, Draft.returned, if_neg nofun, hlast, hrequest] at hreturned
    obtain rfl : columns = columns' := Except.ok.inj (hreturned.symm.trans hwritten)
    exact ⟨⟨hstyle, hsome⟩, (not_returns_iff hwrite hstyle).mpr ⟨hdialect, hupdate⟩⟩

end Builder

/-! ## Users that were to be deleted -/

def Catalog.mariadb : Catalog := { dialect := .mariadb }

/-- The ids of deleted users are asked for, and then the users are updated. -/
def Call.sparingCalls : List (Call Statement) :=
  [.from (.text "users") .null, .toDelete, .returning (.list [.text "id"]),
    .toUpdate .null (.record [("spared", .bool true)])]

/-- The UPDATE asks MariaDB for columns that it cannot hand back. -/
theorem Builder.clause_of_spared_users :
    Statement.query .mariadb (.of (Builder.reached .mariadb {} Call.sparingCalls)) =
      .ok "UPDATE `users` SET `spared` = :upd_0 RETURNING id" ∧
    (Builder.reached .mariadb {} Call.sparingCalls).kind = .update ∧
    ∃ clause, (Builder.reached .mariadb {} Call.sparingCalls).HandsBack .mariadb
        "UPDATE `users` SET `spared` = :upd_0 RETURNING id" clause ∧
      clause ≠ "" ∧ ¬ Dialect.mariadb.returns .update := by
  have hsql : Statement.query .mariadb (.of (Builder.reached .mariadb {} Call.sparingCalls)) =
      .ok "UPDATE `users` SET `spared` = :upd_0 RETURNING id" := rfl
  obtain ⟨clause, hclause, hiff⟩ := Builder.clause_of_requests Call.sparingCalls hsql
  have hrequest : (⟨.delete, .columns [.text "id"]⟩ : Request) ∈
      Builder.lastRequest .mariadb none {} Call.sparingCalls := rfl
  exact ⟨hsql, rfl, clause, hclause, hiff.mpr ⟨rfl, rfl, _, hrequest, .inr rfl, "id", rfl, by decide⟩⟩

end SqlWeave
