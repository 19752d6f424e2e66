import SqlWeave.Proofs.Statement.ClearWrite
import SqlWeave.Proofs.Statement.Settled
import SqlWeave.Proofs.Statement.Telling

/-!
# The order in which values are sent

What a caller states by mappings is sent in the order in which it is written, whatever calls it took. The
argument goes through three layers: one call extends or replaces the values that the conditions tell, however it
ends; the text of a statement has the references of what is derived from its rows or its assignments and then
those of its conditions; and a text without other colons is bound one reference after the other. Main result:
`Statement.bound_of_mappings`.
-/

namespace SqlWeave

open Build (Binds Keeps ends)

/-! ## Calls of mappings -/

mutual
/-- Criteria of mappings bind generated names only. -/
theorem Criterion.OfMappings.binds (d : Draft) : ∀ {c : Criterion}, c.OfMappings →
    ∀ b ∈ c.binds d, ∃ v, b = .generated v
  | .simple c, hc => by
    cases c with
    | record r =>
      rw [Criterion.binds]
      intro b hb
      obtain ⟨p, -, hb⟩ := List.mem_flatMap.mp hb
      unfold Bind.ofComparison at hb
      split at hb
      · cases hb
      all_goals exact ⟨_, List.mem_singleton.mp hb⟩
    | _ =>
      rw [Criterion.OfMappings] at hc
      · cases hc
      · nofun
  | .group negated calls, hc => by
    rw [Criterion.OfMappings] at hc
    rw [Criterion.binds]
    exact GroupCall.OfMappings.binds d hc

theorem GroupCall.OfMappings.binds (d : Draft) : ∀ {calls : List GroupCall}, GroupCall.OfMappings calls →
    ∀ b ∈ GroupCall.binds d calls, ∃ v, b = .generated v
  | [], _ => by
    rw [GroupCall.binds]
    exact List.forall_mem_nil _
  | .where link c given :: rest, hcalls => by
    rw [GroupCall.OfMappings] at hcalls
    obtain ⟨hc, hgiven, hrest⟩ := hcalls
    rw [GroupCall.binds, Bind.ofGiven_of_falsy hgiven, List.nil_append]
    exact List.forall_mem_append.mpr ⟨Criterion.OfMappings.binds d hc, GroupCall.OfMappings.binds d hrest⟩
  | .whereInIds .. :: _, hcalls | .setParameter .. :: _, hcalls | .setParameters .. :: _, hcalls
  | .whereEquals .. :: _, hcalls | .failing .. :: _, hcalls => by
    rw [GroupCall.OfMappings] at hcalls
    · cases hcalls
    · nofun
end

/-- What is bound to generated names leaves the values of the names before them. -/
theorem Draft.Booked.binds {d d' : Draft} {binds : List Bind} (h : Draft.Booked binds d d')
    (hgenerated : ∀ b ∈ binds, ∃ v, b = .generated v) : Binds d d' := by
  have hchooser (n : Nat) : ∀ w ∈ Bind.writes n binds, w.chooser = .builder := by
    clear h
    induction binds generalizing n with
    | nil => exact List.forall_mem_nil _
    | cons b rest ih =>
      obtain ⟨⟨v, rfl⟩, hrest⟩ := List.forall_mem_cons.mp hgenerated
      rw [Bind.writes]
      refine List.forall_mem_append.mpr ⟨?_, ih hrest (n + 1)⟩
      split
      · exact List.forall_mem_nil _
      · exact List.forall_mem_singleton.mpr rfl
  refine ⟨h.index ▸ Nat.le_add_right _ _, fun n hn => ?_, fun hnodup => h.parameters ▸ Assoc.nodup_keys_merge hnodup _⟩
  rw [h.parameters]
  refine Assoc.get?_merge_of_not_mem _ fun hmem => ?_
  obtain ⟨p, hp, hname⟩ := List.mem_map.mp hmem
  obtain ⟨w, hw, rfl⟩ := List.mem_map.mp hp
  obtain ⟨k, hk, hk'⟩ := (Bind.nodup_generated d.parameterIndex binds).2 w hw (hchooser _ w hw)
  have := Build.generatedName_inj.mp (hk'.symm.trans hname)
  omega

/-- A call extends the values of the conditions by those of its criterion, unless it fails. -/
theorem Build.tells_whereCall {dialect : Dialect} (link : Connector) {c : Criterion} {given : Value} {kept : List Value}
    {d : Draft} (hc : c.OfMappings) (hgiven : given.truth = false) (hread : ReadsClear (d.columnReference dialect))
    (hd : d.TellsLevel d.wheres kept) :
    (ends (whereCall dialect link c given) d).2.TellsLevel (ends (whereCall dialect link c given) d).2.wheres
      ((if link = .simple then [] else kept) ++
        match (ends (whereCall dialect link c given) d).1 with
        | .ok _ => c.values
        | .error _ => []) := by
  have hbase : (d.restarted link).TellsLevel (d.restarted link).wheres (if link = .simple then [] else kept) := by
    unfold Draft.restarted
    split
    · exact Draft.tellsLevel_nil
    · exact hd
  have hread : ReadsClear ((d.restarted link).columnReference dialect) := by
    unfold Draft.restarted
    split <;> exact hread
  have hwheres := keeps_condition dialect ignoresBindings_wheres c (d.restarted link)
  have hbooks := (books_condition (d := d.restarted link) dialect c _ rfl).2
  rw [ends_whereCall_of_falsy hgiven]
  match h : ends (condition dialect c) (d.restarted link) with
  | (.ok stated, e) =>
    rw [h] at hwheres
    obtain ⟨hbinds, htold⟩ := tells_condition c hc hread h
    have hlevel := (hbase.binds hbinds).extend htold link
    rw [← hwheres] at hlevel
    have hreset : (if link = .simple then [] else if link = .simple then [] else kept) =
        if link = .simple then [] else kept := by split <;> rfl
    rw [hreset] at hlevel
    exact hlevel
  | (.error f, e) =>
    rw [h] at hwheres hbooks
    obtain ⟨done, hpart, hbooked⟩ := hbooks
    have hbinds := hbooked.binds fun b hb => hc.binds _ b (hpart.subset hb)
    have hlevel := hbase.binds hbinds
    rw [← hwheres] at hlevel
    rw [List.append_nil]
    exact hlevel

/-- The values of a statement's conditions after a call, where they were `kept` before it. A bare connector
starts the conditions anew, and a call that fails adds none. -/
def Call.valuesAfter {σ : Type} (kept : List Value) (succeeds : Bool) : Call σ → List Value
  | .where link c _ => (if link = .simple then [] else kept) ++ (if succeeds then c.values else [])
  | _ => kept

namespace Builder

variable {σ : Type} {cat : Catalog} {b : Builder σ} {kept : List Value}

/-- The values of a statement's conditions after calls. -/
def keptValues (cat : Catalog) (kept : List Value) : Builder σ → List (Call σ) → List Value
  | _, [] => kept
  | b, call :: rest => keptValues cat (call.valuesAfter kept (b.apply cat call).2.isNone) (b.next cat call) rest

/-- A statement over clear names, without a WITH block, whose conditions tell these values. -/
structure Tells (b : Builder σ) (kept : List Value) : Prop where
  clear : b.draft.IsClear
  alone : b.ctes = []
  nodup : b.draft.parameters.keys.Nodup
  wheres : b.draft.TellsLevel b.draft.wheres kept

theorem tells_empty : ({} : Builder σ).Tells [] :=
  ⟨Draft.isClear_empty, rfl, List.nodup_nil, Draft.tellsLevel_nil⟩

theorem wheres_tells_apply (hb : b.Tells kept) {call : Call σ} (hcall : call.OfMappings cat) :
    (b.apply cat call).1.draft.TellsLevel (b.apply cat call).1.draft.wheres
      (call.valuesAfter kept (b.apply cat call).2.isNone) := by
  have hother (hstates : call.states = false) :
      (b.apply cat call).1.draft.TellsLevel (b.apply cat call).1.draft.wheres kept := by
    refine preserves_apply (P := fun d => d.TellsLevel d.wheres kept) (fun _ _ hd => hd) (fun kind c hc => ?_) hb.wheres
    have hkeeps : Keeps (fun d => d.TellsLevel d.wheres kept) (Build.call cat kind c) := by
      refine Build.keeps_call_of_not_states (fun d d' _ _ hwheres hparameters hindex => ?_) (fun _ _ => rfl) cat kind ?_
      · unfold Draft.TellsLevel Draft.Tells
        rw [hwheres, hparameters, hindex]
      · rcases Call.eq_of_mem_parts hc with rfl | ⟨_, _, rfl⟩ | ⟨_, rfl⟩ | ⟨_, rfl⟩
        · exact hstates
        all_goals rfl
    exact fun d hd => (hkeeps d).mpr hd
  cases call with
  | «where» link c given =>
    obtain ⟨hc, hgiven⟩ := hcall
    have htells := Build.tells_whereCall link hc hgiven (hb.clear.reads cat.dialect) hb.wheres
    have happly : b.apply cat (.where link c given) = b.step (Build.whereCall cat.dialect link c given) := rfl
    rw [happly, step_eq, Call.valuesAfter]
    match h : ends (Build.whereCall cat.dialect link c given) b.draft with
    | (.ok _, draft) =>
      rw [h] at htells
      exact htells
    | (.error f, draft) =>
      rw [h] at htells
      exact htells
  | whereInIds | setParameter | setParameters => cases hcall
  | _ => exact hother rfl

theorem Tells.apply (hb : b.Tells kept) {call : Call σ} (hcall : call.OfMappings cat) :
    (b.apply cat call).1.Tells (call.valuesAfter kept (b.apply cat call).2.isNone) where
  clear := clear_apply hb.clear hcall
  alone := (ctes_apply cat b (by rintro _ _ _ _ _ rfl; exact hcall)).trans hb.alone
  nodup := (nodup_apply cat b call).mpr hb.nodup
  wheres := wheres_tells_apply hb hcall

theorem Tells.next (hb : b.Tells kept) {call : Call σ} (hcall : call.OfMappings cat) :
    (b.next cat call).Tells (call.valuesAfter kept (b.apply cat call).2.isNone) := by
  rcases next_cases cat b call with h | ⟨hconversion, h⟩
  · rw [h]
    exact hb.apply hcall
  · have hkept : call.valuesAfter kept (b.apply cat call).2.isNone = kept := by
      cases call with
      | toSelect | toInsert | toUpdate | toDelete | clone => rfl
      | _ => cases hconversion
    rw [h, hkept]
    exact hb

/-- Whatever calls of mappings are made, the statement's conditions tell the values that the calls keep. -/
theorem Tells.reached (hb : b.Tells kept) {calls : List (Call σ)} (hcalls : ∀ call ∈ calls, call.OfMappings cat) :
    (b.reached cat calls).Tells (keptValues cat kept b calls) := by
  induction calls generalizing b kept with
  | nil => exact hb
  | cons call rest ih =>
    obtain ⟨hcall, hrest⟩ := List.forall_mem_cons.mp hcalls
    exact ih (hb.next hcall) hrest

end Builder

/-! ## Derived values -/

theorem Bindings.flatMap_references {m own : Bindings} (h : ∀ p ∈ own, m.get? p.1 = some p.2) :
    own.references.flatMap m.valuesOf = (own.map Prod.snd).map Value.plain := by
  induction own with
  | nil => rfl
  | cons p own ih =>
    obtain ⟨hp, hown⟩ := List.forall_mem_cons.mp h
    have hvalues : m.valuesOf ⟨false, p.1⟩ = [p.2.plain] := by
      rw [valuesOf, hp]
      rfl
    rw [references, List.map_cons, List.flatMap_cons, hvalues]
    exact congrArg (p.2.plain :: ·) (ih hown)

theorem Insert.map_rowBindings (i j : Nat) (row : Value) (cols : List InsertColumn) :
    (rowBindings i j row cols).map Prod.snd = cols.filterMap (cellValue? row) := by
  induction cols generalizing j with
  | nil => rfl
  | cons c rest ih =>
    have hmore := ih (j + 1)
    rw [rowBindings] at hmore ⊢
    rw [List.zipIdx_cons, List.filterMap_cons, List.filterMap_cons]
    cases cellValue? row c with
    | none => exact hmore
    | some v => exact congrArg (v :: ·) hmore

theorem Insert.map_rowsBindings (i : Nat) (cols : List InsertColumn) (rows : List Value) :
    (((rows.zipIdx i).flatMap fun row => rowBindings row.2 0 row.1 cols).map Prod.snd) =
      rows.flatMap fun row => cols.filterMap (cellValue? row) := by
  induction rows generalizing i with
  | nil => rfl
  | cons row rest ih =>
    rw [List.zipIdx_cons, List.flatMap_cons, List.map_append, map_rowBindings, ih, List.flatMap_cons]

theorem Update.map_parametersFrom (i : Nat) (items : List Assignment) :
    (parametersFrom i items).map Prod.snd = (items.map Prod.snd).filter fun v => !v.isCallable := by
  induction items generalizing i with
  | nil => rfl
  | cons p rest ih =>
    rw [parametersFrom, List.map_cons, List.filter_cons]
    cases p.2.isCallable with
    | true => exact ih (i + 1)
    | false => exact congrArg (p.2 :: ·) (ih (i + 1))

/-- What a statement sends when its conditions have the values `kept`: an INSERT the values of its cells row by row,
as far as a row has one and no function supplies it, an UPDATE the values that are set and that no function supplies,
and then those of its conditions, any other statement those of its conditions. -/
inductive Builder.Sends {σ : Type} (b : Builder σ) (kept : List Value) : List Value → Prop where
  | insert {rows : List Value} {cols : List InsertColumn} (hkind : b.kind = .insert)
      (hrows : b.draft.valueSets = .ok rows) (hcols : Insert.columns b.draft rows = .ok cols) :
    Sends b kept ((rows.flatMap fun row => cols.filterMap (Insert.cellValue? row)).map Value.plain)
  | update {r : Record} (hkind : b.kind = .update) (hset : b.draft.assigned = .record r) :
    Sends b kept (((r.map Prod.snd).filter fun v => !v.isCallable).map Value.plain ++ kept)
  | select (hkind : b.kind = .select) : Sends b kept kept
  | delete (hkind : b.kind = .delete) : Sends b kept kept

/-- The derived values, and after them those of the conditions, are what the statement sends. -/
theorem Builder.sends_of_statementParameters {σ : Type} {cat : Catalog} {b : Builder σ} {own : Bindings}
    (h : b.draft.statementParameters cat b.kind = .ok own) (kept : List Value) :
    b.Sends kept ((own.map Prod.snd).map Value.plain ++ if b.kind = .insert then [] else kept) := by
  cases hkind : b.kind with
  | select =>
    rw [hkind] at h
    cases h
    exact .select hkind
  | delete =>
    rw [hkind] at h
    cases h
    exact .delete hkind
  | update =>
    rw [hkind] at h
    obtain ⟨items, hitems, h⟩ := Result.bind_eq_ok.mp h
    cases h
    obtain ⟨r, e, added, hr, -, rfl, hadded⟩ := Draft.assignments_eq_ok hitems
    have hnone : (added.map Prod.snd).filter (fun v => !v.isCallable) = [] := by
      refine List.filter_eq_nil_iff.mpr (List.forall_mem_map.mpr fun p hp => ?_)
      obtain ⟨_, _, _, _, _, hvalue | hvalue⟩ := hadded p hp <;> simp [hvalue, Value.isCallable]
    have hgiven : (Update.explicit e r).map Prod.snd = r.map Prod.snd := List.map_map ..
    rw [Update.map_parametersFrom, List.map_append, List.filter_append, hnone, List.append_nil, hgiven]
    exact .update hkind hr
  | insert =>
    rw [hkind] at h
    obtain ⟨rows, cols, hrows, hcols, rfl⟩ := Insert.parameters_eq_ok h
    rw [Insert.map_rowsBindings, if_pos rfl, List.append_nil]
    exact .insert hkind hrows hcols

/-! ## Statements of mappings -/

namespace Statement

open Builder (reached)

variable {cat : Catalog}

/-- A statement that can be lowered can be sent, with the values that it derives and those that its conditions
tell. -/
theorem bound_of_tells {b : Builder Statement} {kept : List Value} (hb : b.Tells kept) {sql : String}
    (hsql : query cat (.of b) = .ok sql) :
    ∃ text values, bound cat (.of b) = .ok (text, values) ∧ b.Sends kept values ∧ NoColon text := by
  obtain ⟨comment, entries, body, hcomment, hentries, hbody, htext⟩ := query_of_eq_ok.mp hsql
  obtain ⟨rs, hrs, hvalues, hnames⟩ := hb.wheres.render
  obtain ⟨own, hown, hrefers⟩ := Draft.refers_statementText hb.clear hrs hbody
  have hsql' : sql = Text.trim body := by
    rw [Draft.commentText, hb.clear.comment] at hcomment
    cases hcomment
    rw [htext, hb.alone, Cte.block, if_pos List.isEmpty_nil, String.append_empty, String.empty_append]
  have hclauses : entryParameters cat b.ctes = .ok [] := by rw [hb.alone, entryParameters]
  obtain ⟨m, hm, hmerged⟩ : ∃ m, parameters cat (.of b) = .ok m ∧
      m = Assoc.merge (Assoc.merge [] b.draft.parameters) own :=
    ⟨_, parameters_of_eq_ok.mpr ⟨[], own, hclauses, hown, rfl⟩, rfl⟩
  have hderived : ∀ p ∈ own, m.get? p.1 = some p.2 := fun p hp => by
    have hnodup := (Builder.derives_of_statementParameters hown).1
    rw [hmerged, Assoc.get?_merge_of_nodup _ hnodup, Assoc.get?_of_mem hnodup hp]
    rfl
  -- Conditions are written in no INSERT, and in any other statement nothing gets in the way of generated names.
  have htold : ∀ r ∈ if b.kind = .insert then [] else rs,
      m.Gives r ∧ m.get? r.name = b.draft.parameters.get? r.name := by
    split
    · exact List.forall_mem_nil _
    · next hkind =>
      intro r hr
      obtain ⟨⟨v, hv, helements⟩, n, -, hname⟩ := hnames r hr
      have hfound : m.get? r.name = some v := by
        rw [hname] at hv ⊢
        exact get?_generatedName hkind hb.nodup hm hv
      exact ⟨⟨v, hfound, helements⟩, hfound.trans hv.symm⟩
  have hkept : (if b.kind = .insert then [] else rs).flatMap m.valuesOf = if b.kind = .insert then [] else kept := by
    rw [List.flatMap_congr fun r hr => Bindings.valuesOf_congr (htold r hr).2]
    split
    · rfl
    · exact hvalues
  have hgives : ∀ r ∈ own.references ++ if b.kind = .insert then [] else rs, m.Gives r :=
    List.forall_mem_append.mpr ⟨List.forall_mem_map.mpr fun p hp => ⟨p.2, hderived p hp, nofun⟩,
      fun r hr => (htold r hr).1⟩
  obtain ⟨text, hbound, hclear⟩ := Dialect.bindReferences_refers (d := cat.dialect) hrefers.trim hgives
  refine ⟨text, _, bound_eq_ok.mpr ⟨sql, m, hsql, hm, hsql' ▸ hbound⟩, ?_, hclear⟩
  rw [List.flatMap_append, Bindings.flatMap_references hderived, hkept]
  exact Builder.sends_of_statementParameters hown kept

/-- Calls of mappings on a new statement, whether they succeed or fail, and the statement that they lead to. When
it can be lowered, it is sent with the values of its cells or of its assignments and then of the conditions that
the calls keep, in the order in which they are written, and no reference by name is left in its text. -/
theorem bound_of_mappings {calls : List (Call Statement)} (hcalls : ∀ call ∈ calls, call.OfMappings cat) {sql : String}
    (hsql : query cat (.of (reached cat {} calls)) = .ok sql) :
    ∃ text values, bound cat (.of (reached cat {} calls)) = .ok (text, values) ∧
      (reached cat {} calls).Sends (Builder.keptValues cat [] {} calls) values ∧
      NoColon text ∧ Reference.all text = [] := by
  obtain ⟨text, values, hbound, hsends, hclear⟩ := bound_of_tells (Builder.tells_empty.reached hcalls) hsql
  exact ⟨text, values, hbound, hsends, hclear, (Reference.refers_of_noColon hclear).references⟩

end Statement

/-! ## Users of a city -/

/-- An UPDATE of users by their city, or by ids in a negated group. -/
def Call.agingCalls : List (Call Statement) :=
  [.from (.text "users") .null,
    .toUpdate .null (.record [("age", .int 7), ("seen", .fragment "now()")]),
    .where .simple (.simple (.record [("city", .text "Oslo"), ("left", .null)])) .null,
    .where .or (.group true [.where .simple (.simple (.record [("id", .list [.int 1, .int 2])])) .null]) .null]

set_option maxRecDepth 4000 in
/-- The value of the assignment is sent first, then the city and the ids. -/
theorem Statement.bound_of_aging_users :
    (∀ call ∈ Call.agingCalls, call.OfMappings .postgres) ∧
    query .postgres (.of (Builder.reached .postgres {} Call.agingCalls)) =
      .ok ("UPDATE \"users\" SET \"age\" = :upd_0, \"seen\" = now() " ++
        "WHERE \"city\" = :orm_param_0 AND \"left\" IS NULL OR NOT(\"id\" IN (:...orm_param_1))") ∧
    ∃ text, bound .postgres (.of (Builder.reached .postgres {} Call.agingCalls)) =
        .ok (text, [.int 7, .text "Oslo", .int 1, .int 2]) ∧
      (Builder.reached .postgres {} Call.agingCalls).Sends [.text "Oslo", .int 1, .int 2]
        [.int 7, .text "Oslo", .int 1, .int 2] ∧
      NoColon text ∧ Reference.all text = [] := by
  have hcalls : ∀ call ∈ Call.agingCalls, call.OfMappings .postgres := by
    have htarget : Catalog.postgres.IsClearTarget (.text "users") :=
      ⟨Value.isClear_text.mpr (by decide), fun e h => by cases h⟩
    have hrows : Record.IsClear [("age", .int 7), ("seen", .fragment "now()")] := by
      refine List.forall_mem_cons.mpr ⟨⟨by decide, nofun⟩, List.forall_mem_singleton.mpr ⟨by decide, fun sql h => ?_⟩⟩
      cases h
      decide
    have hcity : Criterion.OfMappings (.simple (.record [("city", .text "Oslo"), ("left", .null)])) := by
      rw [Criterion.OfMappings]
      decide
    have hids : GroupCall.OfMappings
        [.where .simple (.simple (.record [("id", .list [.int 1, .int 2])])) .null] := by
      simp only [GroupCall.OfMappings, Criterion.OfMappings, and_true]
      exact ⟨by decide, rfl⟩
    refine List.forall_mem_cons.mpr ⟨⟨htarget, Value.isClear_null⟩, List.forall_mem_cons.mpr ⟨⟨nofun, hrows⟩,
      List.forall_mem_cons.mpr ⟨⟨hcity, rfl⟩, List.forall_mem_singleton.mpr ⟨?_, rfl⟩⟩⟩⟩
    rwa [Criterion.OfMappings]
  have hsql : query .postgres (.of (Builder.reached .postgres {} Call.agingCalls)) =
      .ok ("UPDATE \"users\" SET \"age\" = :upd_0, \"seen\" = now() " ++
        "WHERE \"city\" = :orm_param_0 AND \"left\" IS NULL OR NOT(\"id\" IN (:...orm_param_1))") := rfl
  obtain ⟨text, values, hbound, hsends, hclear, hnone⟩ := bound_of_mappings hcalls hsql
  have hkept : Builder.keptValues .postgres [] {} Call.agingCalls = [.text "Oslo", .int 1, .int 2] := rfl
  rw [hkept] at hsends
  have hvalues : values = [.int 7, .text "Oslo", .int 1, .int 2] := by
    cases hsends with
    | update _ hset =>
      cases hset
      rfl
    | insert hkind => cases hkind
    | select hkind => cases hkind
    | delete hkind => cases hkind
  rw [hvalues] at hbound hsends
  exact ⟨hcalls, hsql, text, hbound, hsends, hclear, hnone⟩

end SqlWeave
