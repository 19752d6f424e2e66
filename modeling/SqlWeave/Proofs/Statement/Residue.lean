import SqlWeave.Proofs.Reference.Percent
import SqlWeave.Proofs.Statement.Settled
import SqlWeave.Proofs.Statement.WithBlock

/-!
# What failed calls leave

Most calls look at all that they were given before they change a statement, so the statement is as it was when
they fail. A few write first. A bare connector clears the conditions before the condition is stated, and an order
is cleared before the new one is read; what was given with a condition is bound after the condition has joined;
the pairs of a record are bound, or sorted by, one after the other; and a target is taken before the names of its
columns are read. `Call.Leaves` has one case for each of these. Main result: what a failed call leaves, what is
written of the statement then, and when the statement is sent as it would have been.
-/

namespace SqlWeave

/-! ## Bindings -/

/-- What of a record can be bound: the pairs before the first whose name or whose value is refused. -/
def Bind.accepted (given : Value) : List Bind :=
  match given with
  | .record r => (r.takeWhile fun p => isParameterName p.1 && !p.2.isCallable).map fun p => .given p.1 p.2
  | _ => []

theorem Bind.accepted_cons (name : String) (v : Value) (rest : Record) :
    accepted (.record ((name, v) :: rest)) =
      if isParameterName name && !v.isCallable then .given name v :: accepted (.record rest) else [] := by
  simp only [accepted, List.takeWhile_cons]
  split
  · rfl
  · rfl

theorem Bind.accepted_of_falsy {given : Value} (h : given.truth = false) : accepted given = [] := by
  unfold accepted
  split
  · next r =>
    cases r with
    | nil => rfl
    | cons p rest => cases h
  · rfl

namespace Draft

variable {d d' : Draft} {a b : List Bind}

/-- The statement after some bindings. -/
def booked (d : Draft) (binds : List Bind) : Draft :=
  { d with
    parameterIndex := d.parameterIndex + Bind.count binds
    parameters := d.parameters.merge ((Bind.writes d.parameterIndex binds).map fun w => (w.name, w.value)) }

/-- The statement without its bindings. -/
def unbound (d : Draft) : Draft := { d with parameterIndex := 0, parameters := [] }

theorem eq_booked (h : d.Booked a d') (hrest : d'.unbound = d.unbound) : d' = d.booked a :=
  calc d' = { d'.unbound with parameterIndex := d'.parameterIndex, parameters := d'.parameters } := rfl
    _ = { d.unbound with parameterIndex := d'.parameterIndex, parameters := d'.parameters } := by rw [hrest]
    _ = d.booked a := by
      rw [h.index, h.parameters]
      rfl

theorem booked_append (d : Draft) (a b : List Bind) : d.booked (a ++ b) = (d.booked a).booked b :=
  have ha : d.Booked a (d.booked a) := ⟨rfl, rfl⟩
  have hb : (d.booked a).Booked b ((d.booked a).booked b) := ⟨rfl, rfl⟩
  (eq_booked (ha.append hb) rfl).symm

/-- What is bound for a statement is neither part of its text nor of what its rows and assignments bind. -/
theorem statementText_booked (cat : Catalog) (kind : StatementKind) :
    (d.booked a).statementText cat kind = d.statementText cat kind := by
  cases kind <;> rfl

theorem statementParameters_booked (cat : Catalog) (kind : StatementKind) :
    (d.booked a).statementParameters cat kind = d.statementParameters cat kind := by
  cases kind <;> rfl

end Draft

/-! ## Orders -/

/-- The direction that a value names. -/
def SortDirection.named? (order : Value) : Option SortDirection :=
  ofWord? (Text.upper ((order.attribute? "value").getD order).display)

/-- What a record sorts by: its keys, before the first that is given no direction. -/
def Record.sortKeys : Record → List (Value × SortOrder)
  | [] => []
  | (key, order) :: rest => match SortDirection.named? order with
    | some direction => (.text key, { direction }) :: sortKeys rest
    | none => []

/-- What a value sorts by, when it is a record. -/
def Value.sortKeys : Value → List (Value × SortOrder)
  | .record keys => Record.sortKeys keys
  | _ => []

/-- An order with further keys. -/
def Draft.sorted (d : Draft) (keys : List (Value × SortOrder)) : Draft :=
  { d with orderBys := keys.foldl (fun orderBys p => orderBys.put p.1 p.2) d.orderBys }

/-! ## Steps -/

namespace Build

variable {α β : Type} {d : Draft}

/-- A step that changes nothing when it fails. -/
def Atomic (s : Build α) : Prop := ∀ d f d', ends s d = (.error f, d') → d' = d

theorem atomic_of_keeps {s : Build α} (h : Keeps id s) : Atomic s := fun d f d' hends => by
  have hd := h d
  rw [hends] at hd
  exact hd

theorem atomic_modify (g : Draft → Draft) : Atomic (modify g) := fun d f d' h => by cases h

/-- Steps that only look come before one that is atomic. -/
theorem atomic_bind {s : Build α} {k : α → Build β} (hs : Keeps id s) (hk : ∀ a, Atomic (k a)) :
    Atomic (s >>= k) := by
  intro d f d' h
  have hd := hs d
  rw [ends_bind] at h
  match hends : ends s d with
  | (.error g, e) =>
    rw [hends] at h hd
    cases h
    exact hd
  | (.ok a, e) =>
    rw [hends] at h hd
    exact (hk a e f d' h).trans hd

theorem atomic_unless {c : Prop} [Decidable c] {e : Failure} {k : PUnit → Build α} (h : Atomic (k ⟨⟩)) :
    Atomic (if c then throw e >>= k else k ⟨⟩) := by
  split
  · exact atomic_bind (keeps_throw e) fun ⟨⟩ => h
  · exact h

theorem atomic_setParameter (key v : Value) : Atomic (setParameter key v) := by
  unfold setParameter
  refine atomic_unless ?_
  split
  · exact atomic_of_keeps (keeps_throw _)
  · exact atomic_unless (atomic_modify _)

theorem atomic_setReturning (cat : Catalog) (kind : StatementKind) (columns : Value) :
    Atomic (setReturning cat kind columns) := by
  unfold setReturning
  refine atomic_unless ?_
  split
  · exact atomic_modify _
  · exact atomic_modify _
  · exact atomic_of_keeps (keeps_throw _)

theorem atomic_addSortKey (sort order nulls : Value) : Atomic (addSortKey sort order nulls) :=
  atomic_bind (keeps_direction order) fun _ => atomic_bind (keeps_nullsPlace nulls) fun _ =>
    atomic_unless (atomic_modify _)

theorem atomic_setTarget (cat : Catalog) (target name : Value) : Atomic (setTarget cat target name) := by
  intro d f d' h
  rcases ends_setTarget_cases cat target name d with ⟨f', hends⟩ | ⟨_, _, _, -, hends⟩
  · rw [hends] at h
    cases h
    rfl
  · rw [hends] at h
    cases h

/-! ### Parts -/

theorem ends_setParameters : ∀ (r : Record) (d : Draft),
    (ends (setParameters r) d).2 = d.booked (Bind.accepted (.record r))
  | [], _ => rfl
  | (key, v) :: rest, d => by
    have hends : ends (setParameters ((key, v) :: rest)) d =
        ends (setParameter (.text key) v >>= fun _ => setParameters rest) d := rfl
    rw [hends, ends_bind]
    rcases ends_setParameter_text key v d with ⟨hrefused, f, h⟩ | ⟨haccepted, h⟩
    · rw [h, Bind.accepted_cons, hrefused]
      rfl
    · have hone : { d with parameters := d.parameters.put key v } = d.booked [.given key v] := rfl
      rw [h, hone, Bind.accepted_cons, haccepted, if_pos rfl, ← List.singleton_append, Draft.booked_append]
      exact ends_setParameters rest _

theorem ends_setGiven (given : Value) (d : Draft) : (ends (setGiven given) d).2 = d.booked (Bind.accepted given) := by
  cases given with
  | record r => exact ends_setParameters r d
  | _ => rfl

theorem ends_bindGiven (given : Value) (d : Draft) :
    (ends (bindGiven given) d).2 = d.booked (Bind.accepted given) := by
  unfold bindGiven
  split
  · exact ends_setGiven given d
  · next hempty =>
    rw [Bind.accepted_of_falsy (Bool.eq_false_iff.mpr hempty)]
    rfl

/-- A condition binds its values, and one that fails a part of them; nothing else changes. -/
theorem ends_condition (dialect : Dialect) (c : Criterion) {e : Draft} (he : e.scope = d.scope) :
    ∃ done, done <+: c.binds d ∧ (ends (condition dialect c) e).2 = e.booked done ∧
      ∀ s, (ends (condition dialect c) e).1 = .ok s → done = c.binds d := by
  have hrest : (ends (condition dialect c) e).2.unbound = e.unbound :=
    keeps_condition dialect ⟨fun _ _ => rfl, fun _ _ _ => rfl⟩ c e
  have hbooks := (books_condition dialect c e he).2
  match hends : ends (condition dialect c) e with
  | (.ok s, e') =>
    rw [hends] at hrest hbooks
    exact ⟨_, List.prefix_rfl, Draft.eq_booked hbooks hrest, fun _ _ => rfl⟩
  | (.error f, e') =>
    rw [hends] at hrest hbooks
    obtain ⟨done, hpart, hdone⟩ := hbooks
    exact ⟨done, hpart, Draft.eq_booked hdone hrest, nofun⟩

theorem ends_direction (order : Value) (d : Draft) :
    (SortDirection.named? order = none ∧ ∃ f, ends (direction order) d = (.error f, d)) ∨
    ∃ direction, SortDirection.named? order = some direction ∧ ends (Build.direction order) d = (.ok direction, d) := by
  unfold direction SortDirection.named?
  dsimp only
  cases SortDirection.ofWord? (Text.upper ((order.attribute? "value").getD order).display) with
  | none => exact .inl ⟨rfl, _, rfl⟩
  | some direction => exact .inr ⟨direction, rfl, rfl⟩

theorem ends_addSortKeys : ∀ (keys : Record) (d : Draft),
    (ends (addSortKeys keys) d).2 = d.sorted (Record.sortKeys keys)
  | [], _ => rfl
  | (key, order) :: rest, d => by
    have hends : ends (addSortKeys ((key, order) :: rest)) d =
        ends (addSortKey (.text key) order .null >>= fun _ => addSortKeys rest) d := rfl
    rw [hends, ends_bind, addSortKey, ends_bind, Record.sortKeys]
    rcases ends_direction order d with ⟨hnone, f, h⟩ | ⟨direction, hsome, h⟩
    · rw [h, hnone]
      rfl
    · rw [h, hsome]
      exact ends_addSortKeys rest _

theorem ends_addOrderBy (sort order nulls : Value) {d d' : Draft} {f : Failure}
    (h : ends (addOrderBy sort order nulls) d = (.error f, d')) : d' = d.sorted sort.sortKeys := by
  cases sort with
  | record keys =>
    have hends := ends_addSortKeys keys d
    rw [addOrderBy] at h
    rw [h] at hends
    exact hends
  | _ => exact atomic_addSortKey _ order nulls d f d' h

end Build

/-! ## Calls -/

section

variable {σ : Type}

/-- The call looks at all that it was given before it changes anything. -/
def Call.checksFirst : Call σ → Bool
  | .where .. | .whereInIds .. | .setParameters _ | .into .. | .orderBy .. | .addOrderBy (.record _) .. => false
  | _ => true

/-- What a call that failed leaves of the statement `d`, and what it has bound. There is one case for each place
where calls stop. -/
inductive Call.Leaves (cat : Catalog) (d : Draft) : Call σ → List Bind → Draft → Prop where
  /-- Nothing is written before everything is checked. -/
  | checked {call : Call σ} (h : call.checksFirst) : Leaves cat d call [] d
  /-- The pairs before the one that is refused are bound. -/
  | parameters (given : Value) :
    Leaves cat d (.setParameters given) (Bind.accepted given) (d.booked (Bind.accepted given))
  /-- The condition cannot be stated. A bare connector has cleared the conditions, and some values of the new one are
  bound. -/
  | unstated {link : Connector} {c : Criterion} {given : Value} {done : List Bind} {f : Failure}
    (h : (Build.ends (Build.condition cat.dialect c) (d.restarted link)).1 = .error f) (hpart : done <+: c.binds d) :
    Leaves cat d (.where link c given) done ((d.restarted link).booked done)
  /-- The condition is stated and has joined the others, but not all that was given with it can be bound. -/
  | stated {link : Connector} {c : Criterion} {given : Value} {condition : Condition}
    (h : (Build.ends (Build.condition cat.dialect c) (d.restarted link)).1 = .ok condition) :
    Leaves cat d (.where link c given) (c.binds d ++ Bind.accepted given)
      (({ d with wheres := Build.extendLevel d.wheres link condition }).booked (c.binds d ++ Bind.accepted given))
  /-- The ids state nothing. -/
  | idless {link : Connector} {ids : Value} {f : Failure} (h : d.idsCriterion ids = .error f) :
    Leaves cat d (.whereInIds link ids) [] d
  /-- The ids state something, which is then a condition like others. -/
  | ids {link : Connector} {ids : Value} {c : Simple} {done : List Bind} {d' : Draft} (h : d.idsCriterion ids = .ok c)
    (hwhere : Leaves cat d (.where link (.simple c) .null) done d') : Leaves cat d (.whereInIds link ids) done d'
  /-- The order before is gone, and the keys before the one that has no direction are sorted by. -/
  | ordered (sort order nulls : Value) :
    Leaves cat d (.orderBy sort order nulls) [] ({ d with orderBys := [] }.sorted sort.sortKeys)
  /-- The keys before the one that has no direction are sorted by as well. -/
  | orderedAlso (keys : Record) (order nulls : Value) :
    Leaves cat d (.addOrderBy (.record keys) order nulls) [] (d.sorted (Record.sortKeys keys))
  /-- The target is unknown. -/
  | targetless {target columns : Value} {f : Failure}
    (h : Build.ends (Build.setTarget cat target) d = (.error f, d)) : Leaves cat d (.into target columns) [] d
  /-- The target is taken already, and no columns can be read. -/
  | columnless {target columns called path : Value} {subject : Option Registered} {f : Failure}
    (htarget : cat.Stands target .null called subject path) (hcolumns : Build.columnNames columns = .error f) :
    Leaves cat d (.into target columns) []
      { d with scope := (d.scope.create called subject path).2.setMain (d.scope.create called subject path).1 }

namespace Build

variable {cat : Catalog} {d d' : Draft} {f : Failure}

theorem atomic_call (kind : StatementKind) {c : Call σ} (h : c.checksFirst) : Atomic (call cat kind c) := by
  cases c with
  | setParameter key v => exact atomic_setParameter key v
  | «from» target name => exact atomic_setTarget cat target name
  | returning columns => exact atomic_setReturning cat kind columns
  | orIgnore on =>
    rw [call]
    exact atomic_unless (atomic_modify _)
  | limit given => exact atomic_bind (keeps_paging _ given) fun _ => atomic_modify _
  | offset given => exact atomic_bind (keeps_paging _ given) fun _ => atomic_modify _
  | addOrderBy sort order nulls =>
    cases sort with
    | record keys => cases h
    | _ => exact atomic_addSortKey _ order nulls
  | comment | useTransaction | callListeners | values | updateEntity | set | select | addSelect | withDeleted =>
    exact atomic_modify _
  | toSelect | toInsert | toUpdate | toDelete | clone | addCte => exact atomic_of_keeps (keeps_pure _)
  | «where» | whereInIds | setParameters | into | orderBy => cases h

theorem leaves_whereCall {link : Connector} {c : Criterion} {given : Value}
    (h : ends (whereCall cat.dialect link c given) d = (.error f, d')) :
    ∃ done, (Call.where link c given : Call σ).Leaves cat d done d' := by
  have hscope : (d.restarted link).scope = d.scope := by
    unfold Draft.restarted
    split <;> rfl
  obtain ⟨done, hpart, hdone, hall⟩ := ends_condition cat.dialect c hscope
  rw [ends_whereCall_eq] at h
  match hends : ends (condition cat.dialect c) (d.restarted link) with
  | (.error g, e) =>
    rw [hends] at h hdone
    cases h
    obtain rfl : d' = (d.restarted link).booked done := hdone
    exact ⟨done, .unstated (congrArg Prod.fst hends) hpart⟩
  | (.ok condition, e) =>
    rw [hends] at h hdone
    dsimp only at h
    have hstated : { e with wheres := extendLevel e.wheres link condition } =
        ({ d with wheres := extendLevel d.wheres link condition } : Draft).booked (c.binds d) := by
      rw [show e = _ from hdone, hall condition (congrArg Prod.fst hends)]
      unfold Draft.restarted Draft.booked extendLevel
      split <;> rfl
    have hbound := ends_bindGiven given { e with wheres := extendLevel e.wheres link condition }
    rw [h, hstated, ← Draft.booked_append] at hbound
    obtain rfl : d' = _ := hbound
    exact ⟨_, .stated (congrArg Prod.fst hends)⟩

theorem leaves_into (kind : StatementKind) {target columns : Value}
    (h : ends (call cat kind (.into target columns : Call σ)) d = (.error f, d')) :
    ∃ done, (Call.into target columns : Call σ).Leaves cat d done d' := by
  have hread : ends (call cat kind (.into target columns : Call σ)) d =
      ends (setTarget cat target >>= fun _ => MonadExcept.ofExcept (columnNames columns) >>= fun insertColumns =>
        modify fun d => { d with insertColumns }) d := rfl
  rw [hread, ends_bind] at h
  rcases ends_setTarget_cases cat target .null d with ⟨g, htarget⟩ | ⟨called, subject, path, hstands, htarget⟩
  · rw [htarget] at h
    cases h
    exact ⟨[], .targetless htarget⟩
  · rw [htarget] at h
    cases hcolumns : columnNames columns with
    | error g =>
      rw [hcolumns] at h
      cases h
      exact ⟨[], .columnless hstands hcolumns⟩
    | ok names =>
      rw [hcolumns] at h
      cases h

theorem leaves_orderBy (kind : StatementKind) {sort order nulls : Value}
    (h : ends (call cat kind (.orderBy sort order nulls : Call σ)) d = (.error f, d')) :
    ∃ done, (Call.orderBy sort order nulls : Call σ).Leaves cat d done d' := by
  have hread : ends (call cat kind (.orderBy sort order nulls : Call σ)) d =
      ends (if !sort.isNull then addOrderBy sort order nulls else pure ⟨⟩) { d with orderBys := [] } := rfl
  rw [hread] at h
  split at h
  · rw [ends_addOrderBy sort order nulls h]
    exact ⟨[], .ordered sort order nulls⟩
  · cases h

/-- Every call that fails stops at one of the places. -/
theorem leaves_call (kind : StatementKind) {c : Call σ} (h : ends (call cat kind c) d = (.error f, d')) :
    ∃ done, c.Leaves cat d done d' := by
  have hchecked (hfirst : c.checksFirst) : ∃ done, c.Leaves cat d done d' := by
    rw [atomic_call kind hfirst d f d' h]
    exact ⟨[], .checked hfirst⟩
  cases c with
  | «where» link criterion given => exact leaves_whereCall h
  | whereInIds link ids =>
    have hread : ends (call cat kind (.whereInIds link ids : Call σ)) d =
        ends (MonadExcept.ofExcept (d.idsCriterion ids) >>= fun c =>
          whereCall cat.dialect link (.simple c) .null) d := rfl
    rw [hread] at h
    cases hids : d.idsCriterion ids with
    | error g =>
      rw [hids] at h
      cases h
      exact ⟨[], .idless hids⟩
    | ok criterion =>
      rw [hids] at h
      obtain ⟨done, hdone⟩ := leaves_whereCall (σ := σ) h
      exact ⟨done, .ids hids hdone⟩
  | setParameters given =>
    have hbound := ends_setGiven given d
    rw [show ends (setGiven given) d = _ from h] at hbound
    obtain rfl : d' = _ := hbound
    exact ⟨_, .parameters given⟩
  | into target columns => exact leaves_into kind h
  | orderBy sort order nulls => exact leaves_orderBy kind h
  | addOrderBy sort order nulls =>
    cases sort with
    | record keys =>
      rw [ends_addOrderBy (.record keys) order nulls h]
      exact ⟨[], .orderedAlso keys order nulls⟩
    | _ => exact hchecked rfl
  | _ => exact hchecked rfl

end Build

/-- The statement with the tables, the conditions and the order of another. -/
def Draft.reshaped (d d' : Draft) : Draft := { d with scope := d'.scope, wheres := d'.wheres, orderBys := d'.orderBys }

/-- Nothing else changes but what is bound. -/
theorem Call.Leaves.eq_booked {cat : Catalog} {d d' : Draft} {call : Call σ} {done : List Bind}
    (h : call.Leaves cat d done d') : d' = (d.reshaped d').booked done := by
  induction h with
  | unstated =>
    unfold Draft.restarted
    split <;> rfl
  | ids _ _ ih => exact ih
  | _ => rfl

theorem Call.Leaves.eq_of_checksFirst {cat : Catalog} {d d' : Draft} {call : Call σ} {done : List Bind}
    (h : call.Leaves cat d done d') (hfirst : call.checksFirst) : d' = d := by
  cases h with
  | checked => rfl
  | _ => cases hfirst

theorem Call.Leaves.eq_of_unstated {cat : Catalog} {d d' : Draft} {link : Connector} {c : Criterion} {given : Value}
    {done : List Bind} {f : Failure} (h : (Call.where link c given : Call σ).Leaves cat d done d')
    (hfails : (Build.ends (Build.condition cat.dialect c) (d.restarted link)).1 = .error f) :
    d' = (d.restarted link).booked done := by
  cases h with
  | checked hfirst => cases hfirst
  | unstated => rfl
  | stated hstated =>
    rw [hstated] at hfails
    cases hfails

/-- A call that fails without starting anew leaves the kind of the statement and its WITH block. -/
theorem Builder.leaves_apply {cat : Catalog} {b b' : Builder σ} {call : Call σ} {f : Failure}
    (hconversion : call.isConversion = false) (h : b.apply cat call = (b', some f)) :
    b' = { b with draft := b'.draft } ∧ ∃ done, call.Leaves cat b.draft done b'.draft := by
  have hstep {c : Call σ} (h : b.step (Build.call cat b.kind c) = (b', some f)) :
      b' = { b with draft := b'.draft } ∧ ∃ done, c.Leaves cat b.draft done b'.draft := by
    obtain ⟨d', hends, rfl⟩ := step_eq_some h
    exact ⟨rfl, Build.leaves_call b.kind hends⟩
  cases call with
  | toSelect | toInsert | toUpdate | toDelete | clone => cases hconversion
  | addCte source name columns recursive materialized =>
    have hsame : b' = b := by
      unfold apply at h
      dsimp only at h
      split at h
      · split at h
        · cases h
        · cases h
          rfl
      · cases h
        rfl
    cases hsame
    exact ⟨rfl, [], .checked rfl⟩
  | _ => exact hstep h

end

/-! ## What is lowered -/

namespace Statement

variable {cat : Catalog} {b : Builder Statement} {d : Draft} {binds : List Bind}

theorem query_booked : query cat (.of { b with draft := d.booked binds }) = query cat (.of { b with draft := d }) := by
  rw [query, query, Draft.statementText_booked]
  rfl

/-- Bindings that the text does not refer to change nothing that is sent. -/
theorem bound_booked (h : ∀ sql, query cat (.of { b with draft := d }) = .ok sql → ∀ r ∈ Reference.all sql,
      ∀ w ∈ Bind.writes d.parameterIndex binds, w.name ≠ r.name) :
    bound cat (.of { b with draft := d.booked binds }) = bound cat (.of { b with draft := d }) := by
  rw [bound, bound, query_booked]
  cases hsql : query cat (.of { b with draft := d }) with
  | error f => rfl
  | ok sql =>
    have hbound (inherited own : Bindings) :
        cat.dialect.bindReferences sql (Assoc.merge (Assoc.merge inherited (d.booked binds).parameters) own) =
          cat.dialect.bindReferences sql (Assoc.merge (Assoc.merge inherited d.parameters) own) := by
      refine Dialect.bindReferences_congr fun r hr => ?_
      have hfresh : r.name ∉ Assoc.keys ((Bind.writes d.parameterIndex binds).map fun w => (w.name, w.value)) := by
        simp only [Assoc.keys, List.map_map, List.mem_map, not_exists, not_and]
        exact h sql hsql r hr
      rw [Assoc.get?_merge, Assoc.get?_merge, Assoc.get?_merge, Assoc.get?_merge, Draft.booked,
        Assoc.get?_ofPairs_merge_of_not_mem _ hfresh]
    show (parameters cat _ >>= fun names => cat.dialect.bindReferences sql names) =
      (parameters cat _ >>= fun names => cat.dialect.bindReferences sql names)
    rw [parameters, parameters, Draft.statementParameters_booked]
    cases entryParameters cat b.ctes with
    | error f => rfl
    | ok inherited =>
      cases d.statementParameters cat b.kind with
      | error f => rfl
      | ok own => exact hbound inherited own

end Statement

namespace Builder

variable {cat : Catalog} {b b' : Builder Statement} {call : Call Statement} {f : Failure}

/-- What a call that failed leaves, and what is lowered then: what the statement would come to with the tables, the
conditions and the order that are left. Where these are the same as before, and the text does not refer to a name
that was bound on the way, it is what it was before the call. -/
theorem lowered_of_failure (hconversion : call.isConversion = false) (h : b.apply cat call = (b', some f)) :
    ∃ done, call.Leaves cat b.draft done b'.draft ∧ b' = { b with draft := (b.draft.reshaped b'.draft).booked done } ∧
      (call.checksFirst → b' = b) ∧
      Statement.query cat (.of b') = Statement.query cat (.of { b with draft := b.draft.reshaped b'.draft }) ∧
      (∀ link c given g, call = .where link c given →
        (Build.ends (Build.condition cat.dialect c) (b.draft.restarted link)).1 = .error g →
          Statement.query cat (.of b') = Statement.query cat (.of { b with draft := b.draft.restarted link })) ∧
      (b.draft.reshaped b'.draft = b.draft →
        (∀ sql, Statement.query cat (.of b) = .ok sql → ∀ r ∈ Reference.all sql,
          ∀ w ∈ Bind.writes b.draft.parameterIndex done, w.name ≠ r.name) →
        Statement.bound cat (.of b') = Statement.bound cat (.of b)) := by
  obtain ⟨hb', done, hleaves⟩ := leaves_apply hconversion h
  have hbooked : b' = { b with draft := (b.draft.reshaped b'.draft).booked done } := by
    rw [← hleaves.eq_booked]
    exact hb'
  refine ⟨done, hleaves, hbooked, fun hfirst => ?_, ?_, ?_, fun hsame hfresh => ?_⟩
  · rw [hb', hleaves.eq_of_checksFirst hfirst]
  · conv_lhs => rw [hbooked]
    exact Statement.query_booked
  · rintro link c given g rfl hfails
    rw [hb', hleaves.eq_of_unstated hfails]
    exact Statement.query_booked
  · rw [hbooked, hsame]
    exact Statement.bound_booked hfresh

/-! ### One user, and then all -/

/-- A number is no condition. -/
def numberedCall : Call Statement := .where .simple (.simple (.unsupported "int")) .null

/-- A DELETE of one user. -/
def oneUser : Builder Statement := ({} : Builder Statement).reached .postgres
  [.from (.text "users") .null, .toDelete, .where .simple (.simple (.record [("id", .int 1)])) .null]

/-- The DELETE after a condition that cannot be stated. -/
def everyUser : Builder Statement := (oneUser.apply .postgres numberedCall).1

set_option maxRecDepth 4000 in
/-- The condition that was there is lost. -/
theorem lowered_of_numbered_call : numberedCall.isConversion = false ∧
    oneUser.apply .postgres numberedCall = (everyUser, some (Failure.validation
      "Unsupported where condition: int" (.text "where"))) ∧
    Statement.bound .postgres (.of oneUser) = .ok ("DELETE FROM \"users\" WHERE \"id\" = %s", [.int 1]) ∧
    Statement.bound .postgres (.of everyUser) = .ok ("DELETE FROM \"users\"", []) ∧
    Statement.query .postgres (.of everyUser) =
      Statement.query .postgres (.of { oneUser with draft := { oneUser.draft with wheres := [] } }) := by
  have hfails : oneUser.apply .postgres numberedCall = (everyUser, some (Failure.validation
      "Unsupported where condition: int" (.text "where"))) := rfl
  refine ⟨rfl, hfails, rfl, rfl, ?_⟩
  obtain ⟨-, -, -, -, -, hunstated, -⟩ := lowered_of_failure rfl hfails
  exact hunstated .simple _ _ _ rfl rfl

end Builder

end SqlWeave
