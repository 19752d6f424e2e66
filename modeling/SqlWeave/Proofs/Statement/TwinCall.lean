import SqlWeave.Proofs.Statement.Twin

/-!
# Fluent calls on twins

A fluent call, made twice with values of the same kinds, keeps twin drafts and twin builders, and fails on
both or on neither. What a call is given besides values is one on both sides.
-/

namespace SqlWeave

open Value (SameKind SameFields SameRows SameId)

variable {σ : Type}

/-- Calls that differ in values of the same kinds alone. -/
inductive Call.Twin : Call σ → Call σ → Prop where
  | same (c : Call σ) : Twin c c
  | toUpdate {target v w : Value} : SameRows v w → Twin (.toUpdate target v) (.toUpdate target w)
  | setParameter {key v w : Value} : SameKind v w → Twin (.setParameter key v) (.setParameter key w)
  | setParameters {given given' : Value} :
    SameFields given given' → Twin (.setParameters given) (.setParameters given')
  | where {link : Connector} {c c' : Criterion} {given given' : Value} :
    c.Twin c' → SameFields given given' → Twin (.where link c given) (.where link c' given')
  | whereInIds {link : Connector} {ids ids' : Value} :
    List.Forall₂ SameId (Draft.idList ids) (Draft.idList ids') →
    Twin (.whereInIds link ids) (.whereInIds link ids')
  | values {v w : Value} : SameRows v w → Twin (.values v) (.values w)
  | set {v w : Value} : SameRows v w → Twin (.set v) (.set w)

namespace Build

theorem twin_rows {v w : Value} (h : SameRows v w) :
    Twin Eq (modify fun d => { d with values := v }) (modify fun d => { d with values := w }) := by
  refine twin_modify fun d e hde => ?_
  cases hde with
  | mk hp _ => exact .mk hp h

/-! ## Calls without values -/

theorem twin_createFromAlias (cat : Catalog) (target name : Value) :
    Twin Eq (createFromAlias cat target name) (createFromAlias cat target name) := by
  have hcreate : ∀ (name : Value) (subject : Option Registered) (path : Value),
      Twin Eq
        (get >>= fun d : Draft =>
          (modify fun e : Draft => { e with scope := (d.scope.create name subject path).2 }) >>= fun _ =>
            (pure (d.scope.create name subject path).1 : Build Alias))
        (get >>= fun d : Draft =>
          (modify fun e : Draft => { e with scope := (d.scope.create name subject path).2 }) >>= fun _ =>
            (pure (d.scope.create name subject path).1 : Build Alias)) := by
    intro name subject path
    refine twin_bind twin_get fun d e hde => ?_
    have hscope : d.scope = e.scope := by
      cases hde
      rfl
    rw [hscope]
    exact twin_bind_eq (twin_change fun _ _ _ => rfl) fun _ => twin_pure rfl
  refine twin_bind_eq (twin_result _) fun found => ?_
  split
  · exact hcreate _ _ _
  · exact hcreate _ _ _
  · exact twin_throw _ _

theorem twin_setTarget (cat : Catalog) (target name : Value) :
    Twin Eq (setTarget cat target name) (setTarget cat target name) :=
  twin_bind_eq (twin_createFromAlias cat target name) fun _ => twin_change fun _ _ _ => rfl

theorem twin_addSortKey (sort order nulls : Value) :
    Twin Eq (addSortKey sort order nulls) (addSortKey sort order nulls) := by
  have hdirection : Twin Eq (direction order) (direction order) := by
    unfold direction
    dsimp only
    split
    · exact twin_pure rfl
    · exact twin_throw _ _
  have hnulls : Twin Eq (nullsPlace nulls) (nullsPlace nulls) := by
    unfold nullsPlace
    split
    · exact twin_pure rfl
    · split
      · exact twin_pure rfl
      · exact twin_throw _ _
  refine twin_bind_eq hdirection fun direction => twin_bind_eq hnulls fun nulls => ?_
  exact twin_unless (twin_change fun _ _ _ => rfl)

theorem twin_addSortKeys : ∀ keys : Record, Twin Eq (addSortKeys keys) (addSortKeys keys)
  | [] => twin_pure rfl
  | (_, order) :: rest => twin_bind_eq (twin_addSortKey _ order _) fun _ => twin_addSortKeys rest

theorem twin_addOrderBy (sort order nulls : Value) :
    Twin Eq (addOrderBy sort order nulls) (addOrderBy sort order nulls) := by
  unfold addOrderBy
  split
  · exact twin_addSortKeys _
  · exact twin_addSortKey sort order nulls

theorem twin_paging (name : String) (given : Value) :
    Twin Eq (paging name given) (paging name given) := by
  unfold paging
  dsimp only
  refine twin_ite (twin_pure rfl) ?_
  split
  · exact twin_ite (twin_throw _ _) (twin_pure rfl)
  · exact twin_ite (twin_throw _ _) (twin_throw _ _)

theorem twin_setReturning (cat : Catalog) (kind : StatementKind) (columns : Value) :
    Twin Eq (setReturning cat kind columns) (setReturning cat kind columns) := by
  unfold setReturning
  refine twin_unless ?_
  split
  · exact twin_change fun _ _ _ => rfl
  · exact twin_change fun _ _ _ => rfl
  · exact twin_throw _ _

/-! ## Every call -/

theorem twin_call (cat : Catalog) (kind : StatementKind) {c c' : Call σ} (h : c.Twin c') :
    Twin Eq (call cat kind c) (call cat kind c') := by
  cases h with
  | toUpdate h => exact twin_pure rfl
  | setParameter h => exact twin_setParameter _ h
  | setParameters h => exact twin_setGiven h
  | «where» hc hgiven => exact twin_whereCall cat.dialect _ hc hgiven
  | whereInIds h => exact twin_whereInIds cat.dialect _ h
  | values h => exact twin_rows h
  | set h => exact twin_rows h
  | same =>
    cases c with
    | comment text => exact twin_change fun _ _ _ => rfl
    | useTransaction on => exact twin_change fun _ _ _ => rfl
    | callListeners on => exact twin_change fun _ _ _ => rfl
    | setParameter key value => exact twin_setParameter key (.refl value)
    | setParameters given => exact twin_setGiven (.same given)
    | «where» link c given => exact twin_whereCall cat.dialect link (.refl c) (.same given)
    | whereInIds link ids =>
      exact twin_whereInIds cat.dialect link (List.forall₂_same.mpr fun id _ => .refl id)
    | «from» target name => exact twin_setTarget cat target name
    | into target columns =>
      refine twin_bind_eq (twin_setTarget cat target .null) fun _ => ?_
      exact twin_bind_eq (twin_result _) fun _ => twin_change fun _ _ _ => rfl
    | returning columns => exact twin_setReturning cat kind columns
    | values given => exact twin_rows (.refl given)
    | orIgnore on =>
      unfold call
      exact twin_unless (twin_change fun _ _ _ => rfl)
    | updateEntity on => exact twin_change fun _ _ _ => rfl
    | set given => exact twin_rows (.refl given)
    | select selection name => exact twin_change fun _ _ _ => rfl
    | addSelect selection name => exact twin_change fun _ _ _ => rfl
    | orderBy sort order nulls =>
      refine twin_bind_eq (twin_change fun _ _ _ => rfl) fun _ => ?_
      exact twin_ite (twin_addOrderBy sort order nulls) (twin_pure rfl)
    | addOrderBy sort order nulls => exact twin_addOrderBy sort order nulls
    | limit given => exact twin_bind_eq (twin_paging _ given) fun _ => twin_change fun _ _ _ => rfl
    | offset given => exact twin_bind_eq (twin_paging _ given) fun _ => twin_change fun _ _ _ => rfl
    | withDeleted => exact twin_change fun _ _ _ => rfl
    | toSelect selection name => exact twin_pure rfl
    | toInsert => exact twin_pure rfl
    | toUpdate target values => exact twin_pure rfl
    | toDelete => exact twin_pure rfl
    | clone => exact twin_pure rfl
    | addCte source name columns recursive materialized => exact twin_pure rfl

end Build

/-! ## Builders -/

/-- Builders of one kind with the same WITH block and with twin drafts. -/
inductive Builder.Twin : Builder σ → Builder σ → Prop where
  | mk {kind : StatementKind} {d e : Draft} {ctes : List (Cte σ)} :
    d.Twin e → Twin ⟨kind, d, ctes⟩ ⟨kind, e, ctes⟩

namespace Builder

theorem Twin.refl (b : Builder σ) : b.Twin b := .mk (.refl b.draft)

theorem Twin.convert {b b' : Builder σ} (h : b.Twin b') (kind : StatementKind) :
    (b.convert kind).Twin (b'.convert kind) := by
  cases h with
  | mk hd =>
    cases hd with
    | mk hp hv => exact .mk (.mk hp hv)

/-- How a call ends on twin builders: with twins, and with a failure on both or on neither. -/
def TwinEnds (x y : Builder σ × Option Failure) : Prop := x.1.Twin y.1 ∧ x.2.isSome = y.2.isSome

theorem Twin.step {b b' : Builder σ} (h : b.Twin b') {s t : Build Unit} (hst : Build.Twin Eq s t) :
    TwinEnds (b.step s) (b'.step t) := by
  cases h with
  | @mk kind d e ctes hd =>
    have hends := hst d e hd
    rw [step_eq, step_eq]
    dsimp only
    generalize Build.ends s d = x at hends ⊢
    generalize Build.ends t e = y at hends ⊢
    cases hends with
    | ok _ hd => exact ⟨.mk hd, rfl⟩
    | error hd => exact ⟨.mk hd, rfl⟩

theorem Twin.apply_toUpdate (cat : Catalog) {b b' : Builder σ} (h : b.Twin b') (target : Value) {v w : Value}
    (hvw : SameRows v w) : TwinEnds (b.apply cat (.toUpdate target v)) (b'.apply cat (.toUpdate target w)) := by
  have hset : Build.Twin Eq
      (if !v.isNull then Build.call cat .update (.set v : Call σ) else pure ⟨⟩)
      (if !w.isNull then Build.call cat .update (.set w : Call σ) else pure ⟨⟩) := by
    rw [hvw.isNull]
    exact Build.twin_ite (Build.twin_rows hvw) (Build.twin_pure rfl)
  refine (h.convert .update).step ?_
  dsimp only
  split
  · exact Build.twin_bind_eq (Build.twin_setTarget cat target .null) fun _ => hset
  · exact hset

theorem Twin.apply_toSelect (cat : Catalog) {b b' : Builder σ} (h : b.Twin b') (selection name : Value) :
    TwinEnds (b.apply cat (.toSelect selection name)) (b'.apply cat (.toSelect selection name)) := by
  unfold Builder.apply
  dsimp only
  split
  · exact ⟨h.convert .select, rfl⟩
  · exact (h.convert .select).step (Build.twin_call cat .select (.same _))

theorem Twin.apply_addCte (cat : Catalog) {b b' : Builder σ} (h : b.Twin b') (source : CteSource σ)
    (name columns recursive materialized : Value) :
    TwinEnds (b.apply cat (.addCte source name columns recursive materialized))
      (b'.apply cat (.addCte source name columns recursive materialized)) := by
  unfold Builder.apply
  dsimp only
  split
  · split
    · cases h with
      | mk hd => exact ⟨.mk hd, rfl⟩
    · exact ⟨h, rfl⟩
  · exact ⟨h, rfl⟩

/-- A fluent call keeps twins. -/
theorem Twin.apply (cat : Catalog) {b b' : Builder σ} (h : b.Twin b') {c c' : Call σ} (hc : c.Twin c') :
    TwinEnds (b.apply cat c) (b'.apply cat c') := by
  have hkind : b.kind = b'.kind := by
    cases h
    rfl
  -- Every call that is no conversion and adds no entry is a step on the draft.
  have hstep : TwinEnds (b.step (Build.call cat b.kind c)) (b'.step (Build.call cat b'.kind c')) := by
    rw [← hkind]
    exact h.step (Build.twin_call cat b.kind hc)
  cases hc with
  | toUpdate hvw => exact h.apply_toUpdate cat _ hvw
  | setParameter => exact hstep
  | setParameters => exact hstep
  | «where» => exact hstep
  | whereInIds => exact hstep
  | values => exact hstep
  | set => exact hstep
  | same =>
    cases c with
    | toSelect selection name => exact h.apply_toSelect cat selection name
    | toInsert => exact ⟨h.convert .insert, rfl⟩
    | toUpdate target values => exact h.apply_toUpdate cat target (.refl values)
    | toDelete => exact ⟨h.convert .delete, rfl⟩
    | clone =>
      unfold Builder.apply
      dsimp only
      rw [hkind]
      exact ⟨h.convert b'.kind, rfl⟩
    | addCte source name columns recursive materialized =>
      exact h.apply_addCte cat source name columns recursive materialized
    | _ => exact hstep

end Builder

end SqlWeave
