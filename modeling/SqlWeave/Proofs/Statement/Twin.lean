import SqlWeave.Proofs.Result
import SqlWeave.Proofs.Value.Kind
import SqlWeave.Statement.Call

/-!
# Two runs of the same calls

Two drafts are twins when they differ in bound values and in given rows alone, and there in values of one
kind only. A step keeps twins: run on both of them, with arguments of the same kinds, it succeeds on both
or fails on both, and leaves twins again. Every fluent call is such a step.
-/

namespace SqlWeave

open Value (SameKind SameFields SameRows SameId)

/-- The draft with other values: other bound ones, and other given rows. -/
def Draft.withValues (d : Draft) (parameters : Bindings) (rows : Value) : Draft :=
  { d with parameters, values := rows }

/-- Drafts that differ in values of the same kinds alone. -/
inductive Draft.Twin : Draft → Draft → Prop where
  | mk {d : Draft} {parameters : Bindings} {rows : Value} :
    Assoc.Rel SameKind d.parameters parameters → SameRows d.values rows →
    Twin d (d.withValues parameters rows)

theorem Draft.Twin.refl (d : Draft) : d.Twin d := .mk (.refl SameKind.refl _) (.refl _)

/-- Two results that are both there and related, or both not. -/
abbrev Result.Both {α : Type} (R : α → α → Prop) : Result α → Result α → Prop := Rel (fun _ _ => True) R

/-- How a step ends on twins: well on both and with related results, or not on either. -/
inductive Draft.TwinEnds {α : Type} (R : α → α → Prop) : Result α × Draft → Result α × Draft → Prop where
  | ok {a b : α} {d e : Draft} : R a b → d.Twin e → TwinEnds R (.ok a, d) (.ok b, e)
  | error {f g : Failure} {d e : Draft} : d.Twin e → TwinEnds R (.error f, d) (.error g, e)

namespace Build

variable {α β : Type} {R : α → α → Prop} {S : β → β → Prop}

/-- How a step ends on a draft, and the draft that it leaves. -/
def ends (s : Build α) (d : Draft) : Result α × Draft := StateT.run (ExceptT.run s) d

/-- Two steps, which differ in values of the same kinds, end alike on twins. -/
def Twin (R : α → α → Prop) (s t : Build α) : Prop :=
  ∀ d e : Draft, d.Twin e → Draft.TwinEnds R (ends s d) (ends t e)

theorem ends_bind (s : Build α) (k : α → Build β) (d : Draft) :
    ends (s >>= k) d =
      match ends s d with
      | (.ok a, d') => ends (k a) d'
      | (.error f, d') => (.error f, d') := by
  simp only [ends, ExceptT.run_bind, StateT.run_bind]
  rcases h : StateT.run (ExceptT.run s) d with ⟨_ | _, _⟩ <;> rfl

/-! ## The ways to build a step -/

theorem twin_pure {a b : α} (h : R a b) : Twin R (pure a) (pure b) := fun _ _ hd => .ok h hd

theorem twin_throw (f g : Failure) : Twin R (throw f) (throw g) := fun _ _ hd => .error hd

theorem twin_get : Twin Draft.Twin get get := fun _ _ hd => .ok hd hd

theorem twin_bind {s t : Build α} {k l : α → Build β} (h : Twin R s t)
    (hk : ∀ a b, R a b → Twin S (k a) (l b)) : Twin S (s >>= k) (t >>= l) := by
  intro d e hde
  rw [ends_bind, ends_bind]
  have hs := h d e hde
  generalize ends s d = x at hs ⊢
  generalize ends t e = y at hs ⊢
  cases hs with
  | ok hab hd => exact hk _ _ hab _ _ hd
  | error hd => exact .error hd

/-- A step that goes on with a result that is one on both sides. -/
theorem twin_bind_eq {s t : Build α} {k l : α → Build β} (h : Twin Eq s t)
    (hk : ∀ a, Twin S (k a) (l a)) : Twin S (s >>= k) (t >>= l) := by
  refine twin_bind h fun a b hab => ?_
  obtain rfl := hab
  exact hk a

theorem twin_modify {f g : Draft → Draft} (h : ∀ d e, d.Twin e → (f d).Twin (g e)) :
    Twin Eq (modify f) (modify g) :=
  fun d e hde => .ok rfl (h d e hde)

/-- A change that looks at nothing but what it changes. -/
theorem twin_change {f : Draft → Draft}
    (h : ∀ d parameters rows, f (d.withValues parameters rows) = (f d).withValues parameters rows) :
    Twin Eq (modify f) (modify f) := by
  refine twin_modify fun d e hde => ?_
  cases hde with
  | mk hp hv =>
    -- Putting the draft's own values in changes nothing, so `f` keeps them.
    have hsame : f d = (f d).withValues d.parameters d.values := h d d.parameters d.values
    have hparameters : (f d).parameters = d.parameters := by
      rw [hsame]
      rfl
    have hvalues : (f d).values = d.values := by
      rw [hsame]
      rfl
    rw [h]
    refine .mk ?_ ?_
    · rw [hparameters]
      exact hp
    · rw [hvalues]
      exact hv

theorem twin_ofExcept {r r' : Result α} (h : Result.Both R r r') :
    Twin R (MonadExcept.ofExcept r) (MonadExcept.ofExcept r') := by
  intro d e hde
  cases h with
  | ok hab => exact .ok hab hde
  | error => exact .error hde

theorem twin_result (r : Result α) : Twin Eq (MonadExcept.ofExcept r) (MonadExcept.ofExcept r) :=
  twin_ofExcept (.refl (fun _ => trivial) (fun _ => rfl) r)

/-- What is read off the draft without its values is one on both sides. -/
theorem twin_read {f : Draft → Result α} (h : ∀ d e, d.Twin e → f d = f e) {k l : α → Build β}
    (hk : ∀ a, Twin S (k a) (l a)) :
    Twin S (get >>= fun d => MonadExcept.ofExcept (f d) >>= k)
      (get >>= fun d => MonadExcept.ofExcept (f d) >>= l) := by
  refine twin_bind twin_get fun d e hde => ?_
  rw [h d e hde]
  exact twin_bind_eq (twin_result _) hk

/-- A test that comes out the same on both sides. -/
theorem twin_unless {c : Prop} [Decidable c] {f g : Failure} {k l : PUnit → Build α}
    (h : Twin R (k ⟨⟩) (l ⟨⟩)) :
    Twin R (if c then throw f >>= k else k ⟨⟩) (if c then throw g >>= l else l ⟨⟩) := by
  split
  · exact twin_bind_eq (twin_throw f g) fun ⟨⟩ => h
  · exact h

theorem twin_ite {c : Prop} [Decidable c] {s t s' t' : Build α} (h : Twin R s t) (h' : Twin R s' t') :
    Twin R (if c then s else s') (if c then t else t') := by
  split
  · exact h
  · exact h'

/-! ## Parameters -/

theorem twin_setParameter (key : Value) {v w : Value} (h : SameKind v w) :
    Twin Eq (setParameter key v) (setParameter key w) := by
  unfold setParameter
  rw [h.isCallable]
  refine twin_unless ?_
  cases key.text? with
  | none => exact twin_throw _ _
  | some name =>
    refine twin_unless (twin_modify fun d e hde => ?_)
    cases hde with
    | mk hp hv => exact .mk (hp.put name h) hv

theorem twin_setParameters {r r' : Record} (h : Assoc.Rel SameKind r r') :
    Twin Eq (setParameters r) (setParameters r') := by
  induction h with
  | nil => exact twin_pure rfl
  | cons hvw _ ih => exact twin_bind_eq (twin_setParameter _ hvw) fun _ => ih

theorem twin_setGiven {v w : Value} (h : SameFields v w) : Twin Eq (setGiven v) (setGiven w) := by
  unfold setGiven
  cases h with
  | record h => exact twin_setParameters h
  | same =>
    split
    · exact twin_setParameters (.refl SameKind.refl _)
    · exact twin_throw _ _

theorem twin_bindGiven {v w : Value} (h : SameFields v w) : Twin Eq (bindGiven v) (bindGiven w) := by
  unfold bindGiven
  rw [h.truth]
  exact twin_ite (twin_setGiven h) (twin_pure rfl)

theorem twin_createParameter {v w : Value} (h : SameKind v w) :
    Twin Eq (createParameter v) (createParameter w) := by
  refine twin_bind twin_get fun d e hde => ?_
  have hindex : d.parameterIndex = e.parameterIndex := by
    cases hde
    rfl
  rw [hindex]
  refine twin_bind_eq (twin_modify fun d e hde => ?_) fun _ => ?_
  · cases hde with
    | mk hp hv => exact .mk hp hv
  · exact twin_bind_eq (twin_setParameter _ h) fun _ => twin_pure rfl

/-! ## Conditions -/

theorem twin_comparison (column : String) {v w : Value} (h : SameKind v w) :
    Twin Eq (comparison column v) (comparison column w) := by
  -- The kinds differ in what is written: an absence, an expansion or one reference. A function is
  -- written like a single value and then refused.
  have hsequence : ∀ xs ys : List Value, xs.length = ys.length →
      Twin Eq (createParameter (.list xs) >>= fun name => pure (column ++ " IN (:..." ++ name ++ ")"))
        (createParameter (.list ys) >>= fun name => pure (column ++ " IN (:..." ++ name ++ ")")) :=
    fun xs ys h => twin_bind_eq (twin_createParameter (.list h)) fun _ => twin_pure rfl
  have hvalue : Twin Eq (createParameter v >>= fun name => pure (column ++ " = :" ++ name))
      (createParameter w >>= fun name => pure (column ++ " = :" ++ name)) :=
    twin_bind_eq (twin_createParameter h) fun _ => twin_pure rfl
  have hother : ∀ u : Value, u.isCallable ∨ u.isSingle →
      comparison column u = createParameter u >>= fun name => pure (column ++ " = :" ++ name) := by
    intro u hu
    unfold comparison
    split
    case h_5 => rfl
    all_goals rcases hu with hu | hu <;> cases hu
  cases h with
  | null => exact twin_pure rfl
  | list h => exact hsequence _ _ h
  | tuple h => exact hsequence _ _ h
  | set h => exact hsequence _ _ h
  | callable hv hw _ =>
    rw [hother _ (Or.inl hv), hother _ (Or.inl hw)]
    exact hvalue
  | single hv hw =>
    rw [hother _ (Or.inr hv), hother _ (Or.inr hw)]
    exact hvalue

theorem columnReference_twin (dialect : Dialect) {d e : Draft} (h : d.Twin e) (property : String) :
    d.columnReference dialect property = e.columnReference dialect property := by
  cases h
  rfl

theorem twin_comparisons (dialect : Dialect) {r r' : Record} (h : Assoc.Rel SameKind r r') :
    Twin Eq (comparisons dialect r) (comparisons dialect r') := by
  induction h with
  | nil => exact twin_pure rfl
  | @cons property _ _ _ _ hvw _ ih =>
    refine twin_read (fun d e hde => columnReference_twin dialect hde property) fun column => ?_
    exact twin_bind_eq (twin_comparison column hvw) fun _ => twin_bind_eq ih fun _ => twin_pure rfl

theorem twin_allOf (dialect : Dialect) {r r' : Record} (h : Assoc.Rel SameKind r r') :
    Twin Eq (allOf dialect r) (allOf dialect r') :=
  twin_bind_eq (twin_comparisons dialect h) fun _ => twin_pure rfl

theorem twin_alternatives (dialect : Dialect) {xs ys : List Value} (h : List.Forall₂ SameFields xs ys) :
    Twin Eq (alternatives dialect xs) (alternatives dialect ys) := by
  induction h with
  | nil => exact twin_pure rfl
  | @cons x y xs ys hxy _ ih =>
    have hrecord : ∀ {r r' : Record}, Assoc.Rel SameKind r r' →
        Twin Eq (alternatives dialect (.record r :: xs)) (alternatives dialect (.record r' :: ys)) :=
      fun h => twin_bind_eq (twin_allOf dialect h) fun _ => twin_bind_eq ih fun _ => twin_pure rfl
    cases hxy with
    | record h => exact hrecord h
    | same =>
      cases x with
      | record r => exact hrecord (.refl SameKind.refl r)
      | _ => exact twin_throw _ _

theorem twin_fill {vs ws : List Value} (h : List.Forall₂ SameKind vs ws) :
    ∀ sql : String, Twin Eq (fill sql vs) (fill sql ws) := by
  induction h with
  | nil => exact fun _ => twin_pure rfl
  | cons hvw _ ih => exact fun _ => twin_bind_eq (twin_createParameter hvw) fun _ => ih _

theorem twin_keyGroups (dialect : Dialect) {ms ns : List Record}
    (h : List.Forall₂ (Assoc.Rel SameKind) ms ns) :
    Twin Eq (keyGroups dialect ms) (keyGroups dialect ns) := by
  induction h with
  | nil => exact twin_pure rfl
  | cons hmn _ ih =>
    refine twin_bind_eq (twin_allOf dialect hmn) fun here => twin_bind_eq ih fun more => ?_
    exact twin_ite (twin_pure rfl) (twin_pure rfl)

end Build

/-! ## Criteria that differ in values -/

inductive Simple.Twin : Simple → Simple → Prop where
  | same (c : Simple) : Twin c c
  | record {r r' : Record} : Assoc.Rel SameKind r r' → Twin (.record r) (.record r')
  | anyOf {xs ys : List Value} : List.Forall₂ SameFields xs ys → Twin (.anyOf xs) (.anyOf ys)
  | template {sql : String} {vs ws : List Value} :
    List.Forall₂ SameKind vs ws → Twin (.template sql vs) (.template sql ws)
  | keys {ms ns : List Record} : List.Forall₂ (Assoc.Rel SameKind) ms ns → Twin (.keys ms) (.keys ns)

mutual
inductive Criterion.Twin : Criterion → Criterion → Prop where
  | simple {c c' : Simple} : c.Twin c' → Criterion.Twin (.simple c) (.simple c')
  | group {negated : Bool} {calls calls' : List GroupCall} :
    List.Forall₂ GroupCall.Twin calls calls' → Criterion.Twin (.group negated calls) (.group negated calls')

inductive GroupCall.Twin : GroupCall → GroupCall → Prop where
  | where {link : Connector} {c c' : Criterion} {given given' : Value} :
    Criterion.Twin c c' → SameFields given given' →
    GroupCall.Twin (.where link c given) (.where link c' given')
  | whereInIds {link : Connector} {ids ids' : Value} :
    List.Forall₂ SameId (Draft.idList ids) (Draft.idList ids') →
    GroupCall.Twin (.whereInIds link ids) (.whereInIds link ids')
  | setParameter {key v w : Value} :
    SameKind v w → GroupCall.Twin (.setParameter key v) (.setParameter key w)
  | setParameters {given given' : Value} :
    SameFields given given' → GroupCall.Twin (.setParameters given) (.setParameters given')
  | whereEquals {column v w : Value} :
    SameKind v w → GroupCall.Twin (.whereEquals column v) (.whereEquals column w)
  | failing {f : Failure} : GroupCall.Twin (.failing f) (.failing f)
end

mutual
theorem Criterion.Twin.refl : ∀ c : Criterion, c.Twin c
  | .simple c => .simple (.same c)
  | .group _ calls => .group (GroupCall.twin_refl calls)

theorem GroupCall.twin_refl : ∀ calls : List GroupCall, List.Forall₂ GroupCall.Twin calls calls
  | [] => .nil
  | .where _ c _ :: rest => .cons (.where (Criterion.Twin.refl c) (.same _)) (GroupCall.twin_refl rest)
  | .whereInIds _ _ :: rest =>
    .cons (.whereInIds (List.forall₂_same.mpr fun id _ => .refl id)) (GroupCall.twin_refl rest)
  | .setParameter _ _ :: rest => .cons (.setParameter (.refl _)) (GroupCall.twin_refl rest)
  | .setParameters _ :: rest => .cons (.setParameters (.same _)) (GroupCall.twin_refl rest)
  | .whereEquals _ _ :: rest => .cons (.whereEquals (.refl _)) (GroupCall.twin_refl rest)
  | .failing _ :: rest => .cons .failing (GroupCall.twin_refl rest)
end

/-! ## Ids -/

theorem Entity.idMap_of_scalar (e : Entity) {v : Value} (h : v.record? = none) :
    e.idMap v = e.singleIdMap v := by
  unfold Entity.idMap
  split
  · cases h
  · rfl

theorem Entity.idMap_twin (e : Entity) {v w : Value} (h : SameId v w) :
    Result.Both (fun m n => e.hasCompositeKey → Assoc.Rel SameKind m n) (e.idMap v) (e.idMap w) := by
  cases h with
  | record h => exact .ok fun _ => h
  | scalar hv hw =>
    -- Only an entity with one key takes what is no record, and its key is bound whatever it is.
    rw [e.idMap_of_scalar hv, e.idMap_of_scalar hw]
    unfold Entity.singleIdMap
    split
    · exact .error trivial
    · next hsingle =>
      split
      · exact .error trivial
      · exact .ok fun h => absurd h hsingle

theorem Entity.idsCriterion_twin (e : Entity) {ids ids' : List Value} (h : List.Forall₂ SameId ids ids') :
    Result.Both Simple.Twin (e.idsCriterion ids) (e.idsCriterion ids') := by
  have hmaps := Result.Rel.mapM (fun _ _ hid => e.idMap_twin hid) h
  unfold Entity.idsCriterion
  split
  · exact .error trivial
  · next primary more hprimary =>
    refine hmaps.bind fun ms ns hms => ?_
    cases more with
    | nil =>
      -- One key: the ids are bound as one list, whatever they are.
      have hlength : ms.length = ns.length := hms.length_eq
      refine .ok (.record (.cons (.list ?_) .nil))
      rw [List.length_map, List.length_map, hlength]
    | cons second rest =>
      have hcomposite : e.hasCompositeKey := by
        unfold Entity.hasCompositeKey
        rw [hprimary]
        simp
      cases hms with
      | nil => exact .ok (.same _)
      | cons hm hrest =>
        exact .ok (.keys (.cons (hm hcomposite) (hrest.imp fun _ _ h => h hcomposite)))

theorem Draft.idsCriterion_twin {d e : Draft} (hde : d.Twin e) {ids ids' : Value}
    (h : List.Forall₂ SameId (idList ids) (idList ids')) :
    Result.Both Simple.Twin (d.idsCriterion ids) (e.idsCriterion ids') := by
  have hentity : d.entity = e.entity := by
    cases hde
    rfl
  unfold Draft.idsCriterion
  rw [hentity]
  cases e.entity with
  | error f => exact .error trivial
  | ok subject =>
    cases subject with
    | none => exact .error trivial
    | some entity => exact entity.idsCriterion_twin h

namespace Build

variable (dialect : Dialect)

theorem twin_simpleCondition {c c' : Simple} (h : c.Twin c') :
    Twin Eq (simpleCondition dialect c) (simpleCondition dialect c') := by
  have hanyOf : ∀ {xs ys : List Value}, List.Forall₂ SameFields xs ys →
      Twin Eq (simpleCondition dialect (.anyOf xs)) (simpleCondition dialect (.anyOf ys)) := by
    intro xs ys h
    refine twin_bind_eq (twin_alternatives dialect h) fun texts => ?_
    split <;> exact twin_pure rfl
  have hrecord : ∀ {r r' : Record}, Assoc.Rel SameKind r r' →
      Twin Eq (simpleCondition dialect (.record r)) (simpleCondition dialect (.record r')) :=
    fun h => twin_bind_eq (twin_allOf dialect h) fun _ => twin_pure rfl
  have htemplate : ∀ {sql : String} {vs ws : List Value}, List.Forall₂ SameKind vs ws →
      Twin Eq (simpleCondition dialect (.template sql vs)) (simpleCondition dialect (.template sql ws)) :=
    fun h => twin_bind_eq (twin_fill h _) fun _ => twin_pure rfl
  have hkeys : ∀ {ms ns : List Record}, List.Forall₂ (Assoc.Rel SameKind) ms ns →
      Twin Eq (simpleCondition dialect (.keys ms)) (simpleCondition dialect (.keys ns)) :=
    fun h => twin_bind_eq (twin_keyGroups dialect h) fun _ => twin_pure rfl
  cases h with
  | record h => exact hrecord h
  | anyOf h => exact hanyOf h
  | template h => exact htemplate h
  | keys h => exact hkeys h
  | same =>
    cases c with
    | text sql => exact twin_pure rfl
    | record r => exact hrecord (.refl SameKind.refl r)
    | anyOf xs => exact hanyOf (List.forall₂_same.mpr fun x _ => .same x)
    | template sql vs => exact htemplate (List.forall₂_same.mpr fun v _ => .refl v)
    | keys ms => exact hkeys (List.forall₂_same.mpr fun m _ => .refl SameKind.refl m)
    | unfit => exact twin_throw _ _
    | unsupported kind => exact twin_throw _ _

mutual
theorem twin_condition : ∀ {c c' : Criterion}, c.Twin c' →
    Twin Eq (condition dialect c) (condition dialect c')
  | .simple c, _, .simple h => by
    rw [condition, condition]
    exact twin_simpleCondition dialect h
  | .group negated calls, _, .group h => by
    rw [condition, condition]
    exact twin_bind_eq (twin_runGroup [] h) fun _ => twin_pure rfl

theorem twin_runGroup : ∀ (level : List Clause) {calls calls' : List GroupCall},
    List.Forall₂ GroupCall.Twin calls calls' →
    Twin Eq (runGroup dialect level calls) (runGroup dialect level calls')
  | level, [], _, .nil => by
    rw [runGroup]
    exact twin_pure rfl
  | level, .where link c given :: rest, _, .cons (.where hc hgiven) hrest => by
    rw [runGroup, runGroup]
    refine twin_bind_eq (twin_condition hc) fun condition => ?_
    exact twin_bind_eq (twin_bindGiven hgiven) fun _ => twin_runGroup _ hrest
  | level, .whereInIds link ids :: rest, _, .cons (.whereInIds hids) hrest => by
    rw [runGroup, runGroup]
    refine twin_bind twin_get fun d e hde => ?_
    refine twin_bind (twin_ofExcept (Draft.idsCriterion_twin hde hids)) fun c c' hc => ?_
    exact twin_bind_eq (twin_simpleCondition dialect hc) fun _ => twin_runGroup _ hrest
  | level, .setParameter key v :: rest, _, .cons (.setParameter hv) hrest => by
    rw [runGroup, runGroup]
    exact twin_bind_eq (twin_setParameter key hv) fun _ => twin_runGroup _ hrest
  | level, .setParameters given :: rest, _, .cons (.setParameters hgiven) hrest => by
    rw [runGroup, runGroup]
    exact twin_bind_eq (twin_setGiven hgiven) fun _ => twin_runGroup _ hrest
  | level, .whereEquals column v :: rest, _, .cons (.whereEquals hv) hrest => by
    rw [runGroup, runGroup]
    refine twin_bind_eq (twin_result _) fun column => ?_
    exact twin_bind_eq (twin_createParameter hv) fun _ => twin_runGroup _ hrest
  | level, .failing f :: rest, _, .cons .failing hrest => by
    rw [runGroup, runGroup]
    exact twin_throw f f
end

theorem twin_whereCall (link : Connector) {c c' : Criterion} (hc : c.Twin c') {given given' : Value}
    (hgiven : SameFields given given') :
    Twin Eq (whereCall dialect link c given) (whereCall dialect link c' given') := by
  have hrest : Twin Eq
      (condition dialect c >>= fun condition => modify (fun d =>
        { d with wheres := extendLevel d.wheres link condition }) >>= fun _ => bindGiven given)
      (condition dialect c' >>= fun condition => modify (fun d =>
        { d with wheres := extendLevel d.wheres link condition }) >>= fun _ => bindGiven given') := by
    refine twin_bind_eq (twin_condition dialect hc) fun condition => ?_
    exact twin_bind_eq (twin_change fun _ _ _ => rfl) fun _ => twin_bindGiven hgiven
  unfold whereCall
  dsimp only
  split
  · exact twin_bind_eq (twin_change fun _ _ _ => rfl) fun _ => hrest
  · exact hrest

theorem twin_whereInIds (link : Connector) {ids ids' : Value}
    (h : List.Forall₂ SameId (Draft.idList ids) (Draft.idList ids')) :
    Twin Eq (whereInIds dialect link ids) (whereInIds dialect link ids') := by
  refine twin_bind twin_get fun d e hde => ?_
  refine twin_bind (twin_ofExcept (Draft.idsCriterion_twin hde h)) fun c c' hc => ?_
  exact twin_whereCall dialect link (.simple hc) (.same .null)

end Build

/-- A step on a statement ends as it does on the draft. -/
theorem Builder.step_eq {σ : Type} (b : Builder σ) (s : Build Unit) : b.step s = match s.ends b.draft with
    | (.ok _, draft) => ({ b with draft }, none)
    | (.error f, draft) => ({ b with draft }, some f) :=
  rfl

end SqlWeave
