import SqlWeave.Proofs.Statement.Twin

/-!
# Steps by themselves

What every result of a step has in common, and what a step leaves as it found it. A step that writes no
condition keeps whatever does not look at bindings; the calls that state no condition keep the conditions.
-/

namespace SqlWeave

/-- A call that states no condition, binds nothing and names no table. -/
def Call.isAside {σ : Type} : Call σ → Bool
  | .where .. | .whereInIds .. | .setParameter .. | .setParameters .. | .from .. | .into .. => false
  | _ => true

/-- The calls that a call is made of. A conversion makes a copy, and then calls on the copy. -/
def Call.parts {σ : Type} : Call σ → List (Call σ)
  | .toSelect selection name => if selection.isNull then [] else [.select selection name]
  | .toUpdate target rows =>
    (if target.isNull then [] else [.from target .null]) ++ (if rows.isNull then [] else [.set rows])
  | .toInsert | .toDelete | .clone | .addCte .. => []
  | c => [c]

/-- What holds of a call holds of its parts, where it does for the calls that a conversion makes on its copy. -/
theorem Call.forall_mem_parts {σ : Type} {P : Call σ → Prop}
    (hselect : ∀ selection name, P (.toSelect selection name) → P (.select selection name))
    (hfrom : ∀ target rows, target.isNull = false → P (.toUpdate target rows) → P (.from target .null))
    (hset : ∀ target rows, P (.toUpdate target rows) → P (.set rows)) {call : Call σ} (h : P call) :
    ∀ c ∈ call.parts, P c := by
  cases call with
  | toSelect selection name =>
    rw [parts]
    split
    · exact List.forall_mem_nil _
    · exact List.forall_mem_singleton.mpr (hselect selection name h)
  | toUpdate target rows =>
    refine List.forall_mem_append.mpr ⟨?_, ?_⟩
    · split
      · exact List.forall_mem_nil _
      · next htarget => exact List.forall_mem_singleton.mpr (hfrom target rows (Bool.eq_false_iff.mpr htarget) h)
    · split
      · exact List.forall_mem_nil _
      · exact List.forall_mem_singleton.mpr (hset target rows h)
  | toInsert | toDelete | clone | addCte => exact List.forall_mem_nil _
  | _ => exact List.forall_mem_singleton.mpr h

theorem Call.eq_of_mem_parts {σ : Type} {call c : Call σ} (h : c ∈ call.parts) :
    c = call ∨ (∃ selection name, c = .select selection name) ∨ (∃ target, c = .from target .null) ∨
      ∃ rows, c = .set rows :=
  forall_mem_parts (P := fun c => c = call ∨ (∃ selection name, c = .select selection name) ∨
      (∃ target, c = .from target .null) ∨ ∃ rows, c = .set rows)
    (fun selection name _ => .inr (.inl ⟨selection, name, rfl⟩)) (fun target _ _ _ => .inr (.inr (.inl ⟨target, rfl⟩)))
    (fun _ rows _ => .inr (.inr (.inr ⟨rows, rfl⟩))) (.inl rfl) c h

namespace Build

variable {α β γ : Type}

/-- A sequence that ended well went through both of its parts. -/
theorem ends_bind_eq_ok {s : Build α} {k : α → Build β} {d d'' : Draft} {b : β} :
    ends (s >>= k) d = (.ok b, d'') ↔ ∃ a d', ends s d = (.ok a, d') ∧ ends (k a) d' = (.ok b, d'') := by
  rw [ends_bind]
  match hs : ends s d with
  | (.ok a, d') =>
    refine ⟨fun h => ⟨a, d', rfl, h⟩, ?_⟩
    rintro ⟨a', e, he, h⟩
    cases he
    exact h
  | (.error f, d') =>
    refine ⟨nofun, ?_⟩
    rintro ⟨a', e, he, -⟩
    cases he

theorem ends_ofExcept_eq_ok {r : Result α} {d d' : Draft} {a : α} :
    ends (MonadExcept.ofExcept r) d = (.ok a, d') ↔ r = .ok a ∧ d = d' := by
  cases r with
  | ok a' =>
    constructor
    · intro h
      cases h
      exact ⟨rfl, rfl⟩
    · rintro ⟨h, rfl⟩
      cases h
      rfl
  | error f =>
    constructor
    · intro h
      cases h
    · rintro ⟨h, -⟩
      cases h

/-! ## What a step returns -/

/-- Every result of the step has the property. -/
def Returns (P : α → Prop) (s : Build α) : Prop := ∀ d a d', ends s d = (.ok a, d') → P a

theorem returns_true (s : Build α) : Returns (fun _ => True) s := fun _ _ _ _ => trivial

theorem returns_pure {P : α → Prop} {a : α} (h : P a) : Returns P (pure a) := by
  intro d a' d' he
  cases he
  exact h

theorem returns_throw {P : α → Prop} (f : Failure) : Returns P (throw f) := by
  intro d a d' he
  cases he

theorem returns_ofExcept {P : α → Prop} {r : Result α} (h : ∀ a, r = .ok a → P a) :
    Returns P (MonadExcept.ofExcept r) := by
  intro d a d' he
  cases r with
  | ok a' =>
    cases he
    exact h a rfl
  | error f => cases he

theorem returns_bind {P : α → Prop} {Q : β → Prop} {s : Build α} {k : α → Build β} (hs : Returns P s)
    (hk : ∀ a, P a → Returns Q (k a)) : Returns Q (s >>= k) := by
  intro d b d'' h
  obtain ⟨a, d', ha, hb⟩ := ends_bind_eq_ok.mp h
  exact hk a (hs _ _ _ ha) _ _ _ hb

/-- What the last part of a sequence returns, whatever the first returns. -/
theorem returns_after {Q : β → Prop} (s : Build α) {k : α → Build β} (hk : ∀ a, Returns Q (k a)) :
    Returns Q (s >>= k) :=
  returns_bind (returns_true s) fun a _ => hk a

theorem returns_createParameter (v : Value) :
    Returns (fun name => ∃ n, name = generatedName n) (createParameter v) :=
  returns_after _ fun d => returns_after _ fun _ => returns_after _ fun _ =>
    returns_pure ⟨d.parameterIndex, rfl⟩

/-! ## What a step keeps -/

/-- The step changes nothing that `f` sees of a draft. -/
def Keeps (f : Draft → γ) (s : Build α) : Prop := ∀ d, f (ends s d).2 = f d

variable {f : Draft → γ}

theorem keeps_pure (a : α) : Keeps f (pure a) := fun _ => rfl

theorem keeps_throw (e : Failure) : Keeps f (throw e : Build α) := fun _ => rfl

theorem keeps_ofExcept (r : Result α) : Keeps f (MonadExcept.ofExcept r) := by
  intro d
  cases r <;> rfl

theorem keeps_modify {g : Draft → Draft} (h : ∀ d, f (g d) = f d) : Keeps f (modify g) := h

theorem keeps_bind {s : Build α} {k : α → Build β} (hs : Keeps f s) (hk : ∀ a, Keeps f (k a)) :
    Keeps f (s >>= k) := by
  intro d
  have hd := hs d
  rw [ends_bind]
  match h : ends s d with
  | (.ok a, d') =>
    rw [h] at hd
    exact (hk a d').trans hd
  | (.error e, d') =>
    rw [h] at hd
    exact hd

theorem keeps_get : Keeps f (get : Build Draft) := fun _ => rfl

theorem keeps_unless {c : Prop} [Decidable c] {e : Failure} {k : PUnit → Build α} (h : Keeps f (k ⟨⟩)) :
    Keeps f (if c then throw e >>= k else k ⟨⟩) := by
  split
  · exact keeps_bind (keeps_throw e) fun ⟨⟩ => h
  · exact h

theorem keeps_ite {c : Prop} [Decidable c] {s t : Build α} (hs : Keeps f s) (ht : Keeps f t) :
    Keeps f (if c then s else t) := by
  split
  · exact hs
  · exact ht

/-! ## What a step preserves -/

/-- However the step ends, a draft that had the property has it still. -/
def Preserves (P : Draft → Prop) (s : Build α) : Prop := ∀ d, P d → P (ends s d).2

variable {P : Draft → Prop}

theorem preserves_of_keeps {s : Build α} (hP : ∀ d d', f d' = f d → P d → P d') (hs : Keeps f s) : Preserves P s :=
  fun d => hP d _ (hs d)

theorem preserves_pure (a : α) : Preserves P (pure a) := fun _ => id

theorem preserves_throw (e : Failure) : Preserves P (throw e : Build α) := fun _ => id

theorem preserves_modify {g : Draft → Draft} (h : ∀ d, P d → P (g d)) : Preserves P (modify g) := h

theorem preserves_bind {s : Build α} {k : α → Build β} (hs : Preserves P s) (hk : ∀ a, Preserves P (k a)) :
    Preserves P (s >>= k) := by
  intro d hd
  have hfirst := hs d hd
  rw [ends_bind]
  match h : ends s d with
  | (.ok a, d') =>
    rw [h] at hfirst
    exact hk a d' hfirst
  | (.error e, d') =>
    rw [h] at hfirst
    exact hfirst

/-! ## Bindings -/

/-- What does not see that a value is bound. -/
structure IgnoresBindings (f : Draft → γ) : Prop where
  index : ∀ (d : Draft) (n : Nat), f { d with parameterIndex := n } = f d
  put : ∀ (d : Draft) (name : String) (v : Value), f { d with parameters := d.parameters.put name v } = f d

theorem ignoresBindings_wheres : IgnoresBindings Draft.wheres := ⟨fun _ _ => rfl, fun _ _ _ => rfl⟩

theorem keeps_setParameter (h : IgnoresBindings f) (key v : Value) : Keeps f (setParameter key v) := by
  unfold setParameter
  refine keeps_unless ?_
  split
  · exact keeps_throw _
  · exact keeps_unless (keeps_modify fun d => h.put d _ v)

theorem keeps_setParameters (h : IgnoresBindings f) : ∀ r : Record, Keeps f (setParameters r)
  | [] => keeps_pure _
  | (_, v) :: rest => keeps_bind (keeps_setParameter h _ v) fun _ => keeps_setParameters h rest

theorem keeps_setGiven (h : IgnoresBindings f) (given : Value) : Keeps f (setGiven given) := by
  unfold setGiven
  split
  · exact keeps_setParameters h _
  · exact keeps_throw _

theorem keeps_bindGiven (h : IgnoresBindings f) (given : Value) : Keeps f (bindGiven given) :=
  keeps_ite (keeps_setGiven h given) (keeps_pure _)

theorem keeps_createParameter (h : IgnoresBindings f) (v : Value) : Keeps f (createParameter v) :=
  keeps_bind keeps_get fun _ => keeps_bind (keeps_modify fun d => h.index d _) fun _ =>
    keeps_bind (keeps_setParameter h _ v) fun _ => keeps_pure _

theorem keeps_comparison (h : IgnoresBindings f) (column : String) (v : Value) :
    Keeps f (comparison column v) := by
  unfold comparison
  split
  · exact keeps_pure _
  all_goals exact keeps_bind (keeps_createParameter h _) fun _ => keeps_pure _

theorem keeps_comparisons (h : IgnoresBindings f) (dialect : Dialect) :
    ∀ r : Record, Keeps f (comparisons dialect r)
  | [] => keeps_pure _
  | (_, v) :: rest => keeps_bind keeps_get fun _ => keeps_bind (keeps_ofExcept _) fun column =>
    keeps_bind (keeps_comparison h column v) fun _ =>
      keeps_bind (keeps_comparisons h dialect rest) fun _ => keeps_pure _

theorem keeps_fill (h : IgnoresBindings f) (sql : String) : ∀ bound : List Value, Keeps f (fill sql bound) := by
  intro bound
  induction bound generalizing sql with
  | nil => exact keeps_pure _
  | cons v rest ih => exact keeps_bind (keeps_createParameter h v) fun _ => ih _

/-! ## Calls that state no condition -/

/-- What sees no more of a draft than its tables, its conditions and its bindings. -/
def SeesCore (f : Draft → γ) : Prop :=
  ∀ d d' : Draft, d'.scope = d.scope → d'.qualified = d.qualified → d'.wheres = d.wheres →
    d'.parameters = d.parameters → d'.parameterIndex = d.parameterIndex → f d' = f d

theorem keeps_paging (name : String) (given : Value) : Keeps f (paging name given) := by
  unfold paging
  dsimp only
  refine keeps_ite (keeps_pure _) ?_
  split
  · exact keeps_ite (keeps_throw _) (keeps_pure _)
  · exact keeps_ite (keeps_throw _) (keeps_throw _)

theorem keeps_direction (order : Value) : Keeps f (direction order) := by
  unfold direction
  dsimp only
  split
  · exact keeps_pure _
  · exact keeps_throw _

theorem keeps_nullsPlace (nulls : Value) : Keeps f (nullsPlace nulls) := by
  unfold nullsPlace
  split
  · exact keeps_pure _
  · split
    · exact keeps_pure _
    · exact keeps_throw _

section
variable (horder : ∀ (d : Draft) (orderBys : Keyed SortOrder), f { d with orderBys } = f d)

include horder

theorem keeps_addSortKey (sort order nulls : Value) : Keeps f (addSortKey sort order nulls) :=
  keeps_bind (keeps_direction order) fun _ => keeps_bind (keeps_nullsPlace nulls) fun _ =>
    keeps_unless (keeps_modify fun d => horder d _)

theorem keeps_addSortKeys : ∀ keys : Record, Keeps f (addSortKeys keys)
  | [] => keeps_pure _
  | (_, order) :: rest => keeps_bind (keeps_addSortKey horder _ order _) fun _ => keeps_addSortKeys rest

theorem keeps_addOrderBy (sort order nulls : Value) : Keeps f (addOrderBy sort order nulls) := by
  unfold addOrderBy
  split
  · exact keeps_addSortKeys horder _
  · exact keeps_addSortKey horder sort order nulls

end

section
variable (hsees : SeesCore f)

include hsees

theorem keeps_setReturning (cat : Catalog) (kind : StatementKind) (columns : Value) :
    Keeps f (setReturning cat kind columns) := by
  unfold setReturning
  refine keeps_unless ?_
  split
  · exact keeps_modify fun d => hsees d _ rfl rfl rfl rfl rfl
  · exact keeps_modify fun d => hsees d _ rfl rfl rfl rfl rfl
  · exact keeps_throw _

/-- A call that states no condition, binds nothing and names no table changes none of these. -/
theorem keeps_aside {σ : Type} (cat : Catalog) (kind : StatementKind) {c : Call σ} (haside : c.isAside) :
    Keeps f (call cat kind c) := by
  cases c with
  | comment | useTransaction | callListeners | values | updateEntity | set | select | addSelect | withDeleted =>
    exact keeps_modify fun d => hsees d _ rfl rfl rfl rfl rfl
  | returning columns => exact keeps_setReturning hsees cat kind columns
  | orIgnore on => exact keeps_unless (keeps_modify fun d => hsees d _ rfl rfl rfl rfl rfl)
  | orderBy sort order nulls =>
    refine keeps_bind (keeps_modify fun d => hsees d _ rfl rfl rfl rfl rfl) fun _ => ?_
    exact keeps_ite (keeps_addOrderBy (fun d _ => hsees d _ rfl rfl rfl rfl rfl) sort order nulls) (keeps_pure _)
  | addOrderBy sort order nulls => exact keeps_addOrderBy (fun d _ => hsees d _ rfl rfl rfl rfl rfl) sort order nulls
  | limit given =>
    exact keeps_bind (keeps_paging _ given) fun _ => keeps_modify fun d => hsees d _ rfl rfl rfl rfl rfl
  | offset given =>
    exact keeps_bind (keeps_paging _ given) fun _ => keeps_modify fun d => hsees d _ rfl rfl rfl rfl rfl
  | toSelect | toInsert | toUpdate | toDelete | clone | addCte => exact keeps_pure _
  | «where» | whereInIds | setParameter | setParameters | «from» | into => cases haside

end

/-- What sees no more of a draft than its conditions and its bindings. -/
def SeesWheres (f : Draft → γ) : Prop :=
  ∀ d d' : Draft, d'.wheres = d.wheres → d'.parameters = d.parameters → f d' = f d

theorem seesWheres_wheres : SeesWheres Draft.wheres := fun _ _ h _ => h

theorem SeesWheres.core (hsees : SeesWheres f) : SeesCore f :=
  fun d d' _ _ hwheres hparameters _ => hsees d d' hwheres hparameters

theorem keeps_createFromAlias (hsees : SeesWheres f) (cat : Catalog) (target name : Value) :
    Keeps f (createFromAlias cat target name) := by
  have hcreate : ∀ (name : Value) (subject : Option Registered) (path : Value), Keeps f
      (get >>= fun d : Draft =>
        (modify fun e : Draft => { e with scope := (d.scope.create name subject path).2 }) >>= fun _ =>
          (pure (d.scope.create name subject path).1 : Build Alias)) :=
    fun _ _ _ => keeps_bind keeps_get fun _ => keeps_bind (keeps_modify fun d => hsees d _ rfl rfl) fun _ =>
      keeps_pure _
  refine keeps_bind (keeps_ofExcept _) fun found => ?_
  split
  · exact hcreate _ _ _
  · exact hcreate _ _ _
  · exact keeps_throw _

theorem keeps_setTarget (hsees : SeesWheres f) (cat : Catalog) (target name : Value) :
    Keeps f (setTarget cat target name) :=
  keeps_bind (keeps_createFromAlias hsees cat target name) fun _ => keeps_modify fun d => hsees d _ rfl rfl

variable {σ : Type}

/-- A call binds values, and changes the conditions only when it states one. -/
theorem keeps_call (hf : IgnoresBindings f) (hsees : SeesWheres f) (cat : Catalog) (kind : StatementKind) (c : Call σ)
    (hwhere : ∀ link criterion given, c = .where link criterion given →
      Keeps f (whereCall cat.dialect link criterion given))
    (hids : ∀ link ids, c = .whereInIds link ids → Keeps f (whereInIds cat.dialect link ids)) :
    Keeps f (call cat kind c) := by
  cases c with
  | «where» link criterion given => exact hwhere link criterion given rfl
  | whereInIds link ids => exact hids link ids rfl
  | setParameter key value => exact keeps_setParameter hf key value
  | setParameters given => exact keeps_setGiven hf given
  | «from» target name => exact keeps_setTarget hsees cat target name
  | into target columns =>
    exact keeps_bind (keeps_setTarget hsees cat target _) fun _ => keeps_bind (keeps_ofExcept _) fun _ =>
      keeps_modify fun d => hsees d _ rfl rfl
  | _ => exact keeps_aside hsees.core cat kind rfl

end Build

namespace Builder

open Build (Keeps Preserves IgnoresBindings SeesWheres)

variable {σ γ : Type} {f : Draft → γ}

theorem draft_step (b : Builder σ) (s : Build Unit) : (b.step s).1.draft = (s.ends b.draft).2 := by
  rw [step_eq]
  rcases s.ends b.draft with ⟨_ | _, _⟩ <;> rfl

theorem ctes_step (b : Builder σ) (s : Build Unit) : (b.step s).1.ctes = b.ctes := by
  unfold step
  rcases StateT.run (ExceptT.run s) b.draft with ⟨_ | _, _⟩ <;> rfl

/-- Every other call leaves the WITH block. -/
theorem ctes_apply (cat : Catalog) (b : Builder σ) {call : Call σ}
    (h : ∀ source name columns recursive materialized, call ≠ .addCte source name columns recursive materialized) :
    (b.apply cat call).1.ctes = b.ctes := by
  cases call with
  | toSelect selection name =>
    unfold apply
    dsimp only
    split
    · rfl
    · exact ctes_step _ _
  | toUpdate target rows => exact ctes_step _ _
  | toInsert | toDelete | clone => rfl
  | addCte source name columns recursive materialized => exact absurd rfl (h source name columns recursive materialized)
  | _ => exact ctes_step _ _

theorem keeps_step (b : Builder σ) {s : Build Unit} (hs : Keeps f s) : f (b.step s).1.draft = f b.draft := by
  rw [draft_step]
  exact hs b.draft

/-- A call preserves what copies have and what the calls that it is made of preserve. -/
theorem preserves_apply {P : Draft → Prop} {cat : Catalog} {call : Call σ}
    (hcopy : ∀ (d : Draft) (qualified : Bool), P d → P { d.copy with qualified })
    (hparts : ∀ kind, ∀ c ∈ call.parts, Preserves P (Build.call cat kind c)) {b : Builder σ} (h : P b.draft) :
    P (b.apply cat call).1.draft := by
  have hconvert (kind : StatementKind) : P (b.convert kind).draft := hcopy _ _ h
  have hstep {b : Builder σ} (h : P b.draft) {s : Build Unit} (hs : Preserves P s) : P (b.step s).1.draft := by
    rw [draft_step]
    exact hs _ h
  cases call with
  | toSelect selection name =>
    unfold apply
    dsimp only
    split
    · exact hconvert .select
    · next hselection =>
      refine hstep (hconvert .select) (hparts _ _ ?_)
      rw [Call.parts, if_neg hselection]
      exact List.mem_cons_self
  | toUpdate target values =>
    have hset : Preserves P (if !values.isNull then Build.call cat .update (.set values : Call σ) else pure ⟨⟩) := by
      cases hvalues : values.isNull with
      | true => exact Build.preserves_pure _
      | false => exact hparts .update (.set values) (List.mem_append_right _ (by simp [hvalues]))
    refine hstep (hconvert .update) ?_
    cases htarget : target.isNull with
    | true => exact hset
    | false =>
      have hfrom := hparts .update (.from target .null) (List.mem_append_left _ (by simp [htarget]))
      exact Build.preserves_bind hfrom fun _ => hset
  | toInsert | toDelete | clone => exact hconvert _
  | addCte source name columns recursive materialized =>
    unfold apply
    dsimp only
    split
    · split <;> exact h
    · exact h
  | _ => exact hstep h (hparts _ _ List.mem_cons_self)

/-- A call on a statement, however it ends, binds values, and changes the conditions only when it states one. -/
theorem keeps_apply (hf : IgnoresBindings f) (hsees : SeesWheres f) (cat : Catalog) (b : Builder σ) (call : Call σ)
    (hwhere : ∀ link criterion given, call = .where link criterion given →
      Keeps f (Build.whereCall cat.dialect link criterion given))
    (hids : ∀ link ids, call = .whereInIds link ids → Keeps f (Build.whereInIds cat.dialect link ids)) :
    f (b.apply cat call).1.draft = f b.draft := by
  have hcopy (d : Draft) (qualified : Bool) (h : f d = f b.draft) : f { d.copy with qualified } = f b.draft :=
    (hsees d { d.copy with qualified } rfl rfl).trans h
  refine preserves_apply (P := fun d => f d = f b.draft) hcopy (fun kind c hc => ?_) rfl
  refine Build.preserves_of_keeps (fun _ _ h h' => h.trans h') ?_
  rcases Call.eq_of_mem_parts hc with rfl | ⟨_, _, rfl⟩ | ⟨_, rfl⟩ | ⟨_, rfl⟩
  · exact Build.keeps_call hf hsees cat kind c hwhere hids
  all_goals exact Build.keeps_call hf hsees cat kind _ nofun nofun

end Builder

end SqlWeave
