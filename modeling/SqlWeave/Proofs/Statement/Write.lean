import SqlWeave.Proofs.Condition.Conversion
import SqlWeave.Proofs.Statement.Generated

/-!
# What calls bind

Callers bind values to names of their own, and conditions bind values to the next generated names; both kinds
of names end in one map. `binds` says for each call what it binds, in order. A call that succeeds writes all of
it, one that fails a part from the beginning, so the map of a statement is what a log of writes comes to in
which later ones replace earlier ones: `logged_reached`.
-/

namespace SqlWeave

/-! ## Bindings and writes -/

/-- A value that is to be bound: to a name that the caller gives, or to the next generated one. -/
inductive Bind where
  | given (name : String) (value : Value)
  | generated (value : Value)

/-- Who chose a name. -/
inductive Chooser where
  | caller | builder
  deriving DecidableEq

/-- A value that was written to a name. -/
structure Write where
  chooser : Chooser
  name : String
  value : Value

namespace Write

/-- What writes come to: the last one to a name counts. -/
def bindings (writes : List Write) : Bindings := Assoc.ofPairs (writes.map fun w => (w.name, w.value))

end Write

namespace Bind

/-- How many generated names are used up. -/
def count (binds : List Bind) : Nat := binds.countP fun
  | .given .. => false
  | .generated _ => true

/-- The writes of some bindings, when `n` is the number of the next generated name. A function is not bound, but
it uses up a name. -/
def writes (n : Nat) : List Bind → List Write
  | [] => []
  | .given name v :: rest => ⟨.caller, name, v⟩ :: writes n rest
  | .generated v :: rest =>
    (if v.isCallable then [] else [⟨.builder, Build.generatedName n, v⟩]) ++ writes (n + 1) rest

theorem count_append (a b : List Bind) : count (a ++ b) = count a + count b := List.countP_append ..

theorem writes_append (n : Nat) (a b : List Bind) : writes n (a ++ b) = writes n a ++ writes (n + count a) b := by
  induction a generalizing n with
  | nil => rfl
  | cons x rest ih =>
    cases x with
    | given name v =>
      rw [List.cons_append, writes, ih, writes]
      rfl
    | generated v =>
      have hcount : n + 1 + count rest = n + count (.generated v :: rest) := by
        simp only [count, List.countP_cons, if_true]
        omega
      rw [List.cons_append, writes, ih, writes, List.append_assoc, hcount]

/-- Names are generated once. -/
theorem nodup_generated (n : Nat) (binds : List Bind) :
    (((writes n binds).filter (·.chooser = .builder)).map (·.name)).Nodup ∧
      ∀ w ∈ writes n binds, w.chooser = .builder → ∃ k, n ≤ k ∧ w.name = Build.generatedName k := by
  induction binds generalizing n with
  | nil => exact ⟨List.nodup_nil, nofun⟩
  | cons x rest ih =>
    cases x with
    | given name v =>
      obtain ⟨hnodup, hnames⟩ := ih n
      rw [writes, List.filter_cons_of_neg (by simp), List.forall_mem_cons]
      exact ⟨hnodup, nofun, hnames⟩
    | generated v =>
      obtain ⟨hnodup, hnames⟩ := ih (n + 1)
      have hlater : ∀ w ∈ writes (n + 1) rest, w.chooser = .builder →
          ∃ k, n ≤ k ∧ w.name = Build.generatedName k := fun w hw hbuilder => by
        obtain ⟨k, hk, hname⟩ := hnames w hw hbuilder
        exact ⟨k, by omega, hname⟩
      rw [writes]
      split
      · exact ⟨hnodup, hlater⟩
      · rw [List.singleton_append, List.filter_cons_of_pos (by simp), List.map_cons, List.nodup_cons,
          List.forall_mem_cons]
        refine ⟨⟨fun hmem => ?_, hnodup⟩, fun _ => ⟨n, le_rfl, rfl⟩, hlater⟩
        obtain ⟨w, hw, hname⟩ := List.mem_map.mp hmem
        obtain ⟨hw, hbuilder⟩ := List.mem_filter.mp hw
        obtain ⟨k, hk, hk'⟩ := hnames w hw (of_decide_eq_true hbuilder)
        have := Build.generatedName_inj.mp (hk'.symm.trans hname)
        omega

/-! ## What is bound by criteria and calls -/

/-- What a caller binds by a record. -/
def ofGiven (v : Value) : List Bind :=
  match v with
  | .record r => r.map fun p => .given p.1 p.2
  | _ => []

theorem ofGiven_of_falsy {v : Value} (h : v.truth = false) : ofGiven v = [] := by
  unfold ofGiven
  split
  · next r =>
    cases r with
    | nil => rfl
    | cons p rest => cases h
  · rfl

/-- What a caller binds by one key. -/
def ofKey (key v : Value) : List Bind := (key.text?.map fun name => .given name v).toList

/-- What a comparison with a value binds: the elements of a collection together, and nothing for nothing. -/
def ofComparison : Value → List Bind
  | .null => []
  | .list xs | .tuple xs | .set xs => [.generated (.list xs)]
  | v => [.generated v]

/-- What the comparisons of a record bind, one for each property. -/
def ofRecord (r : Record) : List Bind := r.flatMap fun p => ofComparison p.2

end Bind

/-- What a criterion without calls binds. -/
def Simple.binds : Simple → List Bind
  | .record r => Bind.ofRecord r
  | .anyOf items => items.flatMap fun
    | .record r => Bind.ofRecord r
    | _ => []
  | .template _ bound => bound.map .generated
  | .keys maps => maps.flatMap Bind.ofRecord
  | .text _ | .unfit | .unsupported _ => []

/-- What ids of a statement's rows bind. -/
def Draft.idBinds (d : Draft) (ids : Value) : List Bind :=
  match d.idsCriterion ids with
  | .ok c => c.binds
  | .error _ => []

mutual
/-- What a criterion binds in a statement like `d`: each comparison its value, in order. -/
def Criterion.binds (d : Draft) : Criterion → List Bind
  | .simple c => c.binds
  | .group _ calls => GroupCall.binds d calls

/-- What the calls of a group bind. -/
def GroupCall.binds (d : Draft) : List GroupCall → List Bind
  | [] => []
  | .where _ c given :: rest => c.binds d ++ (Bind.ofGiven given ++ GroupCall.binds d rest)
  | .whereInIds _ ids :: rest => d.idBinds ids ++ GroupCall.binds d rest
  | .setParameter key v :: rest => Bind.ofKey key v ++ GroupCall.binds d rest
  | .setParameters given :: rest => Bind.ofGiven given ++ GroupCall.binds d rest
  | .whereEquals _ v :: rest => .generated v :: GroupCall.binds d rest
  | .failing _ :: _ => []
end

/-- What a call binds in a statement like `d`. -/
def Call.binds {σ : Type} (d : Draft) : Call σ → List Bind
  | .where _ c given => c.binds d ++ Bind.ofGiven given
  | .whereInIds _ ids => d.idBinds ids
  | .setParameter key v => Bind.ofKey key v
  | .setParameters given => Bind.ofGiven given
  | _ => []

/-! ## Steps -/

/-- What is bound in `d'` is what was bound in `d` and then some bindings. -/
structure Draft.Booked (binds : List Bind) (d d' : Draft) : Prop where
  index : d'.parameterIndex = d.parameterIndex + Bind.count binds
  parameters : d'.parameters =
    d.parameters.merge ((Bind.writes d.parameterIndex binds).map fun w => (w.name, w.value))

namespace Draft.Booked

variable {d d' d'' : Draft} {a b : List Bind}

theorem refl (d : Draft) : Booked [] d d := ⟨rfl, rfl⟩

theorem append (h : Booked a d d') (h' : Booked b d' d'') : Booked (a ++ b) d d'' where
  index := by rw [h'.index, h.index, Bind.count_append, Nat.add_assoc]
  parameters := by
    rw [h'.parameters, h.parameters, h.index, Bind.writes_append, List.map_append, Assoc.merge, Assoc.merge,
      Assoc.merge, List.foldl_append]

end Draft.Booked

namespace Build

variable {α β : Type} {d : Draft} {a b : List Bind}

/-- On a statement with the tables of `d` the step binds all of it, in order; or it fails, and has bound a part
from the beginning. The tables stay. -/
def Books (d : Draft) (binds : List Bind) (s : Build α) : Prop :=
  ∀ e : Draft, e.scope = d.scope → (ends s e).2.scope = d.scope ∧
    match ends s e with
    | (.ok _, e') => e.Booked binds e'
    | (.error _, e') => ∃ done, done <+: binds ∧ Draft.Booked done e e'

theorem books_pure (x : α) : Books d [] (pure x) := fun e he => ⟨he, .refl e⟩

theorem books_throw (f : Failure) : Books d a (throw f : Build α) :=
  fun e he => ⟨he, [], List.nil_prefix, .refl e⟩

theorem books_ofExcept (r : Result α) : Books d [] (MonadExcept.ofExcept r) := by
  cases r with
  | ok x => exact books_pure x
  | error f => exact books_throw f

theorem books_bind {s : Build α} {k : α → Build β} (hs : Books d a s) (hk : ∀ x, Books d b (k x)) :
    Books d (a ++ b) (s >>= k) := by
  intro e he
  have hbooked := hs e he
  rw [ends_bind]
  match h : ends s e with
  | (.error f, e') =>
    rw [h] at hbooked
    obtain ⟨hscope, done, hprefix, hdone⟩ := hbooked
    exact ⟨hscope, done, hprefix.trans (List.prefix_append a b), hdone⟩
  | (.ok x, e') =>
    rw [h] at hbooked
    obtain ⟨hscope, hfirst⟩ := hbooked
    obtain ⟨hscope', hrest⟩ := hk x e' hscope
    refine ⟨hscope', ?_⟩
    show match ends (k x) e' with
      | (.ok _, e'') => e.Booked (a ++ b) e''
      | (.error _, e'') => ∃ done, done <+: a ++ b ∧ Draft.Booked done e e''
    match h' : ends (k x) e' with
    | (.ok y, e'') =>
      rw [h'] at hrest
      exact hfirst.append hrest
    | (.error f, e'') =>
      rw [h'] at hrest
      obtain ⟨done, hprefix, hdone⟩ := hrest
      exact ⟨a ++ done, (List.prefix_append_right_inj a).mpr hprefix, hfirst.append hdone⟩

/-- A step that comes after one that binds nothing. -/
theorem books_after {s : Build α} {k : α → Build β} (hs : Books d [] s) (hk : ∀ x, Books d b (k x)) :
    Books d b (s >>= k) :=
  books_bind hs hk

/-- A step before one that binds nothing. -/
theorem books_before {s : Build α} {k : α → Build β} (hs : Books d a s) (hk : ∀ x, Books d [] (k x)) :
    Books d a (s >>= k) := by
  have h := books_bind hs hk
  rwa [List.append_nil] at h

theorem books_modify {f : Draft → Draft}
    (h : ∀ e, (f e).scope = e.scope ∧ (f e).parameterIndex = e.parameterIndex ∧ (f e).parameters = e.parameters) :
    Books d [] (modify f) :=
  fun e he => ⟨(h e).1.trans he, (h e).2.1, (h e).2.2⟩

/-- What is read off the tables of a statement is the same in every statement that has them. -/
theorem books_read {f : Draft → Result α} (hf : ∀ e : Draft, e.scope = d.scope → f e = f d) {k : α → Build β}
    (hk : ∀ x, f d = .ok x → Books d b (k x)) : Books d b (get >>= fun e => MonadExcept.ofExcept (f e) >>= k) := by
  intro e he
  have hread : ends (get >>= fun e => MonadExcept.ofExcept (f e) >>= k) e =
      ends (MonadExcept.ofExcept (f d) >>= k) e := by
    rw [← hf e he]
    rfl
  rw [hread]
  cases hd : f d with
  | ok x => exact hk x hd e he
  | error g => exact books_throw g e he

theorem books_unless {c : Prop} [Decidable c] {f : Failure} {k : PUnit → Build α} (h : Books d a (k ⟨⟩)) :
    Books d a (if c then throw f >>= k else k ⟨⟩) := by
  split
  · exact books_throw f
  · exact h

/-! ## Parameters -/

theorem books_setParameter (key v : Value) : Books d (Bind.ofKey key v) (setParameter key v) := by
  unfold setParameter Bind.ofKey
  refine books_unless ?_
  cases key.text? with
  | none => exact books_throw _
  | some name => exact books_unless fun e he => ⟨he, rfl, rfl⟩

theorem books_setParameters : ∀ r : Record, Books d (r.map fun p => .given p.1 p.2) (setParameters r)
  | [] => books_pure _
  | (key, v) :: rest => books_bind (books_setParameter (.text key) v) fun _ => books_setParameters rest

theorem books_setGiven (v : Value) : Books d (Bind.ofGiven v) (setGiven v) := by
  cases v with
  | record r => exact books_setParameters r
  | _ => exact books_throw _

theorem books_bindGiven (v : Value) : Books d (Bind.ofGiven v) (bindGiven v) := by
  unfold bindGiven
  split
  · exact books_setGiven v
  · next hempty =>
    rw [Bind.ofGiven_of_falsy (Bool.eq_false_iff.mpr hempty)]
    exact books_pure _

/-- A value is bound to a name, unless the name is no parameter's or the value is a function. -/
theorem ends_setParameter_text (name : String) (v : Value) (e : Draft) :
    ((isParameterName name && !v.isCallable) = false ∧ ∃ f, ends (setParameter (.text name) v) e = (.error f, e)) ∨
    ((isParameterName name && !v.isCallable) = true ∧ ends (setParameter (.text name) v) e =
      (.ok ⟨⟩, { e with parameters := e.parameters.put name v })) := by
  unfold setParameter
  dsimp only [Value.text?]
  cases v.isCallable with
  | true => exact .inl ⟨Bool.and_false _, _, rfl⟩
  | false =>
    cases isParameterName name with
    | false => exact .inl ⟨rfl, _, rfl⟩
    | true => exact .inr ⟨rfl, rfl⟩

/-- A generated name can always be bound, so only a function is refused. -/
theorem ends_setParameter_generated (n : Nat) (v : Value) (e : Draft) :
    (v.isCallable = true ∧ ∃ f, ends (setParameter (.text (generatedName n)) v) e = (.error f, e)) ∨
    (v.isCallable = false ∧ ends (setParameter (.text (generatedName n)) v) e =
      (.ok ⟨⟩, { e with parameters := e.parameters.put (generatedName n) v })) := by
  have h := ends_setParameter_text (generatedName n) v e
  simpa only [isParameterName_generatedName, Bool.true_and, Bool.not_eq_false', Bool.not_eq_true'] using h

theorem books_createParameter (v : Value) : Books d [.generated v] (createParameter v) := by
  intro e he
  have hends : ends (createParameter v) e =
      ends (setParameter (.text (generatedName e.parameterIndex)) v >>= fun _ =>
        pure (generatedName e.parameterIndex)) { e with parameterIndex := e.parameterIndex + 1 } := rfl
  rw [hends, ends_bind]
  rcases ends_setParameter_generated e.parameterIndex v { e with parameterIndex := e.parameterIndex + 1 } with
    ⟨hv, f, h⟩ | ⟨hv, h⟩
  · rw [h]
    refine ⟨he, [.generated v], List.prefix_rfl, rfl, ?_⟩
    rw [Bind.writes, hv, if_pos rfl, Bind.writes]
    rfl
  · rw [h]
    refine ⟨he, rfl, ?_⟩
    rw [Bind.writes, hv, if_neg Bool.false_ne_true, Bind.writes]
    rfl

/-! ## Conditions -/

theorem books_comparison (column : String) (v : Value) : Books d (Bind.ofComparison v) (comparison column v) := by
  cases v with
  | null => exact books_pure _
  | _ => exact books_before (books_createParameter _) fun _ => books_pure _

theorem books_get : Books d [] (get : Build Draft) := fun e he => ⟨he, .refl e⟩

theorem books_comparisons (dialect : Dialect) : ∀ r : Record, Books d (Bind.ofRecord r) (comparisons dialect r)
  | [] => books_pure _
  | (_, v) :: rest =>
    books_after books_get fun _ => books_after (books_ofExcept _) fun column =>
      books_bind (books_comparison column v) fun _ =>
        books_before (books_comparisons dialect rest) fun _ => books_pure _

theorem books_allOf (dialect : Dialect) (r : Record) : Books d (Bind.ofRecord r) (allOf dialect r) :=
  books_before (books_comparisons dialect r) fun _ => books_pure _

theorem books_alternatives (dialect : Dialect) :
    ∀ items : List Value, Books d (Simple.anyOf items).binds (alternatives dialect items)
  | [] => books_pure _
  | v :: rest => by
    cases v with
    | record r =>
      exact books_bind (books_allOf dialect r) fun _ =>
        books_before (books_alternatives dialect rest) fun _ => books_pure _
    | _ => exact books_throw _

theorem books_fill (sql : String) : ∀ bound : List Value, Books d (bound.map .generated) (fill sql bound)
  | [] => books_pure _
  | v :: rest => books_bind (books_createParameter v) fun _ => books_fill _ rest

theorem books_keyGroups (dialect : Dialect) :
    ∀ maps : List Record, Books d (maps.flatMap Bind.ofRecord) (keyGroups dialect maps)
  | [] => books_pure _
  | m :: rest => books_bind (books_allOf dialect m) fun here =>
      books_before (books_keyGroups dialect rest) fun more => by
        split
        · exact books_pure _
        · exact books_pure _

theorem books_simpleCondition (dialect : Dialect) (c : Simple) : Books d c.binds (simpleCondition dialect c) := by
  cases c with
  | text sql => exact books_pure _
  | record r => exact books_before (books_allOf dialect r) fun _ => books_pure _
  | anyOf items =>
    refine books_before (books_alternatives dialect items) fun texts => ?_
    split
    · exact books_pure _
    · exact books_pure _
  | template sql bound => exact books_before (books_fill sql bound) fun _ => books_pure _
  | keys maps => exact books_before (books_keyGroups dialect maps) fun _ => books_pure _
  | unfit | unsupported _ => exact books_throw _

theorem books_ids (dialect : Dialect) (ids : Value) {β : Type} {k : Condition → Build β} (hk : ∀ c, Books d b (k c)) :
    Books d (d.idBinds ids ++ b) (get >>= fun e : Draft => MonadExcept.ofExcept (e.idsCriterion ids) >>= fun c =>
      simpleCondition dialect c >>= k) := by
  refine books_read (fun e he => Draft.idsCriterion_eq_of_target (congrArg Scope.target he) ids) fun c hc => ?_
  have hbinds : d.idBinds ids = c.binds := by rw [Draft.idBinds, hc]
  rw [hbinds]
  exact books_bind (books_simpleCondition dialect c) hk

mutual
theorem books_condition (dialect : Dialect) : ∀ c : Criterion, Books d (c.binds d) (condition dialect c)
  | .simple c => by
    rw [condition.eq_def, Criterion.binds]
    exact books_simpleCondition dialect c
  | .group negated calls => by
    rw [condition.eq_def, Criterion.binds]
    exact books_before (books_runGroup dialect [] calls) fun _ => books_pure _

theorem books_runGroup (dialect : Dialect) : ∀ (level : List Clause) (calls : List GroupCall),
    Books d (GroupCall.binds d calls) (runGroup dialect level calls)
  | level, [] => by
    rw [runGroup.eq_def, GroupCall.binds]
    exact books_pure _
  | level, .where link c given :: rest => by
    rw [runGroup.eq_def, GroupCall.binds]
    exact books_bind (books_condition dialect c) fun _ => books_bind (books_bindGiven given) fun _ =>
      books_runGroup dialect _ rest
  | level, .whereInIds link ids :: rest => by
    rw [runGroup.eq_def, GroupCall.binds]
    exact books_ids dialect ids fun _ => books_runGroup dialect _ rest
  | level, .setParameter key v :: rest => by
    rw [runGroup.eq_def, GroupCall.binds]
    exact books_bind (books_setParameter key v) fun _ => books_runGroup dialect level rest
  | level, .setParameters given :: rest => by
    rw [runGroup.eq_def, GroupCall.binds]
    exact books_bind (books_setGiven given) fun _ => books_runGroup dialect level rest
  | level, .whereEquals column v :: rest => by
    rw [runGroup.eq_def, GroupCall.binds]
    exact books_after (books_ofExcept _) fun column => books_bind (books_createParameter v) fun _ =>
      books_runGroup dialect _ rest
  | level, .failing f :: rest => by
    rw [runGroup.eq_def, GroupCall.binds]
    exact books_throw f
end

theorem books_whereCall (dialect : Dialect) (link : Connector) (c : Criterion) (given : Value) :
    Books d (c.binds d ++ Bind.ofGiven given) (whereCall dialect link c given) := by
  have hstated : Books d (c.binds d ++ Bind.ofGiven given) (condition dialect c >>= fun condition =>
      modify (fun d => { d with wheres := extendLevel d.wheres link condition }) >>= fun _ => bindGiven given) :=
    books_bind (books_condition dialect c) fun _ =>
      books_after (books_modify fun _ => ⟨rfl, rfl, rfl⟩) fun _ => books_bindGiven given
  unfold whereCall
  dsimp only
  split
  · exact books_after (books_modify fun _ => ⟨rfl, rfl, rfl⟩) fun _ => hstated
  · exact hstated

theorem books_whereInIds (dialect : Dialect) (link : Connector) (ids : Value) :
    Books d (d.idBinds ids) (whereInIds dialect link ids) := by
  refine books_read (fun e he => Draft.idsCriterion_eq_of_target (congrArg Scope.target he) ids) fun c hc => ?_
  have hbinds : d.idBinds ids = (Criterion.simple c).binds d ++ Bind.ofGiven .null := by
    rw [Draft.idBinds, hc, Criterion.binds]
    exact (List.append_nil _).symm
  rw [hbinds]
  exact books_whereCall dialect link (.simple c) .null

/-- What is bound, and the number of the next generated name. -/
def ledger (d : Draft) : Nat × Bindings := (d.parameterIndex, d.parameters)

/-- A call that neither states a condition nor binds values keeps what does not see the tables. -/
theorem keeps_call_of_not_states {σ γ : Type} {f : Draft → γ} (hsees : SeesCore f)
    (hscope : ∀ (d : Draft) (scope : Scope), f { d with scope } = f d) (cat : Catalog) (kind : StatementKind)
    {c : Call σ} (h : c.states = false) : Keeps f (call cat kind c) := by
  cases c with
  | «where» | whereInIds | setParameter | setParameters => cases h
  | «from» target name => exact keeps_setTarget_of_scope hscope cat target name
  | into target columns =>
    exact keeps_bind (keeps_setTarget_of_scope hscope cat target _) fun _ => keeps_bind (keeps_ofExcept _) fun _ =>
      keeps_modify fun d => hsees d _ rfl rfl rfl rfl rfl
  | _ => exact keeps_aside hsees cat kind rfl

/-- A call that binds nothing by itself. -/
theorem keeps_ledger {σ : Type} (cat : Catalog) (kind : StatementKind) {c : Call σ} (h : c.states = false) :
    Keeps ledger (call cat kind c) :=
  keeps_call_of_not_states (fun _ _ _ _ _ hparameters hindex => congrArg₂ Prod.mk hindex hparameters)
    (fun _ _ => rfl) cat kind h

theorem booked_of_ledger {d d' : Draft} (h : ledger d' = ledger d) : d.Booked [] d' :=
  ⟨congrArg Prod.fst h, congrArg Prod.snd h⟩

end Build

/-! ## Calls on a statement -/

namespace Builder

open Build (Books)

variable {σ : Type} {cat : Catalog}

/-- What a call that ended one way or the other has bound of what it was to bind. -/
structure Bound (b b' : Builder σ) (failure : Option Failure) (binds done : List Bind) : Prop where
  part : done <+: binds
  whole : failure = none → done = binds
  booked : b.draft.Booked done b'.draft

theorem bound_step (b : Builder σ) {binds : List Bind} {s : Build Unit} (hs : Books b.draft binds s) :
    ∃ done, b.Bound (b.step s).1 (b.step s).2 binds done := by
  have hbooks := (hs b.draft rfl).2
  rw [step_eq]
  match h : s.ends b.draft with
  | (.ok _, draft) =>
    rw [h] at hbooks
    exact ⟨binds, List.prefix_rfl, fun _ => rfl, hbooks⟩
  | (.error f, draft) =>
    rw [h] at hbooks
    obtain ⟨done, hpart, hdone⟩ := hbooks
    exact ⟨done, hpart, nofun, hdone⟩

theorem bound_of_ledger {b b' : Builder σ} (failure : Option Failure)
    (h : Build.ledger b'.draft = Build.ledger b.draft) : b.Bound b' failure [] [] :=
  ⟨List.prefix_rfl, fun _ => rfl, Build.booked_of_ledger h⟩

/-- What a call binds, however it ends. -/
theorem bound_apply (b : Builder σ) (call : Call σ) :
    ∃ done, b.Bound (b.apply cat call).1 (b.apply cat call).2 (call.binds b.draft) done := by
  have hother (hstates : call.states = false) (hnothing : call.binds b.draft = []) :
      ∃ done, b.Bound (b.apply cat call).1 (b.apply cat call).2 (call.binds b.draft) done := by
    rw [hnothing]
    refine ⟨[], bound_of_ledger _ ?_⟩
    refine preserves_apply (P := fun d => Build.ledger d = Build.ledger b.draft) (fun _ _ h => h)
      (fun kind c hc => ?_) rfl
    refine Build.preserves_of_keeps (fun _ _ h h' => h.trans h') (Build.keeps_ledger cat kind ?_)
    rcases Call.eq_of_mem_parts hc with rfl | ⟨_, _, rfl⟩ | ⟨_, rfl⟩ | ⟨_, rfl⟩
    · exact hstates
    all_goals rfl
  cases call with
  | «where» link c given => exact bound_step b (Build.books_whereCall cat.dialect link c given)
  | whereInIds link ids => exact bound_step b (Build.books_whereInIds cat.dialect link ids)
  | setParameter key v => exact bound_step b (Build.books_setParameter key v)
  | setParameters given => exact bound_step b (Build.books_setGiven given)
  | _ => exact hother rfl rfl

theorem bound_next (b : Builder σ) (call : Call σ) :
    ∃ done, b.Bound (b.next cat call) (b.apply cat call).2 (call.binds b.draft) done := by
  rcases next_cases cat b call with h | ⟨hconversion, h⟩
  · rw [h]
    exact bound_apply b call
  · have hnothing : call.binds b.draft = [] := by
      cases call with
      | toSelect | toInsert | toUpdate | toDelete | clone => rfl
      | _ => cases hconversion
    rw [h, hnothing]
    exact ⟨[], bound_of_ledger _ rfl⟩

/-- A log of what calls bind: everything of a call that succeeds, a part from the beginning of one that
fails. -/
inductive Logs (cat : Catalog) : Builder σ → List (Call σ) → List Bind → Prop where
  | nil (b : Builder σ) : Logs cat b [] []
  | cons {b : Builder σ} {call : Call σ} {rest : List (Call σ)} {done later : List Bind}
      (part : done <+: call.binds b.draft) (whole : (b.apply cat call).2 = none → done = call.binds b.draft)
      (more : Logs cat (b.next cat call) rest later) : Logs cat b (call :: rest) (done ++ later)

/-- What a statement binds is what some log of the calls comes to. -/
theorem logged_reached (b : Builder σ) (calls : List (Call σ)) :
    ∃ log, Logs cat b calls log ∧ b.draft.Booked log (b.reached cat calls).draft := by
  induction calls generalizing b with
  | nil => exact ⟨[], .nil b, .refl _⟩
  | cons call rest ih =>
    obtain ⟨done, hbound⟩ : ∃ done, b.Bound (b.next cat call) (b.apply cat call).2 (call.binds b.draft) done :=
      bound_next b call
    obtain ⟨later, hlater, hbooked⟩ := ih (b.next cat call)
    exact ⟨done ++ later, .cons hbound.part hbound.whole hlater, hbound.booked.append hbooked⟩

end Builder

end SqlWeave
