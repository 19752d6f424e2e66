import SqlWeave.Proofs.Condition.Apart
import SqlWeave.Proofs.Condition.Comparison
import SqlWeave.Proofs.Statement.Step

/-!
# What calls on a statement say

A sequence of calls on a builder says what its calls that state conditions say, one after the other, each
in the state in which it finds the statement. The conditions of a statement are made of what the calls
said and of nothing else, whatever other calls come between: `wheres_of_run`. The texts that are said are
those that the caller wrote and generated comparisons.
-/

namespace SqlWeave

/-! ## Criteria and the texts in them -/

mutual
/-- The criteria without calls that a criterion is made of. -/
def Criterion.simples : Criterion → List Simple
  | .simple c => [c]
  | .group _ calls => GroupCall.simples calls

def GroupCall.simples : List GroupCall → List Simple
  | [] => []
  | .where _ c _ :: rest => c.simples ++ GroupCall.simples rest
  | .whereInIds .. :: rest | .setParameter .. :: rest | .setParameters .. :: rest | .whereEquals .. :: rest
  | .failing .. :: rest => GroupCall.simples rest
end

/-- The criteria without calls that a call states. -/
def Call.simples {σ : Type} : Call σ → List Simple
  | .where _ c _ => c.simples
  | _ => []

namespace Simple

/-- Each text that a caller wrote is a unit, or empty. -/
def OfUnits (d : Dialect) : Simple → Prop
  | .text sql => sql = "" ∨ Reading.IsUnit d sql
  | .template sql bound => Build.Returns (fun text => text = "" ∨ Reading.IsUnit d text) (Build.fill sql bound)
  | _ => True

/-- No list of several records. -/
def IsSingle : Simple → Prop
  | .anyOf items => items.length ≤ 1
  | _ => True

end Simple

theorem Said.mem_callTexts {t : String} {calls : List (Connector × Said)} :
    t ∈ callTexts calls ↔ ∃ call ∈ calls, t ∈ call.2.texts := by
  induction calls with
  | nil => simp [callTexts]
  | cons call rest ih => simp [callTexts, ih]

/-- What can be shown of everything that is said by showing it of what is said without calls. -/
structure Said.Closed (d : Dialect) (P : Said → Prop) : Prop where
  nested : ∀ negated calls, (∀ call ∈ calls, P call.2) → P (.nested negated calls)
  equals : ∀ column n, Reading.IsReference d column → P (.all [column ++ " = :" ++ Build.generatedName n])
  plain : ∀ c : Simple, c.OfUnits d → c.IsSingle → Build.Returns P (Build.saidSimple d c)

namespace Build

open Reading (IsUnit IsReference)

variable {d : Dialect}

/-! ## What criteria say -/

theorem returns_comparison {column : String} (h : IsReference d column) (v : Value) :
    Returns (IsUnit d) (comparison column v) := by
  unfold comparison
  split
  · exact returns_pure (Reading.isUnit_isNull h)
  all_goals
    refine returns_bind (returns_createParameter _) ?_
    rintro name ⟨n, rfl⟩
  · exact returns_pure (Reading.isUnit_isIn h n)
  · exact returns_pure (Reading.isUnit_isIn h n)
  · exact returns_pure (Reading.isUnit_isIn h n)
  · exact returns_pure (Reading.isUnit_equals h n)

theorem returns_comparisons : ∀ r : Record, Returns (fun texts => ∀ t ∈ texts, IsUnit d t) (comparisons d r)
  | [] => returns_pure (by simp)
  | (_, v) :: rest => by
    refine returns_after _ fun dr => ?_
    refine returns_bind (returns_ofExcept fun _ => Reading.isReference_columnReference) fun column hcolumn => ?_
    refine returns_bind (returns_comparison hcolumn v) fun here hhere => ?_
    refine returns_bind (returns_comparisons rest) fun more hmore => returns_pure ?_
    exact List.forall_mem_cons.mpr ⟨hhere, hmore⟩

theorem returns_saidGroups : ∀ items : List Value,
    Returns (fun groups => groups.length = items.length ∧ ∀ g ∈ groups, ∀ t ∈ g, IsUnit d t) (saidGroups d items)
  | [] => returns_pure (by simp)
  | v :: rest => by
    unfold saidGroups
    split
    · next h => cases h
    · next r more h =>
      cases h
      refine returns_bind (returns_comparisons r) fun here hhere => ?_
      refine returns_bind (returns_saidGroups rest) fun more hmore => returns_pure ⟨by simp [hmore.1], ?_⟩
      exact List.forall_mem_cons.mpr ⟨hhere, hmore.2⟩
    · exact returns_throw _

theorem returns_saidKeys : ∀ maps : List Record,
    Returns (fun calls => Said.NoneListed calls ∧ ∀ t ∈ Said.callTexts calls, IsUnit d t) (saidKeys d maps)
  | [] => returns_pure ⟨trivial, by simp [Said.callTexts]⟩
  | m :: rest => by
    refine returns_bind (returns_comparisons m) fun here hhere => ?_
    refine returns_bind (returns_saidKeys rest) fun more hmore => returns_pure ⟨⟨⟨trivial, trivial⟩, hmore.1⟩, ?_⟩
    rw [Said.callTexts, Said.texts, Said.callTexts, Said.texts, Said.callTexts, List.append_nil]
    exact List.forall_mem_append.mpr ⟨hhere, hmore.2⟩

theorem texts_saidText {sql : String} (h : sql = "" ∨ IsUnit d sql) : ∀ t ∈ (saidText sql).texts, IsUnit d t := by
  unfold saidText
  split
  · simp [Said.texts]
  · next hne => simpa [Said.texts] using h.resolve_left hne

theorem texts_saidAny {groups : List (List String)} (h : ∀ g ∈ groups, ∀ t ∈ g, IsUnit d t) :
    ∀ t ∈ (saidAny groups).texts, IsUnit d t := by
  match groups with
  | [] => simp [saidAny, Said.texts]
  | [one] => simpa [saidAny, Said.texts] using h
  | one :: two :: more =>
    intro t ht
    rw [saidAny, Said.texts, List.mem_flatten] at ht
    obtain ⟨g, hg, ht⟩ := ht
    exact h g hg t ht

/-- The texts that a criterion without calls says are units. -/
theorem returns_saidSimple_units {c : Simple} (h : c.OfUnits d) :
    Returns (fun s => ∀ t ∈ s.texts, IsUnit d t) (saidSimple d c) := by
  cases c with
  | text sql => exact returns_pure (texts_saidText h)
  | record r => exact returns_bind (returns_comparisons r) fun _ htexts => returns_pure htexts
  | anyOf items =>
    exact returns_bind (returns_saidGroups items) fun _ hgroups => returns_pure (texts_saidAny hgroups.2)
  | template sql bound => exact returns_bind h fun _ htext => returns_pure (texts_saidText htext)
  | keys maps => exact returns_bind (returns_saidKeys maps) fun _ hcalls => returns_pure hcalls.2
  | unfit => exact returns_throw _
  | unsupported kind => exact returns_throw _

theorem returns_saidSimple_noLists {c : Simple} (h : c.IsSingle) :
    Returns Said.NoLists (saidSimple d c) := by
  have htext (sql : String) : (saidText sql).NoLists := trivial
  cases c with
  | text sql => exact returns_pure (htext sql)
  | record r => exact returns_after _ fun _ => returns_pure trivial
  | anyOf items =>
    refine returns_bind (returns_saidGroups items) fun groups hgroups => returns_pure ?_
    match groups, hgroups.1.trans_le h with
    | [], _ => trivial
    | [one], _ => trivial
  | template sql bound => exact returns_after _ fun text => returns_pure (htext text)
  | keys maps => exact returns_bind (returns_saidKeys maps) fun _ hcalls => returns_pure hcalls.1
  | unfit => exact returns_throw _
  | unsupported kind => exact returns_throw _

/-- Criteria that ids state hold no text of the caller and are no lists. -/
theorem plain_idsCriterion {dr : Draft} {ids : Value} {c : Simple} (h : dr.idsCriterion ids = .ok c) :
    c.OfUnits d ∧ c.IsSingle := by
  have hnever : IsUnit d "0=1" := by
    have hread : Reading.read d "0=1" = some (.atom [.word ['0'], .sign '=', .word ['1']]) := by
      cases d <;> decide
    exact Reading.isUnit_of_read hread nofun
  obtain ⟨e, -, h⟩ := Result.bind_eq_ok.mp h
  cases e with
  | none => cases h
  | some e =>
    dsimp only [Entity.idsCriterion] at h
    split at h
    · cases h
    · obtain ⟨maps, -, h⟩ := Result.bind_eq_ok.mp h
      split at h
      · cases h
        exact ⟨trivial, trivial⟩
      · split at h
        · cases h
          exact ⟨.inr hnever, trivial⟩
        · cases h
          exact ⟨trivial, trivial⟩

theorem returns_saidIds {P : Said → Prop} (hP : Said.Closed d P) (ids : Value) :
    Returns P (saidIds d ids) :=
  returns_after _ fun _ => returns_bind (returns_ofExcept fun _ => plain_idsCriterion (d := d)) fun c hc =>
    hP.plain c hc.1 hc.2

mutual
/-- What holds of everything that is said without calls, and of a group where it holds of the calls in it,
holds of everything that is said. -/
theorem returns_said {P : Said → Prop} (hP : Said.Closed d P) : ∀ c : Criterion,
    (∀ s ∈ c.simples, Returns P (saidSimple d s)) → Returns P (said d c)
  | .simple c, h => by
    rw [said]
    exact h c List.mem_cons_self
  | .group negated calls, h => by
    rw [said]
    exact returns_bind (returns_saidCalls hP calls h) fun _ hcalls => returns_pure (hP.nested _ _ hcalls)

theorem returns_saidCalls {P : Said → Prop} (hP : Said.Closed d P) : ∀ calls : List GroupCall,
    (∀ s ∈ GroupCall.simples calls, Returns P (saidSimple d s)) →
    Returns (fun said => ∀ call ∈ said, P call.2) (saidCalls d calls)
  | [], _ => by
    rw [saidCalls]
    exact returns_pure (by simp)
  | .where link c given :: rest, h => by
    rw [GroupCall.simples, List.forall_mem_append] at h
    rw [saidCalls]
    refine returns_bind (returns_said hP c h.1) fun s hs => returns_after _ fun _ => ?_
    exact returns_bind (returns_saidCalls hP rest h.2) fun _ hmore =>
      returns_pure (List.forall_mem_cons.mpr ⟨hs, hmore⟩)
  | .whereInIds link ids :: rest, h => by
    rw [saidCalls]
    refine returns_bind (returns_saidIds hP ids) fun s hs => ?_
    exact returns_bind (returns_saidCalls hP rest h) fun _ hmore =>
      returns_pure (List.forall_mem_cons.mpr ⟨hs, hmore⟩)
  | .setParameter key value :: rest, h => by
    rw [saidCalls]
    exact returns_after _ fun _ => returns_saidCalls hP rest h
  | .setParameters given :: rest, h => by
    rw [saidCalls]
    exact returns_after _ fun _ => returns_saidCalls hP rest h
  | .whereEquals column value :: rest, h => by
    have hcolumn : ∀ name, d.escapeValue column = .ok name → IsReference d name := by
      intro name hname
      obtain ⟨s, -, rfl⟩ := Result.map_eq_ok.mp hname
      exact Reading.isReference_escape s
    rw [saidCalls]
    refine returns_bind (returns_ofExcept hcolumn) fun column hcolumn => ?_
    refine returns_bind (returns_createParameter value) ?_
    rintro name ⟨n, rfl⟩
    exact returns_bind (returns_saidCalls hP rest h) fun _ hmore =>
      returns_pure (List.forall_mem_cons.mpr ⟨hP.equals column n hcolumn, hmore⟩)
  | .failing f :: rest, _ => by
    rw [saidCalls]
    exact returns_throw f
end

theorem closed_units : Said.Closed d fun s => ∀ t ∈ s.texts, IsUnit d t where
  nested _ calls hcalls t ht := by
    obtain ⟨call, hcall, ht⟩ := Said.mem_callTexts.mp ht
    exact hcalls call hcall t ht
  equals column n hcolumn := by simpa [Said.texts] using Reading.isUnit_equals hcolumn n
  plain _ hc _ := returns_saidSimple_units hc

theorem closed_noLists : Said.Closed d Said.NoLists where
  nested _ calls hcalls := (Said.noneListed_iff calls).mpr hcalls
  equals _ _ _ := trivial
  plain _ _ hc := returns_saidSimple_noLists hc

/-! ## What saying it keeps -/

section

variable {γ : Type} {f : Draft → γ} (hf : IgnoresBindings f)

include hf

theorem keeps_saidGroups : ∀ items : List Value, Keeps f (saidGroups d items)
  | [] => keeps_pure _
  | v :: rest => by
    unfold saidGroups
    split
    · next h => cases h
    · next r more h =>
      cases h
      exact keeps_bind (keeps_comparisons hf d r) fun _ =>
        keeps_bind (keeps_saidGroups rest) fun _ => keeps_pure _
    · exact keeps_throw _

theorem keeps_saidKeys : ∀ maps : List Record, Keeps f (saidKeys d maps)
  | [] => keeps_pure _
  | m :: rest => keeps_bind (keeps_comparisons hf d m) fun _ =>
    keeps_bind (keeps_saidKeys rest) fun _ => keeps_pure _

theorem keeps_saidSimple (c : Simple) : Keeps f (saidSimple d c) := by
  cases c with
  | text sql => exact keeps_pure _
  | record r => exact keeps_bind (keeps_comparisons hf d r) fun _ => keeps_pure _
  | anyOf items => exact keeps_bind (keeps_saidGroups hf items) fun _ => keeps_pure _
  | template sql bound => exact keeps_bind (keeps_fill hf sql bound) fun _ => keeps_pure _
  | keys maps => exact keeps_bind (keeps_saidKeys hf maps) fun _ => keeps_pure _
  | unfit => exact keeps_throw _
  | unsupported kind => exact keeps_throw _

theorem keeps_saidIds (ids : Value) : Keeps f (saidIds d ids) :=
  keeps_bind keeps_get fun _ => keeps_bind (keeps_ofExcept _) fun c => keeps_saidSimple hf c

mutual
/-- Saying something binds values and changes nothing else of a statement. -/
theorem keeps_said : ∀ c : Criterion, Keeps f (said d c)
  | .simple c => by
    rw [said]
    exact keeps_saidSimple hf c
  | .group negated calls => by
    rw [said]
    exact keeps_bind (keeps_saidCalls calls) fun _ => keeps_pure _

theorem keeps_saidCalls : ∀ calls : List GroupCall, Keeps f (saidCalls d calls)
  | [] => by
    rw [saidCalls]
    exact keeps_pure _
  | .where link c given :: rest => by
    rw [saidCalls]
    exact keeps_bind (keeps_said c) fun _ => keeps_bind (keeps_bindGiven hf given) fun _ =>
      keeps_bind (keeps_saidCalls rest) fun _ => keeps_pure _
  | .whereInIds link ids :: rest => by
    rw [saidCalls]
    exact keeps_bind (keeps_saidIds hf ids) fun _ => keeps_bind (keeps_saidCalls rest) fun _ => keeps_pure _
  | .setParameter key value :: rest => by
    rw [saidCalls]
    exact keeps_bind (keeps_setParameter hf key value) fun _ => keeps_saidCalls rest
  | .setParameters given :: rest => by
    rw [saidCalls]
    exact keeps_bind (keeps_setGiven hf given) fun _ => keeps_saidCalls rest
  | .whereEquals column value :: rest => by
    rw [saidCalls]
    exact keeps_bind (keeps_ofExcept _) fun _ => keeps_bind (keeps_createParameter hf value) fun _ =>
      keeps_bind (keeps_saidCalls rest) fun _ => keeps_pure _
  | .failing f :: rest => by
    rw [saidCalls]
    exact keeps_throw f
end

end

end Build

/-! ## Sequences of calls -/

theorem Said.level_append (clauses : List Clause) (calls more : List (Connector × Said)) :
    level clauses (calls ++ more) = level (level clauses calls) more := by
  induction calls generalizing clauses with
  | nil => rw [level]; rfl
  | cons call rest ih =>
    obtain ⟨link, s⟩ := call
    rw [List.cons_append, level, level, ih]

/-- The draft that a call with this connector states its condition on: a bare connector clears the level
first. -/
def Draft.restarted (d : Draft) (link : Connector) : Draft :=
  if link = .simple then { d with wheres := [] } else d

namespace Build

variable {dialect : Dialect}

theorem keeps_condition (dialect : Dialect) {γ : Type} {f : Draft → γ} (hf : IgnoresBindings f) (c : Criterion) :
    Keeps f (condition dialect c) := by
  rw [condition_eq_map, map_eq_pure_bind]
  exact keeps_bind (keeps_said hf c) fun _ => keeps_pure _

/-- A call that states a condition binds values, and changes no more than the conditions. -/
theorem keeps_whereCall (dialect : Dialect) {γ : Type} {f : Draft → γ} (hf : IgnoresBindings f)
    (hwheres : ∀ (d : Draft) (level : List Clause), f { d with wheres := level } = f d) (link : Connector)
    (c : Criterion) (given : Value) : Keeps f (whereCall dialect link c given) := by
  have hrest : Keeps f (condition dialect c >>= fun condition => modify (fun d =>
      { d with wheres := extendLevel d.wheres link condition }) >>= fun _ => bindGiven given) :=
    keeps_bind (keeps_condition dialect hf c) fun _ =>
      keeps_bind (keeps_modify fun d => hwheres d _) fun _ => keeps_bindGiven hf given
  unfold whereCall
  dsimp only
  split
  · exact keeps_bind (keeps_modify fun d => hwheres d _) fun _ => hrest
  · exact hrest

/-- The condition is stated on the draft that the connector leaves. Only then it extends the conditions, and only
after that it is looked at what was given with it. -/
theorem ends_whereCall_eq (link : Connector) (c : Criterion) (given : Value) (d : Draft) :
    ends (whereCall dialect link c given) d =
      match ends (condition dialect c) (d.restarted link) with
      | (.ok condition, d') => ends (bindGiven given) { d' with wheres := extendLevel d'.wheres link condition }
      | (.error f, d') => (.error f, d') := by
  have hrest (e : Draft) : ends (condition dialect c >>= fun condition => modify (fun d =>
      { d with wheres := extendLevel d.wheres link condition }) >>= fun _ => bindGiven given) e =
        match ends (condition dialect c) e with
        | (.ok condition, d') => ends (bindGiven given) { d' with wheres := extendLevel d'.wheres link condition }
        | (.error f, d') => (.error f, d') := by
    rw [ends_bind]
    rcases ends (condition dialect c) e with ⟨_ | _, _⟩ <;> rfl
  unfold whereCall Draft.restarted
  dsimp only
  split
  · exact hrest _
  · exact hrest d

/-- A call that states a condition says it on the draft that its connector leaves. Then it extends the
conditions and binds what was given with it. -/
theorem ends_whereCall {link : Connector} {c : Criterion} {given : Value} {d d' : Draft}
    (h : ends (whereCall dialect link c given) d = (.ok ⟨⟩, d')) :
    ∃ s d'', ends (said dialect c) (d.restarted link) = (.ok s, d'') ∧
      ends (bindGiven given) { d'' with wheres := extendLevel d.wheres link s.condition } = (.ok ⟨⟩, d') := by
  rw [ends_whereCall_eq, condition_eq_map, map_eq_pure_bind, ends_bind] at h
  match hs : ends (said dialect c) (d.restarted link) with
  | (.error f, e) =>
    rw [hs] at h
    cases h
  | (.ok s, d'') =>
    rw [hs] at h
    have hwheres : extendLevel d''.wheres link s.condition = extendLevel d.wheres link s.condition := by
      have hkeep := keeps_said (d := dialect) ignoresBindings_wheres c (d.restarted link)
      rw [hs] at hkeep
      rw [hkeep]
      unfold Draft.restarted extendLevel
      split <;> rfl
    refine ⟨s, d'', rfl, ?_⟩
    rw [← hwheres]
    exact h

/-- Nothing is given with the condition: the call extends the conditions, unless the condition fails. -/
theorem ends_whereCall_of_falsy {given : Value} (hgiven : given.truth = false) (link : Connector) (c : Criterion)
    (d : Draft) : ends (whereCall dialect link c given) d =
      match ends (condition dialect c) (d.restarted link) with
      | (.ok condition, d') => (.ok ⟨⟩, { d' with wheres := extendLevel d'.wheres link condition })
      | (.error f, d') => (.error f, d') := by
  have hnothing : bindGiven given = pure ⟨⟩ := by rw [bindGiven, hgiven, if_neg Bool.false_ne_true]
  rw [ends_whereCall_eq, hnothing]
  rcases ends (condition dialect c) (d.restarted link) with ⟨_ | _, _⟩ <;> rfl

theorem ends_whereInIds {link : Connector} {ids : Value} {d d' : Draft}
    (h : ends (whereInIds dialect link ids) d = (.ok ⟨⟩, d')) :
    ∃ s d'', ends (saidIds dialect ids) (d.restarted link) = (.ok s, d'') ∧
      d' = { d'' with wheres := extendLevel d.wheres link s.condition } := by
  obtain ⟨d₀, _, hget, h⟩ := ends_bind_eq_ok.mp h
  cases hget
  obtain ⟨c, d₁, hc, h⟩ := ends_bind_eq_ok.mp h
  obtain ⟨hread, rfl⟩ := ends_ofExcept_eq_ok.mp hc
  obtain ⟨s, d'', hs, hgiven⟩ := ends_whereCall h
  have hrestarted : (d.restarted link).idsCriterion ids = .ok c := by
    rw [← hread]
    unfold Draft.restarted
    split <;> rfl
  rw [said] at hs
  cases hgiven
  refine ⟨s, d'', ?_, rfl⟩
  exact ends_bind_eq_ok.mpr ⟨_, _, rfl, ends_bind_eq_ok.mpr ⟨c, _, ends_ofExcept_eq_ok.mpr ⟨hrestarted, rfl⟩, hs⟩⟩

end Build

/-- The connector of a call that states a condition, and what the call says. -/
def Call.said? {σ : Type} (cat : Catalog) : Call σ → Option (Connector × Build Said)
  | .where link c _ => some (link, Build.said cat.dialect c)
  | .whereInIds link ids => some (link, Build.saidIds cat.dialect ids)
  | _ => none

namespace Builder

variable {σ : Type}

/-- Makes calls one after the other, as long as they succeed. -/
def run (cat : Catalog) : Builder σ → List (Call σ) → Result (Builder σ)
  | b, [] => .ok b
  | b, call :: rest => match b.apply cat call with
    | (b', none) => run cat b' rest
    | (_, some f) => .error f

/-- The statement that a caller goes on with after a call. A conversion that fails makes no statement, and any
other call leaves what it did before it failed. -/
def next (cat : Catalog) (b : Builder σ) (call : Call σ) : Builder σ :=
  match b.apply cat call with
  | (b', none) => b'
  | (b', some _) => if call.isConversion then b else b'

/-- Callers go on with what the call leaves, or with what they had before a conversion. -/
theorem next_cases (cat : Catalog) (b : Builder σ) (call : Call σ) :
    b.next cat call = (b.apply cat call).1 ∨ call.isConversion ∧ b.next cat call = b := by
  rw [next]
  rcases b.apply cat call with ⟨b', _ | f⟩
  · exact .inl rfl
  · by_cases hconversion : call.isConversion
    · exact .inr ⟨hconversion, if_pos hconversion⟩
    · exact .inl (if_neg hconversion)

/-- The statement that calls lead to, whether they succeed or fail. -/
def reached (cat : Catalog) (b : Builder σ) (calls : List (Call σ)) : Builder σ := calls.foldl (next cat) b

/-- What a call says about the conditions of the statement itself. -/
def saidOf (cat : Catalog) (b : Builder σ) (call : Call σ) : List (Connector × Said) :=
  match call.said? cat with
  | none => []
  | some (link, s) => match (s.ends (b.draft.restarted link)).1 with
    | .ok s => [(link, s)]
    | .error _ => []

/-- What calls say, each on the statement that the ones before it leave. -/
def saidBy (cat : Catalog) : Builder σ → List (Call σ) → List (Connector × Said)
  | _, [] => []
  | b, call :: rest => b.saidOf cat call ++ saidBy cat (b.apply cat call).1 rest

theorem run_cons_eq_ok {cat : Catalog} {b b' : Builder σ} {call : Call σ} {rest : List (Call σ)} :
    b.run cat (call :: rest) = .ok b' ↔ ∃ b₁, b.apply cat call = (b₁, none) ∧ b₁.run cat rest = .ok b' := by
  rw [run]
  match b.apply cat call with
  | (b₁, none) => simp
  | (b₁, some f) => simp

theorem step_eq_none {b b' : Builder σ} {s : Build Unit} (h : b.step s = (b', none)) :
    ∃ d, s.ends b.draft = (.ok ⟨⟩, d) ∧ b' = { b with draft := d } := by
  rw [step_eq] at h
  split at h
  · next d hd =>
    cases h
    exact ⟨d, hd, rfl⟩
  · cases h

theorem step_eq_some {b b' : Builder σ} {s : Build Unit} {f : Failure} (h : b.step s = (b', some f)) :
    ∃ d, s.ends b.draft = (.error f, d) ∧ b' = { b with draft := d } := by
  rw [step_eq] at h
  split at h
  · cases h
  · next d hd =>
    cases h
    exact ⟨d, hd, rfl⟩

theorem saidOf_eq_singleton {cat : Catalog} {b : Builder σ} {call : Call σ} {link : Connector}
    {step : Build Said} {s : Said} {d : Draft} (hcall : call.said? cat = some (link, step))
    (hs : step.ends (b.draft.restarted link) = (.ok s, d)) : b.saidOf cat call = [(link, s)] := by
  rw [saidOf, hcall]
  simp only [hs]

/-- A call adds what it says to the conditions of the statement. -/
theorem wheres_apply {cat : Catalog} {b b' : Builder σ} {call : Call σ} (h : b.apply cat call = (b', none)) :
    b'.draft.wheres = Said.level b.draft.wheres (b.saidOf cat call) := by
  -- A call that states no condition says nothing, and it keeps the conditions.
  have hother (hwhere : ∀ link criterion given, call ≠ .where link criterion given)
      (hids : ∀ link ids, call ≠ .whereInIds link ids) (hsaid : call.said? cat = none) :
      b'.draft.wheres = Said.level b.draft.wheres (b.saidOf cat call) := by
    have hkeep := keeps_apply Build.ignoresBindings_wheres Build.seesWheres_wheres cat b call
      (fun link criterion given hcall => absurd hcall (hwhere link criterion given))
      (fun link ids hcall => absurd hcall (hids link ids))
    rw [h] at hkeep
    rw [saidOf, hsaid, Said.level]
    exact hkeep
  cases call with
  | «where» link c given =>
    obtain ⟨d, hd, rfl⟩ := step_eq_none h
    obtain ⟨s, d', hs, hgiven⟩ := Build.ends_whereCall hd
    have hkeep := Build.keeps_bindGiven Build.ignoresBindings_wheres given
      { d' with wheres := Build.extendLevel b.draft.wheres link s.condition }
    rw [hgiven] at hkeep
    rw [saidOf_eq_singleton rfl hs, Said.level, Said.level]
    exact hkeep
  | whereInIds link ids =>
    obtain ⟨d, hd, rfl⟩ := step_eq_none h
    obtain ⟨s, d', hs, rfl⟩ := Build.ends_whereInIds hd
    rw [saidOf_eq_singleton rfl hs, Said.level, Said.level]
  | _ => exact hother nofun nofun rfl

/-- The conditions that calls leave are made of what the calls said. -/
theorem wheres_of_run {cat : Catalog} {b b' : Builder σ} {calls : List (Call σ)}
    (h : b.run cat calls = .ok b') :
    b'.draft.wheres = Said.level b.draft.wheres (b.saidBy cat calls) := by
  induction calls generalizing b with
  | nil =>
    cases h
    rfl
  | cons call rest ih =>
    obtain ⟨b₁, happly, hrun⟩ := run_cons_eq_ok.mp h
    rw [ih hrun, wheres_apply happly, saidBy, happly, Said.level_append]

/-! ### The names that a statement binds -/

/-- However a call ends, the names that are bound differ afterwards as they did before. -/
theorem nodup_apply (cat : Catalog) (b : Builder σ) (call : Call σ) :
    (b.apply cat call).1.draft.parameters.keys.Nodup ↔ b.draft.parameters.keys.Nodup := by
  have hbindings : Build.IgnoresBindings fun d : Draft => d.parameters.keys.Nodup :=
    ⟨fun _ _ => rfl, fun d name v => propext (Assoc.nodup_keys_put_iff d.parameters name v)⟩
  have hwhere (link : Connector) (c : Criterion) (given : Value) :=
    Build.keeps_whereCall cat.dialect hbindings (fun _ _ => rfl) link c given
  refine iff_of_eq (keeps_apply hbindings (fun _ _ _ h => congrArg (·.keys.Nodup) h) cat b call ?_ ?_)
  · exact fun link c given _ => hwhere link c given
  · exact fun link ids _ => Build.keeps_bind Build.keeps_get fun _ => Build.keeps_bind (Build.keeps_ofExcept _)
      fun c => hwhere link _ _

end Builder

end SqlWeave
