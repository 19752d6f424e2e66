import SqlWeave.Proofs.Condition.Beside
import SqlWeave.Proofs.Statement.Target

/-!
# Conditions that a conversion takes along

A SELECT that is made a DELETE or an UPDATE takes its conditions along as they are written, with references
that the alias qualifies. The same calls on a statement that is a DELETE or an UPDATE from the start state
them bare. Main result: the WHERE clauses of the two differ by the qualifier in front of each reference that
the calls leave, so they are the same exactly when the calls leave no qualified reference.
-/

namespace SqlWeave

open Text (Qualified)
open Draft (Beside)

variable {σ : Type} {cat : Catalog}

/-! ## Kinds of calls -/

namespace Call

/-- A call that states a condition or binds values. -/
def states : Call σ → Bool
  | .where .. | .whereInIds .. | .setParameter .. | .setParameters .. => true
  | _ => false

/-- A call on a SELECT that leaves it one, with its target. -/
def stays : Call σ → Bool
  | .from .. | .into .. | .toInsert | .toUpdate .. | .toDelete => false
  | _ => true

/-- A call that makes a DELETE or an UPDATE of a statement, with its target. -/
inductive Bares : Call σ → Prop where
  | toDelete : Bares .toDelete
  | toUpdate (values : Value) : Bares (.toUpdate .null values)

/-- The qualified references in the conditions of a statement like `d` after a call. -/
def referencesAfter (d : Draft) (level : Nat) : Call σ → Nat
  | .where link c _ => link.places level (c.references d)
  | .whereInIds link ids => link.places level (d.idReferences ids)
  | _ => level

/-- The qualified references that calls add to the conditions of a statement like `d`, and leave there. -/
def references (d : Draft) (calls : List (Call σ)) : Nat := calls.foldl (referencesAfter d) 0

end Call

namespace Builder

open Build (Follows)

/-! ## Sound tables -/

theorem sound_run {b b' : Builder σ} {calls : List (Call σ)} (h : b.draft.scope.Sound)
    (hrun : b.run cat calls = .ok b') : b'.draft.scope.Sound := by
  induction calls generalizing b with
  | nil =>
    cases hrun
    exact h
  | cons call rest ih =>
    obtain ⟨b₁, happly, hrun⟩ := run_cons_eq_ok.mp hrun
    have hsound := sound_apply cat h call
    rw [happly] at hsound
    exact ih hsound hrun

theorem sound_reached {b : Builder σ} (h : b.draft.scope.Sound) (calls : List (Call σ)) :
    (b.reached cat calls).draft.scope.Sound := by
  induction calls generalizing b with
  | nil => exact h
  | cons call rest ih =>
    refine ih ?_
    rcases next_cases cat b call with hnext | ⟨-, hnext⟩
    · rw [hnext]
      exact sound_apply cat h call
    · rwa [hnext]

/-! ## Calls on statements beside each other -/

variable {o : Draft} {q : String} {n : Nat} {b b' b₁ : Builder σ}

theorem step_of_follows {C : Draft → Draft → Prop} {s t : Build Unit}
    (h : Follows (Beside o q n) C Eq s t) (hb : Beside o q n b.draft b'.draft)
    (hstep : b.step s = (b₁, none)) :
    ∃ b₁' : Builder σ, b'.step t = (b₁', none) ∧ C b₁.draft b₁'.draft := by
  obtain ⟨d, hd, rfl⟩ := step_eq_none hstep
  obtain ⟨⟨⟩, d', hd', -, hC⟩ := h _ _ _ _ hb hd
  refine ⟨{ b' with draft := d' }, ?_, hC⟩
  have hends : StateT.run (ExceptT.run t) b'.draft = (.ok ⟨⟩, d') := hd'
  rw [step, hends]

/-- A call that states a condition or binds values, on both statements. -/
theorem beside_of_states (hq : o.qualifier? cat.dialect = some q) (hb : Beside o q n b.draft b'.draft)
    {call : Call σ} (hstates : call.states) (happly : b.apply cat call = (b₁, none)) :
    ∃ b₁', b'.apply cat call = (b₁', none) ∧ Beside o q (call.referencesAfter o n) b₁.draft b₁'.draft := by
  cases call with
  | «where» link c given => exact step_of_follows (Build.follows_whereCall hq link c given) hb happly
  | whereInIds link ids => exact step_of_follows (Build.follows_whereInIds hq link ids) hb happly
  | setParameter key v => exact step_of_follows (Build.follows_setParameter key v) hb happly
  | setParameters given => exact step_of_follows (Build.follows_setGiven given) hb happly
  | _ => cases hstates

/-- Any other call on a SELECT keeps what the statement beside it is compared with. -/
theorem beside_of_stays (cat : Catalog) (hb : Beside o q n b.draft b'.draft) (hsound : b.draft.scope.Sound)
    (hkind : b.kind = .select) {call : Call σ} (hstays : call.stays) (hstates : call.states = false) :
    Beside o q (call.referencesAfter o n) (b.apply cat call).1.draft b'.draft := by
  have hsees : Build.SeesCore fun d => Beside o q n d b'.draft :=
    fun d e hscope hqualified hwheres hparameters hindex => propext
      ⟨.of_core hscope.symm hqualified.symm hwheres.symm hparameters.symm hindex.symm,
        .of_core hscope hqualified hwheres hparameters hindex⟩
  have hcopy : Beside o q n (b.convert .select).draft b'.draft :=
    { hb with target := hsound.target_copy.trans hb.target }
  have hstep {b : Builder σ} (h : Beside o q n b.draft b'.draft) (kind : StatementKind) {c : Call σ}
      (haside : c.isAside) : Beside o q n (b.step (Build.call cat kind c)).1.draft b'.draft :=
    (b.keeps_step (Build.keeps_aside hsees cat kind haside)).mpr h
  cases call with
  | toSelect selection name =>
    unfold apply
    dsimp only
    split
    · exact hcopy
    · exact hstep hcopy .select rfl
  | clone =>
    rw [apply, hkind]
    exact hcopy
  | addCte source name columns recursive materialized =>
    unfold apply
    dsimp only
    split
    · split <;> exact hb
    · exact hb
  | «where» | whereInIds | setParameter | setParameters => cases hstates
  | «from» | into | toInsert | toUpdate | toDelete => cases hstays
  | _ => exact hstep hb b.kind rfl

theorem kind_step (b : Builder σ) (s : Build Unit) : (b.step s).1.kind = b.kind := by
  unfold step
  rcases StateT.run (ExceptT.run s) b.draft with ⟨_ | _, _⟩ <;> rfl

theorem kind_of_stays (cat : Catalog) (hkind : b.kind = .select) {call : Call σ} (hstays : call.stays) :
    (b.apply cat call).1.kind = .select := by
  cases call with
  | toSelect selection name =>
    unfold apply
    dsimp only
    split
    · rfl
    · exact kind_step _ _
  | clone => exact hkind
  | addCte source name columns recursive materialized =>
    unfold apply
    dsimp only
    split
    · split <;> exact hkind
    · exact hkind
  | «from» | into | toInsert | toUpdate | toDelete => cases hstays
  | _ => exact (kind_step b _).trans hkind

/-- What calls on a SELECT state is stated beside it by those of them that state or bind something. -/
theorem beside_of_run (hq : o.qualifier? cat.dialect = some q) {calls : List (Call σ)}
    (hstays : ∀ call ∈ calls, call.stays) (hb : Beside o q n b.draft b'.draft) (hsound : b.draft.scope.Sound)
    (hkind : b.kind = .select) (hrun : b.run cat calls = .ok b₁) :
    ∃ b₁', b'.run cat (calls.filter Call.states) = .ok b₁' ∧
      Beside o q (calls.foldl (Call.referencesAfter o) n) b₁.draft b₁'.draft := by
  induction calls generalizing b b' n with
  | nil =>
    cases hrun
    exact ⟨b', rfl, hb⟩
  | cons call rest ih =>
    rw [List.forall_mem_cons] at hstays
    obtain ⟨b₂, happly, hrun⟩ := run_cons_eq_ok.mp hrun
    have hkind₂ : b₂.kind = .select := by
      have hstill := kind_of_stays cat hkind hstays.1
      rwa [happly] at hstill
    have hsound₂ : b₂.draft.scope.Sound := by
      have hstill := sound_apply cat hsound call
      rwa [happly] at hstill
    cases hstates : call.states with
    | true =>
      obtain ⟨b₂', happly', hb₂⟩ := beside_of_states hq hb hstates happly
      obtain ⟨b₁', hrun', hb₁⟩ := ih hstays.2 hb₂ hsound₂ hkind₂ hrun
      rw [List.filter_cons_of_pos hstates]
      exact ⟨b₁', run_cons_eq_ok.mpr ⟨b₂', happly', hrun'⟩, hb₁⟩
    | false =>
      have hb₂ := beside_of_stays cat hb hsound hkind hstays.1 hstates
      rw [happly] at hb₂
      rw [List.filter_cons_of_neg (by simp [hstates])]
      exact ih hstays.2 hb₂ hsound₂ hkind₂ hrun

/-! ## Conversions -/

/-- A conversion with the target kept: a copy that leaves references bare. -/
theorem apply_of_bares (cat : Catalog) (b : Builder σ) {conversion : Call σ} (h : conversion.Bares) :
    ∃ kind rows, b.apply cat conversion =
      ({ b with kind, draft := { b.draft.copy with qualified := false, values := rows } }, none) := by
  cases h with
  | toDelete => exact ⟨.delete, b.draft.values, rfl⟩
  | toUpdate values =>
    cases hvalues : values.isNull with
    | true => exact ⟨.update, b.draft.values, by simp [apply, hvalues]; rfl⟩
    | false => exact ⟨.update, values, by simp [apply, hvalues]; rfl⟩

theorem run_append (b : Builder σ) (calls more : List (Call σ)) :
    b.run cat (calls ++ more) = b.run cat calls >>= fun b' => b'.run cat more := by
  induction calls generalizing b with
  | nil => rfl
  | cons call rest ih =>
    rw [List.cons_append, run, run]
    rcases b.apply cat call with ⟨b', _ | f⟩
    · exact ih b'
    · rfl

/-- The WHERE clause of a SELECT that is made a DELETE or an UPDATE is that of a DELETE or an UPDATE on the same
target with the same calls, but for the qualifier in front of the references that the calls leave. -/
theorem whereText_of_conversion {made calls : List (Call σ)} {conversion : Call σ}
    (hmade : ({} : Builder σ).run cat made = .ok b) (hkind : b.kind = .select)
    (hq : b.draft.qualifier? cat.dialect = some q) (hstays : ∀ call ∈ calls, call.stays) (hbares : conversion.Bares)
    (hrun : b.run cat (calls ++ [conversion]) = .ok b₁) :
    ∃ b₂, b.run cat (conversion :: calls.filter Call.states) = .ok b₂ ∧
      b₂.draft.parameters = b₁.draft.parameters ∧
      Qualified q (Call.references b.draft calls) (b₁.draft.whereText none) (b₂.draft.whereText none) ∧
      (b₁.draft.whereText none = b₂.draft.whereText none ↔ Call.references b.draft calls = 0) := by
  have hsound : b.draft.scope.Sound := sound_run Scope.sound_empty hmade
  have hqualifier := Draft.isQualifier_of_qualifier? hq
  obtain ⟨kind, rows, hconverted⟩ := b.apply_of_bares cat hbares
  have hbeside : Beside b.draft q 0 b.draft (b.apply cat conversion).1.draft := by
    rw [hconverted]
    exact ⟨rfl, hsound.target_copy, rfl, rfl, rfl, rfl, .refl q _⟩
  rw [run_append] at hrun
  obtain ⟨b', hcalls, hlast⟩ := Result.bind_eq_ok.mp hrun
  obtain ⟨b₂, hrun₂, hb₂⟩ := beside_of_run hq hstays hbeside hsound hkind hcalls
  rw [hconverted] at hrun₂
  refine ⟨b₂, run_cons_eq_ok.mpr ⟨_, hconverted, hrun₂⟩, ?_⟩
  -- The conversion at the end changes neither the conditions nor the bindings.
  obtain ⟨kind', rows', hconverted'⟩ := b'.apply_of_bares cat hbares
  rw [run, hconverted'] at hlast
  cases hlast
  have hclause := Draft.qualified_whereText hqualifier hb₂.wheres
  exact ⟨hb₂.parameters, hclause, hclause.eq_iff hqualifier⟩

/-! ### Users -/

/-- A dialect without entities. -/
def userCatalog : Catalog := { dialect := .sqlite }

/-- A SELECT of users, who are in a plain table. -/
def ofUsers : Builder Statement :=
  let users : Alias := { id := 0, name := .text "users", path := .text "users" }
  { draft := { scope := { all := [users], main := some users, next := 1 } } }

/-- A comparison, a limit, and a negated group with a list of two records. -/
def userCalls : List (Call Statement) :=
  [.where .simple (.simple (.record [("id", .int 1)])) .null, .limit (.int 5),
    .where .or (.group true [.where .and (.simple (.anyOf [.record [("age", .int 7)], .record [("name", .null)]]))
      .null]) .null]

/-- The DELETE that the SELECT of users is made after the calls. -/
def deletedUsers : Builder Statement :=
  let users : Alias := { id := 1, name := .text "users", path := .text "users" }
  { kind := .delete
    draft :=
      { scope := { all := [users], main := some users, next := 2 }
        wheres :=
          [(.simple, .text "\"users\".\"id\" = :orm_param_0"),
            (.or, .group true
              [(.and, .text "(\"users\".\"age\" = :orm_param_1) OR (\"users\".\"name\" IS NULL)")])]
        qualified := false
        parameters := [("orm_param_0", .int 1), ("orm_param_1", .int 7)]
        parameterIndex := 2
        limit := some 5 } }

theorem whereText_of_deleted_users :
    ({} : Builder Statement).run userCatalog [.from (.text "users") .null] = .ok ofUsers ∧
    ofUsers.run userCatalog (userCalls ++ [.toDelete]) = .ok deletedUsers ∧
    Call.references ofUsers.draft userCalls = 3 ∧
    ∃ b₂, ofUsers.run userCatalog (.toDelete :: userCalls.filter Call.states) = .ok b₂ ∧
      b₂.draft.parameters = deletedUsers.draft.parameters ∧
      Qualified "\"users\"." (Call.references ofUsers.draft userCalls) (deletedUsers.draft.whereText none)
        (b₂.draft.whereText none) ∧
      (deletedUsers.draft.whereText none = b₂.draft.whereText none ↔ Call.references ofUsers.draft userCalls = 0) := by
  have hmade : ({} : Builder Statement).run userCatalog [.from (.text "users") .null] = .ok ofUsers := rfl
  have hrun : ofUsers.run userCatalog (userCalls ++ [.toDelete]) = .ok deletedUsers := rfl
  exact ⟨hmade, hrun, rfl, whereText_of_conversion hmade rfl rfl (by decide) .toDelete hrun⟩

end Builder

end SqlWeave
