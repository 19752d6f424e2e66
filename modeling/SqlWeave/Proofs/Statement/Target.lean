import SqlWeave.Proofs.Condition.Call
import SqlWeave.Proofs.Statement.Scope

/-!
# Targets

A call that names a target makes an alias for it, which becomes the main alias of the statement. Calls do nothing
else to the aliases, but that a conversion copies them: so they keep the tables of a statement sound.
-/

namespace SqlWeave

variable {σ : Type}

/-! ## What an alias says -/

/-- What an alias says, whichever alias it is. -/
structure Alias.Fields where
  name : Value
  subject : Option Registered
  path : Value
  role : Value

def Alias.fields (a : Alias) : Alias.Fields := ⟨a.name, a.subject, a.path, a.role⟩

/-- What the alias of a target says under a name, when there is a table for the target. -/
def Catalog.place? (cat : Catalog) (target name : Value) : Option Alias.Fields :=
  match cat.entities.find? (Registry.lookupKey target), (Registry.lookupKey target).text? with
  | .ok (some e), _ => some ⟨name.orElse (.text e.table), some (.entity e), .null, .text "from"⟩
  | .ok none, some _ => some ⟨name.orElse (Registry.lookupKey target), none, Registry.lookupKey target, .text "from"⟩
  | _, _ => none

namespace Call

/-- What the alias says that a call makes for its target. -/
def place? (cat : Catalog) : Call σ → Option Alias.Fields
  | .from target name => cat.place? target name
  | .into target _ => cat.place? target .null
  | .toUpdate target _ => if target.isNull then none else cat.place? target .null
  | _ => none

/-- A conversion that keeps the target. -/
def copies : Call σ → Bool
  | .toSelect .. | .toInsert | .toDelete | .clone => true
  | .toUpdate target _ => target.isNull
  | _ => false

theorem isConversion_of_copies {c : Call σ} (h : c.copies) : c.isConversion := by
  cases c with
  | toSelect | toInsert | toUpdate | toDelete | clone => rfl
  | _ => cases h

theorem place?_of_copies (cat : Catalog) {c : Call σ} (h : c.copies) : c.place? cat = none := by
  cases c with
  | toUpdate target rows => exact if_pos h
  | toSelect | toInsert | toDelete | clone => rfl
  | _ => cases h

end Call

namespace Scope

/-- Makes an alias that says this, if anything, the main one. -/
def retarget (s : Scope) : Option Alias.Fields → Scope
  | none => s
  | some f => (s.create f.name f.subject f.path f.role).2.setMain (s.create f.name f.subject f.path f.role).1

theorem Sound.retarget {s : Scope} (h : s.Sound) (fields : Option Alias.Fields) : (s.retarget fields).Sound := by
  cases fields with
  | none => exact h
  | some f => exact (h.create f.name f.subject f.path).setMain (mem_create f.name f.subject f.path)

end Scope

/-! ## What a call does to the aliases -/

namespace Build

theorem ignoresBindings_scope : IgnoresBindings Draft.scope := ⟨fun _ _ => rfl, fun _ _ _ => rfl⟩

theorem seesCore_scope : SeesCore Draft.scope := fun _ _ h _ _ _ _ => h

/-- A target that there is no table for fails and changes nothing; the alias of any other becomes the main one. -/
theorem ends_setTarget_place (cat : Catalog) (target name : Value) (d : Draft) :
    (cat.place? target name = none ∧ ∃ f, ends (setTarget cat target name) d = (.error f, d)) ∨
    ∃ fields, cat.place? target name = some fields ∧
      ends (setTarget cat target name) d = (.ok ⟨⟩, { d with scope := d.scope.retarget (some fields) }) := by
  unfold setTarget createFromAlias Catalog.place?
  dsimp only
  cases cat.entities.find? (Registry.lookupKey target) with
  | error f => exact .inl ⟨rfl, f, rfl⟩
  | ok found =>
    cases found with
    | some e => exact .inr ⟨_, rfl, rfl⟩
    | none =>
      cases (Registry.lookupKey target).text? with
      | none => exact .inl ⟨rfl, _, rfl⟩
      | some path => exact .inr ⟨_, rfl, rfl⟩

theorem scope_setTarget (cat : Catalog) (target name : Value) (d : Draft) :
    (ends (setTarget cat target name) d).2.scope = d.scope.retarget (cat.place? target name) := by
  rcases ends_setTarget_place cat target name d with ⟨hplace, f, he⟩ | ⟨fields, hplace, he⟩
  · rw [hplace, he, Scope.retarget]
  · rw [hplace, he]

theorem ends_setTarget_of_place {cat : Catalog} {target name : Value} {fields : Alias.Fields}
    (h : cat.place? target name = some fields) (d : Draft) :
    ∃ d', ends (setTarget cat target name) d = (.ok ⟨⟩, d') := by
  rcases ends_setTarget_place cat target name d with ⟨hplace, -⟩ | ⟨fields, -, he⟩
  · cases h.symm.trans hplace
  · exact ⟨_, he⟩

/-- What follows a step and keeps the tables leaves those of the step. -/
theorem scope_bind {α β : Type} {s : Build α} {k : α → Build β} (hk : ∀ a, Keeps Draft.scope (k a)) (d : Draft) :
    (ends (s >>= k) d).2.scope = (ends s d).2.scope := by
  rw [ends_bind]
  match ends s d with
  | (.ok a, d') => exact hk a d'
  | (.error _, _) => rfl

end Build

namespace Builder

/-- What a call does to the aliases: a conversion copies them, and the alias of a target becomes the main one. -/
theorem scope_apply (cat : Catalog) (b : Builder σ) (c : Call σ) : (b.apply cat c).1.draft.scope =
    (if c.isConversion then b.draft.scope.copy else b.draft.scope).retarget (c.place? cat) := by
  have hwhere (link : Connector) (criterion : Criterion) (given : Value) :=
    Build.keeps_whereCall cat.dialect Build.ignoresBindings_scope (fun _ _ => rfl) link criterion given
  have hset (values : Value) : Build.Keeps Draft.scope
      (if !values.isNull then Build.call cat .update (.set values : Call σ) else pure ⟨⟩) :=
    Build.keeps_ite (Build.keeps_aside Build.seesCore_scope cat .update rfl) (Build.keeps_pure _)
  cases c with
  | «where» link criterion given => exact b.keeps_step (hwhere link criterion given)
  | whereInIds link ids =>
    exact b.keeps_step (Build.keeps_bind Build.keeps_get fun _ => Build.keeps_bind (Build.keeps_ofExcept _)
      fun _ => hwhere link _ _)
  | setParameter key v => exact b.keeps_step (Build.keeps_setParameter Build.ignoresBindings_scope key v)
  | setParameters given => exact b.keeps_step (Build.keeps_setGiven Build.ignoresBindings_scope given)
  | «from» target name =>
    rw [apply, draft_step]
    · exact Build.scope_setTarget cat target name b.draft
    all_goals nofun
  | into target columns =>
    have hcolumns : ∀ u : Unit, Build.Keeps Draft.scope (do
        let insertColumns ← MonadExcept.ofExcept (Build.columnNames columns)
        modify fun d => { d with insertColumns }) := fun _ =>
      Build.keeps_bind (Build.keeps_ofExcept _) fun _ => Build.keeps_modify fun _ => rfl
    rw [apply, draft_step]
    · exact (Build.scope_bind hcolumns b.draft).trans (Build.scope_setTarget cat target _ b.draft)
    all_goals nofun
  | toSelect selection name =>
    unfold apply
    dsimp only
    split
    · rfl
    · exact (b.convert .select).keeps_step (Build.keeps_aside Build.seesCore_scope cat .select rfl)
  | toUpdate target values =>
    rw [apply, draft_step, Call.place?]
    cases htarget : target.isNull with
    | true => exact hset values (b.convert .update).draft
    | false =>
      exact (Build.scope_bind (fun _ => hset values) _).trans (Build.scope_setTarget cat target _ _)
  | toInsert | toDelete | clone => rfl
  | addCte source name columns recursive materialized =>
    unfold apply
    dsimp only
    split
    · split <;> rfl
    · rfl
  | _ => exact b.keeps_step (Build.keeps_aside Build.seesCore_scope cat b.kind rfl)

/-- A conversion fails at most when it names a target. -/
theorem failure_of_conversion (cat : Catalog) (b : Builder σ) {c : Call σ} (hconversion : c.isConversion)
    (h : c.copies ∨ (c.place? cat).isSome) : (b.apply cat c).2 = none := by
  cases c with
  | toSelect selection name =>
    unfold apply
    dsimp only
    split <;> rfl
  | toUpdate target values =>
    have hset (d : Draft) : (Build.ends (if !values.isNull then Build.call cat .update (.set values : Call σ)
        else pure ⟨⟩) d).1 = .ok ⟨⟩ := by
      cases values.isNull <;> rfl
    have hstep {s : Build Unit} (hs : (Build.ends s (b.convert .update).draft).1 = .ok ⟨⟩) :
        ((b.convert .update).step s).2 = none := by
      rw [step_eq]
      match he : Build.ends s (b.convert .update).draft with
      | (.ok _, d) => rfl
      | (.error f, d) =>
        rw [he] at hs
        cases hs
    rw [apply]
    refine hstep ?_
    cases htarget : target.isNull with
    | true => exact hset _
    | false =>
      obtain ⟨f, hplace⟩ : ∃ f, cat.place? target .null = some f := by
        rcases h with hcopies | hplace
        · rw [Call.copies, htarget] at hcopies
          cases hcopies
        · rw [Call.place?, htarget] at hplace
          exact Option.isSome_iff_exists.mp hplace
      obtain ⟨d, hd⟩ := Build.ends_setTarget_of_place hplace (b.convert .update).draft
      show (Build.ends (Build.setTarget cat target >>= fun _ => _) _).1 = _
      rw [Build.ends_bind, hd]
      exact hset d
  | toInsert | toDelete | clone => rfl
  | _ => cases hconversion

/-- Calls keep the tables of a statement sound. -/
theorem sound_apply (cat : Catalog) {b : Builder σ} (h : b.draft.scope.Sound) (call : Call σ) :
    (b.apply cat call).1.draft.scope.Sound := by
  rw [scope_apply]
  by_cases hconversion : call.isConversion
  · rw [if_pos hconversion]
    exact h.copy.retarget _
  · rw [if_neg hconversion]
    exact h.retarget _

end Builder

end SqlWeave
