import Mathlib.Data.Finset.Card
import Mathlib.Data.Finset.Range
import Mathlib.Logic.Relation
import SqlWeave.Proofs.Session.Obtaining
import SqlWeave.Proofs.Session.TwinRun
import SqlWeave.Proofs.Statement.Lowerable

/-!
# A statement that cannot be written touches nothing

Builders are made and changed by fluent calls, and refer to each other in their WITH blocks. When the calls are typed
and no block leads back to itself, it is known when a builder cannot be written: a builder of its WITH block cannot
be, or it is a write without a table, or an UPDATE with nothing to set. Asked for its text it is refused then, and
executed it fails with the same refusal before anything else is done.
-/

namespace SqlWeave

open Relation (ReflTransGen TransGen)

namespace World

variable {w v : World}

/-! ## WITH blocks without cycles -/

/-- Builder `a` has builder `b` in its WITH block. -/
def Refers (w : World) (a b : Nat) : Prop := ∃ c ∈ (w.builders.get a).builder.ctes, c.source = .statement b

/-- No builder that the WITH blocks lead to from this one leads back to itself. -/
def HasNoCycle (w : World) (id : Nat) : Prop := ∀ a, ReflTransGen w.Refers id a → ¬ TransGen w.Refers a a

theorem HasNoCycle.of_refers {a b : Nat} (h : w.HasNoCycle a) (hab : w.Refers a b) : w.HasNoCycle b :=
  fun c hc => h c (.head hab hc)

/-- Where builders refer to older ones alone, there is no cycle. -/
theorem hasNoCycle_of_lt (h : ∀ a b, w.Refers a b → b < a) (id : Nat) : w.HasNoCycle id := by
  have hlt {a b : Nat} (hab : TransGen w.Refers a b) : b < a := by
    induction hab with
    | single hab => exact h _ _ hab
    | tail _ hbc ih => exact (h _ _ hbc).trans ih
  exact fun a _ ha => Nat.lt_irrefl a (hlt ha)

/-- The builders are typed, and a number that was not handed out has no WITH block. -/
structure AreTyped (w : World) : Prop where
  typed : ∀ id, (w.builders.get id).builder.IsTyped
  alone : ∀ id, w.builders.next ≤ id → (w.builders.get id).builder.ctes = []

/-- Following the WITH blocks from a typed builder comes to an end in time: the builders on the way, `seen`, differ
from each other, since there is no cycle, and there are no more of them than numbers that were handed out. -/
theorem AreTyped.typed_statementAt (hw : w.AreTyped) (fuel : Nat) : ∀ {id : Nat} {seen : Finset Nat},
    w.HasNoCycle id → seen ⊆ Finset.range w.builders.next → (∀ a ∈ seen, TransGen w.Refers a id) →
    w.builders.next < fuel + seen.card → (w.statementAt fuel (w.builders.get id).builder).IsTyped := by
  induction fuel with
  | zero =>
    intro id seen _ hseen _ hfuel
    have hcard := Finset.card_le_card hseen
    rw [Finset.card_range] at hcard
    omega
  | succ fuel ih =>
    intro id seen hcycle hseen hway hfuel
    have hentries : ∀ c ∈ (w.builders.get id).builder.ctes.map (w.entryAt fuel), c.IsTyped :=
      List.forall_mem_map.mpr fun c hc => ⟨((hw.typed id).ctes c hc).name, ((hw.typed id).ctes c hc).columns⟩
    rw [statementAt_succ]
    refine .of ⟨(hw.typed id).draft, hentries⟩ (List.forall_mem_map.mpr fun c hc s hs => ?_)
    cases hsource : c.source with
    | value sql =>
      rw [entryAt, hsource] at hs
      cases hs
    | statement sub =>
      rw [entryAt, hsource] at hs
      cases hs
      have hrefers : w.Refers id sub := ⟨c, hc, hsource⟩
      have hid : id < w.builders.next := by
        by_contra hbeyond
        rw [hw.alone id (Nat.le_of_not_lt hbeyond)] at hc
        cases hc
      have hnew : id ∉ seen := fun hmem => hcycle id .refl (hway id hmem)
      refine ih (hcycle.of_refers hrefers) (Finset.insert_subset (Finset.mem_range.mpr hid) hseen) (fun a ha => ?_) ?_
      · rcases Finset.mem_insert.mp ha with rfl | ha
        · exact .single hrefers
        · exact (hway a ha).tail hrefers
      · rw [Finset.card_insert_of_notMem hnew]
        omega

theorem AreTyped.typed_statement (hw : w.AreTyped) {id : Nat} (hcycle : w.HasNoCycle id) :
    (w.statement (w.builders.get id).builder).IsTyped :=
  hw.typed_statementAt _ hcycle (Finset.empty_subset _) (fun a ha => absurd ha (Finset.notMem_empty a)) (by simp)

/-- More fuel makes no other statement of one that has an end. -/
theorem statementAt_succ_of_typed {fuel : Nat} : ∀ {b : Builder Nat}, (w.statementAt fuel b).IsTyped →
    w.statementAt (fuel + 1) b = w.statementAt fuel b := by
  induction fuel with
  | zero =>
    intro b h
    rw [World.statementAt] at h
    cases h
  | succ fuel ih =>
    intro b h
    rw [statementAt_succ w fuel] at h
    rw [statementAt_succ w (fuel + 1), statementAt_succ w fuel]
    cases h with
    | of _ hinner =>
      have hentries : b.ctes.map (w.entryAt (fuel + 1)) = b.ctes.map (w.entryAt fuel) := by
        refine List.map_congr_left fun c hc => ?_
        have hsub := hinner _ (List.mem_map_of_mem hc)
        unfold entryAt at hsub ⊢
        cases hsource : c.source with
        | value sql => rfl
        | statement sub =>
          rw [hsource] at hsub
          dsimp only
          rw [ih (hsub _ rfl)]
      rw [hentries]

/-! ## When a builder cannot be written -/

/-- What asking a builder for its text answers. -/
def queryOf (w : World) (id : Nat) : Result Value := (Session.ends (Session.callBuilder id "get_query" []) w).1

theorem queryOf_eq_error {id : Nat} {f : Failure} : w.queryOf id = .error f ↔
    (w.statement (w.builders.get id).builder).query w.catalog = .error f := by
  rw [queryOf, Session.result_getQuery]
  cases (w.statement (w.builders.get id).builder).query w.catalog <;> simp [Except.map]

theorem inner_entryAt_eq_error {cat : Catalog} {fuel : Nat} {c : Cte Nat} {f : Failure} :
    (w.entryAt fuel c).inner cat = .error f ↔ ∃ sub, c.source = .statement sub ∧
      (w.statementAt fuel (w.builders.get sub).builder).query cat = .error f := by
  unfold Cte.inner entryAt
  cases c.source <;> simp

/-- A builder of a WITH block makes the statement there that it makes by itself. -/
theorem statement_of_refers {id sub : Nat} (h : (w.statement (w.builders.get id).builder).IsTyped)
    (hrefers : w.Refers id sub) : w.statement (w.builders.get sub).builder =
      w.statementAt w.builders.next (w.builders.get sub).builder := by
  obtain ⟨c, hc, hsource⟩ := hrefers
  rw [World.statement, statementAt_succ] at h
  cases h with
  | of _ hinner =>
    refine statementAt_succ_of_typed (hinner _ (List.mem_map_of_mem hc) _ ?_)
    rw [entryAt, hsource]

theorem AreTyped.queryOf_fails_iff (hw : w.AreTyped) {id : Nat} (hcycle : w.HasNoCycle id) :
    (∃ f, w.queryOf id = .error f) ↔ (∃ sub, w.Refers id sub ∧ ∃ f, w.queryOf sub = .error f) ∨
      (w.builders.get id).builder.draft.Incomplete w.catalog (w.builders.get id).builder.kind := by
  have htyped := hw.typed_statement hcycle
  have hsame (sub : Nat) (h : w.Refers id sub) := statement_of_refers htyped h
  rw [World.statement, statementAt_succ] at htyped
  simp only [queryOf_eq_error]
  rw [World.statement, statementAt_succ]
  cases htyped with
  | of hb _ =>
    refine (Statement.query_fails_iff hb).trans (or_congr_left ?_)
    constructor
    · rintro ⟨_, hentry, f, hf⟩
      obtain ⟨c, hc, rfl⟩ := List.mem_map.mp hentry
      obtain ⟨sub, hsource, hf⟩ := inner_entryAt_eq_error.mp hf
      exact ⟨sub, ⟨c, hc, hsource⟩, f, by rw [hsame sub ⟨c, hc, hsource⟩]; exact hf⟩
    · rintro ⟨sub, ⟨c, hc, hsource⟩, f, hf⟩
      rw [hsame sub ⟨c, hc, hsource⟩] at hf
      exact ⟨_, List.mem_map_of_mem hc, f, inner_entryAt_eq_error.mpr ⟨sub, hsource, hf⟩⟩

/-! ## Worlds that fluent calls lead to -/

theorem AreTyped.of_builders (hw : w.AreTyped) (hnext : v.builders.next = w.builders.next)
    (hsame : ∀ id, (v.builders.get id).builder = (w.builders.get id).builder) : v.AreTyped where
  typed id := hsame id ▸ hw.typed id
  alone id hid := hsame id ▸ hw.alone id (hnext ▸ hid)

theorem AreTyped.noted (hw : w.AreTyped) (h : Noted w v) : v.AreTyped := by
  have hbuilders : v.builders = w.builders := (congrArg World.builders h :)
  exact hw.of_builders (by rw [hbuilders]) fun id => by rw [hbuilders]

end World

namespace Session

open World (AreTyped)

variable {w : World}

/-- A step whose arguments are of their kinds. -/
def FluentStep.IsTyped : FluentStep → Prop
  | .start _ name _ => name.IsTextIfAny
  | .call _ c => c.IsTyped

/-- A step is made on a builder that was handed out. -/
def FluentStep.IsHeld (w : World) : FluentStep → Prop
  | .start .. => True
  | .call id _ => id < w.builders.next

theorem typed_keep (hw : w.AreTyped) {id : Nat} (hid : id < w.builders.next) {b : Builder Nat} (hb : b.IsTyped) :
    (ends (keep id b) w).2.AreTyped := by
  refine ⟨fun i => ?_, fun i hi => ?_⟩
  · rw [builder_keep]
    split
    · exact hb
    · exact hw.typed i
  · have hi : w.builders.next ≤ i := hi
    rw [builder_keep, if_neg (by omega)]
    exact hw.alone i hi

theorem typed_hold (hw : w.AreTyped) {b : Builder Nat} (hb : b.IsTyped) (runner : Value) :
    (ends (hold ⟨b, runner⟩) w).2.AreTyped := by
  refine ⟨fun i => ?_, fun i hi => ?_⟩
  · rw [builder_hold]
    split
    · exact hb
    · exact hw.typed i
  · have hi : w.builders.next + 1 ≤ i := hi
    rw [builder_hold, if_neg (by omega)]
    exact hw.alone i (by omega)

/-- Each step keeps the builders typed, however it ends. -/
theorem FluentStep.IsTyped.run {s : FluentStep} (hs : s.IsTyped) (hw : w.AreTyped) (hheld : s.IsHeld w) :
    (ends s.run w).2.AreTyped := by
  have hraise {α : Type} {v : World} (hv : v.AreTyped) (f : Failure) : (ends (raise f : Session α) v).2.AreTyped :=
    hv.noted (noted_raise f v)
  cases s with
  | start target name runner =>
    unfold FluentStep.run
    rw [after_ignored, after_newBuilder]
    have hfrom : (({} : Builder Nat).apply w.catalog (.from target name)).1.IsTyped := Builder.isTyped_empty.apply hs
    split
    · exact typed_hold hw Builder.isTyped_empty runner
    · generalize ({} : Builder Nat).apply w.catalog (.from target name) = p at hfrom
      obtain ⟨b, failure⟩ := p
      cases failure with
      | some f => exact hraise hw f
      | none => exact typed_hold hw hfrom runner
  | call id c =>
    unfold FluentStep.run
    rw [after_ignored, after_fluent]
    have hcall : ((w.builders.get id).builder.apply w.catalog c).1.IsTyped := (hw.typed id).apply hs
    generalize (w.builders.get id).builder.apply w.catalog c = p at hcall
    obtain ⟨b, failure⟩ := p
    dsimp only
    split
    · cases failure with
      | some f => exact hraise hw f
      | none => exact typed_hold hw hcall _
    · have hkept := typed_keep hw hheld hcall
      cases failure with
      | some f => exact hraise hkept f
      | none => exact hkept

end Session

/-- What typed fluent calls lead to from no builders at all. The calls may fail, and between them anything may happen
that leaves alone what the builders have said. -/
inductive World.ByFluentCalls : World → Prop where
  | start {w : World} (h : w.builders = {}) : ByFluentCalls w
  | step {w : World} (hw : ByFluentCalls w) {s : Session.FluentStep} (hs : s.IsTyped) (hheld : s.IsHeld w) :
    ByFluentCalls (Session.ends s.run w).2
  | between {w v : World} (hw : ByFluentCalls w) (hnext : v.builders.next = w.builders.next)
    (hsame : ∀ id, (v.builders.get id).builder = (w.builders.get id).builder) : ByFluentCalls v

theorem World.ByFluentCalls.areTyped {w : World} (h : w.ByFluentCalls) : w.AreTyped := by
  induction h with
  | @start w h =>
    have hget (id : Nat) : (w.builders.get id).builder = {} := by
      rw [h]
      rfl
    exact ⟨fun id => hget id ▸ Builder.isTyped_empty, fun id _ => by rw [hget]⟩
  | step _ hs hheld ih => exact hs.run ih hheld
  | between _ hnext hsame ih => exact ih.of_builders hnext hsame

namespace Session

variable {w : World}

/-! ## Executing what cannot be written -/

/-- A builder whose statement cannot be written fails so, and leaves no more than a log record. -/
theorem execute_of_query_error {b : Builder Nat} (hb : b.IsTyped) {f : Failure}
    (h : (w.statement b).query w.catalog = .error f) (given : Value) :
    ∃ v, World.Logged w v ∧ ends (execute b given) w = (.error f, v) := by
  obtain ⟨payloads, hpayloads⟩ : ∃ payloads, payloadsOf b = .ok payloads := by
    unfold payloadsOf
    cases b.kind with
    | insert =>
      obtain ⟨rows, hrows, -⟩ := hb.draft.exists_valueSets
      exact ⟨_, hrows⟩
    | select | update | delete => exact ⟨_, rfl⟩
  have hbound : (w.statement b).bound w.catalog = .error f := by
    unfold Statement.bound
    rw [h]
    rfl
  obtain ⟨v, hv⟩ := ends_raise (α := String × List Value) f w
  have hqueried : ends (queryBound b) w = (.error f, v) := by
    unfold queryBound
    rw [ends_bind_ok (ends_get w), hbound]
    exact hv
  refine ⟨v, (logs_ofResult (.error f : Result (String × List Value))).of_ends hv, ?_⟩
  unfold execute
  rw [hpayloads, ends_bind_ok (ends_ofResult_ok ..)]
  exact ends_bind_error hqueried

theorem ends_callExecute {id : Nat} {f : Failure} {v : World}
    (h : ends (execute (w.builders.get id).builder (w.builders.get id).runner) w = (.error f, v)) :
    ends (callBuilder id "execute" []) w = (.error f, v) := by
  have hanswer : answerBuilder id "execute" [] = (do
      let _ ← get
      let h ← held id
      return (← execute h.builder h.runner).toValue) := rfl
  rw [ends_callBuilder fun _ => rfl, hanswer, ends_bind_ok (ends_get w), ends_bind_ok (ends_held id w)]
  exact ends_bind_error h

/-- Orders are selected beside an UPDATE of users that sets nothing. -/
def touching : World := after { dialect := .postgres }
  [.start .null .null .null, .call 0 (.toUpdate (.text "users") .null), .start (.text "orders") .null .null,
    .call 2 (.addCte (.statement 1) (.text "touched") .null (.bool false) .null)]

end Session

end SqlWeave
