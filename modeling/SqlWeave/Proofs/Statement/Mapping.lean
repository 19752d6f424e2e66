import SqlWeave.Proofs.Statement.ClearName
import SqlWeave.Proofs.Statement.HandedBack

/-!
# Statements that are made from mappings

A caller who states conditions by records, and writes rows and assignments by records, writes no SQL. When
none of the names that are used has a colon, whatever calls are made of this kind, and however they end,
none of the names in the statement has one.
-/

namespace SqlWeave

variable {σ : Type} {cat : Catalog}

/-! ## Calls of mappings -/

mutual
/-- Records, and groups of them to any depth, with keys that have no colon. -/
def Criterion.OfMappings : Criterion → Prop
  | .simple (.record r) => ∀ p ∈ r, NoColon p.1
  | .simple _ => False
  | .group _ calls => GroupCall.OfMappings calls

/-- Each call of a group states such a criterion, and binds no name. -/
def GroupCall.OfMappings : List GroupCall → Prop
  | [] => True
  | .where _ c given :: rest => c.OfMappings ∧ given.truth = false ∧ GroupCall.OfMappings rest
  | _ :: _ => False
end

/-- A target without a colon in its name, or in the names of the entity that it stands for. -/
structure Catalog.IsClearTarget (cat : Catalog) (target : Value) : Prop where
  key : (Registry.lookupKey target).IsClear
  entity : ∀ e, cat.entities.find? (Registry.lookupKey target) = .ok (some e) → e.IsClear

/-- What is sorted by has no colon: the keys of a record, or else the one key that a value is. -/
def Value.AreClearKeys : Value → Prop
  | .record keys => ∀ p ∈ keys, NoColon p.1
  | v => v.IsClear

/-- Calls that say everything by mappings: conditions by single records, at any depth of groups, rows and
assignments by records. There is no SQL in them, no name of the caller's for a value, no comment and no WITH block,
and no colon in a name. -/
def Call.OfMappings (cat : Catalog) : Call σ → Prop
  | .where _ c given => c.OfMappings ∧ given.truth = false
  | .values given | .set given => given.AreClearRows
  | .toUpdate target rows => (target.isNull = false → cat.IsClearTarget target) ∧ rows.AreClearRows
  | .from target name => cat.IsClearTarget target ∧ name.IsClear
  | .into target columns =>
    cat.IsClearTarget target ∧ ∀ names, Build.columnNames columns = .ok (some names) → ∀ v ∈ names, v.IsClear
  | .returning columns => ∀ r, Returning.ofValue? columns = some r → r.IsClear
  | .toSelect selection name | .select selection name =>
    selection.isNull = false → ∀ s ∈ Build.selected selection name, s.IsClear
  | .addSelect selection name => ∀ s ∈ Build.selected selection name, s.IsClear
  | .orderBy sort _ _ | .addOrderBy sort _ _ => sort.AreClearKeys
  | .toInsert | .toDelete | .clone | .useTransaction _ | .callListeners _ | .orIgnore _ | .updateEntity _ | .limit _
  | .offset _ | .withDeleted => True
  | .comment _ | .addCte .. | .setParameter .. | .setParameters .. | .whereInIds .. => False

/-! ## Names stay clear -/

namespace Keyed

theorem mem_put {α : Type} {m : Keyed α} {k : Value} {v : α} {p : Value × α} (hp : p ∈ m.put k v) :
    p.1 = k ∨ ∃ q ∈ m, q.1 = p.1 := by
  induction m with
  | nil => exact .inl (congrArg Prod.fst (List.mem_singleton.mp hp))
  | cons q m ih =>
    obtain ⟨k', v'⟩ := q
    unfold Keyed.put at hp
    split at hp
    · rcases List.mem_cons.mp hp with rfl | hp
      · exact .inr ⟨_, List.mem_cons_self, rfl⟩
      · exact .inr ⟨p, List.mem_cons_of_mem _ hp, rfl⟩
    · rcases List.mem_cons.mp hp with rfl | hp
      · exact .inr ⟨_, List.mem_cons_self, rfl⟩
      · rcases ih hp with h | ⟨q, hq, h⟩
        · exact .inl h
        · exact .inr ⟨q, List.mem_cons_of_mem _ hq, h⟩

end Keyed

theorem Scope.isClear_iff {s : Scope} : s.IsClear ↔ s.Each Alias.IsClear :=
  ⟨fun h => ⟨h.all, h.main⟩, fun h => ⟨h.all, h.main⟩⟩

theorem Scope.IsClear.copy {s : Scope} (h : s.IsClear) : s.copy.IsClear :=
  isClear_iff.mpr ((isClear_iff.mp h).copy fun _ _ ha => ⟨ha.name, ha.path, ha.entity⟩)

theorem Draft.isClear_empty : ({} : Draft).IsClear :=
  ⟨⟨nofun, nofun⟩, nofun, trivial, nofun, nofun, nofun, rfl⟩

/-- What names can stand in. -/
def Draft.words (d : Draft) :=
  (d.scope, d.insertColumns, d.values, d.returning, d.selects, d.orderBys, d.comment)

theorem Draft.IsClear.of_words {d d' : Draft} (h : d'.words = d.words) (hd : d.IsClear) : d'.IsClear := by
  simp only [words, Prod.mk.injEq] at h
  obtain ⟨hscope, hcolumns, hvalues, hreturning, hselects, horderBys, hcomment⟩ := h
  exact ⟨hscope ▸ hd.scope, hcolumns ▸ hd.columns, hvalues ▸ hd.values, hreturning ▸ hd.returning,
    hselects ▸ hd.selects, horderBys ▸ hd.orderBys, hcomment ▸ hd.comment⟩

namespace Build

theorem preserves_clear_of_words {α : Type} {s : Build α} (h : Keeps Draft.words s) : Preserves Draft.IsClear s :=
  preserves_of_keeps (fun _ _ hwords hd => hd.of_words hwords) h

theorem preserves_clear_setTarget {target name : Value} (htarget : cat.IsClearTarget target) (hname : name.IsClear) :
    Preserves Draft.IsClear (setTarget cat target name) := by
  intro d hd
  obtain ⟨scope, hscope, h⟩ := exists_each_setTarget (P := Alias.IsClear) (fun id called subject path hstands => by
    cases hstands with
    | @entity e hfound =>
      have he := htarget.entity e hfound
      refine ⟨hname.orElse (Value.isClear_text.mpr he.table), Value.isClear_null, fun e' h => ?_⟩
      cases h
      exact he
    | table => exact ⟨hname.orElse htarget.key, htarget.key, nofun⟩) (Scope.isClear_iff.mp hd.scope)
  rw [h]
  exact { hd with scope := Scope.isClear_iff.mpr hscope }

theorem preserves_clear_setReturning {kind : StatementKind} {columns : Value}
    (h : ∀ r, Returning.ofValue? columns = some r → r.IsClear) :
    Preserves Draft.IsClear (setReturning cat kind columns) := by
  intro d hd
  obtain ⟨returning, hreturning, he⟩ := exists_returning_setReturning h hd.returning
  rw [he]
  exact { hd with returning := hreturning }

section
variable {sort : Value} (order nulls : Value)

theorem preserves_clear_addSortKey (hsort : sort.IsClear) : Preserves Draft.IsClear (addSortKey sort order nulls) := by
  have hdirection : Preserves Draft.IsClear (direction order) := by
    unfold direction
    dsimp only
    split
    · exact preserves_pure _
    · exact preserves_throw _
  have hnulls : Preserves Draft.IsClear (nullsPlace nulls) := by
    unfold nullsPlace
    split
    · exact preserves_pure _
    · split
      · exact preserves_pure _
      · exact preserves_throw _
  have hput (key : SortOrder) :
      Preserves Draft.IsClear (modify fun d => { d with orderBys := d.orderBys.put sort key }) :=
    preserves_modify fun d hd => { hd with
      orderBys := fun p hp => by
        rcases Keyed.mem_put hp with h | ⟨q, hq, h⟩
        · exact h ▸ hsort
        · exact h ▸ hd.orderBys q hq }
  refine preserves_bind hdirection fun direction => preserves_bind hnulls fun nulls => ?_
  dsimp only
  split
  · exact preserves_bind (preserves_throw _) fun _ => hput _
  · exact hput _

theorem preserves_clear_addSortKeys : ∀ {keys : Record}, (∀ p ∈ keys, NoColon p.1) →
    Preserves Draft.IsClear (addSortKeys keys)
  | [], _ => preserves_pure _
  | (_, order) :: _, hkeys =>
    have ⟨hkey, hrest⟩ := List.forall_mem_cons.mp hkeys
    preserves_bind (preserves_clear_addSortKey order .null (Value.isClear_text.mpr hkey)) fun _ =>
      preserves_clear_addSortKeys hrest

theorem preserves_clear_addOrderBy (hsort : sort.AreClearKeys) :
    Preserves Draft.IsClear (addOrderBy sort order nulls) := by
  unfold addOrderBy
  split
  · exact preserves_clear_addSortKeys hsort
  · next hrecord =>
    have hclear : sort.IsClear := by
      unfold Value.AreClearKeys at hsort
      split at hsort
      · exact absurd rfl (hrecord _)
      · exact hsort
    exact preserves_clear_addSortKey order nulls hclear

end

/-- Calls of mappings leave names clear, however they end. -/
theorem preserves_clear_call (kind : StatementKind) {c : Call σ} (hc : c.OfMappings cat) :
    Preserves Draft.IsClear (call cat kind c) := by
  have hmodify {g : Draft → Draft} (hg : ∀ d, (g d).words = d.words) : Preserves Draft.IsClear (modify g) :=
    preserves_clear_of_words (keeps_modify hg)
  cases c with
  | «where» link criterion given =>
    exact preserves_clear_of_words
      (keeps_whereCall cat.dialect ⟨fun _ _ => rfl, fun _ _ _ => rfl⟩ (fun _ _ => rfl) link criterion given)
  | values given | set given => exact preserves_modify fun d hd => { hd with values := hc }
  | «from» target name => exact preserves_clear_setTarget hc.1 hc.2
  | into target columns =>
    refine preserves_bind (preserves_clear_setTarget hc.1 Value.isClear_null) fun _ => ?_
    cases hcolumns : columnNames columns with
    | error f => exact preserves_throw f
    | ok names =>
      refine preserves_modify fun d hd => { hd with columns := fun names' hnames => ?_ }
      cases hnames
      exact hc.2 _ hcolumns
  | returning columns => exact preserves_clear_setReturning hc
  | select selection name =>
    refine preserves_modify fun d hd => { hd with selects := ?_ }
    split
    · exact List.forall_mem_nil _
    · next hselection => exact hc (Bool.eq_false_iff.mpr hselection)
  | addSelect selection name =>
    refine preserves_modify fun d hd => { hd with selects := ?_ }
    exact List.forall_mem_append.mpr ⟨hd.selects, hc⟩
  | orderBy sort order nulls =>
    refine preserves_bind (preserves_modify fun d hd => { hd with orderBys := List.forall_mem_nil _ }) fun _ => ?_
    split
    · exact preserves_clear_addOrderBy order nulls hc
    · exact preserves_pure _
  | addOrderBy sort order nulls => exact preserves_clear_addOrderBy order nulls hc
  | orIgnore on => exact preserves_clear_of_words (keeps_unless (keeps_modify fun _ => rfl))
  | limit given | offset given =>
    exact preserves_clear_of_words (keeps_bind (keeps_paging _ given) fun _ => keeps_modify fun _ => rfl)
  | useTransaction | callListeners | updateEntity | withDeleted => exact hmodify fun _ => rfl
  | toSelect | toInsert | toUpdate | toDelete | clone => exact preserves_pure _
  | comment | addCte | setParameter | setParameters | whereInIds => cases hc

end Build

/-- The calls that a call of mappings is made of are of mappings, too. -/
theorem Call.OfMappings.parts {call : Call σ} (h : call.OfMappings cat) : ∀ c ∈ call.parts, c.OfMappings cat :=
  Call.forall_mem_parts (fun _ _ h => h) (fun _ _ htarget h => ⟨h.1 htarget, Value.isClear_null⟩) (fun _ _ h => h.2) h

namespace Builder

theorem clear_apply {b : Builder σ} (hb : b.draft.IsClear) {call : Call σ} (hcall : call.OfMappings cat) :
    (b.apply cat call).1.draft.IsClear :=
  preserves_apply (fun _ _ hd => { hd with scope := hd.scope.copy })
    (fun kind c hc => Build.preserves_clear_call kind (hcall.parts c hc)) hb

end Builder

end SqlWeave
