import SqlWeave.Proofs.Reference.Binding
import SqlWeave.Proofs.Statement.Twin
import SqlWeave.Statement.Lowering

/-!
# The texts of twins

Twin drafts are lowered to one text, and to bindings of the same names to values of the same kinds. A value
comes near the text in four places: where an absent value is written as such, where a function supplies the
SQL, where the columns of an INSERT are those that some row gives, and where a reference is replaced by a
placeholder for each element. Each of them looks at the kind of the value alone.
-/

namespace SqlWeave

open Value (SameKind SameFields)

/-! ## Rows -/

namespace Insert

theorem held_twin {row row' : Value} (h : SameFields row row') (key : Value) :
    Result.Rel Eq (Option.Rel SameKind) (held row key) (held row' key) := by
  have hrefl : ∀ a : Option Value, Option.Rel SameKind a a := by
    intro a
    cases a with
    | none => exact .none
    | some v => exact .some (.refl v)
  cases h with
  | same => exact .refl (fun _ => rfl) hrefl _
  | record h =>
    unfold held
    dsimp only
    split
    · cases key.text? with
      | none => exact .ok .none
      | some k => exact .ok (h.get? k)
    · exact .error rfl

theorem cell_twin (dialect : Dialect) (name : String) (c : InsertColumn) {a b : Option Value}
    (h : Option.Rel SameKind a b) : cell dialect name c a = cell dialect name c b := by
  have hthere : ∀ v : Value, v.isNull = false →
      cell dialect name c (some v) = if v.isCallable then v.supplied else .ok (":" ++ name) := by
    intro v hv
    cases v <;> first | rfl | cases hv
  cases h with
  | none => rfl
  | @some v w h =>
    cases hv : v.isNull with
    | true =>
      have hw : w.isNull = true := h.isNull ▸ hv
      cases v <;> cases hv
      cases w <;> cases hw
      rfl
    | false =>
      rw [hthere v hv, hthere w (h.isNull ▸ hv), ← h.isCallable]
      split
      · next hc => exact h.supplied hc
      · rfl

theorem cells_twin (dialect : Dialect) (i : Nat) {row row' : Value} (h : SameFields row row')
    (cols : List InsertColumn) : ∀ j, cells dialect i j row cols = cells dialect i j row' cols := by
  induction cols with
  | nil => exact fun _ => rfl
  | cons c cols ih =>
    intro j
    rw [cells, cells, ih (j + 1)]
    refine (held_twin h c.key).bind_eq fun a b hab => ?_
    rw [cell_twin dialect _ c hab]

theorem tuples_twin (dialect : Dialect) (cols : List InsertColumn) {rows rows' : List Value}
    (h : List.Forall₂ SameFields rows rows') :
    ∀ i, tuples dialect i cols rows = tuples dialect i cols rows' := by
  induction h with
  | nil => exact fun _ => rfl
  | cons hrow _ ih =>
    intro i
    rw [tuples, tuples, cells_twin dialect i hrow cols 0, ih (i + 1)]

theorem cellParameters_twin (i : Nat) {row row' : Value} (h : SameFields row row')
    (cols : List InsertColumn) :
    ∀ j, Result.Rel Eq (Assoc.Rel SameKind) (cellParameters i j row cols)
      (cellParameters i j row' cols) := by
  induction cols with
  | nil => exact fun _ => .ok .nil
  | cons c cols ih =>
    intro j
    refine (held_twin h c.key).bind fun a b hab => (ih (j + 1)).bind fun more more' hmore => ?_
    have hv := Value.sameKind_ofOption hab
    rw [hv.isNull, hv.isCallable]
    split
    · exact .ok hmore
    · exact .ok (.cons hv hmore)

theorem rowParameters_twin (cols : List InsertColumn) {rows rows' : List Value}
    (h : List.Forall₂ SameFields rows rows') :
    ∀ i, Result.Rel Eq (Assoc.Rel SameKind) (rowParameters i cols rows) (rowParameters i cols rows') := by
  induction h with
  | nil => exact fun _ => .ok .nil
  | cons hrow _ ih =>
    intro i
    refine (cellParameters_twin i hrow cols 0).bind fun here here' hhere => ?_
    exact (ih (i + 1)).bind fun more more' hmore => .ok (hhere.append hmore)

/-! ## Columns -/

theorem allKeys_twin {rows rows' : List Value} (h : List.Forall₂ SameFields rows rows') :
    ∀ names, allKeys names rows = allKeys names rows' := by
  induction h with
  | nil => exact fun _ => rfl
  | @cons row row' rows rows' hrow _ ih =>
    intro names
    have hkeys : row.elements? = row'.elements? := by
      cases hrow with
      | same => rfl
      | @record r r' hr =>
        have htexts : ∀ fs : Record,
            (Value.record fs).elements? = some ((Assoc.keys fs).map Value.text) := by
          intro fs
          rw [Assoc.keys, List.map_map]
          rfl
        rw [htexts, htexts, hr.keys]
    rw [allKeys, allKeys, hkeys]
    split
    · exact ih _
    · rfl

theorem gives_twin (key : Value) {row row' : Value} (h : SameFields row row') :
    gives key row = gives key row' := by
  refine (held_twin h key).bind_eq fun a b hab => ?_
  rw [(Value.sameKind_ofOption hab).isNull]

theorem mentions_twin (key : String) {row row' : Value} (h : SameFields row row') :
    mentions key row = mentions key row' := by
  cases h with
  | same => rfl
  | record h => exact congrArg Except.ok (h.has key)

theorem someRow_twin {test : Value → Result Bool} (htest : ∀ v w, SameFields v w → test v = test w)
    {rows rows' : List Value} (h : List.Forall₂ SameFields rows rows') :
    someRow test rows = someRow test rows' := by
  induction h with
  | nil => rfl
  | cons hrow _ ih => rw [someRow, someRow, htest _ _ hrow, ih]

theorem isWritten_twin {rows rows' : List Value} (h : List.Forall₂ SameFields rows rows')
    (requested : List Value) (c : Column) : isWritten rows requested c = isWritten rows' requested c := by
  have hmentions := someRow_twin (fun _ _ => mentions_twin c.property) h
  have hgives := fun key => someRow_twin (fun _ _ => gives_twin key) h
  unfold isWritten
  simp only [hmentions, hgives]

theorem columns_twin {d e : Draft} (hde : d.Twin e) {rows rows' : List Value}
    (h : List.Forall₂ SameFields rows rows') : columns d rows = columns e rows' := by
  have hwritten : isWritten rows = isWritten rows' := by
    funext requested c
    exact isWritten_twin h requested c
  have hkeys : allKeys [] rows = allKeys [] rows' := allKeys_twin h []
  cases hde with
  | mk hp hv =>
    unfold columns
    rw [hwritten, hkeys]
    rfl

end Insert

namespace Draft

variable {d e : Draft}

/-! ## What was given -/

theorem valueSets_twin (h : d.Twin e) :
    Result.Rel Eq (List.Forall₂ SameFields) d.valueSets e.valueSets := by
  cases h with
  | mk _ hv =>
    unfold valueSets withValues
    generalize d.values = v at hv ⊢
    dsimp only
    cases hv with
    | list h => exact .ok h
    | tuple h => exact .ok h
    | set h => exact .ok h
    | one h =>
      cases h with
      | record h => exact .ok (.cons (.record h) .nil)
      | same =>
        exact .refl (fun _ => rfl) (fun rows => List.forall₂_same.mpr fun row _ => .same row) _

/-- What is assigned is a record on both sides, with values of the same kinds, or on neither. -/
theorem assigned_twin (h : d.Twin e) :
    (∃ r r', d.assigned = .record r ∧ e.assigned = .record r' ∧ Assoc.Rel SameKind r r') ∨
      (d.assigned.record? = none ∧ e.assigned.record? = none) := by
  have hfields : ∀ {v w : Value}, SameFields v w →
      (∃ r r', v = .record r ∧ w = .record r' ∧ Assoc.Rel SameKind r r') ∨
        (v.record? = none ∧ w.record? = none) := by
    intro v w h
    cases h with
    | record h => exact Or.inl ⟨_, _, rfl, rfl, h⟩
    | same =>
      cases hv : v.record? with
      | none => exact Or.inr ⟨rfl, rfl⟩
      | some r =>
        cases v <;> cases hv
        exact Or.inl ⟨r, r, rfl, rfl, .refl SameKind.refl r⟩
  have hempty : (∃ r r' : Record, Value.record [] = .record r ∧ Value.record [] = .record r' ∧
      Assoc.Rel SameKind r r') := ⟨[], [], rfl, rfl, .nil⟩
  cases h with
  | mk _ hv =>
    unfold assigned withValues
    generalize d.values = v at hv ⊢
    dsimp only
    cases hv with
    | list h =>
      cases h with
      | nil => exact Or.inl hempty
      | cons h _ => exact hfields h
    | tuple h =>
      cases h with
      | nil => exact Or.inl hempty
      | cons h _ => exact Or.inr ⟨rfl, rfl⟩
    | set h =>
      cases h with
      | nil => exact Or.inl hempty
      | cons h _ => exact Or.inr ⟨rfl, rfl⟩
    | one h =>
      cases h with
      | same => exact hfields (.same _)
      | @record r r' h =>
        cases h with
        | nil => exact Or.inl hempty
        | cons hp hrest => exact Or.inl ⟨_, _, rfl, rfl, .cons hp hrest⟩

end Draft

/-! ## Assignments -/

namespace Update

theorem explicit_twin (e : Option Entity) {r r' : Record} (h : Assoc.Rel SameKind r r') :
    Assoc.Rel SameKind (explicit e r) (explicit e r') := by
  induction h with
  | nil => exact .nil
  | cons hvw _ ih => exact .cons hvw ih

theorem automatic_twin (dialect : Dialect) (e : Entity) {given given' : List Assignment}
    (h : Assoc.Rel SameKind given given') : automatic dialect e given = automatic dialect e given' := by
  have hkeys : given.map Prod.fst = given'.map Prod.fst := h.keys
  unfold automatic
  rw [hkeys]

theorem assignments_twin (dialect : Dialect) {d e : Draft} (h : d.Twin e) :
    Result.Rel Eq (Assoc.Rel SameKind) (assignments dialect d) (assignments dialect e) := by
  have hentity : d.entity = e.entity := by
    cases h
    rfl
  unfold assignments
  rcases d.assigned_twin h with ⟨r, r', hr, hr', hrel⟩ | ⟨hr, hr'⟩
  · rw [hr, hr', hentity]
    refine (Result.Rel.refl (fun _ => rfl) (fun _ => rfl) e.entity).bind (R := Eq) ?_
    rintro subject _ rfl
    have hgiven := explicit_twin subject hrel
    cases subject with
    | none => exact .ok hgiven
    | some entity =>
      refine .ok (hgiven.append ?_)
      rw [automatic_twin dialect entity hgiven]
      exact .refl SameKind.refl _
  · split
    · next hd =>
      rw [hd] at hr
      cases hr
    · split
      · next he =>
        rw [he] at hr'
        cases hr'
      · exact .error rfl

theorem parametersFrom_twin {as bs : List Assignment} (h : Assoc.Rel SameKind as bs) :
    ∀ i, Assoc.Rel SameKind (parametersFrom i as) (parametersFrom i bs) := by
  induction h with
  | nil => exact fun _ => .nil
  | cons hvw _ ih =>
    intro i
    rw [parametersFrom, parametersFrom, hvw.isCallable]
    split
    · exact ih (i + 1)
    · exact .cons hvw (ih (i + 1))

theorem render_twin (dialect : Dialect) {as bs : List Assignment} (h : Assoc.Rel SameKind as bs) :
    ∀ i, render dialect i as = render dialect i bs := by
  induction h with
  | nil => exact fun _ => rfl
  | cons hvw _ ih =>
    intro i
    rw [render, render, ih (i + 1), ← hvw.isCallable]
    split
    · next hc => rw [hvw.supplied hc]
    · rfl

end Update

/-! ## Statements -/

namespace Draft

variable {d e : Draft}

theorem insertedText_twin (cat : Catalog) (h : d.Twin e) : d.insertedText cat = e.insertedText cat := by
  refine (valueSets_twin h).bind_eq fun rows rows' hrows => ?_
  have hempty : rows.isEmpty = rows'.isEmpty := by
    cases hrows <;> rfl
  have htuples : ∀ columns, Insert.tuples cat.dialect 0 columns rows =
      Insert.tuples cat.dialect 0 columns rows' := fun columns => Insert.tuples_twin _ columns hrows 0
  simp only [hempty, Insert.columns_twin h hrows, htuples]

/-- Twins are lowered to one text. -/
theorem statementText_twin (cat : Catalog) (h : d.Twin e) (kind : StatementKind) :
    d.statementText cat kind = e.statementText cat kind := by
  have hinserted := insertedText_twin cat h
  have hassigned := Update.assignments_twin cat.dialect h
  cases kind with
  | select =>
    cases h
    rfl
  | delete =>
    cases h
    rfl
  | insert =>
    unfold statementText insertText
    rw [hinserted]
    cases h
    rfl
  | update =>
    refine hassigned.bind_eq fun items items' hitems => ?_
    have hempty : items.isEmpty = items'.isEmpty := hitems.isEmpty
    have hrender := Update.render_twin cat.dialect hitems 0
    rw [hempty, hrender]
    cases h
    rfl

/-- The values that come from rows or assignments are of the same kinds, under the same names. -/
theorem statementParameters_twin (cat : Catalog) (h : d.Twin e) (kind : StatementKind) :
    Result.Rel Eq (Assoc.Rel SameKind) (d.statementParameters cat kind)
      (e.statementParameters cat kind) := by
  cases kind with
  | select => exact .ok .nil
  | delete => exact .ok .nil
  | insert =>
    refine (valueSets_twin h).bind fun rows rows' hrows => ?_
    rw [Insert.columns_twin h hrows]
    refine (Result.Rel.refl (fun _ => rfl) (fun _ => rfl) (Insert.columns e rows')).bind (R := Eq) ?_
    rintro columns _ rfl
    exact Insert.rowParameters_twin columns hrows 0
  | update =>
    exact (Update.assignments_twin cat.dialect h).bind fun items items' hitems =>
      .ok (Update.parametersFrom_twin hitems 0)

end Draft

/-! ## Placeholders -/

namespace Dialect

/-- Two ways to bind a text that write the same, or fail in the same way. -/
abbrev SameText (x y : Result (String × List Value)) : Prop := Result.Rel Eq (fun a b => a.1 = b.1) x y

theorem bindValue_twin (d : Dialect) (r : Reference) {v w : Value}
    (h : r.expands → v.elements?.map List.length = w.elements?.map List.length) :
    SameText (d.bindValue r v) (d.bindValue r w) := by
  unfold bindValue
  cases hr : r.expands with
  | false => exact .ok rfl
  | true =>
    have hlength := h hr
    generalize v.elements? = xs at hlength ⊢
    generalize w.elements? = ys at hlength ⊢
    -- An expansion writes as many placeholders as there are elements, and nothing of them.
    cases xs with
    | none =>
      cases ys with
      | none => exact .error rfl
      | some ys => cases hlength
    | some xs =>
      cases ys with
      | none => cases hlength
      | some ys =>
        have hlength : xs.length = ys.length := Option.some.inj hlength
        cases xs with
        | nil =>
          cases ys with
          | nil => exact .ok rfl
          | cons y ys => cases hlength
        | cons x xs =>
          cases ys with
          | nil => cases hlength
          | cons y ys =>
            refine .ok ?_
            rw [List.map_const', List.map_const', hlength]

variable {m n : Bindings}

/-- No expansion refers to two different values that are bound as one value. -/
def ExpandsSame (m n : Bindings) (r : Reference) : Prop :=
  r.expands → ∀ v w, m.get? r.name = some v → n.get? r.name = some w → v.isSingle → v = w

theorem bindPiece_twin (d : Dialect) (h : Assoc.Rel SameKind m n) {p : Piece}
    (hp : ∀ r, p.reference? = some r → ExpandsSame m n r) :
    SameText (d.bindPiece (fun name => .ok (m.get? name)) p)
      (d.bindPiece (fun name => .ok (n.get? name)) p) := by
  cases p with
  | plain c => exact .ok rfl
  | reference r =>
    have hget := h.get? r.name
    have hexpands := hp r rfl
    unfold ExpandsSame at hexpands
    cases hm : m.get? r.name with
    | none =>
      rw [hm] at hget
      cases hn : n.get? r.name with
      | none =>
        rw [bindPiece_of_unbound hm, bindPiece_of_unbound hn]
        exact .ok rfl
      | some w =>
        rw [hn] at hget
        cases hget
    | some v =>
      rw [hm] at hget hexpands
      cases hn : n.get? r.name with
      | none =>
        rw [hn] at hget
        cases hget
      | some w =>
        rw [hn] at hget hexpands
        rw [bindPiece_of_bound hm, bindPiece_of_bound hn]
        cases hget with
        | some hvw => exact d.bindValue_twin r fun hr => hvw.length_elements (hexpands hr v w rfl rfl)

theorem bindPieces_twin (d : Dialect) (h : Assoc.Rel SameKind m n) {ps : List Piece}
    (hps : ∀ r ∈ ps.filterMap Piece.reference?, ExpandsSame m n r) :
    SameText (d.bindPieces (fun name => .ok (m.get? name)) ps)
      (d.bindPieces (fun name => .ok (n.get? name)) ps) := by
  induction ps with
  | nil => exact .ok rfl
  | cons p ps ih =>
    have hhead : ∀ r, p.reference? = some r → ExpandsSame m n r := by
      intro r hr
      refine hps r (List.mem_filterMap.mpr ⟨p, List.mem_cons_self, hr⟩)
    have hrest : ∀ r ∈ ps.filterMap Piece.reference?, ExpandsSame m n r := by
      intro r hr
      obtain ⟨q, hq, hqr⟩ := List.mem_filterMap.mp hr
      exact hps r (List.mem_filterMap.mpr ⟨q, List.mem_cons_of_mem _ hq, hqr⟩)
    refine (bindPiece_twin d h hhead).bind fun here here' hhere => ?_
    refine (ih hrest).bind fun more more' hmore => .ok ?_
    rw [hhere, hmore]

/-- A text is rewritten to one text with bindings of the same kinds. -/
theorem bindReferences_twin (d : Dialect) (h : Assoc.Rel SameKind m n) {sql : String}
    (hsql : ∀ r ∈ Reference.all sql, ExpandsSame m n r) :
    SameText (d.bindReferences sql m) (d.bindReferences sql n) := by
  unfold bindReferences
  rw [h.isEmpty]
  dsimp only
  split
  · exact .ok rfl
  · refine bindPieces_twin d h ?_
    rw [← Reference.all_guardPercent d sql] at hsql
    exact hsql

end Dialect

end SqlWeave
