import SqlWeave.Proofs.Reference.Scan
import SqlWeave.Proofs.Result

/-!
# The values of a text's references

The values that a text is sent with are those of its references, one reference after the other. What a
reference gives depends on what its name is bound to alone.
-/

namespace SqlWeave

/-- The values that a reference gives: none when its name is not bound. -/
def Bindings.valuesOf (m : Bindings) (r : Reference) : List Value :=
  match m.get? r.name with
  | none => []
  | some v => if r.expands then (v.elements?.getD []).map Value.plain else [v.plain]

theorem Bindings.valuesOf_congr {m n : Bindings} {r : Reference} (h : m.get? r.name = n.get? r.name) :
    m.valuesOf r = n.valuesOf r := by
  unfold valuesOf
  rw [h]

/-- A reference can be bound: it does not ask for the elements of something that has none. -/
def Bindings.CanBind (m : Bindings) (r : Reference) : Prop :=
  r.expands → ∀ v, m.get? r.name = some v → v.elements?.isSome

theorem Bindings.canBind_congr {m n : Bindings} {r : Reference} (h : m.get? r.name = n.get? r.name) :
    m.CanBind r ↔ n.CanBind r := by
  unfold CanBind
  rw [h]

namespace Dialect

variable {d : Dialect} {m : Bindings}

theorem bindPiece_of_unbound {r : Reference} (h : m.get? r.name = none) :
    d.bindPiece (fun name => .ok (m.get? name)) (.reference r) = .ok (r.text, []) := by
  show (match m.get? r.name with
    | none => pure (r.text, [])
    | some value => d.bindValue r value) = _
  rw [h]
  rfl

theorem bindPiece_of_bound {r : Reference} {v : Value} (h : m.get? r.name = some v) :
    d.bindPiece (fun name => .ok (m.get? name)) (.reference r) = d.bindValue r v := by
  show (match m.get? r.name with
    | none => pure (r.text, [])
    | some value => d.bindValue r value) = _
  rw [h]

theorem values_of_bindValue {r : Reference} {v : Value} {text : String} {values : List Value}
    (h : d.bindValue r v = .ok (text, values)) :
    values = if r.expands then (v.elements?.getD []).map Value.plain else [v.plain] := by
  unfold bindValue at h
  split at h
  · next he =>
    rw [if_pos he]
    split at h
    · cases h
    · next hv =>
      cases h
      rw [hv]
      rfl
    · next hv =>
      cases h
      rw [hv]
      rfl
  · next he =>
    rw [if_neg he]
    cases h
    rfl

/-- A piece that could be bound gives the values of the reference that it is. -/
theorem values_of_bindPiece {p : Piece} {text : String} {values : List Value}
    (h : d.bindPiece (fun name => .ok (m.get? name)) p = .ok (text, values)) :
    values = (p.reference?.map m.valuesOf).getD [] := by
  cases p with
  | plain c =>
    cases h
    rfl
  | reference r =>
    simp only [Piece.reference?, Option.map_some, Option.getD_some, Bindings.valuesOf]
    cases hm : m.get? r.name with
    | none =>
      rw [bindPiece_of_unbound hm] at h
      cases h
      rfl
    | some v =>
      rw [bindPiece_of_bound hm] at h
      exact values_of_bindValue h

theorem values_of_bindPieces {ps : List Piece} {text : String} {values : List Value}
    (h : d.bindPieces (fun name => .ok (m.get? name)) ps = .ok (text, values)) :
    values = (ps.filterMap Piece.reference?).flatMap m.valuesOf := by
  induction ps generalizing text values with
  | nil =>
    cases h
    rfl
  | cons p ps ih =>
    simp only [bindPieces, Result.bind_eq_ok] at h
    obtain ⟨⟨t, vs⟩, hp, ⟨u, us⟩, hps, h⟩ := h
    cases h
    rw [ih hps, values_of_bindPiece hp, List.filterMap_cons]
    cases p.reference? <;> rfl

/-- A text is sent with the values of its references, in their order. -/
theorem values_of_bindReferences {sql text : String} {values : List Value}
    (h : d.bindReferences sql m = .ok (text, values)) :
    values = (Reference.all sql).flatMap m.valuesOf := by
  unfold bindReferences at h
  split at h
  · next hm =>
    -- Nothing is bound, so the references that the text may have give nothing.
    cases h
    have hnone : ∀ r, m.valuesOf r = [] := by
      intro r
      rw [List.isEmpty_iff.mp hm]
      rfl
    exact (List.flatMap_eq_nil_iff.mpr fun r _ => hnone r).symm
  · rw [values_of_bindPieces h, ← Reference.all_guardPercent d sql]
    rfl

/-! ## When a text can be bound -/

theorem bindValue_isOk (d : Dialect) (r : Reference) (v : Value) :
    (∃ out, d.bindValue r v = .ok out) ↔ (r.expands → v.elements?.isSome) := by
  unfold bindValue
  cases r.expands with
  | false => simp
  | true =>
    cases v.elements? with
    | none => simp
    | some items => cases items <;> simp

theorem bindPiece_isOk (d : Dialect) (m : Bindings) (p : Piece) :
    (∃ out, d.bindPiece (fun name => .ok (m.get? name)) p = .ok out) ↔
      ∀ r, p.reference? = some r → m.CanBind r := by
  cases p with
  | plain c =>
    constructor
    · intro _ r hr
      cases hr
    · exact fun _ => ⟨_, rfl⟩
  | reference r =>
    simp only [Piece.reference?, Option.some.injEq, forall_eq', Bindings.CanBind]
    cases hm : m.get? r.name with
    | none =>
      rw [bindPiece_of_unbound hm]
      simp
    | some v =>
      rw [bindPiece_of_bound hm, bindValue_isOk]
      simp

theorem bindPieces_isOk (d : Dialect) (m : Bindings) (ps : List Piece) :
    (∃ out, d.bindPieces (fun name => .ok (m.get? name)) ps = .ok out) ↔
      ∀ r ∈ ps.filterMap Piece.reference?, m.CanBind r := by
  induction ps with
  | nil =>
    constructor
    · intro _ r hr
      cases hr
    · exact fun _ => ⟨_, rfl⟩
  | cons p ps ih =>
    have hcons : (∃ out, d.bindPieces (fun name => .ok (m.get? name)) (p :: ps) = .ok out) ↔
        (∃ here, d.bindPiece (fun name => .ok (m.get? name)) p = .ok here) ∧
          ∃ more, d.bindPieces (fun name => .ok (m.get? name)) ps = .ok more := by
      simp only [bindPieces, Result.bind_eq_ok]
      constructor
      · rintro ⟨out, here, hp, more, hps, -⟩
        exact ⟨⟨here, hp⟩, more, hps⟩
      · rintro ⟨⟨here, hp⟩, more, hps⟩
        exact ⟨_, here, hp, more, hps, rfl⟩
    rw [hcons, ih, bindPiece_isOk, List.filterMap_cons]
    cases p.reference? with
    | none => simp
    | some r => simp

/-- A text can be bound when each of its references can be. -/
theorem bindReferences_isOk (d : Dialect) (sql : String) (m : Bindings) :
    (∃ out, d.bindReferences sql m = .ok out) ↔ ∀ r ∈ Reference.all sql, m.CanBind r := by
  unfold bindReferences
  split
  · next hm =>
    constructor
    · intro _ r _ _ v hv
      rw [List.isEmpty_iff.mp hm] at hv
      cases hv
    · exact fun _ => ⟨_, rfl⟩
  · rw [bindPieces_isOk, ← Reference.all_guardPercent d sql]
    rfl

end Dialect

end SqlWeave
