import SqlWeave.Proofs.Statement.Derived
import SqlWeave.Proofs.Statement.Step
import SqlWeave.Proofs.Statement.WithBlock

/-!
# Values under generated names

A comparison binds its value under the next generated name. The names differ, so what one step binds stays
bound while the steps after it bind more, and it is what the statement is sent with: neither the bindings of
a WITH block nor those of assignments get in its way.
-/

namespace SqlWeave

namespace Build

/-- What is bound between two drafts is bound under new names. -/
structure Binds (d d' : Draft) : Prop where
  index : d.parameterIndex ≤ d'.parameterIndex
  kept : ∀ n < d.parameterIndex, d'.parameters.get? (generatedName n) = d.parameters.get? (generatedName n)
  nodup : d.parameters.keys.Nodup → d'.parameters.keys.Nodup

theorem Binds.refl (d : Draft) : Binds d d := ⟨le_rfl, fun _ _ => rfl, id⟩

theorem Binds.trans {d d' d'' : Draft} (h : Binds d d') (h' : Binds d' d'') : Binds d d'' :=
  ⟨h.index.trans h'.index, fun n hn => (h'.kept n (hn.trans_le h.index)).trans (h.kept n hn),
    h'.nodup ∘ h.nodup⟩

theorem ends_unless_eq_ok {α : Type} {c : Prop} [Decidable c] {f : Failure} {k : PUnit → Build α} {d d' : Draft}
    {a : α} (h : ends (if c then throw f >>= k else k ⟨⟩) d = (.ok a, d')) : ends (k ⟨⟩) d = (.ok a, d') := by
  split at h
  · obtain ⟨⟨⟩, d₁, hthrow, -⟩ := ends_bind_eq_ok.mp h
    cases hthrow
  · exact h

theorem ends_setParameter {name : String} {v : Value} {d d' : Draft}
    (h : ends (setParameter (.text name) v) d = (.ok ⟨⟩, d')) :
    d' = { d with parameters := d.parameters.put name v } := by
  unfold setParameter at h
  have hnamed := ends_unless_eq_ok h
  dsimp only [Value.text?] at hnamed
  have hbound := ends_unless_eq_ok hnamed
  cases hbound
  rfl

theorem ends_createParameter {v : Value} {d d' : Draft} {name : String}
    (h : ends (createParameter v) d = (.ok name, d')) :
    name = generatedName d.parameterIndex ∧
      d' = { d with parameterIndex := d.parameterIndex + 1, parameters := d.parameters.put name v } := by
  obtain ⟨d₀, _, hget, h⟩ := ends_bind_eq_ok.mp h
  cases hget
  obtain ⟨⟨⟩, d₁, hmodify, h⟩ := ends_bind_eq_ok.mp h
  cases hmodify
  obtain ⟨⟨⟩, d₂, hset, h⟩ := ends_bind_eq_ok.mp h
  cases h
  exact ⟨rfl, ends_setParameter hset⟩

/-- A generated name is new, and the value is bound under it. -/
theorem binds_createParameter {v : Value} {d d' : Draft} {name : String}
    (h : ends (createParameter v) d = (.ok name, d')) :
    Binds d d' ∧ ∃ n < d'.parameterIndex, name = generatedName n ∧
      d'.parameters.get? (generatedName n) = some v := by
  obtain ⟨rfl, rfl⟩ := ends_createParameter h
  refine ⟨⟨Nat.le_succ _, fun n hn => ?_, (Assoc.nodup_keys_put_iff _ _ v).mpr⟩,
    d.parameterIndex, Nat.lt_succ_self _, rfl, Assoc.get?_put_self ..⟩
  exact Assoc.get?_put_of_ne _ _ fun h => hn.ne' (generatedName_inj.mp h)

end Build

namespace Statement

open Build (generatedName)

variable {cat : Catalog}

theorem generatedName_not_mem_parametersFrom (n i : Nat) (items : List Update.Assignment) :
    generatedName n ∉ Assoc.keys (Update.parametersFrom i items) := by
  intro hmem
  obtain ⟨⟨name, v⟩, hv, hname⟩ := List.mem_map.mp hmem
  obtain ⟨k, -, -, -, rfl⟩ := Update.mem_parametersFrom.mp hv
  exact generatedName_ne_parameterName n (i + k) hname.symm

/-- A statement that is no INSERT is sent with what its own generated names are bound to. -/
theorem get?_generatedName {b : Builder Statement} {m : Bindings} {n : Nat} {v : Value}
    (hkind : b.kind ≠ .insert) (hnodup : b.draft.parameters.keys.Nodup) (h : parameters cat (.of b) = .ok m)
    (hv : b.draft.parameters.get? (generatedName n) = some v) : m.get? (generatedName n) = some v := by
  obtain ⟨inherited, own, -, hown, rfl⟩ := parameters_of_eq_ok.mp h
  have hfree : generatedName n ∉ Assoc.keys own := by
    cases hk : b.kind with
    | insert => exact absurd hk hkind
    | update =>
      rw [hk] at hown
      obtain ⟨items, -, hown⟩ := Result.bind_eq_ok.mp hown
      cases hown
      exact generatedName_not_mem_parametersFrom n 0 items
    | select | delete =>
      rw [hk] at hown
      cases hown
      exact List.not_mem_nil
  rw [Assoc.get?_merge_of_not_mem _ hfree, Assoc.get?_merge_of_nodup _ hnodup, hv, Option.some_or]

end Statement

end SqlWeave
