import SqlWeave.Proofs.Session.Standing

/-!
# The question for the last row id

The database in memory is asked for the last row id once for each column that is counted up. It may answer with a row
or with none, and where it cannot be asked, that is logged and there is no answer. `World.Asked` says what its answers
are like, so that what is looked up is known as far as they are.
-/

namespace SqlWeave

namespace World

/-- The dialect looks ids up, and whenever the native database is asked for the last row id, its answer is admitted. -/
structure Asked (admits : Option (List Value) → Prop) (w : World) : Prop where
  dialect : w.dialect = .sqljs
  answers : match w.backend.rowIds with
    | none => admits (some [w.backend.lastRowId])
    | some answers => ∀ row ∈ answers, admits row

/-- Where the answers are admitted in one world, they are in the other. -/
def AskedAlike (admits : Option (List Value) → Prop) (w v : World) : Prop := w.Asked admits → v.Asked admits

variable {admits : Option (List Value) → Prop}

instance : IsPreorder World (AskedAlike admits) where
  refl _ := fun h => h
  trans _ _ _ h h' := h' ∘ h

instance : Notes (AskedAlike admits) :=
  ⟨fun _ _ h => ⟨h.dialect, h.answers⟩, fun _ _ _ h => ⟨h.dialect, h.answers⟩⟩

end World

namespace Session

variable {admits : Option (List Value) → Prop} {w : World}

theorem ends_fetchRowId (hnone : admits none) (hw : w.Asked admits) :
    ∃ row v, ends fetchRowId w = (.ok row, v) ∧ v.Asked admits ∧ admits row := by
  have hanswers := hw.answers
  unfold fetchRowId
  rw [ends_bind_ok (ends_get w)]
  split
  · next hunscripted =>
    rw [hunscripted] at hanswers
    exact ⟨_, w, rfl, hw, hanswers⟩
  · exact ⟨none, w, rfl, hw, hnone⟩
  · next row rest hrows =>
    rw [hrows] at hanswers
    obtain ⟨hrow, hrest⟩ := List.forall_mem_cons.mp hanswers
    exact ⟨row, _, rfl, ⟨hw.dialect, hrest⟩, hrow⟩

theorem askedAlike_nativeExecute (n : Nat) (sql : String) : Moves (World.AskedAlike admits) (nativeExecute n sql) :=
  (moves_emitIdle _ rfl).bind fun _ => moves_fault_of fun _ _ h => ⟨h.dialect, h.answers⟩

/-- The question is answered in every case: where the database cannot be asked, there is no answer. -/
theorem ends_askRowId (hnone : admits none) (hw : w.Asked admits) :
    ∃ row v, ends askRowId w = (.ok row, v) ∧ v.Asked admits ∧ admits row := by
  unfold askRowId
  rw [ends_bind_ok (ends_sourceField w), ends_bind_ok (ends_log ..), ends_bind_ok (ends_get _)]
  generalize hu : ({ w with logs := _ } : World) = u
  replace hw : u.Asked admits := hu ▸ ⟨hw.dialect, hw.answers⟩
  split
  · exact ⟨none, _, ends_bind_ok (ends_log ..), ⟨hw.dialect, hw.answers⟩, hnone⟩
  · next n hlive =>
    rw [ends_bind_ok (ends_attempt ..)]
    have hasked := (askedAlike_nativeExecute n "SELECT last_insert_rowid()").along u hw
    split
    · exact ends_fetchRowId hnone hasked
    · exact ⟨none, _, ends_bind_ok (ends_log ..), ⟨hasked.dialect, hasked.answers⟩, hnone⟩

/-- Does an answer tell an id, for the row at a place among `count`, that `T` holds of? It may tell none. -/
def TellsId (index count : Value) (T : Value → Prop) : Option (List Value) → Prop
  | none => True
  | some [] => False
  | some (id :: _) => id = .null ∨ ∃ here, Generated.idFromLast id index count = .ok here ∧ T here

/-- Each column that is looked up gets an id, or none at all. -/
theorem ends_lookUpIds {index count : Value} {T : Value → Prop} (hnone : admits none)
    (htells : ∀ row, admits row → TellsId index count T row) (columns : List Column) (hw : w.Asked admits) :
    ∃ found v, ends (lookUpIds index count columns) w = (.ok found, v) ∧ v.Asked admits ∧
      (Assoc.keys found).Nodup ∧ ∀ p ∈ found, T p.2 := by
  induction columns generalizing w with
  | nil => exact ⟨[], w, rfl, hw, List.nodup_nil, fun p hp => absurd hp List.not_mem_nil⟩
  | cons c columns ih =>
    obtain ⟨row, u, hask, hu, hrow⟩ := ends_askRowId hnone hw
    have more {found : Record} (hkeys : (Assoc.keys found).Nodup) (hfound : ∀ p ∈ found, T p.2) :
        ∃ found' v, ends (do return Assoc.merge found (← lookUpIds index count columns)) u = (.ok found', v) ∧
          v.Asked admits ∧ (Assoc.keys found').Nodup ∧ ∀ p ∈ found', T p.2 := by
      obtain ⟨rest, v, hrest, hv, -, hall⟩ := ih hu
      refine ⟨Assoc.merge found rest, v, (ends_bind_ok hrest).trans rfl, hv, Assoc.nodup_keys_merge hkeys rest, ?_⟩
      exact fun p hp => (Assoc.mem_of_mem_merge hp).elim (hfound p) (hall p)
    have hnothing : ∀ p ∈ ([] : Record), T p.2 := fun p hp => absurd hp List.not_mem_nil
    replace hrow := htells row hrow
    unfold lookUpIds
    rw [ends_bind_ok hask]
    dsimp only
    split
    · exact more List.nodup_nil hnothing
    · exact hrow.elim
    · exact more List.nodup_nil hnothing
    · next head _ hnull =>
      obtain ⟨here, hhere, hT⟩ := hrow.resolve_left hnull
      rw [hhere, ends_bind_ok (ends_ofResult_ok ..)]
      exact more (List.pairwise_singleton ..) fun p hp => (List.mem_singleton.mp hp) ▸ hT

end Session

end SqlWeave
