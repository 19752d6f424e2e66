import SqlWeave.Proofs.Session.LastId

/-!
# The shape of an INSERT's outcome

Whatever a backend answers to an INSERT, the outcome has a place for each row: the generated values that are known for
it, and its key. The key holds the primary properties of the entity and no others. Under each of them stands what the
row gives, or else what was generated for it, and where neither is there, the row has no key at all.

An answer may hold any records and count, and one id or none. An id that counts rows is a whole number, in the answer
as well as in what the database in memory says when it is asked.
-/

namespace SqlWeave

variable {e : Entity} {row generated : Record}

/-! ## Keys -/

namespace Assoc

variable {α : Type}

theorem get?_filter_key (m : Assoc α) (admits : String → Bool) (k : String) :
    get? (m.filter fun p => admits p.1) k = if admits k then m.get? k else none := by
  induction m with
  | nil => exact (ite_self _).symm
  | cons p m ih =>
    rw [List.filter_cons, get?_cons]
    by_cases hk : p.1 = k
    · subst hk
      cases hp : admits p.1 with
      | true => rw [if_pos rfl, get?_cons, if_pos rfl, if_pos rfl, if_pos rfl]
      | false =>
        rw [hp] at ih
        rw [if_neg Bool.false_ne_true, ih, if_neg Bool.false_ne_true, if_neg Bool.false_ne_true]
    · rw [if_neg hk, ← ih]
      split
      · rw [get?_cons, if_neg hk]
      · rfl

end Assoc

namespace Entity

/-- The key of a row for which these values were generated. -/
def Identifies (e : Entity) (row generated : Record) : Option Record → Prop
  | none => e.primaryColumns = [] ∨ ∃ c ∈ e.primaryColumns, c.given? row = none ∧ c.given? generated = none
  | some key => e.primaryColumns ≠ [] ∧ (∀ name, name ∈ Assoc.keys key ↔ ∃ c ∈ e.primaryColumns, c.property = name) ∧
    (∀ p ∈ key, p.2.isNull = false) ∧
    ∀ c ∈ e.primaryColumns, Assoc.get? key c.property = (c.given? row).or (c.given? generated)

theorem keyOf_cons (c : Column) (columns : List Column) (row : Record) : keyOf (c :: columns) (.record row) =
    (c.given? row).bind fun v => (keyOf columns (.record row)).map fun m => Assoc.merge [(c.property, v)] m := by
  have hvalue := Column.valueIn_record c row
  rw [keyOf]
  cases hgiven : c.given? row with
  | none =>
    rw [hvalue, hgiven]
    rfl
  | some v =>
    have hnull := (Column.given?_eq_some.mp hgiven).2
    rw [hgiven, Option.getD_some] at hvalue
    rw [hvalue, Option.bind_some]
    split
    · cases hnull
    · rfl

theorem keyOf_eq_none_iff {columns : List Column} :
    keyOf columns (.record row) = none ↔ ∃ c ∈ columns, c.given? row = none := by
  induction columns with
  | nil => simp [keyOf]
  | cons c columns ih =>
    simp only [List.mem_cons, exists_eq_or_imp, ← ih, keyOf_cons]
    cases c.given? row with
    | none => simp
    | some v => simp

/-- A key has no other properties than those of the columns. -/
theorem keys_of_keyOf {columns : List Column} {key : Record} (h : keyOf columns (.record row) = some key)
    (name : String) : name ∈ Assoc.keys key ↔ ∃ c ∈ columns, c.property = name := by
  induction columns generalizing key with
  | nil =>
    cases h
    simp
  | cons c columns ih =>
    rw [keyOf_cons] at h
    obtain ⟨v, -, h⟩ := Option.bind_eq_some_iff.mp h
    obtain ⟨rest, hrest, rfl⟩ := Option.map_eq_some_iff.mp h
    simp only [Assoc.mem_keys_merge, ih hrest, List.mem_cons, exists_eq_or_imp]
    exact or_congr_left (List.mem_singleton.trans eq_comm)

end Entity

namespace Generated

/-- A completed row gives what the row gives, and else what was generated. -/
theorem given?_completed_eq (c : Column) (row : Record) (hkeys : (Assoc.keys generated).Nodup) :
    c.given? (completed row generated) = (c.given? row).or (c.given? generated) := by
  have hopen : (Assoc.keys (generated.filter fun p => (Value.ofOption (Assoc.get? row p.1)).isNull)).Nodup :=
    (List.filter_sublist.map Prod.fst).nodup hkeys
  have hrow : (Value.ofOption (Assoc.get? row c.property)).isNull = (c.given? row).isNone :=
    Column.isNull_valueIn c row
  unfold completed
  rw [Column.given?, Assoc.get?_merge_of_nodup row hopen,
    Assoc.get?_filter_key generated fun name => (Value.ofOption (Assoc.get? row name)).isNull, hrow]
  cases hgiven : c.given? row with
  | some v =>
    obtain ⟨hget, hnull⟩ := Column.given?_eq_some.mp hgiven
    rw [hget]
    simp [hnull]
  | none =>
    -- What the row holds under this name, if anything, is null.
    rw [Column.given?] at hgiven
    rw [Column.given?, Option.isNone_none, if_pos rfl, Option.none_or]
    cases Assoc.get? generated c.property with
    | none => rw [Option.none_or, hgiven]; rfl
    | some v => rfl

theorem identifies_keyMap (e : Entity) (row : Record) (hkeys : (Assoc.keys generated).Nodup) :
    e.Identifies row generated (e.keyMap (.record (completed row generated))) := by
  unfold Entity.keyMap
  split
  · next hempty =>
    refine .inl (List.eq_nil_iff_forall_not_mem.mpr fun c hc => ?_)
    cases (Entity.keys_of_keyOf hempty c.property).mpr ⟨c, hc, rfl⟩
  · next hkey =>
    cases h : Entity.keyOf e.primaryColumns (.record (completed row generated)) with
    | none =>
      obtain ⟨c, hc, hnone⟩ := Entity.keyOf_eq_none_iff.mp h
      rw [given?_completed_eq c row hkeys, Option.or_eq_none_iff] at hnone
      exact .inr ⟨c, hc, hnone⟩
    | some key =>
      obtain ⟨hpairs, hall⟩ := Entity.keyOf_spec h
      refine ⟨?_, Entity.keys_of_keyOf h, fun p hp => (hpairs p hp).2, fun c hc => ?_⟩
      · rintro hnil
        rw [hnil] at hkey
        exact hkey rfl
      · obtain ⟨v, hv⟩ := Assoc.exists_get?_of_mem (hall c hc)
        rw [← given?_completed_eq c row hkeys, hv]
        exact (Column.given?_eq_some.mpr (hpairs _ (Assoc.mem_of_get? hv))).symm

/-! ## Generated values -/

theorem nodup_ofRow (record : Record) (columns : List Column) : (Assoc.keys (ofRow record columns)).Nodup := by
  refine List.foldlRecOn (motive := fun m : Record => (Assoc.keys m).Nodup) columns _ List.nodup_nil
    fun acc hacc c _ => ?_
  split
  · exact (Assoc.nodup_keys_put_iff ..).mpr hacc
  · exact hacc

theorem nodup_underAll (columns : List Column) (v : Value) : (Assoc.keys (underAll columns v)).Nodup :=
  List.foldlRecOn (motive := fun m : Record => (Assoc.keys m).Nodup) columns _ List.nodup_nil
    fun _ hacc _ _ => (Assoc.nodup_keys_put_iff ..).mpr hacc

theorem nodup_nonempty {m : Record} (h : (Assoc.keys m).Nodup) : (Assoc.keys ((nonempty m).getD [])).Nodup := by
  unfold nonempty
  split
  · exact List.nodup_nil
  · exact h

theorem exists_ofRecords (e : Entity) (records : List Record) (i : Nat) :
    ∃ generated, ofRecords e records (.int i) = .ok generated ∧ (Assoc.keys (generated.getD [])).Nodup := by
  obtain ⟨generated, hgenerated, htold⟩ := ofRecords_nat e records i
  refine ⟨generated, hgenerated, ?_⟩
  rw [htold]
  cases records[i]? with
  | none => exact List.nodup_nil
  | some record => exact nodup_ofRow record e.generatedColumns

end Generated

/-- Is the last id that an answer reports a whole number, if it reports one? -/
def QueryOutcome.TellsWhole (answer : QueryOutcome) : Prop :=
  Generated.lastId answer.raw = .null ∨ ∃ n : Int, Generated.lastId answer.raw = .int n

namespace Generated

/-- Every answer with a whole last id, or with none, tells the generated values of a row. -/
theorem exists_ofAnswer (dialect : Dialect) (e : Entity) {answer : QueryOutcome} (hid : answer.TellsWhole)
    (i count : Nat) : ∃ generated, ofAnswer dialect e answer (.int i) (.int count) = .ok generated ∧
      (Assoc.keys (generated.getD [])).Nodup := by
  have hnone : (Assoc.keys ((none : Option Record).getD [])).Nodup := List.nodup_nil
  unfold ofAnswer
  dsimp only
  cases dialect with
  | postgres | mssql => exact exists_ofRecords e answer.records i
  | mysql | mariadb =>
    dsimp only
    split
    · exact exists_ofRecords e answer.records i
    · rcases hid with hid | ⟨n, hid⟩
      · rw [hid]
        exact ⟨none, rfl, hnone⟩
      · rw [hid]
        split
        · exact ⟨none, rfl, hnone⟩
        · exact ⟨_, rfl, nodup_nonempty (nodup_underAll ..)⟩
  | sqlite | sqljs =>
    rcases hid with hid | ⟨n, hid⟩
    · rw [hid]
      exact ⟨none, rfl, hnone⟩
    · rw [hid]
      exact ⟨_, rfl, nodup_nonempty (nodup_underAll ..)⟩

end Generated

/-- An outcome has a place for each row, in order: the generated values that are known for it, if any are asked for, and
the key of the row that they fill. -/
structure InsertOutcome.Fits (o : InsertOutcome) (e : Entity) (rows : List Record) (asked : Bool) : Prop where
  maps_length : o.generatedMaps.length = rows.length
  identifiers_length : o.identifiers.length = rows.length
  row : ∀ (i : Nat) row, rows[i]? = some row → ∃ generated identifier, o.generatedMaps[i]? = some generated ∧
    o.identifiers[i]? = some identifier ∧ e.Identifies row generated identifier ∧ (asked = false → generated = [])

namespace Session

open World (Asked)

variable {b : Builder Nat} {answer : QueryOutcome} {rows : List Record} {w : World}

/-- Is the answer to the question for the last row id a whole number, if it is one? -/
def wholeRowId : Option (List Value) → Prop
  | none => True
  | some [] => False
  | some (id :: _) => id = .null ∨ ∃ n : Int, id = .int n

theorem tellsId_of_wholeRowId (i count : Nat) {row : Option (List Value)} (h : wholeRowId row) :
    TellsId (.int i) (.int count) (fun _ => True) row := by
  match row, h with
  | none, _ => exact trivial
  | some [], h => exact h
  | some (_ :: _), .inl hnull => exact .inl hnull
  | some (_ :: _), .inr ⟨n, hn⟩ => exact .inr ⟨.int (n - count + i + 1), by rw [hn]; rfl, trivial⟩

/-- In the world whatever is asked for the last row id is answered as it should be. -/
def AnswersWhole (dialect : Dialect) (w : World) : Prop :=
  w.dialect = dialect ∧ (dialect = .sqljs → w.Asked wholeRowId)

/-- Finding out the generated values of a row never fails. -/
theorem exists_generatedMap {dialect : Dialect} (e : Entity) (hid : answer.TellsWhole) (i count : Nat)
    (hw : AnswersWhole dialect w) :
    ∃ generated v, ends (generatedMap e answer (.int i) (.int count)) w = (.ok generated, v) ∧
      AnswersWhole dialect v ∧ (Assoc.keys (generated.getD [])).Nodup := by
  by_cases hasks : dialect = .sqljs
  · have htells (row : Option (List Value)) : wholeRowId row → TellsId (.int i) (.int count) (fun _ => True) row :=
      tellsId_of_wholeRowId i count
    obtain ⟨found, v, hfound, hv, hkeys, -⟩ := ends_lookUpIds trivial htells
      (e.generatedColumns.filter fun c => c.isPrimary && c.generation = some .increment) (hw.2 hasks)
    refine ⟨Generated.nonempty found, v, ?_, ⟨hasks ▸ hv.dialect, fun _ => hv⟩, Generated.nodup_nonempty hkeys⟩
    unfold generatedMap
    rw [ends_bind_ok (ends_get w), (hw.2 hasks).dialect]
    exact (ends_bind_ok hfound).trans rfl
  · obtain ⟨generated, hanswer, hkeys⟩ := Generated.exists_ofAnswer dialect e hid i count
    exact ⟨generated, w, ends_generatedMap hw.1 hasks hanswer, hw, hkeys⟩

/-- **The shape of an INSERT's outcome.** Whatever the backend answers to an INSERT of rows for an entity, with any
records and count, and with a whole number or nothing as its last id, the outcome is told. It has a place for each row,
in order. The key of a row holds the primary properties and no others, none of them null: under each stands what the
row gives, and else what was generated. A row has no key only where one of these is missing. Where no generated values
are asked for, none are told. -/
theorem outcome_fits (hkind : b.kind = .insert) (hentity : b.draft.entity = .ok (some e))
    (hrows : b.draft.valueSets = .ok (rows.map .record)) (hid : answer.TellsWhole)
    (hasked : w.dialect = .sqljs → w.Asked wholeRowId) :
    ∃ o v, ends (outcomeOf b answer) w = (.ok (.inserted o), v) ∧ o.Fits e rows b.draft.updateEntity.truth := by
  obtain ⟨known, hknows, -⟩ := Generated.exists_knownRows w.dialect b.draft e answer rows
  obtain ⟨o, v, ho, -, hcovers⟩ := ends_outcomeOf_insert (P := AnswersWhole w.dialect)
    (T := fun _ generated => (Assoc.keys generated).Nodup ∧ (b.draft.updateEntity.truth = false → generated = []))
    hkind hentity hrows hknows
    (fun i u hi hu => by
      obtain ⟨generated, v, hends, hv, hkeys⟩ := exists_generatedMap e hid i rows.length hu
      exact ⟨generated, v, hends, hv, hkeys, fun hunasked => absurd (hi.1.symm.trans hunasked) (by decide)⟩)
    (fun i _ => ⟨List.nodup_nil, fun _ => rfl⟩) ⟨rfl, hasked⟩
  refine ⟨o, v, ho, hcovers.maps_length, hcovers.identifiers_length, fun i row hrow => ?_⟩
  obtain ⟨generated, ⟨hkeys, hunasked⟩, hmap, hidentifier⟩ := hcovers.row i row hrow
  exact ⟨generated, _, hmap, hidentifier, Generated.identifies_keyMap e row hkeys, hunasked⟩

/-- Of two users the first one gives its key, and that of the second one is counted on from the last id. -/
theorem fits_insertedUsers :
    let rows : List Record := [[("id", .int 7), ("name", .text "ann")], [("name", .text "ben")]]
    let answer : QueryOutcome := { raw := .record [("last_insert_id", .int 8)], affected := some 2 }
    ∃ o v, ends (outcomeOf (.insertUsers rows) answer) { dialect := .sqlite } = (.ok (.inserted o), v) ∧
      o.identifiers = [some [("id", .int 7)], some [("id", .int 8)]] ∧ o.Fits .users rows true := by
  intro rows answer
  have hid : answer.TellsWhole := .inr ⟨8, rfl⟩
  have hrows : (Builder.insertUsers rows).draft.valueSets = .ok (rows.map .record) := rfl
  obtain ⟨o, v, ho, hfits⟩ := outcome_fits (w := { dialect := .sqlite }) rfl rfl hrows hid nofun
  have hrun : (ends (outcomeOf (.insertUsers rows) answer) { dialect := .sqlite }).1 = .ok (.inserted
      { identifiers := [some [("id", .int 7)], some [("id", .int 8)]]
        generatedMaps := [[], [("id", .int 8)]]
        raw := answer.raw }) := rfl
  rw [ho] at hrun
  cases hrun
  exact ⟨_, v, ho, rfl, hfits⟩

end Session

end SqlWeave
