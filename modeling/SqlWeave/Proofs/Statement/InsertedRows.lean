import SqlWeave.Proofs.Result
import SqlWeave.Statement.Outcome

/-!
# Rows that are inserted as records

A row that is a record gives a value for a column or does not, and what it leaves open is filled with the values
that the database made for it. So its key can always be made, and holds what the row gives or, in its place, what
was made. Which rows are known is settled by the same tests.
-/

namespace SqlWeave

variable {e : Entity} {c : Column} {row generated : Record}

/-! ## What a row gives -/

/-- The value that a row gives for a column, when it is there. -/
def Column.given? (c : Column) (row : Record) : Option Value :=
  (Assoc.get? row c.property).filter fun v => !v.isNull

theorem Column.given?_eq_some {v : Value} :
    c.given? row = some v ↔ Assoc.get? row c.property = some v ∧ v.isNull = false := by
  unfold given?
  rw [Option.filter_eq_some_iff, Bool.not_eq_true']

theorem Column.valueIn_record (c : Column) (row : Record) :
    c.valueIn (.record row) = (c.given? row).getD .null := by
  have hvalue : c.valueIn (.record row) = .ofOption (Assoc.get? row c.property) := rfl
  rw [hvalue, given?]
  cases Assoc.get? row c.property with
  | none => rfl
  | some v => cases v <;> rfl

theorem Column.isNull_valueIn (c : Column) (row : Record) :
    (c.valueIn (.record row)).isNull = (c.given? row).isNone := by
  rw [valueIn_record]
  cases h : c.given? row with
  | none => rfl
  | some v => exact (given?_eq_some.mp h).2

theorem Insert.gives_record (c : Column) (row : Record) :
    gives (.text c.property) (.record row) = .ok (c.given? row).isSome := by
  show (Except.ok (!(c.valueIn (.record row)).isNull) : Result Bool) = _
  rw [Column.isNull_valueIn, Option.not_isNone]

/-! ## What is written -/

namespace Insert

variable {d : Draft} {rows : List Record}

theorem someRow_map {α : Type} {test : Value → Result Bool} {f : α → Value} {p : α → Bool}
    (h : ∀ x, test (f x) = .ok (p x)) (xs : List α) : someRow test (xs.map f) = .ok (xs.any p) := by
  induction xs with
  | nil => rfl
  | cons x xs ih =>
    refine Result.bind_eq_ok.mpr ⟨_, h x, ?_⟩
    rw [List.any_cons]
    cases p x with
    | true => rfl
    | false => exact ih

/-- Is a column written for rows that are records? -/
def writesColumn (rows : List Record) (requested : List Value) (c : Column) : Bool :=
  (requested.isEmpty || (Value.text c.property).isAmong requested) &&
    (!c.isGenerated || rows.any fun row => (c.given? row).isSome) &&
      (rows.any (Assoc.has · c.property) || c.isAutomatic)

theorem isWritten_records (rows : List Record) (requested : List Value) (c : Column) :
    isWritten (rows.map .record) requested c = .ok (writesColumn rows requested c) := by
  have hmentions : someRow (mentions c.property) (rows.map .record) = .ok (rows.any (Assoc.has · c.property)) :=
    someRow_map (fun _ => rfl) rows
  have hgives := someRow_map (gives_record c) rows
  unfold isWritten writesColumn
  dsimp only
  rw [hmentions, hgives]
  cases requested.isEmpty <;> cases (Value.text c.property).isAmong requested <;> cases c.isGenerated <;>
    cases rows.any (fun row => (c.given? row).isSome) <;> rfl

/-- Of an entity's columns those are written that rows and request ask for. -/
theorem columns_of_entity (hentity : d.entity = .ok (some e)) (rows : List Record) :
    columns d (rows.map .record) = .ok ((e.columns.filter (writesColumn rows (d.insertColumns.getD []))).map fun c =>
      { key := .text c.property, column := some c }) := by
  refine Result.bind_eq_ok.mpr ⟨_, hentity, Result.bind_eq_ok.mpr ⟨_, ?_, rfl⟩⟩
  exact Result.filterM_eq_ok_filter fun c _ => isWritten_records rows _ c

/-- Is the column of an entity among those of the statement? -/
def Writes (d : Draft) (rows : List Record) (c : Column) : Prop :=
  ∃ written, columns d (rows.map .record) = .ok written ∧ ∃ k ∈ written, k.column = some c

/-- A column that a row gives a value for is written, unless others alone were asked for. -/
theorem writes_of_given (hentity : d.entity = .ok (some e)) (hc : c ∈ e.columns)
    (hrequested : d.insertColumns.getD [] = [] ∨ (Value.text c.property).isAmong (d.insertColumns.getD []) = true)
    (hrow : row ∈ rows) (hgiven : (c.given? row).isSome = true) : Writes d rows c := by
  have hwritten : writesColumn rows (d.insertColumns.getD []) c = true := by
    obtain ⟨v, hv⟩ := Option.isSome_iff_exists.mp hgiven
    have hhas : rows.any (Assoc.has · c.property) = true :=
      List.any_eq_true.mpr ⟨row, hrow, Option.isSome_iff_exists.mpr ⟨v, (Column.given?_eq_some.mp hv).1⟩⟩
    have hgives : (rows.any fun row => (c.given? row).isSome) = true := List.any_eq_true.mpr ⟨row, hrow, hgiven⟩
    have hasked : ((d.insertColumns.getD []).isEmpty ||
        (Value.text c.property).isAmong (d.insertColumns.getD [])) = true :=
      Bool.or_eq_true_iff.mpr (hrequested.imp_left List.isEmpty_iff.mpr)
    rw [writesColumn, hasked, hgives, hhas, Bool.or_true]
    rfl
  exact ⟨_, columns_of_entity hentity rows, _, List.mem_map_of_mem (List.mem_filter.mpr ⟨hc, hwritten⟩), rfl⟩

end Insert

/-! ## Keys -/

namespace Entity

/-- A key holds what the row holds under the same names, and none of it is absent. -/
theorem keyOf_spec {columns : List Column} {key : Record} (h : keyOf columns (.record row) = some key) :
    (∀ p ∈ key, Assoc.get? row p.1 = some p.2 ∧ p.2.isNull = false) ∧
      ∀ c ∈ columns, c.property ∈ Assoc.keys key := by
  induction columns generalizing key with
  | nil =>
    cases h
    exact ⟨fun p hp => absurd hp List.not_mem_nil, fun c hc => absurd hc List.not_mem_nil⟩
  | cons c columns ih =>
    unfold keyOf at h
    split at h
    · cases h
    · next hnull =>
      obtain ⟨rest, hrest, rfl⟩ := Option.map_eq_some_iff.mp h
      obtain ⟨hpairs, hkeys⟩ := ih hrest
      have hown : c.given? row = some (c.valueIn (.record row)) := by
        rw [Column.valueIn_record] at hnull ⊢
        cases hgiven : c.given? row with
        | none =>
          rw [hgiven] at hnull
          exact absurd rfl hnull
        | some v => rfl
      constructor
      · intro p hp
        rcases Assoc.mem_of_mem_merge hp with hp | hp
        · rw [List.mem_singleton.mp hp]
          exact Column.given?_eq_some.mp hown
        · exact hpairs p hp
      · intro c' hc'
        rw [Assoc.mem_keys_merge]
        rcases List.mem_cons.mp hc' with rfl | hc'
        · exact .inl List.mem_cons_self
        · exact .inr (hkeys c' hc')

theorem given?_of_keyMap {key : Record} (h : e.keyMap (.record row) = some key) (hc : c ∈ e.primaryColumns) :
    ∃ v, Assoc.get? key c.property = some v ∧ c.given? row = some v := by
  have hkey : keyOf e.primaryColumns (.record row) = some key := by
    unfold keyMap at h
    split at h
    · cases h
    · exact h
  obtain ⟨hpairs, hkeys⟩ := keyOf_spec hkey
  obtain ⟨v, hv⟩ := Assoc.exists_get?_of_mem (hkeys c hc)
  exact ⟨v, hv, Column.given?_eq_some.mpr (hpairs _ (Assoc.mem_of_get? hv))⟩

/-- The columns of the key whose values the database makes. -/
def generatedKeys (e : Entity) : List Column := e.generatedColumns.filter (·.isPrimary)

/-- Is every generated part of its key left to the database by a row? -/
def LeavesKey (e : Entity) (row : Record) : Prop := ∀ c ∈ e.generatedKeys, c.given? row = none

/-- Does a row give some generated part of its key? -/
def suppliesKey (e : Entity) (row : Record) : Bool := e.generatedKeys.any fun c => (c.given? row).isSome

theorem leavesKey_iff : e.LeavesKey row ↔ e.suppliesKey row = false := by
  rw [suppliesKey, List.any_eq_false]
  exact forall₂_congr fun c _ => by rw [Option.not_isSome_iff_eq_none]

theorem all_leaveKeys {rows : List Record} (h : rows.any e.suppliesKey = false) : ∀ row ∈ rows, e.LeavesKey row :=
  fun row hrow => leavesKey_iff.mpr (Bool.eq_false_iff.mpr (List.any_eq_false.mp h row hrow))

/-- Where there is a last row that leaves its key to the database. -/
theorem last_leavesKey {rows : List Record} (h : (rows.map e.suppliesKey).getLast?.getD true = false) :
    ∃ row, rows[rows.length - 1]? = some row ∧ e.LeavesKey row := by
  rw [List.getLast?_map, List.getLast?_eq_getElem?] at h
  cases hrow : rows[rows.length - 1]? with
  | none =>
    rw [hrow] at h
    cases h
  | some row =>
    rw [hrow] at h
    exact ⟨row, rfl, leavesKey_iff.mpr h⟩

end Entity

/-! ## Filled rows -/

namespace Generated

/-- A row with the generated values that fill what it leaves open. -/
def completed (row generated : Record) : Record :=
  Assoc.merge row (generated.filter fun p => (Value.ofOption (Assoc.get? row p.1)).isNull)

theorem filled_record (row generated : Record) : filled (.record row) generated = .ok (completed row generated) := by
  refine Result.bind_eq_ok.mpr ⟨_, Result.filterM_eq_ok_filter fun p _ => ?_, rfl⟩
  show (Except.ok (!(!(Value.ofOption (Assoc.get? row p.1)).isNull)) : Result Bool) = _
  rw [Bool.not_not]

/-- What a filled row gives is given by the row, or it was made for it. -/
theorem given?_completed {v : Value} (h : c.given? (completed row generated) = some v) :
    c.given? row = some v ∨ c.given? row = none ∧ (c.property, v) ∈ generated := by
  obtain ⟨hget, hnull⟩ := Column.given?_eq_some.mp h
  rw [completed, Assoc.get?_merge, Option.or_eq_some_iff] at hget
  rcases hget with hmade | ⟨-, hrow⟩
  · have hmem := (Assoc.mem_of_mem_merge (Assoc.mem_of_get? hmade)).resolve_left List.not_mem_nil
    obtain ⟨hmem, hopen⟩ := List.mem_filter.mp hmem
    exact .inr ⟨Option.isNone_iff_eq_none.mp ((Column.isNull_valueIn c row).symm.trans hopen), hmem⟩
  · exact .inl (Column.given?_eq_some.mpr ⟨hrow, hnull⟩)

/-! ## Known rows -/

/-- Were as many rows inserted as there are, as far as the answer tells? -/
def TellsAll (d : Draft) (answer : QueryOutcome) (count : Nat) : Prop :=
  answer.affected = some (Int.ofNat count) ∨ d.onIgnore.truth = false ∧ answer.affected = none

/-- The places of the known rows: all of them where rows were handed back, and where one id was reported those
that it tells an id for. -/
structure Known (dialect : Dialect) (d : Draft) (e : Entity) (answer : QueryOutcome) (rows : List Record)
    (known : List Nat) : Prop where
  returned : answer.records ≠ [] ∨ dialect.reportsLastId = false → known = List.range rows.length
  reported : answer.records = [] → dialect.reportsLastId = true → ∀ i ∈ known, i < rows.length ∧
    TellsAll d answer rows.length ∧
      ((∀ row ∈ rows, e.LeavesKey row) ∨
        dialect.lastIdIsFinalRow = true ∧ i + 1 = rows.length ∧ ∀ row, rows[i]? = some row → e.LeavesKey row)

theorem exists_knownRows (dialect : Dialect) (d : Draft) (e : Entity) (answer : QueryOutcome) (rows : List Record) :
    ∃ known, knownRows dialect d e answer (rows.map .record) = .ok known ∧ Known dialect d e answer rows known := by
  have hsupplied : (rows.map Value.record).mapM (fun row => Insert.someRow (fun key => Insert.gives key row)
      ((e.generatedColumns.filter (·.isPrimary)).map fun c => .text c.property)) = .ok (rows.map e.suppliesKey) := by
    rw [List.mapM_map]
    exact Result.mapM_eq_ok_map fun row _ => Insert.someRow_map (Insert.gives_record · row) e.generatedKeys
  let tells : Bool := decide (answer.affected = some (Int.ofNat rows.length)) ||
    !d.onIgnore.truth && decide (answer.affected = none)
  have htells (h : tells = true) : TellsAll d answer rows.length := by simpa [tells, TellsAll] using h
  unfold knownRows
  dsimp only
  rw [List.length_map]
  split
  · next hreturned =>
    refine ⟨_, rfl, fun _ => rfl, fun hrecords hreports => ?_⟩
    simp [hrecords, hreports] at hreturned
  · next hreported =>
    have hnot : ¬ (answer.records ≠ [] ∨ dialect.reportsLastId = false) := by simpa using hreported
    rw [hsupplied]
    dsimp only [bind, Except.bind]
    split
    · next hevery =>
      obtain ⟨hnone, hall⟩ := Bool.and_eq_true_iff.mp hevery
      rw [Bool.not_eq_true', List.any_map, Function.id_comp] at hnone
      exact ⟨_, rfl, fun h => absurd h hnot, fun _ _ i hi =>
        ⟨List.mem_range.mp hi, htells hall, .inl (Entity.all_leaveKeys hnone)⟩⟩
    · split
      · next hlast =>
        obtain ⟨hlast, hleaves⟩ := Bool.and_eq_true_iff.mp hlast
        obtain ⟨hfinal, hall⟩ := Bool.and_eq_true_iff.mp hlast
        rw [Bool.not_eq_true'] at hleaves
        obtain ⟨row, hrow, hleaves⟩ := Entity.last_leavesKey hleaves
        have hlt : rows.length - 1 < rows.length := (List.getElem?_eq_some_iff.mp hrow).1
        refine ⟨_, rfl, fun h => absurd h hnot, fun _ _ i hi => ?_⟩
        obtain rfl := List.mem_singleton.mp hi
        refine ⟨hlt, htells hall, .inr ⟨hfinal, by omega, fun row' hrow' => ?_⟩⟩
        obtain rfl := Option.some.inj (hrow.symm.trans hrow')
        exact hleaves
      · exact ⟨[], rfl, fun h => absurd h hnot, fun _ _ i hi => absurd hi List.not_mem_nil⟩

end Generated

end SqlWeave
