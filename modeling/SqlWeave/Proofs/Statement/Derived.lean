import Mathlib.Data.List.Nodup
import SqlWeave.Proofs.Reference.Refers
import SqlWeave.Statement.Lowering

/-!
# Generated names and derived values

Names are generated in three families: one counts the values that conditions bind, one the cells of an
INSERT, one the assignments of an UPDATE. No two of them have a name in common, and within a family different
numbers give different names. The values of the last two families are derived from the rows and from the
assignments when a statement is lowered.
-/

namespace SqlWeave

open Reference (IsPlainName)

/-! ## Numerals -/

theorem toString_inj {m n : Nat} : toString m = toString n ↔ m = n := by
  refine ⟨fun h => ?_, congrArg toString⟩
  have hdigits : Nat.toDigits 10 m = Nat.toDigits 10 n := by
    simpa [← String.toList_inj, Nat.toString_eq_ofList_toDigits] using h
  rw [← Nat.ofDigitChars_ten_toDigits (n := m), hdigits, Nat.ofDigitChars_ten_toDigits]

theorem isDigit_of_mem_toString {n : Nat} {c : Char} (hc : c ∈ (toString n).toList) : c.isDigit := by
  rw [Nat.toString_eq_ofList_toDigits, String.toList_ofList] at hc
  exact Nat.isDigit_of_mem_toDigits (by decide) (by decide) hc

/-! ## Names -/

theorem isPlainName_toString (n : Nat) : IsPlainName (toString n) := by
  refine ⟨fun h => ?_, fun c hc => .inl (by simp [Char.isAlphanum, isDigit_of_mem_toString hc])⟩
  rw [Nat.toString_eq_ofList_toDigits, ← String.toList_eq_nil_iff, String.toList_ofList] at h
  exact Nat.toDigits_ne_nil h

namespace Build

theorem generatedName_inj {m n : Nat} : generatedName m = generatedName n ↔ m = n := by
  rw [generatedName, generatedName, String.append_right_inj, toString_inj]

theorem isPlainName_generatedName (n : Nat) : IsPlainName (generatedName n) :=
  (by decide : IsPlainName "orm_param_").append (isPlainName_toString n)

/-- A generated name can be bound. -/
theorem isParameterName_generatedName (n : Nat) : isParameterName (generatedName n) := by
  obtain ⟨hne, hall⟩ := isPlainName_generatedName n
  have hlast : (generatedName n).toList.getLast? ≠ some '\n' := fun h => by
    have hmem := hall '\n' (List.mem_of_getLast? h)
    revert hmem
    decide
  have hnonempty : (generatedName n).toList ≠ [] := fun h => hne (String.toList_eq_nil_iff.mp h)
  unfold isParameterName
  simp only [if_neg hlast]
  simp only [Bool.and_eq_true, Bool.not_eq_true', List.isEmpty_eq_false_iff, List.all_eq_true]
  refine ⟨hnonempty, fun c hc => ?_⟩
  rcases hall c hc with h | rfl
  · simp [Reference.isNameChar, h]
  · rfl

end Build

namespace Insert

theorem cellName_inj {i j i' j' : Nat} : cellName i j = cellName i' j' ↔ i = i' ∧ j = j' := by
  refine ⟨fun h => ?_, fun ⟨hi, hj⟩ => by rw [hi, hj]⟩
  have hlists : (toString i).toList ++ '_' :: (toString j).toList =
      (toString i').toList ++ '_' :: (toString j').toList := by
    simpa [cellName, ← String.toList_inj] using h
  -- The first number is all digits before the underscore.
  have hrow (n : Nat) (rest : List Char) :
      ((toString n).toList ++ '_' :: rest).takeWhile Char.isDigit = (toString n).toList := by
    rw [List.takeWhile_append_of_pos fun c => isDigit_of_mem_toString]
    exact List.append_nil _
  have hi : (toString i).toList = (toString i').toList := by
    rw [← hrow i (toString j).toList, hlists, hrow]
  rw [hi, List.append_cancel_left_eq, List.cons.injEq] at hlists
  exact ⟨toString_inj.mp (String.toList_inj.mp hi), toString_inj.mp (String.toList_inj.mp hlists.2)⟩

theorem isPlainName_cellName (i j : Nat) : IsPlainName (cellName i j) :=
  have hrow := (by decide : IsPlainName "i").append (isPlainName_toString i)
  (hrow.append (by decide : IsPlainName "_")).append (isPlainName_toString j)

end Insert

namespace Update

theorem parameterName_inj {i j : Nat} : parameterName i = parameterName j ↔ i = j := by
  rw [parameterName, parameterName, String.append_right_inj, toString_inj]

theorem isPlainName_parameterName (i : Nat) : IsPlainName (parameterName i) :=
  (by decide : IsPlainName "upd_").append (isPlainName_toString i)

end Update

theorem generatedName_ne_cellName (n i j : Nat) : Build.generatedName n ≠ Insert.cellName i j := fun h => by
  simp [Build.generatedName, Insert.cellName, ← String.toList_inj] at h

theorem generatedName_ne_parameterName (n i : Nat) : Build.generatedName n ≠ Update.parameterName i := fun h => by
  simp [Build.generatedName, Update.parameterName, ← String.toList_inj] at h

/-! ## Cells and assignments -/

namespace Insert

/-- The value that a row binds for a column: one that is there and that no function supplies. -/
def cellValue? (row : Value) (c : InsertColumn) : Option Value :=
  match held row c.key with
  | .ok (some v) => if v.isNull || v.isCallable then none else some v
  | _ => none

/-- A row holds values of its own. -/
theorem exists_of_held {row : Record} {key v : Value} (h : held (.record row) key = .ok (some v)) :
    ∃ p ∈ row, p.2 = v := by
  unfold held at h
  dsimp only at h
  split at h
  · obtain ⟨k, -, hget⟩ := Option.bind_eq_some_iff.mp (Except.ok.inj h)
    exact ⟨_, Assoc.mem_of_get? hget, rfl⟩
  · cases h

/-- The words for a cell that its row leaves open. -/
def fallbacks : List String := ["CURRENT_TIMESTAMP", "1", "DEFAULT", "NULL"]

theorem fallback_mem (dialect : Dialect) (c : InsertColumn) : c.fallback dialect ∈ fallbacks := by
  unfold InsertColumn.fallback
  dsimp only
  split
  · decide
  · split
    · decide
    · split <;> decide

/-- The cells of a row that bind values, from column number `j` on. -/
def rowBindings (i j : Nat) (row : Value) (cols : List InsertColumn) : Bindings :=
  (cols.zipIdx j).filterMap fun c => (cellValue? row c.1).map (cellName i c.2, ·)

theorem cellParameters_eq_ok {i j : Nat} {row : Value} {cols : List InsertColumn} {own : Bindings}
    (h : cellParameters i j row cols = .ok own) : own = rowBindings i j row cols := by
  induction cols generalizing j own with
  | nil =>
    cases h
    rfl
  | cons c rest ih =>
    obtain ⟨v?, hheld, h⟩ := Result.bind_eq_ok.mp h
    obtain ⟨more, hmore, h⟩ := Result.bind_eq_ok.mp h
    obtain rfl := ih hmore
    cases h
    have hcell : cellValue? row c = if (Value.ofOption v?).isNull || (Value.ofOption v?).isCallable then none
        else some (Value.ofOption v?) := by
      rw [cellValue?, hheld]
      cases v? <;> rfl
    symm
    rw [rowBindings, List.zipIdx_cons, List.filterMap_cons, hcell]
    cases (Value.ofOption v?).isNull || (Value.ofOption v?).isCallable <;> rfl

theorem rowParameters_eq_ok {i : Nat} {cols : List InsertColumn} {rows : List Value} {own : Bindings}
    (h : rowParameters i cols rows = .ok own) :
    own = (rows.zipIdx i).flatMap fun row => rowBindings row.2 0 row.1 cols := by
  induction rows generalizing i own with
  | nil =>
    cases h
    rfl
  | cons row rest ih =>
    obtain ⟨here, hhere, h⟩ := Result.bind_eq_ok.mp h
    obtain ⟨more, hmore, h⟩ := Result.bind_eq_ok.mp h
    cases h
    rw [cellParameters_eq_ok hhere, ih hmore, List.zipIdx_cons, List.flatMap_cons]

/-- What an INSERT binds for its rows. -/
theorem parameters_eq_ok {d : Draft} {own : Bindings} (h : parameters d = .ok own) :
    ∃ rows cols, d.valueSets = .ok rows ∧ columns d rows = .ok cols ∧
      own = rows.zipIdx.flatMap fun row => rowBindings row.2 0 row.1 cols := by
  obtain ⟨rows, hrows, h⟩ := Result.bind_eq_ok.mp h
  obtain ⟨cols, hcols, h⟩ := Result.bind_eq_ok.mp h
  exact ⟨rows, cols, hrows, hcols, rowParameters_eq_ok h⟩

theorem mem_rowBindings {i j : Nat} {row : Value} {cols : List InsertColumn} {name : String} {v : Value} :
    (name, v) ∈ rowBindings i j row cols ↔
      ∃ k c, cols[k]? = some c ∧ cellValue? row c = some v ∧ name = cellName i (j + k) := by
  simp only [rowBindings, List.mem_filterMap, Option.map_eq_some_iff, Prod.exists, Prod.mk.injEq,
    List.mem_zipIdx_iff_le_and_getElem?_sub]
  constructor
  · rintro ⟨c, k, ⟨hle, hc⟩, v', hv, rfl, rfl⟩
    exact ⟨k - j, c, hc, hv, by rw [Nat.add_sub_cancel' hle]⟩
  · rintro ⟨k, c, hc, hv, rfl⟩
    exact ⟨c, j + k, ⟨Nat.le_add_right j k, by rwa [Nat.add_sub_cancel_left]⟩, v, hv, rfl, rfl⟩

/-- The cells of a row bind different names. -/
theorem nodup_rowBindings (i j : Nat) (row : Value) (cols : List InsertColumn) :
    (rowBindings i j row cols).keys.Nodup := by
  induction cols generalizing j with
  | nil => exact List.nodup_nil
  | cons c rest ih =>
    rw [rowBindings, List.zipIdx_cons, List.filterMap_cons]
    cases cellValue? row c with
    | none => exact ih (j + 1)
    | some v =>
      refine List.nodup_cons.mpr ⟨fun hmem => ?_, ih (j + 1)⟩
      obtain ⟨⟨name, w⟩, hw, hname⟩ := List.mem_map.mp hmem
      obtain ⟨k, -, -, -, rfl⟩ := mem_rowBindings.mp hw
      have := (cellName_inj.mp hname).2
      omega

/-- The cells of all rows bind different names. -/
theorem nodup_rowsBindings (i : Nat) (cols : List InsertColumn) (rows : List Value) :
    (Assoc.keys ((rows.zipIdx i).flatMap fun row => rowBindings row.2 0 row.1 cols)).Nodup := by
  induction rows generalizing i with
  | nil => exact List.nodup_nil
  | cons row rest ih =>
    rw [List.zipIdx_cons, List.flatMap_cons, Assoc.keys, List.map_append]
    refine List.nodup_append.mpr ⟨nodup_rowBindings i 0 row cols, ih (i + 1), ?_⟩
    rintro _ hhere _ hmore rfl
    obtain ⟨⟨name, v⟩, hv, rfl⟩ := List.mem_map.mp hhere
    obtain ⟨⟨name', w⟩, hw, hname⟩ := List.mem_map.mp hmore
    obtain ⟨⟨row', i'⟩, hrow, hw⟩ := List.mem_flatMap.mp hw
    obtain ⟨k, -, -, -, rfl⟩ := mem_rowBindings.mp hv
    obtain ⟨k', -, -, -, rfl⟩ := mem_rowBindings.mp hw
    have hlater := (List.mem_zipIdx_iff_le_and_getElem?_sub.mp hrow).1
    have := (cellName_inj.mp hname).1
    dsimp only at hlater this
    omega

end Insert

namespace Update

/-- The assignments that bind values, from number `i` on. -/
theorem parametersFrom_eq (i : Nat) (items : List Assignment) :
    parametersFrom i items = (items.zipIdx i).filterMap fun item =>
      if item.1.2.isCallable then none else some (parameterName item.2, item.1.2) := by
  induction items generalizing i with
  | nil => rfl
  | cons p rest ih =>
    rw [parametersFrom, List.zipIdx_cons, List.filterMap_cons, ih]
    dsimp only
    cases p.2.isCallable <;> rfl

theorem mem_parametersFrom {i : Nat} {items : List Assignment} {name : String} {v : Value} :
    (name, v) ∈ parametersFrom i items ↔
      ∃ k column, items[k]? = some (column, v) ∧ v.isCallable = false ∧ name = parameterName (i + k) := by
  simp only [parametersFrom_eq, List.mem_filterMap, Prod.exists, List.mem_zipIdx_iff_le_and_getElem?_sub]
  constructor
  · rintro ⟨column, w, k, ⟨hle, hitem⟩, hbinds⟩
    split at hbinds
    · cases hbinds
    · next hv =>
      cases hbinds
      exact ⟨k - i, column, hitem, Bool.eq_false_iff.mpr hv, by rw [Nat.add_sub_cancel' hle]⟩
  · rintro ⟨k, column, hitem, hv, rfl⟩
    exact ⟨column, v, i + k, ⟨Nat.le_add_right i k, by rwa [Nat.add_sub_cancel_left]⟩, by rw [if_neg (by simp [hv])]⟩

/-- Assignments bind different names. -/
theorem nodup_parametersFrom (i : Nat) (items : List Assignment) : (parametersFrom i items).keys.Nodup := by
  induction items generalizing i with
  | nil => exact List.nodup_nil
  | cons p rest ih =>
    rw [parametersFrom]
    split
    · exact ih (i + 1)
    · refine List.nodup_cons.mpr ⟨fun hmem => ?_, ih (i + 1)⟩
      obtain ⟨⟨name, w⟩, hw, hname⟩ := List.mem_map.mp hmem
      obtain ⟨k, -, -, -, rfl⟩ := mem_parametersFrom.mp hw
      have := parameterName_inj.mp hname
      omega

end Update

/-- The values that a statement derives when it is lowered: those of the cells of an INSERT, and those of the
assignments of an UPDATE. -/
inductive Builder.Derives {σ : Type} (cat : Catalog) (b : Builder σ) : String → Value → Prop where
  | cell {rows : List Value} {cols : List InsertColumn} {i j : Nat} {row v : Value} {c : InsertColumn}
      (hkind : b.kind = .insert) (hrows : b.draft.valueSets = .ok rows)
      (hcols : Insert.columns b.draft rows = .ok cols) (hrow : rows[i]? = some row) (hc : cols[j]? = some c)
      (hheld : Insert.held row c.key = .ok (some v)) (hthere : v.isNull = false) (hv : v.isCallable = false) :
      b.Derives cat (Insert.cellName i j) v
  | assignment {items : List Update.Assignment} {i : Nat} {column : String} {v : Value}
      (hkind : b.kind = .update) (hitems : Update.assignments cat.dialect b.draft = .ok items)
      (hitem : items[i]? = some (column, v)) (hv : v.isCallable = false) :
      b.Derives cat (Update.parameterName i) v

theorem Insert.cellValue?_eq_some {row v : Value} {c : InsertColumn} :
    cellValue? row c = some v ↔ held row c.key = .ok (some v) ∧ v.isNull = false ∧ v.isCallable = false := by
  unfold cellValue?
  split
  · next w hheld =>
    split
    · next hnot =>
      refine iff_of_false nofun ?_
      rintro ⟨h, hnull, hcall⟩
      cases hheld.symm.trans h
      simp [hnull, hcall] at hnot
    · next hbinds =>
      rw [Bool.not_eq_true, Bool.or_eq_false_iff] at hbinds
      rw [hheld]
      constructor
      · rintro ⟨⟩
        exact ⟨rfl, hbinds⟩
      · rintro ⟨h, -⟩
        cases h
        rfl
  · next hnone => exact iff_of_false nofun fun h => hnone v h.1

namespace Builder

variable {σ : Type} {cat : Catalog} {b : Builder σ} {own : Bindings} {name : String} {v : Value}

theorem mem_rowsBindings_iff_derives {rows : List Value} {cols : List InsertColumn} (hkind : b.kind = .insert)
    (hrows : b.draft.valueSets = .ok rows) (hcols : Insert.columns b.draft rows = .ok cols) :
    ((name, v) ∈ rows.zipIdx.flatMap fun row => Insert.rowBindings row.2 0 row.1 cols) ↔ b.Derives cat name v := by
  rw [List.mem_flatMap]
  constructor
  · rintro ⟨⟨row, i⟩, hrow, hv⟩
    obtain ⟨j, c, hc, hvalue, rfl⟩ := Insert.mem_rowBindings.mp hv
    obtain ⟨hheld, hthere, hv⟩ := Insert.cellValue?_eq_some.mp hvalue
    rw [Nat.zero_add]
    exact .cell hkind hrows hcols (List.mem_zipIdx_iff_getElem?.mp hrow) hc hheld hthere hv
  · intro hderives
    cases hderives with
    | @cell rows' cols' i j row v c _ hrows' hcols' hrow hc hheld hthere hv =>
      obtain rfl : rows = rows' := Except.ok.inj (hrows.symm.trans hrows')
      obtain rfl : cols = cols' := Except.ok.inj (hcols.symm.trans hcols')
      refine ⟨(row, i), List.mem_zipIdx_iff_getElem?.mpr hrow, Insert.mem_rowBindings.mpr ⟨j, c, hc, ?_, ?_⟩⟩
      · exact Insert.cellValue?_eq_some.mpr ⟨hheld, hthere, hv⟩
      · rw [Nat.zero_add]
    | assignment hupdate => cases hkind.symm.trans hupdate

theorem mem_parametersFrom_iff_derives {items : List Update.Assignment} (hkind : b.kind = .update)
    (hitems : Update.assignments cat.dialect b.draft = .ok items) :
    (name, v) ∈ Update.parametersFrom 0 items ↔ b.Derives cat name v := by
  rw [Update.mem_parametersFrom]
  constructor
  · rintro ⟨i, column, hitem, hv, rfl⟩
    rw [Nat.zero_add]
    exact .assignment hkind hitems hitem hv
  · intro hderives
    cases hderives with
    | cell hinsert => cases hkind.symm.trans hinsert
    | @assignment items' i column v _ hitems' hitem hv =>
      obtain rfl : items = items' := Except.ok.inj (hitems.symm.trans hitems')
      exact ⟨i, column, hitem, hv, by rw [Nat.zero_add]⟩

/-- What is bound when a statement is lowered is what it derives, under names that differ. -/
theorem derives_of_statementParameters (h : b.draft.statementParameters cat b.kind = .ok own) :
    own.keys.Nodup ∧ ∀ name v, (name, v) ∈ own ↔ b.Derives cat name v := by
  cases hkind : b.kind with
  | select | delete =>
    rw [hkind] at h
    cases h
    refine ⟨List.nodup_nil, fun name v => iff_of_false (List.not_mem_nil) ?_⟩
    rintro (⟨hinsert, -⟩ | ⟨hupdate, -⟩)
    · cases hkind.symm.trans hinsert
    · cases hkind.symm.trans hupdate
  | insert =>
    rw [hkind] at h
    obtain ⟨rows, cols, hrows, hcols, rfl⟩ := Insert.parameters_eq_ok h
    exact ⟨Insert.nodup_rowsBindings 0 cols rows, fun name v => mem_rowsBindings_iff_derives hkind hrows hcols⟩
  | update =>
    rw [hkind] at h
    obtain ⟨items, hitems, h⟩ := Result.bind_eq_ok.mp h
    cases h
    exact ⟨Update.nodup_parametersFrom 0 items, fun name v => mem_parametersFrom_iff_derives hkind hitems⟩

end Builder

end SqlWeave
