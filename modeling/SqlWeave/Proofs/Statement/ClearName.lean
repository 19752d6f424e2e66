import SqlWeave.Proofs.Result
import SqlWeave.Proofs.Statement.Derived

/-!
# Names without colons

Tables, aliases and columns are written quoted, and pages of rows by numbers. When none of the names that a
statement is about has a colon, none of these texts has one.
-/

namespace SqlWeave

open Reference (IsTail)

/-! ## Names -/

/-- However the value is written, there is no colon in it. -/
structure Value.IsClear (v : Value) : Prop where
  display : NoColon v.display
  text : ∀ s ∈ v.text?, NoColon s

/-- Names of a table and of columns without colons. -/
structure Entity.IsClear (e : Entity) : Prop where
  table : NoColon e.table
  schema : ∀ s ∈ e.schema, NoColon s
  database : ∀ s ∈ e.database, NoColon s
  columns : ∀ c ∈ e.columns, NoColon c.database

structure Alias.IsClear (a : Alias) : Prop where
  name : a.name.IsClear
  path : a.path.IsClear
  entity : ∀ e, a.subject = some (.entity e) → e.IsClear

structure Scope.IsClear (s : Scope) : Prop where
  all : ∀ a ∈ s.all, a.IsClear
  main : ∀ a ∈ s.main, a.IsClear

/-- Keys without colons, and no colon in what the record's functions supply. -/
def Record.IsClear (r : Record) : Prop := ∀ p ∈ r, NoColon p.1 ∧ ∀ sql, p.2.supplied = .ok sql → NoColon sql

/-- Rows, or one row, or none: records whose keys have no colons. -/
def Value.AreClearRows : Value → Prop
  | .null => True
  | .record r => Record.IsClear r
  | .list rows | .tuple rows => ∀ row ∈ rows, ∃ r, row = .record r ∧ Record.IsClear r
  | _ => False

structure Selection.IsClear (s : Selection) : Prop where
  expression : s.expression.IsClear
  name : s.name.IsClear

def Returning.IsClear : Returning → Prop
  | .text sql => sql.IsClear
  | .columns names => ∀ v ∈ names, v.IsClear

/-- A statement without a comment, and without colons in the names of its tables, columns and keys, in what it
selects, in what it sorts by and in what it hands back. -/
structure Draft.IsClear (d : Draft) : Prop where
  scope : d.scope.IsClear
  columns : ∀ names ∈ d.insertColumns, ∀ v ∈ names, v.IsClear
  values : d.values.AreClearRows
  returning : ∀ r ∈ d.returning, r.IsClear
  selects : ∀ s ∈ d.selects, s.IsClear
  orderBys : ∀ p ∈ d.orderBys, p.1.IsClear
  comment : d.comment.truth = false

/-- A list that is extended by what it lacks has only what it had and what it is extended by. -/
theorem mem_of_mem_foldl {α β : Type} {f : α → β} {known : List β → α → Bool} {xs : List α} {ys : List β} {y : β}
    (h : y ∈ xs.foldl (fun acc x => if known acc x then acc else acc ++ [f x]) ys) : y ∈ ys ∨ ∃ x ∈ xs, f x = y := by
  induction xs generalizing ys with
  | nil => exact .inl h
  | cons x xs ih =>
    rw [List.foldl_cons] at h
    rcases ih h with hacc | ⟨x', hx', hy⟩
    · split at hacc
      · exact .inl hacc
      · rcases List.mem_append.mp hacc with hold | hnew
        · exact .inl hold
        · exact .inr ⟨x, List.mem_cons_self, (List.mem_singleton.mp hnew).symm⟩
    · exact .inr ⟨x', List.mem_cons_of_mem x hx', hy⟩

namespace Value

theorem isClear_text {s : String} : (Value.text s).IsClear ↔ NoColon s :=
  ⟨fun h => h.text s rfl, fun h => ⟨h, fun _ ht => Option.some.inj ht ▸ h⟩⟩

theorem isClear_null : Value.null.IsClear := ⟨by decide, nofun⟩

theorem IsClear.orElse {v w : Value} (hv : v.IsClear) (hw : w.IsClear) : (v.orElse w).IsClear := by
  unfold Value.orElse
  split
  · exact hv
  · exact hw

theorem IsClear.nameText {v : Value} {s : String} (hv : v.IsClear) (h : Dialect.nameText v = .ok s) : NoColon s := by
  refine hv.text s ?_
  unfold Dialect.nameText at h
  split at h
  · next hs =>
    cases h
    exact hs
  · cases h
  · cases h

theorem noColon_joined {vs : List Value} {sql : String} (hvs : ∀ v ∈ vs, v.IsClear)
    (h : Value.joined ", " vs = .ok sql) : NoColon sql := by
  obtain ⟨texts, htexts, h⟩ := Result.bind_eq_ok.mp h
  cases h
  refine noColon_intercalate (by decide) fun t ht => ?_
  obtain ⟨v, hv, htext⟩ := Result.exists_of_mem_mapM htexts ht
  split at htext
  · next hs =>
    cases htext
    exact (hvs v hv).text _ hs
  · cases htext

end Value

namespace Entity

variable {e : Entity} {c : Column} {name : String}

theorem mem_of_column? (h : e.column? name = some c) : c ∈ e.columns := by
  unfold column? at h
  split at h
  · next hfound =>
    cases h
    exact List.mem_of_find?_eq_some hfound
  · exact List.mem_of_find?_eq_some h

theorem IsClear.columnName (he : e.IsClear) (hname : NoColon name) : NoColon (e.columnName name) := by
  unfold Entity.columnName
  split
  · next c hc => exact he.columns c (mem_of_column? hc)
  · exact hname

/-- A property of the entity is written by the name of a column, whatever it is called itself. -/
theorem IsClear.columnName_property (he : e.IsClear) (hc : c ∈ e.columns) : NoColon (e.columnName c.property) := by
  unfold Entity.columnName
  split
  · next c' hc' => exact he.columns c' (mem_of_column? hc')
  · next hnone =>
    unfold column? at hnone
    split at hnone
    · cases hnone
    · next hfind => simpa using List.find?_eq_none.mp hfind c hc

end Entity

namespace Dialect

variable {d : Dialect}

theorem noColon_escape {name : String} (h : NoColon name) : NoColon (d.escape name) := by
  have hquote : ':' ≠ d.quoteChar := by cases d <;> decide
  have hdoubled : ':' ∉ doubled d.quoteChar name.toList := fun hmem => by
    obtain ⟨c, hc, hmem⟩ := List.mem_flatMap.mp hmem
    have hcolon : ':' = c := by
      split at hmem
      · simpa using hmem
      · simpa using hmem
    exact h (hcolon ▸ hc)
  simp [NoColon, escape, hquote, hdoubled]

theorem noColon_escapeValue {v : Value} {sql : String} (hv : v.IsClear) (h : d.escapeValue v = .ok sql) :
    NoColon sql := by
  obtain ⟨s, hs, rfl⟩ := Result.map_eq_ok.mp h
  exact noColon_escape (hv.nameText hs)

theorem mem_of_mem_segments {cs s : List Char} (hs : s ∈ segments cs) : ∀ c ∈ s, c ∈ cs := by
  induction cs generalizing s with
  | nil =>
    rw [segments, List.mem_singleton] at hs
    simp [hs]
  | cons c cs ih =>
    rw [segments] at hs
    split at hs
    · rcases List.mem_cons.mp hs with rfl | hs
      · simp
      · exact fun x hx => List.mem_cons_of_mem c (ih hs x hx)
    · split at hs
      · rw [List.mem_singleton] at hs
        simp [hs]
      · next first more hmore =>
        rcases List.mem_cons.mp hs with rfl | hs
        · intro x hx
          rcases List.mem_cons.mp hx with rfl | hx
          · exact List.mem_cons_self
          · exact List.mem_cons_of_mem c (ih (hmore ▸ List.mem_cons_self) x hx)
        · exact fun x hx => List.mem_cons_of_mem c (ih (hmore ▸ List.mem_cons_of_mem _ hs) x hx)

theorem noColon_tablePathValue {v : Value} {sql : String} (hv : v.IsClear) (h : d.tablePathValue v = .ok sql) :
    NoColon sql := by
  obtain ⟨s, hs, rfl⟩ := Result.map_eq_ok.mp h
  refine noColon_intercalate (by decide) fun t ht => ?_
  obtain ⟨cs, hcs, rfl⟩ := List.mem_map.mp ht
  split
  · decide
  · refine noColon_escape fun hmem => hv.nameText hs ?_
    rw [String.toList_ofList] at hmem
    exact mem_of_mem_segments hcs ':' hmem

theorem noColon_tableName {e : Entity} (h : e.IsClear) : NoColon (d.tableName e.table e.schema e.database) := by
  have hparts {parts : List (Option String)} (hparts : ∀ p ∈ parts, ∀ s, p = some s → NoColon s) :
      NoColon (String.intercalate "." ((parts.filterMap id).filter (· ≠ ""))) := by
    refine noColon_intercalate (by decide) fun s hs => ?_
    obtain ⟨p, hp, hs⟩ := List.mem_filterMap.mp (List.mem_of_mem_filter hs)
    exact hparts p hp s hs
  have htable : ∀ s, some e.table = some s → NoColon s := fun s hs => Option.some.inj hs ▸ h.table
  have hschema : ∀ s, e.schema = some s → NoColon s := h.schema
  have hdatabase : ∀ s, e.database = some s → NoColon s := h.database
  cases d with
  | postgres => exact hparts (List.forall_mem_cons.mpr ⟨hschema, List.forall_mem_singleton.mpr htable⟩)
  | mysql | mariadb => exact hparts (List.forall_mem_cons.mpr ⟨hdatabase, List.forall_mem_singleton.mpr htable⟩)
  | mssql =>
    exact hparts (List.forall_mem_cons.mpr
      ⟨hdatabase, List.forall_mem_cons.mpr ⟨hschema, List.forall_mem_singleton.mpr htable⟩⟩)
  | sqlite | sqljs => exact h.table

theorem noColon_toString (n : Nat) : NoColon (toString n) := fun hmem => by
  have := isDigit_of_mem_toString hmem
  revert this
  decide

/-! ## Paging -/

theorem isTail_limitOffset {limit offset : Option String} (hlimit : ∀ l ∈ limit, NoColon l)
    (hoffset : ∀ o ∈ offset, NoColon o) : IsTail (limitOffset limit offset) := by
  have hwords : IsTail " LIMIT " ∧ IsTail " OFFSET " := by constructor <;> decide
  have hlimited {l : String} (hl : NoColon l) : IsTail (" LIMIT " ++ l) := hwords.1.more (by decide) hl
  cases limit with
  | none =>
    cases offset with
    | none => decide
    | some o => exact hwords.2.more (by decide) (hoffset o rfl)
  | some l =>
    cases offset with
    | none => exact hlimited (hlimit l rfl)
    | some o =>
      refine ((hlimited (hlimit l rfl)).append hwords.2).more ?_ (hoffset o rfl)
      simp

theorem isTail_window {limit offset : Option String} {skipped : String} (hlimit : ∀ l ∈ limit, NoColon l)
    (hoffset : ∀ o ∈ offset, NoColon o) (hskipped : NoColon skipped) (ordered : Bool) :
    IsTail (d.window limit offset skipped ordered) := by
  have hwindow := isTail_limitOffset hlimit hoffset
  have hlast {lead o : String} (hlead : IsTail lead) (hfilled : lead ≠ "") (ho : o ∈ offset) : IsTail (lead ++ o) :=
    hlead.more hfilled (hoffset o ho)
  have hpage : IsTail ((if ordered then "" else " ORDER BY (SELECT NULL)") ++ " OFFSET " ++ skipped ++ " ROWS" ++
      (match limit with
        | some l => " FETCH NEXT " ++ l ++ " ROWS ONLY"
        | none => "")) := by
    have hordered : IsTail (if ordered then "" else " ORDER BY (SELECT NULL)") := by
      cases ordered
      · decide
      · decide
    have hskip : IsTail ((if ordered then "" else " ORDER BY (SELECT NULL)") ++ " OFFSET " ++ skipped) :=
      (hordered.append (by decide)).more (by simp) hskipped
    refine (hskip.append (by decide)).append ?_
    cases limit with
    | none => exact (by decide : IsTail "")
    | some l =>
      have hnext : IsTail (" FETCH NEXT " ++ l) := IsTail.more (by decide) (by decide) (hlimit l rfl)
      exact hnext.append (by decide)
  cases d with
  | postgres => exact hwindow
  | mysql | mariadb | sqlite | sqljs =>
    cases limit with
    | some l => exact hwindow
    | none =>
      cases offset with
      | none => exact hwindow
      | some o => exact hlast (by decide) (by decide) rfl
  | mssql =>
    cases limit with
    | some l => exact hpage
    | none =>
      cases offset with
      | none => exact (by decide : IsTail "")
      | some o => exact hpage

theorem isTail_paging (limit offset : Option Nat) (ordered : Bool) : IsTail (d.paging limit offset ordered) := by
  have hnumber (n? : Option Nat) : ∀ s ∈ n?.map toString, NoColon s := fun s hs => by
    obtain ⟨n, -, rfl⟩ := Option.map_eq_some_iff.mp hs
    exact noColon_toString n
  exact isTail_window (hnumber limit) (hnumber offset) (noColon_toString _) ordered

end Dialect

end SqlWeave
