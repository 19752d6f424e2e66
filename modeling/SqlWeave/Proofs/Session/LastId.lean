import SqlWeave.Proofs.Session.InsertOutcome
import SqlWeave.Proofs.Session.RowId

/-!
# Keys that follow from one id

A backend that hands no rows back reports one id, or answers the question for it: that of the first row in the
mysql family, that of the last one in the sqlite family. `Insert.Stores` says what a database does with the rows
of an INSERT, and `Reply.Reports` what it reports of it. Where every row was stored, the ids that the database
made are counted on or back from the one that is known; where one was skipped, none is counted.

So no identifier names the id of another row: it holds the id of its own row, or the key that a skipped row gives
by itself.
-/

namespace SqlWeave

/-! ## The question for the last row id -/

namespace World

/-- May a row answer the question for the last row id? It may be missing, or hold no id. -/
def answersRowId (id : Value) : Option (List Value) → Prop
  | none => True
  | some [] => False
  | some (head :: _) => head = .null ∨ head = id

/-- Whenever the native database is asked for the last row id, it answers with `id`, if it answers with one. -/
def AnswersRowId (id : Value) (w : World) : Prop :=
  match w.backend.rowIds with
  | none => answersRowId id (some [w.backend.lastRowId])
  | some answers => ∀ row ∈ answers, answersRowId id row

theorem asked_iff {id : Value} {w : World} :
    w.Asked (answersRowId id) ↔ w.dialect = .sqljs ∧ w.AnswersRowId id :=
  ⟨fun h => ⟨h.dialect, h.answers⟩, fun h => ⟨h.1, h.2⟩⟩

end World

theorem Session.tellsId_of_answersRowId {id index count here : Value} {row : Option (List Value)}
    (hhere : Generated.idFromLast id index count = .ok here) (h : World.answersRowId id row) :
    TellsId index count (· = here) row := by
  match row, h with
  | none, _ => exact trivial
  | some [], h => exact h
  | some (_ :: _), .inl hnull => exact .inl hnull
  | some (_ :: _), .inr rfl => exact .inr ⟨here, hhere, rfl⟩

/-! ## What the database stores and the backend reports -/

/-- A database stores the rows of an INSERT in their order. Each has an id in the end, unless it was skipped: the
one that was written for it, or one that the database made. -/
structure Insert.Stores (d : Draft) (c : Column) (rows : List Record) (ids : List (Option Value)) : Prop where
  length : ids.length = rows.length
  written : Writes d rows c → ∀ (i : Nat) row v id, rows[i]? = some row → c.given? row = some v →
    v.isCallable = false → ids[i]? = some (some id) → id = v
  made : ∀ (i : Nat) row id, rows[i]? = some row → c.given? row = none → ids[i]? = some (some id) → ∃ n, id = .int n
  counted : (∀ row ∈ rows, c.given? row = none) → none ∉ ids →
    ∃ first : Int, ∀ i < rows.length, ids[i]? = some (some (.int (first + i)))
  skips : none ∈ ids → d.onIgnore.truth = true

/-- A backend reports how many rows were stored, or nothing, and one of their ids, or nothing: the first one when
the database made it, or the last one. -/
structure Reply.Reports (reply : Reply) (dialect : Dialect) (c : Column) (rows : List Record)
    (ids : List (Option Value)) : Prop where
  unreturned : reply.rows = none
  count : reply.touched = none ∨ reply.touched = some (Int.ofNat (ids.countP Option.isSome))
  first : dialect.lastIdIsFinalRow = false → ∀ row id, rows[0]? = some row → c.given? row = none →
    ids[0]? = some (some id) → reply.lastRowId.truth = true → reply.lastRowId = id
  last : dialect = .sqlite → ∀ id, ids.reduceOption.getLast? = some id → reply.lastRowId.truth = true →
    reply.lastRowId = id

/-- Where ids are looked up, the one that can be found is that of the last row that was stored. -/
def World.TellsLast (ids : List (Option Value)) (w : World) : Prop :=
  w.dialect = .sqljs → ∀ id, ids.reduceOption.getLast? = some id → w.AnswersRowId id

namespace Insert

variable {d : Draft} {c : Column} {rows : List Record} {ids : List (Option Value)} {reply : Reply} {dialect : Dialect}

theorem Stores.none_not_mem (h : Stores d c rows ids) (hreply : reply.Reports dialect c rows ids)
    (hall : Generated.TellsAll d (reply.outcome dialect) rows.length) : none ∉ ids := by
  have haffected : (reply.outcome dialect).affected = reply.touched := by rw [Reply.outcome, hreply.unreturned]
  rw [Generated.TellsAll, haffected] at hall
  intro hmem
  rcases hall with hall | ⟨hignore, -⟩
  · have hcount : ids.countP Option.isSome = ids.length := by
      rcases hreply.count with hnone | hsome
      · rw [hnone] at hall
        cases hall
      · rw [h.length]
        exact Int.ofNat_inj.mp (Option.some.inj (hsome.symm.trans hall))
    exact absurd (List.countP_eq_length.mp hcount none hmem) Bool.false_ne_true
  · exact absurd (h.skips hmem) (by rw [hignore]; exact Bool.false_ne_true)

theorem Stores.exists_stored (h : Stores d c rows ids) {i : Nat} (hi : i < rows.length) :
    ∃ stored, ids[i]? = some stored :=
  ⟨_, List.getElem?_eq_getElem (h.length ▸ hi)⟩

/-- Where the database made all keys, that of a row is counted on from the first one. -/
theorem Stores.id_from_first (h : Stores d c rows ids) (hreply : reply.Reports dialect c rows ids)
    (hfinal : dialect.lastIdIsFinalRow = false) (hall : none ∉ ids) {i : Nat} (hi : i < rows.length)
    (hmade : ∀ row ∈ rows, c.given? row = none) :
    ∃ first : Int, (reply.lastRowId.truth = true → reply.lastRowId = .int first) ∧
      ids[i]? = some (some (.int (first + i))) := by
  obtain ⟨first, hfirst⟩ := h.counted hmade hall
  refine ⟨first, fun htruth => ?_, hfirst i hi⟩
  have hpos : 0 < rows.length := Nat.zero_lt_of_lt hi
  have hid : ids[0]? = some (some (.int first)) := by
    rw [hfirst 0 hpos, Int.natCast_zero, Int.add_zero]
  exact hreply.first hfinal _ _ (List.getElem?_eq_getElem hpos) (hmade _ (List.getElem_mem hpos)) hid htruth

/-- The key of a row that the database made is counted back from the last one: it is that of the last row itself,
or the database made all of them. -/
theorem Stores.id_from_last (h : Stores d c rows ids) (hall : none ∉ ids) {i : Nat} (hi : i < rows.length)
    (hmade : (∀ row ∈ rows, c.given? row = none) ∨
      i + 1 = rows.length ∧ ∀ row, rows[i]? = some row → c.given? row = none) :
    ∃ last : Int, ids.reduceOption.getLast? = some (.int last) ∧
      ids[i]? = some (some (.int (last - rows.length + i + 1))) := by
  have hlast {id : Value} (hget : ids[rows.length - 1]? = some (some id)) : ids.reduceOption.getLast? = some id := by
    rw [← h.length, ← List.getLast?_eq_getElem?] at hget
    obtain ⟨others, rfl⟩ := List.getLast?_eq_some_iff.mp hget
    rw [List.reduceOption_append]
    exact List.getLast?_concat
  rcases hmade with hmade | ⟨hfinal, hmade⟩
  · obtain ⟨first, hfirst⟩ := h.counted hmade hall
    refine ⟨first + (rows.length - 1 : Nat), hlast (hfirst _ (by omega)), ?_⟩
    rw [hfirst i hi]
    congr 3
    omega
  · have hrow := List.getElem?_eq_getElem hi
    obtain ⟨stored, hstored⟩ := h.exists_stored hi
    cases stored with
    | none => exact absurd (List.mem_of_getElem? hstored) hall
    | some id =>
      obtain ⟨n, rfl⟩ := h.made i _ id hrow (hmade _ hrow) hstored
      obtain rfl : i = rows.length - 1 := by omega
      refine ⟨n, hlast hstored, ?_⟩
      rw [hstored]
      congr 3
      omega

end Insert

/-! ## Ids that are told -/

namespace Generated

variable {reply : Reply} {dialect : Dialect} {e : Entity}

theorem mem_of_mem_nonempty {m : Record} {p : String × Value} (h : p ∈ (nonempty m).getD []) : p ∈ m := by
  unfold nonempty at h
  split at h
  · exact absurd h List.not_mem_nil
  · exact h

theorem mem_underAll {columns : List Column} {v : Value} {p : String × Value} (h : p ∈ underAll columns v) :
    p.2 = v := by
  have haux (columns : List Column) (acc : Record) (hacc : ∀ p ∈ acc, p.2 = v) :
      ∀ p ∈ columns.foldl (fun acc c => Assoc.put acc c.property v) acc, p.2 = v := by
    induction columns generalizing acc with
    | nil => exact hacc
    | cons c columns ih =>
      refine ih _ fun p hp => ?_
      rcases Assoc.mem_of_mem_put hp with hp | rfl
      · exact hacc p hp
      · rfl
  exact haux columns [] (fun p hp => absurd hp List.not_mem_nil) p h

theorem lastId_outcome (hreports : dialect.reportsLastId = true) (hrows : reply.rows = none) :
    lastId (reply.outcome dialect).raw = .null ∨
      reply.lastRowId.truth = true ∧ lastId (reply.outcome dialect).raw = reply.lastRowId := by
  have hid : lastId (reply.outcome dialect).raw = if reply.lastRowId.truth then reply.lastRowId else .null := by
    rw [Reply.outcome, hrows, hreports]
    rfl
  rw [hid]
  by_cases htruth : reply.lastRowId.truth = true
  · rw [if_pos htruth]
    exact .inr ⟨htruth, rfl⟩
  · rw [if_neg htruth]
    exact .inl rfl

/-- The dialects that report the id of the first row count on from it. -/
theorem ofAnswer_of_first {answer : QueryOutcome} {first : Int} (hdialect : dialect = .mysql ∨ dialect = .mariadb)
    (hrecords : answer.records = []) (hid : lastId answer.raw = .null ∨ lastId answer.raw = .int first) (i : Int)
    (count : Value) : ∃ generated, ofAnswer dialect e answer (.int i) count = .ok generated ∧
      ∀ p ∈ generated.getD [], p.2 = .int (first + i) := by
  let columns := e.generatedColumns.filter fun c => c.generation = some .increment
  have hanswer : ofAnswer dialect e answer (.int i) count =
      if (lastId answer.raw).isNull || columns.isEmpty then .ok none
      else ((lastId answer.raw).plus (.int i)).map fun v => nonempty (underAll columns v) := by
    unfold ofAnswer
    rcases hdialect with rfl | rfl
    all_goals
      dsimp only
      rw [hrecords]
      rfl
  rw [hanswer]
  split
  · exact ⟨none, rfl, fun p hp => absurd hp List.not_mem_nil⟩
  · next hthere =>
    have hid : lastId answer.raw = .int first := hid.resolve_left fun hnull => hthere (by rw [hnull]; rfl)
    rw [hid]
    exact ⟨_, rfl, fun p hp => mem_underAll (mem_of_mem_nonempty hp)⟩

/-- The dialects that report the id of the last row count back from it. -/
theorem ofAnswer_of_last {answer : QueryOutcome} {last : Int}
    (hid : lastId answer.raw = .null ∨ lastId answer.raw = .int last) (i n : Int) :
    ∃ generated, ofAnswer .sqlite e answer (.int i) (.int n) = .ok generated ∧
      ∀ p ∈ generated.getD [], p.2 = .int (last - n + i + 1) := by
  unfold ofAnswer
  dsimp only
  rcases hid with hid | hid
  · rw [hid]
    exact ⟨none, rfl, fun p hp => absurd hp List.not_mem_nil⟩
  · rw [hid]
    exact ⟨_, rfl, fun p hp => mem_underAll (mem_of_mem_nonempty hp)⟩

end Generated

namespace Session

variable {b : Builder Nat} {e : Entity} {c : Column} {rows : List Record} {ids : List (Option Value)} {reply : Reply}
  {w : World}

/-- Where ids are looked up, they are counted back from the one that is found. -/
theorem ends_generatedMap_of_asked {answer : QueryOutcome} {last : Int} (hw : w.Asked (World.answersRowId (.int last)))
    (i n : Int) : ∃ generated v, ends (generatedMap e answer (.int i) (.int n)) w = (.ok generated, v) ∧
      v.Asked (World.answersRowId (.int last)) ∧ ∀ p ∈ generated.getD [], p.2 = .int (last - n + i + 1) := by
  have hhere : Generated.idFromLast (.int last) (.int i) (.int n) = .ok (.int (last - n + i + 1)) := rfl
  obtain ⟨found, v, hfound, hv, -, hall⟩ := ends_lookUpIds trivial (fun _ => tellsId_of_answersRowId hhere)
    (e.generatedColumns.filter fun c => c.isPrimary && c.generation = some .increment) hw
  refine ⟨Generated.nonempty found, v, ?_, hv, fun p hp => hall p (Generated.mem_of_mem_nonempty hp)⟩
  unfold generatedMap
  rw [ends_bind_ok (ends_get w), hw.dialect]
  exact (ends_bind_ok hfound).trans rfl

/-- What is told of a known row is the id that it was stored under, whatever the dialect does to find it. -/
theorem ends_generatedMap_of_lastId {d : Draft} {dialect : Dialect} (hdialect : w.dialect = dialect)
    (hreports : dialect.reportsLastId = true) (hstores : Insert.Stores d c rows ids)
    (hreply : reply.Reports dialect c rows ids) (hall : none ∉ ids) {i : Nat} (hi : i < rows.length)
    (hmade : (∀ row ∈ rows, c.given? row = none) ∨
      dialect.lastIdIsFinalRow = true ∧ i + 1 = rows.length ∧ ∀ row, rows[i]? = some row → c.given? row = none)
    (hw : w.TellsLast ids) :
    ∃ generated v, ends (generatedMap e (reply.outcome dialect) (.int i) (.int rows.length)) w = (.ok generated, v) ∧
      (v.dialect = dialect ∧ v.TellsLast ids) ∧ ∀ p ∈ generated.getD [], ids[i]? = some (some p.2) := by
  have hreported := Generated.lastId_outcome hreports hreply.unreturned
  have hfamily : (dialect = .mysql ∨ dialect = .mariadb) ∨ dialect = .sqlite ∨ dialect = .sqljs := by
    cases dialect <;> first | (cases hreports; done) | simp
  rcases hfamily with hcounted | hembedded
  · have hfinal : dialect.lastIdIsFinalRow = false := by rcases hcounted with rfl | rfl <;> rfl
    have hmade := hmade.resolve_right fun h => absurd (hfinal.symm.trans h.1) Bool.false_ne_true
    have hrecords : (reply.outcome dialect).records = [] := by rw [Reply.outcome, hreply.unreturned]
    obtain ⟨first, hfirst, hid⟩ := hstores.id_from_first hreply hfinal hall hi hmade
    obtain ⟨generated, hanswer, htold⟩ := Generated.ofAnswer_of_first (e := e) hcounted hrecords
      (hreported.imp_right fun h => h.2.trans (hfirst h.1)) i (.int rows.length)
    refine ⟨generated, w, ends_generatedMap hdialect ?_ hanswer, ⟨hdialect, hw⟩, fun p hp => ?_⟩
    · rcases hcounted with rfl | rfl <;> decide
    · rw [hid, htold p hp]
  · obtain ⟨last, hlast, hid⟩ := hstores.id_from_last hall hi (hmade.imp_right And.right)
    rcases hembedded with rfl | rfl
    · obtain ⟨generated, hanswer, htold⟩ := Generated.ofAnswer_of_last (e := e)
        (hreported.imp_right fun h => h.2.trans (hreply.last rfl _ hlast h.1)) i rows.length
      refine ⟨generated, w, ends_generatedMap hdialect (by decide) hanswer, ⟨hdialect, hw⟩, fun p hp => ?_⟩
      rw [hid, htold p hp]
    · obtain ⟨generated, v, hends, hv, htold⟩ :=
        ends_generatedMap_of_asked (e := e) (World.asked_iff.mpr ⟨hdialect, hw hdialect _ hlast⟩) i rows.length
      refine ⟨generated, v, hends, ⟨hv.dialect, fun _ id hlast' => ?_⟩, fun p hp => ?_⟩
      · obtain rfl := Option.some.inj (hlast.symm.trans hlast')
        exact hv.answers
      · rw [hid, htold p hp]

/-- The outcome tells of each row no other id than its own. -/
theorem ends_outcomeOf_of_lastId (hreports : w.dialect.reportsLastId = true) (hkind : b.kind = .insert)
    (hentity : b.draft.entity = .ok (some e)) (hrows : b.draft.valueSets = .ok (rows.map .record))
    (hkey : e.generatedKeys = [c]) (hstores : Insert.Stores b.draft c rows ids)
    (hreply : reply.Reports w.dialect c rows ids) (hw : w.TellsLast ids) :
    ∃ o v, ends (outcomeOf b (reply.outcome w.dialect)) w = (.ok (.inserted o), v) ∧
      o.Covers e rows fun i generated => ∀ p ∈ generated, ids[i]? = some (some p.2) := by
  obtain ⟨known, hknows, hspec⟩ := Generated.exists_knownRows w.dialect b.draft e (reply.outcome w.dialect) rows
  have hleaves (row : Record) : e.LeavesKey row ↔ c.given? row = none := by
    rw [Entity.LeavesKey, hkey, List.forall_mem_singleton]
  have hrecords : (reply.outcome w.dialect).records = [] := by rw [Reply.outcome, hreply.unreturned]
  have hknown (i : Nat) (u : World) (hi : b.draft.updateEntity.truth = true ∧ i ∈ known)
      (hu : u.dialect = w.dialect ∧ u.TellsLast ids) :
      ∃ generated v, ends (generatedMap e (reply.outcome w.dialect) (.int i) (.int rows.length)) u =
          (.ok generated, v) ∧
        (v.dialect = w.dialect ∧ v.TellsLast ids) ∧ ∀ p ∈ generated.getD [], ids[i]? = some (some p.2) := by
    obtain ⟨hlt, htells, hmade⟩ := hspec.reported hrecords hreports i hi.2
    simp only [hleaves] at hmade
    have hall := hstores.none_not_mem hreply htells
    exact ends_generatedMap_of_lastId (e := e) hu.1 hreports hstores hreply hall hlt hmade hu.2
  obtain ⟨o, v, ho, -, hcovers⟩ := ends_outcomeOf_insert
    (T := fun i generated => ∀ p ∈ generated, ids[i]? = some (some p.2)) hkind hentity hrows hknows hknown
    (fun i _ p hp => absurd hp List.not_mem_nil) ⟨rfl, hw⟩
  exact ⟨o, v, ho, hcovers⟩

/-- The key that an identifier holds for a row is the one that the row was stored under, or the one that it gives
although it was skipped. -/
theorem identifiers_stored (hreports : w.dialect.reportsLastId = true) (hkind : b.kind = .insert)
    (hentity : b.draft.entity = .ok (some e)) (hrows : b.draft.valueSets = .ok (rows.map .record))
    (hkey : e.generatedKeys = [c]) (hplain : ∀ row ∈ rows, ∀ v, c.given? row = some v → v.isCallable = false)
    (hrequested : b.draft.insertColumns.getD [] = [] ∨
      (Value.text c.property).isAmong (b.draft.insertColumns.getD []) = true)
    (hstores : Insert.Stores b.draft c rows ids) (hreply : reply.Reports w.dialect c rows ids) (hw : w.TellsLast ids) :
    ∃ o v, ends (outcomeOf b (reply.outcome w.dialect)) w = (.ok (.inserted o), v) ∧
      o.identifiers.length = rows.length ∧
      ∀ (i : Nat) row key, rows[i]? = some row → o.identifiers[i]? = some (some key) →
        ∃ id, Assoc.get? key c.property = some id ∧
          (ids[i]? = some (some id) ∨ ids[i]? = some none ∧ c.given? row = some id) := by
  obtain ⟨o, v, ho, hcovers⟩ :=
    ends_outcomeOf_of_lastId hreports hkind hentity hrows hkey hstores hreply hw
  refine ⟨o, v, ho, hcovers.identifiers_length, fun i row key hrow hidentifier => ?_⟩
  obtain ⟨hc, hprimary⟩ := List.mem_filter.mp (hkey ▸ List.mem_singleton.mpr rfl : c ∈ e.generatedKeys)
  have hcolumn := (List.mem_filter.mp hc).1
  obtain ⟨generated, htold, -, hmade⟩ := hcovers.row i row hrow
  have hmade : e.keyMap (.record (Generated.completed row generated)) = some key :=
    Option.some.inj (hmade.symm.trans hidentifier)
  obtain ⟨id, hid, hgiven⟩ := Entity.given?_of_keyMap hmade (List.mem_filter.mpr ⟨hcolumn, hprimary⟩)
  refine ⟨id, hid, ?_⟩
  rcases Generated.given?_completed hgiven with hgiven | ⟨-, hmem⟩
  · -- The row gives the key, which is written then: if it was stored, it was stored under this key.
    have hmem := List.mem_of_getElem? hrow
    have hwrites := Insert.writes_of_given hentity hcolumn hrequested hmem (Option.isSome_of_eq_some hgiven)
    obtain ⟨stored, hstored⟩ := hstores.exists_stored (List.getElem?_eq_some_iff.mp hrow).1
    cases stored with
    | none => exact .inr ⟨hstored, hgiven⟩
    | some id' =>
      obtain rfl := hstores.written hwrites i row id id' hrow hgiven (hplain row hmem id hgiven) hstored
      exact .inl hstored
  · exact .inl (htold _ hmem)

end Session

/-! ## A skipped row that gives its key -/

namespace Session

/-- Of three users the second one was skipped, since its key was taken. -/
theorem identifies_skippedUser :
    let rows : List Record :=
      [[("name", .text "ann")], [("id", .int 2), ("name", .text "ben")], [("name", .text "cid")]]
    let ids : List (Option Value) := [some (.int 3), none, some (.int 4)]
    let reply : Reply := { affected := some 2, lastRowId := .int 4 }
    Insert.Stores (Builder.insertUsers rows).draft .userId rows ids ∧ reply.Reports .sqlite .userId rows ids ∧
      ∃ o v, ends (outcomeOf (.insertUsers rows) (reply.outcome .sqlite)) { dialect := .sqlite } =
          (.ok (.inserted o), v) ∧
        ¬ ∀ (i : Nat) key, o.identifiers[i]? = some (some key) →
          ∃ id, Assoc.get? key "id" = some id ∧ ids[i]? = some (some id) := by
  intro rows ids reply
  refine ⟨⟨rfl, ?_, ?_, ?_, fun _ => rfl⟩, ⟨rfl, .inr rfl, nofun, ?_⟩, ?_⟩
  · rintro - (_ | _ | _ | i) row v id hrow hgiven - hid <;> cases hrow <;> first | cases hgiven; done | cases hid
  · rintro (_ | _ | _ | i) row id hrow hgiven hid <;> cases hrow <;> cases hid
    · exact ⟨3, rfl⟩
    · exact ⟨4, rfl⟩
  · exact fun _ hall => absurd (List.mem_cons_of_mem _ List.mem_cons_self) hall
  · rintro - id hlast -
    exact Option.some.inj hlast
  · refine ⟨_, _, rfl, fun h => ?_⟩
    obtain ⟨id, -, hid⟩ := h 1 [("id", .int 2)] rfl
    cases hid

/-- Of two users the first one gives its key, and the key of the second one is looked up. -/
theorem identifiers_lookedUp :
    let rows : List Record := [[("id", .int 7), ("name", .text "ann")], [("name", .text "ben")]]
    let ids : List (Option Value) := [some (.int 7), some (.int 8)]
    let reply : Reply := { affected := some 2, lastRowId := .int 8 }
    let w : World := { dialect := .sqljs, live := some 0, backend := { lastRowId := .int 8 } }
    ∃ o v, ends (outcomeOf (.insertUsers rows) (reply.outcome .sqljs)) w = (.ok (.inserted o), v) ∧
      o.identifiers = [some [("id", .int 7)], some [("id", .int 8)]] ∧
      ∀ (i : Nat) row key, rows[i]? = some row → o.identifiers[i]? = some (some key) →
        ∃ id, Assoc.get? key "id" = some id ∧
          (ids[i]? = some (some id) ∨ ids[i]? = some none ∧ Column.userId.given? row = some id) := by
  intro rows ids reply w
  have hstores : Insert.Stores (Builder.insertUsers rows).draft .userId rows ids := by
    refine ⟨rfl, ?_, ?_, ?_, fun _ => rfl⟩
    · rintro - (_ | _ | i) row v id hrow hgiven - hid <;> cases hrow <;> cases hgiven
      cases hid
      rfl
    · rintro (_ | _ | i) row id hrow hgiven hid <;> cases hrow <;> cases hid
      · exact ⟨7, rfl⟩
      · exact ⟨8, rfl⟩
    · exact fun h => absurd (h _ List.mem_cons_self) nofun
  have hreply : reply.Reports .sqljs .userId rows ids := ⟨rfl, .inr rfl, nofun, nofun⟩
  have hplain : ∀ row ∈ rows, ∀ v, Column.userId.given? row = some v → v.isCallable = false := by
    rintro row hrow v hgiven
    rcases List.mem_pair.mp hrow with rfl | rfl
    · cases hgiven
      rfl
    · cases hgiven
  have hasked : w.TellsLast ids := by
    rintro - id hlast
    obtain rfl := Option.some.inj hlast
    exact .inr rfl
  obtain ⟨o, v, ho, -, hidentifiers⟩ := identifiers_stored (b := .insertUsers rows) (w := w) rfl rfl rfl rfl rfl
    hplain (.inl rfl) hstores hreply hasked
  have hrun : (ends (outcomeOf (.insertUsers rows) (reply.outcome .sqljs)) w).1 = .ok (.inserted
      { identifiers := [some [("id", .int 7)], some [("id", .int 8)]]
        generatedMaps := [[], [("id", .int 8)]]
        raw := .record [("affected_rows", .int 2), ("last_insert_id", .int 8)] }) := rfl
  rw [ho] at hrun
  cases hrun
  exact ⟨_, v, ho, rfl, hidentifiers⟩

end Session

end SqlWeave
