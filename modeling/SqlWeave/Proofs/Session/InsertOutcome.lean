import Mathlib.Data.List.ReduceOption
import SqlWeave.Proofs.Session.Standing
import SqlWeave.Proofs.Statement.InsertedRows

/-!
# The outcome of an INSERT

The outcome of an INSERT has a place for each row, in the order of the rows: `InsertOutcome.Covers` says what
stands there. The values that the database made for a row are found out one row after the other, which may change
the world, as long as an invariant is kept that later rows rely on.

Where the statement hands rows back, the values of a row are read from the record at the place of the row. A row
that the database skips has no record, so the records stand at the places of their rows exactly when no row was
inserted after one that was skipped.
-/

namespace SqlWeave

/-- The outcome of a row with the generated values that are known: these, and the key of the row that they fill. -/
def Generated.outcomeOfRow (e : Entity) (row generated : Record) : Record × Option Record :=
  (generated, e.keyMap (.record (completed row generated)))

/-- An outcome has a place for each row. It holds generated values of which `told` speaks, and the key of the row
that they fill. -/
structure InsertOutcome.Covers (o : InsertOutcome) (e : Entity) (rows : List Record) (told : Nat → Record → Prop) :
    Prop where
  maps_length : o.generatedMaps.length = rows.length
  identifiers_length : o.identifiers.length = rows.length
  row : ∀ i row, rows[i]? = some row → ∃ generated, told i generated ∧ o.generatedMaps[i]? = some generated ∧
    o.identifiers[i]? = some (e.keyMap (.record (Generated.completed row generated)))

namespace Session

variable {b : Builder Nat} {e : Entity} {answer : QueryOutcome} {rows : List Record} {P : World → Prop}
  {T : Nat → Record → Prop} {isKnown : Nat → Bool} {generate : Nat → Session (Option Record)} {w : World}

theorem rowOutcomes_cons (index : Nat) (row : Record) (rows : List Value) :
    Generated.rowOutcomes e isKnown generate index (.record row :: rows) =
      (if isKnown index then generate index else pure none) >>= fun generated => (do
        let more ← Generated.rowOutcomes e isKnown generate (index + 1) rows
        pure (Generated.outcomeOfRow e row (generated.getD []) :: more)) := by
  rw [Generated.rowOutcomes]
  simp only [Generated.filled_record]
  split
  · rfl
  · rfl

/-- What is found out of the rows, when `P` holds of every world on the way. -/
theorem ends_rowOutcomes (isKnown : Nat → Bool)
    (hknown : ∀ i u, isKnown i = true → P u →
      ∃ generated v, ends (generate i) u = (.ok generated, v) ∧ P v ∧ T i (generated.getD []))
    (hunknown : ∀ i, isKnown i = false → T i []) (rows : List Record) (index : Nat) (hw : P w) :
    ∃ outcomes v, ends (Generated.rowOutcomes e isKnown generate index (rows.map .record)) w = (.ok outcomes, v) ∧
      P v ∧ outcomes.length = rows.length ∧ ∀ i row, rows[i]? = some row →
        ∃ generated, T (index + i) generated ∧ outcomes[i]? = some (Generated.outcomeOfRow e row generated) := by
  induction rows generalizing index w with
  | nil => exact ⟨[], w, rfl, hw, rfl, fun i row h => by cases h⟩
  | cons row rows ih =>
    have hrow : ∃ generated u, ends (if isKnown index then generate index else pure none) w = (.ok generated, u) ∧
        P u ∧ T index (generated.getD []) := by
      cases h : isKnown index with
      | true => exact hknown index w h hw
      | false => exact ⟨none, w, rfl, hw, hunknown index h⟩
    obtain ⟨generated, u, hgenerate, hu, htold⟩ := hrow
    obtain ⟨outcomes, v, hrest, hv, hlength, hrows⟩ := ih (index + 1) hu
    refine ⟨Generated.outcomeOfRow e row (generated.getD []) :: outcomes, v, ?_, hv, congrArg (· + 1) hlength, ?_⟩
    · rw [List.map_cons, rowOutcomes_cons, ends_bind_ok hgenerate, ends_bind_ok hrest]
      rfl
    · intro i row' hrow'
      cases i with
      | zero =>
        cases hrow'
        exact ⟨_, htold, rfl⟩
      | succ i =>
        obtain ⟨generated, htold, houtcome⟩ := hrows i row' hrow'
        rw [Nat.add_right_comm] at htold
        exact ⟨generated, htold, houtcome⟩

theorem ends_insertOutcome {dialect : Dialect} {d : Draft} {known : List Nat}
    (hknows : Generated.knownRows dialect d e answer (rows.map .record) = .ok known)
    (hknown : ∀ i u, d.updateEntity.truth = true ∧ i ∈ known → P u →
      ∃ generated v, ends (generate i) u = (.ok generated, v) ∧ P v ∧ T i (generated.getD []))
    (hunknown : ∀ i, ¬ (d.updateEntity.truth = true ∧ i ∈ known) → T i []) (hw : P w) :
    ∃ o v, ends (Generated.insertOutcome dialect d (some e) (rows.map .record) answer generate) w = (.ok o, v) ∧
      P v ∧ o.Covers e rows T := by
  let isKnown (i : Nat) : Bool := d.updateEntity.truth && known.contains i
  have hiff (i : Nat) : isKnown i = true ↔ d.updateEntity.truth = true ∧ i ∈ known := by simp [isKnown]
  obtain ⟨outcomes, v, houtcomes, hv, hlength, hrows⟩ := ends_rowOutcomes (e := e) (T := T) isKnown
    (fun i u hi hu => hknown i u ((hiff i).mp hi) hu)
    (fun i hi => hunknown i (mt (hiff i).mpr (Bool.not_eq_true _ ▸ hi))) rows 0 hw
  let o : InsertOutcome :=
    { identifiers := outcomes.map Prod.snd, generatedMaps := outcomes.map Prod.fst, raw := answer.raw }
  refine ⟨o, v, ?_, hv, (List.length_map _).trans hlength, (List.length_map _).trans hlength, fun i row hrow => ?_⟩
  · unfold Generated.insertOutcome
    dsimp only
    rw [hknows]
    exact (ends_bind_ok houtcomes).trans rfl
  · obtain ⟨generated, htold, houtcome⟩ := hrows i row hrow
    rw [Nat.zero_add] at htold
    refine ⟨generated, htold, ?_, ?_⟩
    · rw [List.getElem?_map, houtcome]
      rfl
    · rw [List.getElem?_map, houtcome]
      rfl

theorem ends_outcomeOf_insert {known : List Nat} (hkind : b.kind = .insert) (hentity : b.draft.entity = .ok (some e))
    (hrows : b.draft.valueSets = .ok (rows.map .record))
    (hknows : Generated.knownRows w.dialect b.draft e answer (rows.map .record) = .ok known)
    (hknown : ∀ i u, b.draft.updateEntity.truth = true ∧ i ∈ known → P u →
      ∃ generated v, ends (generatedMap e answer (.int i) (.int rows.length)) u = (.ok generated, v) ∧ P v ∧
        T i (generated.getD []))
    (hunknown : ∀ i, ¬ (b.draft.updateEntity.truth = true ∧ i ∈ known) → T i []) (hw : P w) :
    ∃ o v, ends (outcomeOf b answer) w = (.ok (.inserted o), v) ∧ P v ∧ o.Covers e rows T := by
  obtain ⟨o, v, ho, hv, hcovers⟩ := ends_insertOutcome hknows hknown hunknown hw
  refine ⟨o, v, ?_, hv, hcovers⟩
  unfold outcomeOf
  rw [hkind, hentity, hrows]
  dsimp only
  rw [ends_bind_ok (ends_ofResult_ok ..), ends_bind_ok (ends_ofResult_ok ..), ends_bind_ok (ends_get w),
    List.length_map]
  exact (ends_bind_ok ho).trans rfl

end Session

/-! ## Rows that are handed back -/

namespace Generated

variable {e : Entity}

/-- The generated values that a record tells; none when there is no record. -/
def told (e : Entity) : Option Record → Record
  | some record => ofRow record e.generatedColumns
  | none => []

theorem recordAt_nat (records : List Record) (i : Nat) : recordAt records (.int i) = .ok records[i]? := by
  have hbelow : ¬ (i : Int) < -(records.length : Int) := by omega
  unfold recordAt
  dsimp only [Value.int?]
  rw [if_neg (Int.not_lt.mpr (Int.natCast_nonneg i)), Int.toNat_natCast, Int.ofNat_eq_natCast]
  by_cases hlt : i < records.length
  · rw [if_neg (Int.not_le.mpr (Int.ofNat_lt.mpr hlt)), List.getElem?_eq_getElem hlt]
    exact if_neg hbelow
  · rw [if_pos (Int.ofNat_le.mpr (Nat.le_of_not_lt hlt)), List.getElem?_eq_none (Nat.le_of_not_lt hlt)]

theorem ofRecords_nat (e : Entity) (records : List Record) (i : Nat) :
    ∃ generated, ofRecords e records (.int i) = .ok generated ∧ generated.getD [] = told e records[i]? := by
  refine ⟨records[i]?.bind fun row => nonempty (ofRow row e.generatedColumns), ?_, ?_⟩
  · unfold ofRecords
    rw [recordAt_nat]
    rfl
  · cases records[i]? with
    | none => rfl
    | some row =>
      show (nonempty (ofRow row e.generatedColumns)).getD [] = ofRow row e.generatedColumns
      cases ofRow row e.generatedColumns with
      | nil => rfl
      | cons p m => rfl

/-- Where rows are handed back, they alone tell the generated values. -/
theorem ofAnswer_of_rows {dialect : Dialect} (hreturns : dialect.returns .insert = true) (e : Entity) {reply : Reply}
    {records : List Record} (hrecords : reply.rows = some records) (i : Nat) (count : Value) :
    ∃ generated, ofAnswer dialect e (reply.outcome dialect) (.int i) count = .ok generated ∧
      generated.getD [] = told e records[i]? := by
  have houtcome : reply.outcome dialect =
      { records, raw := .list (records.map Value.record), affected := reply.touched } := by
    rw [Reply.outcome, hrecords]
  rw [houtcome]
  unfold ofAnswer
  cases dialect with
  | postgres | mssql => exact ofRecords_nat e records i
  | mariadb =>
    dsimp only
    cases records with
    | nil => exact ⟨none, rfl, rfl⟩
    | cons record records => exact ofRecords_nat e (record :: records) i
  | mysql | sqlite | sqljs => cases hreturns

/-- The records of the rows that were not skipped stand at the places of their rows exactly when no row was
inserted after one that was skipped. -/
theorem records_at_places_iff {α β : Type} {stored : List (Option α)} {f : Option α → β}
    (hf : ∀ a ∈ stored.reduceOption, f (some a) ≠ f none) :
    (∀ i < stored.length, f stored.reduceOption[i]? = f stored[i]?.join) ↔
      stored.Pairwise fun earlier later => earlier = none → later = none := by
  induction stored with
  | nil => simp
  | cons record stored ih =>
    cases record with
    | some a =>
      rw [List.reduceOption_cons_of_some] at hf ⊢
      rw [List.pairwise_cons, ← ih fun a ha => hf a (List.mem_cons_of_mem _ ha), List.length_cons,
        Nat.forall_lt_succ_left]
      simp
    | none =>
      rw [List.reduceOption_cons_of_none] at hf ⊢
      cases hrest : stored.reduceOption with
      | nil =>
        obtain ⟨n, rfl⟩ := (List.reduceOption_eq_nil_iff stored).mp hrest
        rw [← List.replicate_succ]
        refine iff_of_true (fun i hi => ?_) (List.pairwise_replicate.mpr (.inr fun h => h))
        rw [List.length_replicate] at hi
        rw [List.getElem?_replicate_of_lt hi]
        rfl
      | cons a rest =>
        -- The first record is given to the row that was skipped, and the row of that record gets another one.
        have ha : a ∈ stored.reduceOption := hrest ▸ List.mem_cons_self
        refine iff_of_false (fun h => hf a ha (h 0 (Nat.zero_lt_succ _))) (fun h => ?_)
        cases (List.pairwise_cons.mp h).1 (some a) (List.reduceOption_mem_iff.mp ha) rfl

end Generated

namespace Session

open Generated (told)

variable {b : Builder Nat} {e : Entity} {rows : List Record} {stored : List (Option Record)} {reply : Reply}
  {w : World}

/-- Except where ids are looked up, the answer alone tells the generated values. -/
theorem ends_generatedMap {dialect : Dialect} (hdialect : w.dialect = dialect) (hne : dialect ≠ .sqljs)
    {answer : QueryOutcome} {index count : Value} {generated : Option Record}
    (h : Generated.ofAnswer dialect e answer index count = .ok generated) :
    ends (generatedMap e answer index count) w = (.ok generated, w) := by
  unfold generatedMap
  rw [ends_bind_ok (ends_get w), hdialect]
  split
  · exact absurd rfl hne
  · rw [h]
    exact ends_ofResult_ok ..

/-- Where rows are handed back, the one at a place tells the generated values of the row at that place. -/
theorem ends_outcomeOf_of_rows (hreturns : w.dialect.returns .insert = true) (hkind : b.kind = .insert)
    (hentity : b.draft.entity = .ok (some e)) (hrows : b.draft.valueSets = .ok (rows.map .record))
    (hupdate : b.draft.updateEntity.truth = true) {records : List Record} (hrecords : reply.rows = some records)
    (hlength : records.length ≤ rows.length) :
    ∃ o v, ends (outcomeOf b (reply.outcome w.dialect)) w = (.ok (.inserted o), v) ∧
      o.Covers e rows fun i generated => generated = told e records[i]? := by
  obtain ⟨known, hknows, hspec⟩ :=
    Generated.exists_knownRows w.dialect b.draft e (reply.outcome w.dialect) rows
  have hanswered : (reply.outcome w.dialect).records = records := by rw [Reply.outcome, hrecords]
  have hknown (i : Nat) (u : World) (_ : b.draft.updateEntity.truth = true ∧ i ∈ known) (hu : u = w) :
      ∃ generated v, ends (generatedMap e (reply.outcome w.dialect) (.int i) (.int rows.length)) u =
        (.ok generated, v) ∧ v = w ∧ generated.getD [] = told e records[i]? := by
    obtain rfl := hu
    obtain ⟨generated, hgenerated, htold⟩ := Generated.ofAnswer_of_rows hreturns e hrecords i (.int rows.length)
    have hne : u.dialect ≠ .sqljs := by
      rintro h
      rw [h] at hreturns
      cases hreturns
    exact ⟨generated, u, ends_generatedMap rfl hne hgenerated, rfl, htold⟩
  have hunknown (i : Nat) (hi : ¬ (b.draft.updateEntity.truth = true ∧ i ∈ known)) : [] = told e records[i]? := by
    have hnone : records[i]? = none := by
      by_cases hnil : records = []
      · rw [hnil, List.getElem?_nil]
      · rw [hspec.returned (.inl (hanswered ▸ hnil)), List.mem_range] at hi
        exact List.getElem?_eq_none (Nat.le_trans hlength (Nat.le_of_not_lt fun hlt => hi ⟨hupdate, hlt⟩))
    rw [hnone]
    rfl
  obtain ⟨o, v, ho, -, hcovers⟩ := ends_outcomeOf_insert (T := fun i generated => generated = told e records[i]?)
    hkind hentity hrows hknows hknown hunknown rfl
  exact ⟨o, v, ho, hcovers⟩

/-- The outcome tells each row the values of its own record, and none when it was skipped, exactly when the rows that
were skipped are the last ones. Otherwise a skipped row is told the values of another one. -/
theorem covers_stored_iff (hreturns : w.dialect.returns .insert = true) (hkind : b.kind = .insert)
    (hentity : b.draft.entity = .ok (some e)) (hrows : b.draft.valueSets = .ok (rows.map .record))
    (hupdate : b.draft.updateEntity.truth = true) (hlength : stored.length = rows.length)
    (hrecords : reply.rows = some stored.reduceOption)
    (htells : ∀ record ∈ stored.reduceOption, Generated.ofRow record e.generatedColumns ≠ []) :
    ∃ o v, ends (outcomeOf b (reply.outcome w.dialect)) w = (.ok (.inserted o), v) ∧
      o.Covers e rows (fun i generated => generated = told e stored.reduceOption[i]?) ∧
      (o.Covers e rows (fun i generated => generated = told e stored[i]?.join) ↔
        stored.Pairwise fun earlier later => earlier = none → later = none) := by
  obtain ⟨o, v, ho, hcovers⟩ := ends_outcomeOf_of_rows hreturns hkind hentity hrows hupdate hrecords
    (hlength ▸ List.reduceOption_length_le stored)
  refine ⟨o, v, ho, hcovers, ?_⟩
  rw [← Generated.records_at_places_iff (f := told e) htells]
  constructor
  · intro hown i hi
    have hrow := List.getElem?_eq_getElem (hlength ▸ hi)
    obtain ⟨generated, htold, hmap, -⟩ := hcovers.row i _ hrow
    obtain ⟨generated', htold', hmap', -⟩ := hown.row i _ hrow
    rw [← htold, ← htold']
    exact Option.some.inj (hmap.symm.trans hmap')
  · intro hplaces
    refine ⟨hcovers.maps_length, hcovers.identifiers_length, fun i row hrow => ?_⟩
    obtain ⟨generated, htold, hmap⟩ := hcovers.row i row hrow
    have hi : i < stored.length := hlength ▸ (List.getElem?_eq_some_iff.mp hrow).1
    exact ⟨generated, htold.trans (hplaces i hi), hmap⟩

end Session

/-! ## A row that is skipped -/

/-- A key that is counted up by the table. -/
def Column.userId : Column :=
  { property := "id", database := "id", isPrimary := true, isGenerated := true, generation := some .increment }

def Entity.users : Entity :=
  { name := .text "users", table := "users", columns := [.userId, { property := "name", database := "name" }] }

/-- An INSERT of users, which skips those that are there already. -/
def Builder.insertUsers (rows : List Record) : Builder Nat :=
  { kind := .insert
    draft := { scope := { main := some { id := 0, name := .text "users", subject := some (.entity .users) } }
               values := .list (rows.map .record)
               onIgnore := .bool true } }

/-- Of three users the second one is skipped, and is told the key of the third. -/
theorem Session.not_covers_skippedUser :
    let rows : List Record := [[("name", .text "ann")], [("name", .text "ben")], [("name", .text "cid")]]
    let stored : List (Option Record) := [some [("id", .int 1)], none, some [("id", .int 3)]]
    let reply : Reply := { rows := some stored.reduceOption }
    ∃ o v, Session.ends (Session.outcomeOf (.insertUsers rows) (reply.outcome .postgres)) { dialect := .postgres } =
        (.ok (.inserted o), v) ∧
      o.generatedMaps[1]? = some [("id", .int 3)] ∧
      ¬ o.Covers .users rows (fun i generated => generated = Generated.told .users stored[i]?.join) := by
  intro rows stored reply
  have htells : ∀ record ∈ stored.reduceOption, Generated.ofRow record Entity.users.generatedColumns ≠ [] := by decide
  obtain ⟨o, v, ho, hcovers, hiff⟩ := Session.covers_stored_iff (w := { dialect := .postgres })
    (b := .insertUsers rows) rfl rfl rfl rfl rfl rfl (rfl : reply.rows = _) htells
  obtain ⟨generated, htold, hmap, -⟩ := hcovers.row 1 _ rfl
  refine ⟨o, v, ho, ?_, hiff.not.mpr (by decide)⟩
  rw [hmap, htold]
  rfl

end SqlWeave
