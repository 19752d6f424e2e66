import SqlWeave.Proofs.Condition.WhereClause
import SqlWeave.Proofs.Statement.Generated

/-!
# Rows that ids select

A match on ids replaces the conditions of a statement. Where the key is one column, that column is compared
with what each id gives for it, and an id that gives nothing selects nothing. Where the key is composite, each
id becomes a group of comparisons, one for each property that it names: the group of an id without properties
is dropped, and of no groups there is no condition at all. Main result: which rows the clause selects, and
when all of them have the key that one of the ids gives.
-/

namespace SqlWeave

open Reading (ClauseReads textTruth)
open Build (generatedName Binds)

/-! ## Rows -/

/-- What a column is compared with: each member of a collection, or the value itself. -/
def Value.members : Value → List Value
  | .list xs | .tuple xs | .set xs => xs
  | v => [v]

/-- A row as comparisons see it. No column equals an absent value. -/
structure Row where
  equals : String → Value → Prop
  isNull : String → Prop
  equals_null : ∀ column, ¬ equals column .null

namespace Row

variable (row : Row)

/-- The row meets the comparison of a column with a value. -/
def Meets (column : String) (v : Value) : Prop :=
  (v = .null ∧ row.isNull column) ∨ ∃ x ∈ v.members, row.equals column x

/-- The row has the key that an id gives: each primary column has the value that is given for it. -/
def HasKey (e : Entity) (id : Record) : Prop :=
  ∀ c ∈ e.primaryColumns, ∃ p ∈ id, e.columnName p.1 = e.columnName c.property ∧
    (row.equals (e.columnName p.1) p.2 ∨ row.Meets (e.columnName p.1) p.2)

/-- The row is selected by a match on ids. -/
def Selected (e : Entity) (ids : List Record) : Prop :=
  if e.hasCompositeKey then
    (ids ≠ [] ∧ ∀ id ∈ ids, id = []) ∨ ∃ id ∈ ids, id ≠ [] ∧ ∀ p ∈ id, row.Meets (e.columnName p.1) p.2
  else ∃ id ∈ ids, ∀ c ∈ e.primaryColumns,
    row.equals (e.columnName c.property) (.ofOption (Assoc.get? id c.property))

end Row

/-- An id gives a whole key: it names each primary column. -/
def Entity.IsKeyedBy (e : Entity) (id : Record) : Prop :=
  ∀ c ∈ e.primaryColumns, ∃ p ∈ id, e.columnName p.1 = e.columnName c.property

/-- Where the key is composite, each id that has properties gives a whole key, and if there are ids, one of
them has properties. -/
def Entity.AreKeyedBy (e : Entity) (ids : List Record) : Prop :=
  e.hasCompositeKey → (∀ id ∈ ids, id ≠ [] → e.IsKeyedBy id) ∧ (ids ≠ [] → ∃ id ∈ ids, id ≠ [])

/-- A selected row has the key of one of the ids. -/
theorem Row.hasKey_of_selected {row : Row} {e : Entity} {ids : List Record} (hids : e.AreKeyedBy ids)
    (h : row.Selected e ids) : ∃ id ∈ ids, row.HasKey e id := by
  unfold Selected at h
  split at h
  · next hkey =>
    obtain ⟨hwhole, hsome⟩ := hids hkey
    obtain ⟨hne, hall⟩ | ⟨id, hid, hne, hmeets⟩ := h
    · obtain ⟨id, hid, hfilled⟩ := hsome hne
      exact absurd (hall id hid) hfilled
    · refine ⟨id, hid, fun c hc => ?_⟩
      obtain ⟨p, hp, hnamed⟩ := hwhole id hid hne c hc
      exact ⟨p, hp, hnamed, .inr (hmeets p hp)⟩
  · obtain ⟨id, hid, hequals⟩ := h
    refine ⟨id, hid, fun c hc => ?_⟩
    have hc := hequals c hc
    cases hget : Assoc.get? id c.property with
    | none =>
      rw [hget] at hc
      exact absurd hc (row.equals_null _)
    | some x =>
      rw [hget] at hc
      exact ⟨(c.property, x), Assoc.mem_of_get? hget, rfl, .inl hc⟩

/-- Atoms are read as the row has it, where generated names stand for the values that `m` binds to them. -/
structure Row.Reads (row : Row) (d : Dialect) (e : Entity) (reference : String → Result String) (m : Bindings)
    (v : List Reading.Token → Truth) : Prop where
  isNull {property ref : String} : reference property = .ok ref →
    (textTruth d v (ref ++ " IS NULL") = .holds ↔ row.isNull (e.columnName property))
  equals {property ref : String} {n : Nat} {x : Value} : reference property = .ok ref →
    m.get? (generatedName n) = some x →
    (textTruth d v (ref ++ " = :" ++ generatedName n) = .holds ↔ row.equals (e.columnName property) x)
  isIn {property ref : String} {n : Nat} {xs : List Value} : reference property = .ok ref →
    m.get? (generatedName n) = some (.list xs) →
    (textTruth d v (ref ++ " IN (:..." ++ generatedName n ++ ")") = .holds ↔
      ∃ x ∈ xs, row.equals (e.columnName property) x)
  never : textTruth d v "0=1" ≠ .holds

/-! ## Comparisons and their values -/

/-- A text compares a property with a value, which is absent or bound under one of the first `k` generated
names. -/
inductive Compared (reference : String → Result String) (m : Bindings) (k : Nat) : String × Value → String → Prop
  | isNull {property ref : String} (href : reference property = .ok ref) :
    Compared reference m k (property, .null) (ref ++ " IS NULL")
  | isIn {property ref : String} {n : Nat} {v : Value} (href : reference property = .ok ref) (hn : n < k)
    (hv : v ≠ .null) (hbound : m.get? (generatedName n) = some (.list v.members)) :
    Compared reference m k (property, v) (ref ++ " IN (:..." ++ generatedName n ++ ")")
  | equals {property ref : String} {n : Nat} {v : Value} (href : reference property = .ok ref) (hn : n < k)
    (hv : v ≠ .null) (hone : v.members = [v]) (hbound : m.get? (generatedName n) = some v) :
    Compared reference m k (property, v) (ref ++ " = :" ++ generatedName n)

namespace Compared

variable {reference : String → Result String} {m m' : Bindings} {k k' : Nat} {p : String × Value} {text : String}

theorem mono (h : Compared reference m k p text) (hk : k ≤ k')
    (hm : ∀ n < k, ∀ x, m.get? (generatedName n) = some x → m'.get? (generatedName n) = some x) :
    Compared reference m' k' p text := by
  cases h with
  | isNull href => exact .isNull href
  | isIn href hn hv hbound => exact .isIn href (hn.trans_le hk) hv (hm _ hn _ hbound)
  | equals href hn hv hone hbound => exact .equals href (hn.trans_le hk) hv hone (hm _ hn _ hbound)

theorem binds {d d' : Draft} (h : Compared reference d.parameters d.parameterIndex p text) (hd : Binds d d') :
    Compared reference d'.parameters d'.parameterIndex p text :=
  h.mono hd.index fun n hn _ hx => (hd.kept n hn).trans hx

/-- The text holds exactly when the row meets the comparison. -/
theorem holds_iff {row : Row} {d : Dialect} {e : Entity} {v : List Reading.Token → Truth}
    (h : Compared reference m k p text) (hrow : row.Reads d e reference m v) :
    textTruth d v text = .holds ↔ row.Meets (e.columnName p.1) p.2 := by
  unfold Row.Meets
  cases h with
  | isNull href =>
    rw [hrow.isNull href]
    simp [Value.members, row.equals_null]
  | isIn href hn hv hbound =>
    rw [hrow.isIn href hbound]
    simp [hv]
  | equals href hn hv hone hbound =>
    rw [hrow.equals href hbound]
    simp [hv, hone]

end Compared

/-! ## What ids say -/

/-- What ids say: of a key of one column that it is among what they give for it, of a composite key that all
comparisons of one of them hold. -/
inductive Said.OfIds (e : Entity) (reference : String → Result String) (m : Bindings) (k : Nat)
    (ids : List Record) : Said → Prop
  | single {c : Column} {text : String} (hkey : e.primaryColumns = [c])
    (h : Compared reference m k
      (c.property, .list (ids.map fun id => .ofOption (Assoc.get? id c.property))) text) :
    OfIds e reference m k ids (.all [text])
  | never (hkey : e.hasCompositeKey) (h : ids = []) : OfIds e reference m k ids (.all ["0=1"])
  | keys {texts : List (List String)} (hkey : e.hasCompositeKey) (hne : ids ≠ [])
    (h : List.Forall₂ (List.Forall₂ (Compared reference m k)) ids texts) :
    OfIds e reference m k ids (.nested false (texts.map fun here => (.or, .nested false [(.simple, .all here)])))

theorem Said.OfIds.mono {e : Entity} {reference : String → Result String} {m m' : Bindings} {k : Nat}
    {ids : List Record} {s : Said} (h : OfIds e reference m k ids s)
    (hm : ∀ n x, m.get? (generatedName n) = some x → m'.get? (generatedName n) = some x) :
    OfIds e reference m' k ids s := by
  cases h with
  | single hkey h => exact .single hkey (h.mono le_rfl fun n _ => hm n)
  | never hkey h => exact .never hkey h
  | keys hkey hne h => exact .keys hkey hne (h.imp fun _ _ h => h.imp fun _ _ h => h.mono le_rfl fun n _ => hm n)

namespace Build

variable {dialect : Dialect}

theorem compared_comparison {reference : String → Result String} {property ref text : String} {v : Value}
    {d d' : Draft} (href : reference property = .ok ref)
    (h : ends (comparison ref v) d = (.ok text, d')) :
    Binds d d' ∧ Compared reference d'.parameters d'.parameterIndex (property, v) text := by
  have hin {v : Value} {xs : List Value} (hv : v ≠ .null) (hxs : v.members = xs)
      (h : ends (createParameter (.list xs) >>= fun name => pure (ref ++ " IN (:..." ++ name ++ ")")) d =
        (.ok text, d')) :
      Binds d d' ∧ Compared reference d'.parameters d'.parameterIndex (property, v) text := by
    obtain ⟨name, d₁, hname, h⟩ := ends_bind_eq_ok.mp h
    cases h
    obtain ⟨hbinds, n, hn, rfl, hbound⟩ := binds_createParameter hname
    exact ⟨hbinds, .isIn href hn hv (by rw [hbound, hxs])⟩
  unfold comparison at h
  split at h
  · cases h
    exact ⟨.refl _, .isNull href⟩
  · exact hin nofun rfl h
  · exact hin nofun rfl h
  · exact hin nofun rfl h
  · next hnull hlist htuple hset =>
    obtain ⟨name, d₁, hname, h⟩ := ends_bind_eq_ok.mp h
    cases h
    obtain ⟨hbinds, n, hn, rfl, hbound⟩ := binds_createParameter hname
    refine ⟨hbinds, .equals href hn hnull ?_ hbound⟩
    unfold Value.members
    split
    · next xs => exact absurd rfl (hlist xs)
    · next xs => exact absurd rfl (htuple xs)
    · next xs => exact absurd rfl (hset xs)
    · rfl

/-- Each property of a record is compared with its value. -/
theorem compared_comparisons {r : Record} {texts : List String} {d d' : Draft}
    (h : ends (comparisons dialect r) d = (.ok texts, d')) :
    Binds d d' ∧
      List.Forall₂ (Compared (d.columnReference dialect) d'.parameters d'.parameterIndex) r texts := by
  induction r generalizing d texts with
  | nil =>
    cases h
    exact ⟨.refl _, .nil⟩
  | cons p rest ih =>
    obtain ⟨property, v⟩ := p
    obtain ⟨d₀, _, hget, h⟩ := ends_bind_eq_ok.mp h
    cases hget
    obtain ⟨ref, _, hread, h⟩ := ends_bind_eq_ok.mp h
    obtain ⟨href, rfl⟩ := ends_ofExcept_eq_ok.mp hread
    obtain ⟨here, d₁, hhere, h⟩ := ends_bind_eq_ok.mp h
    obtain ⟨more, d₂, hmore, h⟩ := ends_bind_eq_ok.mp h
    cases h
    have hkeep := keeps_comparison (f := fun d => d.columnReference dialect) ⟨fun _ _ => rfl, fun _ _ _ => rfl⟩ ref v d
    rw [hhere] at hkeep
    dsimp only at hkeep
    obtain ⟨hbinds, hcompared⟩ := compared_comparison href hhere
    obtain ⟨hbinds', hrest⟩ := ih hmore
    rw [hkeep] at hrest
    exact ⟨hbinds.trans hbinds', .cons (hcompared.binds hbinds') hrest⟩

/-- Each of several ids is a group of comparisons. -/
theorem compared_saidKeys {ids : List Record} {calls : List (Connector × Said)} {d d' : Draft}
    (h : ends (saidKeys dialect ids) d = (.ok calls, d')) :
    Binds d d' ∧ ∃ texts,
      List.Forall₂ (List.Forall₂ (Compared (d.columnReference dialect) d'.parameters d'.parameterIndex)) ids texts ∧
      calls = texts.map fun here => (.or, .nested false [(.simple, .all here)]) := by
  induction ids generalizing d calls with
  | nil =>
    cases h
    exact ⟨.refl _, [], .nil, rfl⟩
  | cons id rest ih =>
    obtain ⟨here, d₁, hhere, h⟩ := ends_bind_eq_ok.mp h
    obtain ⟨more, d₂, hmore, h⟩ := ends_bind_eq_ok.mp h
    cases h
    have hignores : IgnoresBindings fun d => d.columnReference dialect := ⟨fun _ _ => rfl, fun _ _ _ => rfl⟩
    have hkeep := keeps_comparisons hignores dialect id d
    rw [hhere] at hkeep
    dsimp only at hkeep
    obtain ⟨hbinds, hcompared⟩ := compared_comparisons hhere
    obtain ⟨hbinds', texts, hrest, rfl⟩ := ih hmore
    rw [hkeep] at hrest
    exact ⟨hbinds.trans hbinds', here :: texts, .cons (hcompared.imp fun _ _ h => h.binds hbinds') hrest, rfl⟩

/-- What a match on ids says, in terms of the entity and of what each id was read as. -/
theorem ofIds_saidIds {ids : Value} {s : Said} {d d' : Draft} (h : ends (saidIds dialect ids) d = (.ok s, d')) :
    Binds d d' ∧ ∃ e maps, d.entity = .ok (some e) ∧ e.primaryColumns ≠ [] ∧
      (Draft.idList ids).mapM e.idMap = .ok maps ∧
      Said.OfIds e (d.columnReference dialect) d'.parameters d'.parameterIndex maps s := by
  obtain ⟨d₀, _, hget, h⟩ := ends_bind_eq_ok.mp h
  cases hget
  obtain ⟨c, _, hread, h⟩ := ends_bind_eq_ok.mp h
  obtain ⟨hc, rfl⟩ := ends_ofExcept_eq_ok.mp hread
  obtain ⟨found, hentity, hc⟩ := Result.bind_eq_ok.mp hc
  cases found with
  | none => cases hc
  | some e =>
    dsimp only [Entity.idsCriterion] at hc
    split at hc
    · cases hc
    · next primary more hkey =>
      obtain ⟨maps, hmaps, hcriterion⟩ := Result.bind_eq_ok.mp hc
      have hne : e.primaryColumns ≠ [] := by simp [hkey]
      split at hcriterion
      · next hmore =>
        obtain rfl := List.isEmpty_iff.mp hmore
        cases hcriterion
        obtain ⟨texts, d₁, htexts, h⟩ := ends_bind_eq_ok.mp h
        cases h
        obtain ⟨hbinds, hall⟩ := compared_comparisons htexts
        obtain ⟨text, _, hcompared, hnil, rfl⟩ := List.forall₂_cons_left_iff.mp hall
        obtain rfl := List.forall₂_nil_left_iff.mp hnil
        exact ⟨hbinds, e, maps, hentity, hne, hmaps, .single hkey hcompared⟩
      · next hmore =>
        have hcomposite : e.hasCompositeKey := by
          rw [Entity.hasCompositeKey, hkey]
          cases more <;> simp_all
        split at hcriterion
        · next hnone =>
          cases hcriterion
          cases h
          exact ⟨.refl _, e, maps, hentity, hne, hmaps, .never hcomposite (List.isEmpty_iff.mp hnone)⟩
        · next hsome =>
          cases hcriterion
          obtain ⟨calls, d₁, hcalls, h⟩ := ends_bind_eq_ok.mp h
          cases h
          obtain ⟨hbinds, texts, hcompared, rfl⟩ := compared_saidKeys hcalls
          have hfilled : maps ≠ [] := fun h => hsome (List.isEmpty_iff.mpr h)
          exact ⟨hbinds, e, maps, hentity, hne, hmaps, .keys hcomposite hfilled hcompared⟩

end Build

/-! ## The value of what ids say -/

theorem Truth.all?_eq_none {ts : List Truth} : Truth.all? ts = none ↔ ts = [] := by
  cases ts <;> simp [Truth.all?]

theorem Truth.all?_eq_holds {ts : List Truth} : Truth.all? ts = some .holds ↔ ts ≠ [] ∧ ∀ t ∈ ts, t = .holds := by
  induction ts with
  | nil => simp [Truth.all?]
  | cons t ts ih =>
    cases hrest : Truth.all? ts with
    | none =>
      obtain rfl := Truth.all?_eq_none.mp hrest
      simp [Truth.all?]
    | some u =>
      have hne : ts ≠ [] := fun h => by simp [h, Truth.all?] at hrest
      rw [hrest, Option.some_inj] at ih
      simp [Truth.all?, hrest, Truth.and_eq_holds, ih, hne]

theorem Truth.any?_eq_none {ts : List Truth} : Truth.any? ts = none ↔ ts = [] := by
  cases ts <;> simp [Truth.any?]

theorem Truth.any?_eq_holds {ts : List Truth} : Truth.any? ts = some .holds ↔ .holds ∈ ts := by
  induction ts with
  | nil => simp [Truth.any?]
  | cons t ts ih =>
    cases hrest : Truth.any? ts with
    | none =>
      obtain rfl := Truth.any?_eq_none.mp hrest
      simp [Truth.any?, eq_comm]
    | some u =>
      rw [hrest, Option.some_inj] at ih
      rw [Truth.any?, hrest, Option.elim_some, Option.some_inj, Truth.or_eq_holds, ih, List.mem_cons,
        @eq_comm _ t]

/-- A level that ORs join is one disjunction. -/
theorem levelTruth_ors (ts : List (Option Truth)) :
    levelTruth (ts.map (Connector.or, ·)) = Truth.any? ts.reduceOption := by
  have hreset : sinceReset (ts.map (Connector.or, ·)) = ts.map (Connector.or, ·) :=
    sinceReset_of_not_any (by simp)
  have htelling : telling (ts.map (Connector.or, ·)) = ts.reduceOption.map (Connector.or, ·) := by
    rw [telling, List.filterMap_map, List.reduceOption, List.map_filterMap]
    exact List.filterMap_congr fun t _ => by cases t <;> rfl
  rw [levelTruth, hreset, htelling]
  cases ts.reduceOption with
  | nil => rfl
  | cons t more =>
    have hors := truthOf_ors [] (by simp) t more
    rw [List.append_nil] at hors
    exact congrArg some hors

namespace Said

variable {w : String → Truth}

theorem truth_keys (texts : List (List String)) :
    (nested false (texts.map fun here => (Connector.or, nested false [(.simple, .all here)]))).truth w =
      Truth.any? (texts.filterMap fun here => Truth.all? (here.map w)) := by
  have hgroup (here : List String) :
      (nested false [(.simple, .all here)]).truth w = Truth.all? (here.map w) := by
    rw [truth, truths, truth, truths]
    cases Truth.all? (here.map w) <;> rfl
  have htruths : truths w (texts.map fun here => (Connector.or, nested false [(.simple, .all here)])) =
      (texts.map fun here => Truth.all? (here.map w)).map (Connector.or, ·) := by
    rw [truths_eq_map, List.map_map, List.map_map]
    exact List.map_congr_left fun here _ => by rw [Function.comp_apply, hgroup, Function.comp_apply]
  rw [truth, htruths, levelTruth_ors, List.reduceOption, List.filterMap_map]
  exact congrFun Option.map_id _

theorem forall_mem_congr {α β : Type} {R : α → β → Prop} {P : α → Prop} {Q : β → Prop} {as : List α} {bs : List β}
    (h : List.Forall₂ R as bs) (hPQ : ∀ a b, R a b → (P a ↔ Q b)) : (∀ a ∈ as, P a) ↔ ∀ b ∈ bs, Q b := by
  induction h with
  | nil => simp
  | cons hab _ ih => rw [List.forall_mem_cons, List.forall_mem_cons, hPQ _ _ hab, ih]

theorem eq_nil_congr {α β : Type} {R : α → β → Prop} {as : List α} {bs : List β} (h : List.Forall₂ R as bs) :
    as = [] ↔ bs = [] := by
  cases h <;> simp

theorem exists_mem_congr {α β : Type} {R : α → β → Prop} {P : α → Prop} {Q : β → Prop} {as : List α} {bs : List β}
    (h : List.Forall₂ R as bs) (hPQ : ∀ a b, R a b → (P a ↔ Q b)) : (∃ a ∈ as, P a) ↔ ∃ b ∈ bs, Q b := by
  have hnot := forall_mem_congr h fun a b hab => not_congr (hPQ a b hab)
  simpa using not_congr hnot

variable {e : Entity} {reference : String → Result String} {m : Bindings} {k : Nat} {ids : List Record} {s : Said}

/-- Ids say nothing exactly when none of several parts is given by any of them. -/
theorem OfIds.truth_eq_none (h : OfIds e reference m k ids s) :
    s.truth w = none ↔ e.hasCompositeKey ∧ ids ≠ [] ∧ ∀ id ∈ ids, id = [] := by
  cases h with
  | single hkey _ =>
    have hsingle : e.hasCompositeKey = false := by simp [Entity.hasCompositeKey, hkey]
    simp [truth, Truth.all?, hsingle]
  | never hkey hnone => simp [truth, Truth.all?, hnone]
  | keys hkey hne hall =>
    rename_i texts
    rw [truth_keys, Truth.any?_eq_none, List.filterMap_eq_nil_iff]
    have hnil : (∀ id ∈ ids, id = []) ↔ ∀ here ∈ texts, Truth.all? (here.map w) = none := by
      refine forall_mem_congr hall fun id here hid => ?_
      rw [Truth.all?_eq_none, List.map_eq_nil_iff]
      exact eq_nil_congr hid
    simp [hkey, hne, hnil]

/-- What ids say does not fail exactly of the rows that they select. -/
theorem OfIds.holds_iff {row : Row} {d : Dialect} {v : List Reading.Token → Truth}
    (h : OfIds e reference m k ids s) (hrow : row.Reads d e reference m v) :
    (∀ t ∈ s.truth (textTruth d v), t = .holds) ↔ row.Selected e ids := by
  unfold Row.Selected
  cases h with
  | @single c text hkey hcompared =>
    have hsingle : e.hasCompositeKey = false := by simp [Entity.hasCompositeKey, hkey]
    have htext := hcompared.holds_iff hrow
    simp [truth, Truth.all?, hsingle, hkey, htext, Row.Meets, Value.members]
  | never hkey hnone => simp [truth, Truth.all?, hkey, hnone, hrow.never]
  | @keys texts hkey hne hall =>
    have hnone := (OfIds.keys hkey hne hall).truth_eq_none (w := textTruth d v)
    have hsome : (∃ id ∈ ids, id ≠ [] ∧ ∀ p ∈ id, row.Meets (e.columnName p.1) p.2) ↔
        ∃ here ∈ texts, Truth.all? (here.map (textTruth d v)) = some .holds := by
      refine exists_mem_congr hall fun id here hid => ?_
      rw [Truth.all?_eq_holds, Ne, Ne, List.map_eq_nil_iff, List.forall_mem_map]
      exact and_congr (not_congr (eq_nil_congr hid)) (forall_mem_congr hid fun p text h => (h.holds_iff hrow).symm)
    rw [truth_keys] at hnone
    rw [if_pos hkey, hsome, truth_keys, ← List.mem_filterMap, ← Truth.any?_eq_holds]
    rw [and_iff_right hkey] at hnone
    rw [← hnone]
    cases Truth.any? (texts.filterMap fun here => Truth.all? (here.map (textTruth d v))) <;> simp

end Said

/-! ## The clause -/

namespace Reading

variable {d : Dialect}

/-- A WHERE clause holds; of no clause nothing is to hold. -/
abbrev ClauseHolds (d : Dialect) (v : List Token → Truth) : String → Prop :=
  ClauseAll fun cond => value? v (read d cond) = some .holds

theorem ClauseReads.holds_iff {clause : String} {m : (List Token → Truth) → Option Truth}
    (h : ClauseReads d clause m) (v : List Token → Truth) : ClauseHolds d v clause ↔ ∀ t ∈ m v, t = .holds := by
  rcases h with ⟨rfl, hnone⟩ | ⟨cond, f, rfl, hread, hvalue⟩
  · rw [hnone v]
    exact iff_of_true clauseAll_empty (by simp)
  · rw [hvalue v, ClauseHolds, clauseAll_where, hread]
    simp [value?]

end Reading

/-- The clause adds nothing to the guard exactly when no condition is stated. -/
theorem Draft.whereText_eq_guard {d : Draft} {guard : Option String} :
    d.whereText guard = guard.elim "" (" WHERE " ++ ·) ↔ Condition.renderLevel d.wheres = "" := by
  unfold whereText
  by_cases h : Condition.renderLevel d.wheres = ""
  · cases guard <;> simp [h]
  · refine iff_of_false (fun heq => ?_) h
    have hlength := congrArg (·.toList.length) heq
    cases guard <;> simp [h] at hlength
    omega

open Reading (ClauseHolds)

namespace Builder

variable {cat : Catalog} {b b' : Builder Statement} {ids : Value} {sql : String} {params : Bindings}

/-- A match on ids, on a statement whose bound names differ, as calls keep them (`nodup_apply`). The statement
has no condition of its own exactly when the key is composite and no id names a property. The clause holds of
the rows that the ids select and that the guard lets through; these have the key of one of the ids, if each id
that counts gives a whole key. -/
theorem clause_of_ids (hnames : b.draft.parameters.keys.Nodup) (hkind : b.kind ≠ .insert)
    (hcall : b.apply cat (.whereInIds .simple ids) = (b', none)) (hsql : Statement.query cat (.of b') = .ok sql)
    (hparams : Statement.parameters cat (.of b') = .ok params) :
    ∃ e keys clause guard, b.draft.entity = .ok (some e) ∧ e.primaryColumns ≠ [] ∧
      (Draft.idList ids).mapM e.idMap = .ok keys ∧ b'.HasClause cat sql clause guard ∧
      (clause = guard.elim "" (" WHERE " ++ ·) ↔ e.hasCompositeKey ∧ keys ≠ [] ∧ ∀ id ∈ keys, id = []) ∧
      ∀ (row : Row) (v : List Reading.Token → Truth),
        row.Reads cat.dialect e (b.draft.columnReference cat.dialect) params v →
        (ClauseHolds cat.dialect v clause ↔
          row.Selected e keys ∧ ∀ g ∈ guard, textTruth cat.dialect v g = .holds) ∧
        (e.AreKeyedBy keys → ClauseHolds cat.dialect v clause → ∃ id ∈ keys, row.HasKey e id) := by
  obtain ⟨d, hd, hb'⟩ := step_eq_none hcall
  obtain ⟨s, d', hs, rfl⟩ := Build.ends_whereInIds hd
  obtain ⟨hbinds, e, keys, hentity, hkey, hkeys, hofIds⟩ := Build.ofIds_saidIds hs
  have hkind' : b'.kind ≠ .insert := by rwa [hb']
  have hwheres : b'.draft.wheres = Said.level [] [(.simple, s)] := by
    rw [hb']
    rfl
  -- The statement is sent with what the comparisons were bound to.
  have hsent : Said.OfIds e (b.draft.columnReference cat.dialect) params d'.parameterIndex keys s := by
    refine hofIds.mono fun n x hx => ?_
    refine Statement.get?_generatedName hkind' ?_ hparams ?_
    · rw [hb']
      exact hbinds.nodup hnames
    · rw [hb']
      exact hx
  have hunits : ∀ t ∈ Said.callTexts [(Connector.simple, s)], Reading.IsUnit cat.dialect t := by
    simpa [Said.callTexts] using Build.returns_saidIds Build.closed_units ids _ _ _ hs
  have hlists : Said.NoneListed [(Connector.simple, s)] :=
    ⟨Build.returns_saidIds Build.closed_noLists ids _ _ _ hs, trivial⟩
  have hlevel (w : String → Truth) : levelTruth (Said.truths w [(.simple, s)]) = s.truth w := by
    rw [Said.truths, Said.truths]
    cases s.truth w <;> rfl
  have hrow (w : String → Truth) :
      rowValue (spread (sinceReset (Said.callUnits w [(.simple, s)]))) = (s.truth w).map some := by
    rw [Said.rowValue_of_standApart (Said.standApart_of_noneListed hlists), hlevel]
  obtain ⟨guard, hclause⟩ := hasClause_of_query hkind' hsql
  refine ⟨e, keys, _, guard, hentity, hkey, hkeys, hclause, ?_, fun row v hreads => ?_⟩
  · obtain ⟨xs, -, hvalues⟩ := Reading.pieces_renderLevel hunits
    rw [Draft.whereText_eq_guard, hwheres, (hvalues fun _ => .unknown).1, hrow, Option.map_eq_none_iff,
      hsent.truth_eq_none]
  · have hreadsClause : ClauseReads cat.dialect (b'.draft.whereText guard) fun v =>
        Option.merge Truth.and (s.truth (textTruth cat.dialect v)) (guard.map (textTruth cat.dialect v)) := by
      refine (clauseSays_of_level hwheres hunits hclause.guarded).reads fun v => ?_
      rw [hrow]
      cases s.truth (textTruth cat.dialect v) <;> cases guard <;> rfl
    have hholds : ClauseHolds cat.dialect v (b'.draft.whereText guard) ↔
        row.Selected e keys ∧ ∀ g ∈ guard, textTruth cat.dialect v g = .holds := by
      rw [hreadsClause.holds_iff, ← hsent.holds_iff hreads]
      cases s.truth (textTruth cat.dialect v) <;> cases guard <;> simp [Truth.and_eq_holds]
    exact ⟨hholds, fun hids h => Row.hasKey_of_selected hids (hholds.mp h).1⟩

end Builder

/-! ## Chapters without an id -/

/-- Chapters, told apart by their book and their number in it. -/
def Entity.chapters : Entity :=
  { name := .text "chapters"
    table := "chapters"
    columns := [{ property := "book", database := "book", isPrimary := true },
      { property := "number", database := "number", isPrimary := true }] }

/-- A DELETE of chapters. -/
def Builder.fewerChapters : Builder Statement :=
  { kind := .delete
    draft :=
      { scope := { main := some { id := 0, name := .text "chapters", subject := some (.entity .chapters) } }
        qualified := false } }

/-- An id that names no property: every chapter is deleted. -/
theorem Builder.clause_of_empty_id :
    Builder.fewerChapters.draft.parameters.keys.Nodup ∧
    Builder.fewerChapters.apply .sqlite (.whereInIds .simple (.record [])) = (Builder.fewerChapters, none) ∧
    Statement.query .sqlite (.of Builder.fewerChapters) = .ok "DELETE FROM \"chapters\"" ∧
    Statement.parameters .sqlite (.of Builder.fewerChapters) = .ok [] ∧
    ∃ e keys clause guard, Builder.fewerChapters.draft.entity = .ok (some e) ∧ e.primaryColumns ≠ [] ∧
      (Draft.idList (.record [])).mapM e.idMap = .ok keys ∧
      Builder.fewerChapters.HasClause .sqlite "DELETE FROM \"chapters\"" clause guard ∧
      (clause = guard.elim "" (" WHERE " ++ ·) ↔ e.hasCompositeKey ∧ keys ≠ [] ∧ ∀ id ∈ keys, id = []) ∧
      ∀ (row : Row) (v : List Reading.Token → Truth),
        row.Reads Catalog.sqlite.dialect e
          (Builder.fewerChapters.draft.columnReference Catalog.sqlite.dialect) [] v →
        (ClauseHolds Catalog.sqlite.dialect v clause ↔
          row.Selected e keys ∧ ∀ g ∈ guard, textTruth Catalog.sqlite.dialect v g = .holds) ∧
        (e.AreKeyedBy keys → ClauseHolds Catalog.sqlite.dialect v clause → ∃ id ∈ keys, row.HasKey e id) := by
  have hnames : Builder.fewerChapters.draft.parameters.keys.Nodup := List.nodup_nil
  have hcall : Builder.fewerChapters.apply .sqlite (.whereInIds .simple (.record [])) =
      (Builder.fewerChapters, none) := rfl
  have hsql : Statement.query .sqlite (.of Builder.fewerChapters) = .ok "DELETE FROM \"chapters\"" := rfl
  have hparams : Statement.parameters .sqlite (.of Builder.fewerChapters) = .ok [] := rfl
  exact ⟨hnames, hcall, hsql, hparams, clause_of_ids hnames nofun hcall hsql hparams⟩

end SqlWeave
