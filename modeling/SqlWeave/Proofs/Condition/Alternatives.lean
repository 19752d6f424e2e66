import SqlWeave.Proofs.Condition.WhereClause

/-!
# Lists of records in a WHERE clause

A list of records is meant as one condition: all comparisons of one of its records hold. It is written
without parentheses of its own, group by group, and a record without properties is written as an empty pair
of parentheses. So the clause can be read exactly when no list that counts has such a record, and it means
what the calls said when, besides, every list stands apart from ANDs. Beside an AND the list falls apart:
the AND takes the group next to it alone.
-/

namespace SqlWeave

/-! ## What can be read -/

theorem isSome_precedence? (t : Option Truth) (row : List (Connector × Option Truth)) :
    (Reading.precedence? t row).isSome ↔ t.isSome ∧ ∀ p ∈ row, p.2.isSome := by
  have hmap₂ (f : Truth → Truth → Truth) (a b : Option Truth) :
      (Option.map₂ f a b).isSome ↔ a.isSome ∧ b.isSome := by
    cases a <;> cases b <;> simp
  induction row generalizing t with
  | nil => simp [precedence]
  | cons p row ih =>
    obtain ⟨link, u⟩ := p
    rw [List.forall_mem_cons]
    have hand (t u : Option Truth) : (Reading.precedence? (Option.map₂ Truth.and t u) row).isSome ↔
        t.isSome ∧ u.isSome ∧ ∀ p ∈ row, p.2.isSome := by
      refine (ih _).trans ?_
      rw [hmap₂, and_assoc]
    cases link with
    | or =>
      exact (hmap₂ Truth.or t (Reading.precedence? u row)).trans (and_congr_right' (ih u))
    | simple => exact hand t u
    | and => exact hand t u

/-- Units in a row can be read exactly when each of them can. -/
theorem isSome_rowValue (row : List (Connector × Option Truth)) :
    (∀ t ∈ rowValue row, t.isSome) ↔ ∀ p ∈ row, p.2.isSome := by
  cases row with
  | nil => simp [inRow]
  | cons p row =>
    rw [List.forall_mem_cons, ← isSome_precedence?]
    exact ⟨fun h => h _ rfl, fun h t ht => Option.some.inj ht ▸ h⟩

namespace Said

variable {w : String → Truth}

theorem isSome_all? (texts : List String) : (Truth.all? (texts.map w)).isSome ↔ texts ≠ [] := by
  cases texts <;> simp [Truth.all?]

mutual
theorem isSome_units : ∀ s : Said, (∀ u ∈ s.units w, u.isSome) ↔ s.Throughout ([] ∉ ·) fun _ => True
  | .all texts => by
    rw [units, Throughout]
    split
    · simp
    · next h => simpa [isSome_all?] using h
  | .any groups => by
    rw [units, Throughout, List.forall_mem_map]
    simp only [isSome_all?]
    exact ⟨fun h hmem => h [] hmem rfl, fun h texts hmem => ne_of_mem_of_not_mem hmem h⟩
  | .nested negated calls => by
    have hcalls := isSome_spread calls
    rw [← isSome_rowValue] at hcalls
    rw [units, Throughout, true_and, ← hcalls]
    cases rowValue (spread (sinceReset (callUnits w calls))) <;> simp

theorem isSome_spread : ∀ calls : List (Connector × Said),
    (∀ p ∈ spread (sinceReset (callUnits w calls)), p.2.isSome) ↔ Each ([] ∉ ·) (fun _ => True) calls
  | [] => by simp [callUnits, sinceReset, spread, Each]
  | (link, s) :: rest => by
    have hrest := isSome_spread rest
    have hany : (callUnits w rest).any (·.1 = .simple) = rest.any (·.1 = .simple) := by
      rw [callUnits_eq_map, List.any_map]
      rfl
    have hone : (∀ p ∈ spread [(link, s.units w)], p.2.isSome) ↔ ∀ u ∈ s.units w, u.isSome := by
      cases s.units w <;> simp [spread]
    rw [callUnits, sinceReset, hany, Each, ← hrest]
    by_cases h : rest.any (·.1 = .simple)
    · simp [h]
    · rw [if_neg h, sinceReset_of_not_any (by rwa [hany]), spread_cons, List.forall_mem_append, hone,
        isSome_units s]
      simp [h]
end

end Said

/-! ## Lists in a clause -/

namespace Reading

variable {d : Dialect} {clause : String}

/-- A WHERE clause can be read, or there is none. -/
abbrev Readable (d : Dialect) : String → Prop := ClauseAll fun cond => (read d cond).isSome

/-- A clause that says something can be read exactly when what it says has a value. -/
theorem ClauseSays.readable {m : (List Token → Truth) → Option (Option Truth)} (h : ClauseSays d clause m)
    (v : List Token → Truth) : Readable d clause ↔ ∀ t ∈ m v, t.isSome := by
  rcases h with ⟨rfl, hnone⟩ | ⟨cond, rfl, hsome⟩
  · rw [hnone v]
    exact iff_of_true clauseAll_empty (by simp)
  · rw [hsome v, Readable, clauseAll_where]
    simp [value?]

end Reading

open Reading (ClauseSays ClauseReads Readable textTruth)

namespace Builder

variable {cat : Catalog} {b b' : Builder Statement} {calls : List (Call Statement)} {sql : String}

/-- A list of records in a WHERE clause. The clause says what is written for the calls on the statement, where
a list is written group by group. It can be read exactly when no list that counts has a record without
properties; and it means what the calls said, each list as one unit, when besides all lists stand apart. -/
theorem clause_of_lists (hfresh : b.draft.wheres = [])
    (hunits : ∀ call ∈ calls, ∀ c ∈ call.simples, c.OfUnits cat.dialect)
    (hrun : b.run cat calls = .ok b') (hkind : b'.kind ≠ .insert)
    (hsql : Statement.query cat (.of b') = .ok sql) :
    ∃ clause guard, b'.HasClause cat sql clause guard ∧
      (ClauseSays cat.dialect clause fun v => Option.merge (Option.map₂ .and)
        (rowValue (spread (sinceReset (Said.callUnits (textTruth cat.dialect v) (b.saidBy cat calls)))))
        (guard.map fun g => some (textTruth cat.dialect v g))) ∧
      (Readable cat.dialect clause ↔ Said.Filled (b.saidBy cat calls)) ∧
      (Said.StandApart (b.saidBy cat calls) → ClauseReads cat.dialect clause fun v => Option.merge Truth.and
        (levelTruth (Said.truths (textTruth cat.dialect v) (b.saidBy cat calls)))
        (guard.map (textTruth cat.dialect v))) := by
  obtain ⟨guard, hclause⟩ := hasClause_of_query hkind hsql
  have hsaid := clauseSays_of_run hfresh hrun hunits hclause.guarded
  refine ⟨_, guard, hclause, hsaid, ?_, fun hapart => hsaid.reads fun v => ?_⟩
  · rw [hsaid.readable fun _ => .unknown, Said.Filled, Said.OfLevel, true_and, ← Said.isSome_spread,
      ← isSome_rowValue]
    generalize rowValue _ = row
    cases row <;> cases guard <;> simp
  · rw [Said.rowValue_of_standApart hapart]
    cases levelTruth (Said.truths (textTruth cat.dialect v) (b.saidBy cat calls)) <;> cases guard <;> rfl

end Builder

/-! ## Articles that a list is matched with -/

/-- Of deleted articles, two by their ids. -/
def Call.listCalls : List (Call Statement) :=
  [.where .simple (.simple (.record [("deleted", .int 1)])) .null,
    .where .and (.simple (.anyOf [.record [("id", .int 2)], .record [("id", .int 3)]])) .null]

def Builder.fewerArticles : Builder Statement := Builder.ofArticles.convert .delete

def Builder.listedArticles : Builder Statement :=
  { Builder.fewerArticles with
    draft := { Builder.fewerArticles.draft with
      wheres := [(.simple, .text "\"deleted_at\" = :orm_param_0"),
        (.and, .text "(\"id\" = :orm_param_1) OR (\"id\" = :orm_param_2)")]
      parameters := [("orm_param_0", .int 1), ("orm_param_1", .int 2), ("orm_param_2", .int 3)]
      parameterIndex := 3 } }

def Builder.listedCondition : String :=
  "\"deleted_at\" = :orm_param_0 AND (\"id\" = :orm_param_1) OR (\"id\" = :orm_param_2)"

/-- An article that is not deleted and has the second id. -/
def Reading.isSecond (ts : List Reading.Token) : Truth :=
  if ts.contains (.word ":orm_param_2".toList) then .holds else .fails

theorem Builder.saidBy_listCalls : fewerArticles.saidBy .sqlite Call.listCalls =
    [(.simple, .all ["\"deleted_at\" = :orm_param_0"]),
      (.and, .any [["\"id\" = :orm_param_1"], ["\"id\" = :orm_param_2"]])] := rfl

set_option maxRecDepth 4000 in
/-- The list stands beside an AND, so its second group by itself makes the clause hold, against what the
calls said. -/
theorem Builder.clause_of_listed_articles :
    Builder.fewerArticles.run .sqlite Call.listCalls = .ok Builder.listedArticles ∧
    Statement.query .sqlite (.of Builder.listedArticles) =
      .ok ("DELETE FROM \"articles\" WHERE " ++ Builder.listedCondition) ∧
    (∃ clause guard, Builder.listedArticles.HasClause .sqlite
        ("DELETE FROM \"articles\" WHERE " ++ Builder.listedCondition) clause guard ∧
      (ClauseSays Catalog.sqlite.dialect clause fun v => Option.merge (Option.map₂ .and)
        (rowValue (spread (sinceReset (Said.callUnits (textTruth Catalog.sqlite.dialect v)
          (Builder.fewerArticles.saidBy .sqlite Call.listCalls)))))
        (guard.map fun g => some (textTruth Catalog.sqlite.dialect v g))) ∧
      (Readable Catalog.sqlite.dialect clause ↔
        Said.Filled (Builder.fewerArticles.saidBy .sqlite Call.listCalls)) ∧
      (Said.StandApart (Builder.fewerArticles.saidBy .sqlite Call.listCalls) →
        ClauseReads Catalog.sqlite.dialect clause fun v => Option.merge Truth.and
          (levelTruth (Said.truths (textTruth Catalog.sqlite.dialect v)
            (Builder.fewerArticles.saidBy .sqlite Call.listCalls)))
          (guard.map (textTruth Catalog.sqlite.dialect v)))) ∧
    Reading.value? Reading.isSecond (Reading.read .sqlite Builder.listedCondition) = some .holds ∧
    levelTruth (Said.truths (textTruth .sqlite Reading.isSecond)
      (Builder.fewerArticles.saidBy .sqlite Call.listCalls)) = some .fails := by
  have hrun : Builder.fewerArticles.run .sqlite Call.listCalls = .ok Builder.listedArticles := rfl
  have hsql : Statement.query .sqlite (.of Builder.listedArticles) =
      .ok ("DELETE FROM \"articles\" WHERE " ++ Builder.listedCondition) := rfl
  refine ⟨hrun, hsql, clause_of_lists rfl ?_ hrun nofun hsql, by decide, ?_⟩
  · simp only [Call.listCalls, List.forall_mem_cons, Call.simples, Criterion.simples]
    simp [Simple.OfUnits]
  · rw [saidBy_listCalls]
    decide

end SqlWeave
