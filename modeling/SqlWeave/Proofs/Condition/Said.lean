import SqlWeave.Proofs.Condition.Level
import SqlWeave.Statement.Criterion

/-!
# What calls say about conditions

`Said` keeps the calls as they were made: also those that say nothing, those before a call that starts
its level anew, and the groups of a list as groups. `Said.truth` is what such calls mean, level by level: the
last call that starts a level anew, and what comes after it, count as far as they say anything; AND binds
before OR; a group is one unit, and so is a list.

`Build.said` reads off a criterion what it says, with the same effects on the statement as the condition
that is made of the criterion. Main fact: the condition is made of what the criterion says and of nothing
else.
-/

namespace SqlWeave

/-! ## Units -/

/-- The value of texts that all have to hold. -/
def Truth.all? : List Truth → Option Truth
  | [] => none
  | t :: rest => some ((all? rest).elim t t.and)

/-- The value of units of which one has to hold. -/
def Truth.any? : List Truth → Option Truth
  | [] => none
  | t :: rest => some ((any? rest).elim t t.or)

/-! ## Levels -/

/-- The calls of a level from the last one on that starts it anew. -/
def sinceReset {α : Type} : List (Connector × α) → List (Connector × α)
  | [] => []
  | call :: rest => if rest.any (·.1 = .simple) then sinceReset rest else call :: rest

/-- The calls that say something. -/
def telling {α : Type} (calls : List (Connector × Option α)) : List (Connector × α) :=
  calls.filterMap fun call => call.2.map (call.1, ·)

/-- The value of a level's calls; none when they say nothing. The connector of the first one that says
something does not count. -/
def levelTruth (calls : List (Connector × Option Truth)) : Option Truth :=
  inRow .and .or (telling (sinceReset calls))

/-- What a call says. -/
inductive Said where
  /-- Texts that all have to hold; no texts say nothing. -/
  | all (texts : List String)
  /-- Several groups of texts: all texts of one group have to hold. -/
  | any (groups : List (List String))
  /-- Calls in parentheses, perhaps negated. -/
  | nested (negated : Bool) (calls : List (Connector × Said))
  deriving Inhabited

namespace Said

mutual
/-- The value of what is said where the texts have the values `w`; none where nothing is said. -/
def truth (w : String → Truth) : Said → Option Truth
  | .all texts => Truth.all? (texts.map w)
  | .any groups => Truth.any? (groups.filterMap fun texts => Truth.all? (texts.map w))
  | .nested negated calls => (levelTruth (truths w calls)).map (Truth.negated negated)

/-- The values of what the calls of a level say. -/
def truths (w : String → Truth) : List (Connector × Said) → List (Connector × Option Truth)
  | [] => []
  | (link, s) :: rest => (link, s.truth w) :: truths w rest
end

/-! ## Conditions -/

/-- The text of texts that all have to hold. -/
def allText (texts : List String) : String := String.intercalate " AND " texts

/-- The text of groups of which one has to hold, each in parentheses. -/
def anyText (groups : List (List String)) : String :=
  String.intercalate " OR " (groups.map fun texts => "(" ++ allText texts ++ ")")

mutual
/-- The condition that is made of what a call says. -/
def condition : Said → Condition
  | .all texts => .text (allText texts)
  | .any groups => .text (anyText groups)
  | .nested negated calls => .group negated (level [] calls)

/-- A level after further calls. -/
def level (clauses : List Clause) : List (Connector × Said) → List Clause
  | [] => clauses
  | (link, s) :: rest => level (Build.extendLevel clauses link s.condition) rest
end

end Said

/-! ## Reading off what is said -/

namespace Build

variable (dialect : Dialect)

/-- The comparisons of each record of a list. -/
def saidGroups : List Value → Build (List (List String))
  | [] => pure []
  | .record r :: rest => do
    let here ← comparisons dialect r
    let more ← saidGroups rest
    pure (here :: more)
  | _ :: _ => throw .noMember

/-- A group for each of several ids. -/
def saidKeys : List Record → Build (List (Connector × Said))
  | [] => pure []
  | m :: rest => do
    let here ← comparisons dialect m
    let more ← saidKeys rest
    pure ((.or, .nested false [(.simple, .all here)]) :: more)

/-- What a single text says: nothing when it is empty. -/
def saidText (sql : String) : Said := .all (if sql = "" then [] else [sql])

/-- What a list says; one group by itself is no list. -/
def saidAny : List (List String) → Said
  | [] => .all []
  | [one] => .all one
  | one :: two :: more => .any (one :: two :: more)

/-- What a criterion without calls says. -/
def saidSimple : Simple → Build Said
  | .text sql => pure (saidText sql)
  | .record r => do pure (.all (← comparisons dialect r))
  | .anyOf items => do pure (saidAny (← saidGroups dialect items))
  | .template sql bound => do pure (saidText (← fill sql bound))
  | .keys maps => do pure (.nested false (← saidKeys dialect maps))
  | .unfit => throw .wrongKind
  | .unsupported kind => throw (Failure.validation ("Unsupported where condition: " ++ kind) (.text "where"))

/-- What a match on ids says. -/
def saidIds (ids : Value) : Build Said := do
  let c ← MonadExcept.ofExcept ((← get).idsCriterion ids)
  saidSimple dialect c

mutual
/-- What a criterion says. -/
def said : Criterion → Build Said
  | .simple c => saidSimple dialect c
  | .group negated calls => do pure (.nested negated (← saidCalls calls))

/-- What the calls of a group say. -/
def saidCalls : List GroupCall → Build (List (Connector × Said))
  | [] => pure []
  | .where link c given :: rest => do
    let s ← said c
    bindGiven given
    let more ← saidCalls rest
    pure ((link, s) :: more)
  | .whereInIds link ids :: rest => do
    let s ← saidIds dialect ids
    let more ← saidCalls rest
    pure ((link, s) :: more)
  | .setParameter key value :: rest => do
    setParameter key value
    saidCalls rest
  | .setParameters given :: rest => do
    setGiven given
    saidCalls rest
  | .whereEquals column value :: rest => do
    let column ← MonadExcept.ofExcept (dialect.escapeValue column)
    let name ← createParameter value
    let more ← saidCalls rest
    pure ((.and, .all [column ++ " = :" ++ name]) :: more)
  | .failing f :: _ => throw f
end

/-! ## Conditions are made of what is said -/

variable {dialect}

theorem alternatives_eq_map (items : List Value) :
    alternatives dialect items = List.map Said.allText <$> saidGroups dialect items := by
  induction items with
  | nil => rw [alternatives, saidGroups, map_pure]; rfl
  | cons v rest ih =>
    cases v with
    | record r =>
      simp only [alternatives, saidGroups, allOf, ih, map_eq_pure_bind, bind_assoc, pure_bind, List.map_cons]
      rfl
    | _ => rfl

theorem condition_saidText (sql : String) : (saidText sql).condition = .text sql := by
  unfold saidText
  split
  · next h =>
    rw [h, Said.condition]
    rfl
  · rw [Said.condition, Said.allText, String.intercalate_singleton]

theorem condition_saidAny (groups : List (List String)) :
    (pure (saidAny groups).condition : Build Condition) = match groups.map Said.allText with
      | [one] => pure (.text one)
      | many => pure (.text (String.intercalate " OR " (many.map fun s => "(" ++ s ++ ")"))) := by
  match groups with
  | [] =>
    rw [saidAny, Said.condition]
    rfl
  | [one] =>
    rw [saidAny, Said.condition]
    rfl
  | one :: two :: more =>
    rw [saidAny, Said.condition, Said.anyText]
    simp only [List.map_cons, List.map_map, Function.comp_def]

/-- A group for an id adds a clause, unless the id states nothing. -/
theorem extendLevel_key (clauses : List Clause) (texts : List String) :
    extendLevel clauses .or (Said.nested false [(.simple, .all texts)]).condition =
      if Said.allText texts = "" then clauses
      else clauses ++ [(.or, .group false [(.simple, .text (Said.allText texts))])] := by
  rw [Said.condition, Said.level, Said.level, Said.condition]
  by_cases h : Said.allText texts = "" <;> simp [extendLevel, Condition.isEmpty, h]

theorem level_saidKeys (clauses : List Clause) (maps : List Record) :
    Said.level clauses <$> saidKeys dialect maps = (clauses ++ ·) <$> keyGroups dialect maps := by
  induction maps generalizing clauses with
  | nil => simp [saidKeys, keyGroups, Said.level]
  | cons m rest ih =>
    simp only [saidKeys, keyGroups, allOf, map_bind, map_pure, bind_assoc, pure_bind, Said.level,
      extendLevel_key]
    refine bind_congr fun texts => ?_
    have hmore := ih (if Said.allText texts = "" then clauses
      else clauses ++ [(.or, .group false [(.simple, .text (Said.allText texts))])])
    rw [map_eq_pure_bind] at hmore
    rw [hmore, map_eq_pure_bind]
    refine bind_congr fun more => ?_
    have hall : String.intercalate " AND " texts = Said.allText texts := rfl
    rw [hall]
    split <;> simp

theorem keyGroups_eq_map (maps : List Record) :
    keyGroups dialect maps = Said.level [] <$> saidKeys dialect maps := by
  rw [level_saidKeys]
  simp

theorem condition_saidSimple (c : Simple) :
    simpleCondition dialect c = Said.condition <$> saidSimple dialect c := by
  cases c with
  | text sql =>
    rw [simpleCondition, saidSimple, map_pure, condition_saidText]
  | record r =>
    simp only [simpleCondition, saidSimple, allOf, map_bind, map_pure, bind_assoc, pure_bind, Said.condition]
    rfl
  | anyOf items =>
    rw [simpleCondition, alternatives_eq_map, bind_map_left, saidSimple, map_bind]
    exact bind_congr fun groups => (condition_saidAny groups).symm
  | template sql bound =>
    simp only [simpleCondition, saidSimple, map_bind, map_pure, condition_saidText]
  | keys maps =>
    simp only [simpleCondition, saidSimple, keyGroups_eq_map, map_bind, map_pure, bind_map_left,
      Said.condition]
  | unfit => rfl
  | unsupported kind => rfl

mutual
/-- The condition of a criterion is made of what the criterion says, with the same effects. -/
theorem condition_eq_map : ∀ c : Criterion, condition dialect c = Said.condition <$> said dialect c
  | .simple c => by
    rw [condition, said]
    exact condition_saidSimple c
  | .group negated calls => by
    rw [condition, said, runGroup_eq_map [] calls]
    simp only [map_bind, map_pure, bind_map_left, Said.condition]

theorem runGroup_eq_map (clauses : List Clause) : ∀ calls : List GroupCall,
    runGroup dialect clauses calls = Said.level clauses <$> saidCalls dialect calls
  | [] => by rw [runGroup, saidCalls, map_pure, Said.level]
  | .where link c given :: rest => by
    simp only [runGroup, saidCalls, condition_eq_map c, runGroup_eq_map _ rest, map_eq_pure_bind,
      bind_assoc, pure_bind, Said.level]
  | .whereInIds link ids :: rest => by
    simp only [runGroup, saidCalls, saidIds, condition_saidSimple, runGroup_eq_map _ rest, map_eq_pure_bind,
      bind_assoc, pure_bind, Said.level]
  | .setParameter key value :: rest => by
    simp only [runGroup, saidCalls, runGroup_eq_map _ rest, map_bind]
  | .setParameters given :: rest => by
    simp only [runGroup, saidCalls, runGroup_eq_map _ rest, map_bind]
  | .whereEquals column value :: rest => by
    simp only [runGroup, saidCalls, runGroup_eq_map _ rest, map_eq_pure_bind, bind_assoc, pure_bind,
      Said.level, Said.condition, Said.allText, String.intercalate_singleton]
  | .failing f :: rest => by
    rw [runGroup, saidCalls]
    rfl
end

end Build

end SqlWeave
