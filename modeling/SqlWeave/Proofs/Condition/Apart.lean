import Mathlib.Data.List.ReduceOption
import SqlWeave.Proofs.Condition.Written

/-!
# Lists that stand apart

A list of records is written group by group, so AND would take its first or its last group alone. Where
only ORs and the ends of the level stand beside a list, it counts as the one unit that it is meant as. If
that is so wherever a list of several groups is said, and none of the groups says nothing, then what is
written for the calls has the value of what they say.
-/

namespace SqlWeave

/-- A row of calls, each with the number of units that are written for it: beside a call with several of
them stand only ORs. -/
def Apart (calls : List (Connector × Nat)) : Prop :=
  (calls.filter (·.2 ≠ 0)).IsChain fun a b => b.1 = .or ∨ (a.2 ≤ 1 ∧ b.2 ≤ 1)

namespace Said

mutual
/-- The number of units that are written for what is said. -/
def width : Said → Nat
  | .all texts => if texts.isEmpty then 0 else 1
  | .any groups => groups.length
  | .nested _ calls => if (sinceReset (callWidths calls)).all (·.2 = 0) then 0 else 1

def callWidths : List (Connector × Said) → List (Connector × Nat)
  | [] => []
  | (link, s) :: rest => (link, s.width) :: callWidths rest
end

section

variable (list : List (List String) → Prop) (level : List (Connector × Nat) → Prop)

mutual
/-- Each list that counts has one property, and each group of calls that counts has another: that of its
calls with the numbers of their units. -/
def Throughout : Said → Prop
  | .all _ => True
  | .any groups => list groups
  | .nested _ calls => level (sinceReset (callWidths calls)) ∧ Each calls

def Each : List (Connector × Said) → Prop
  | [] => True
  | (_, s) :: rest => (rest.any (·.1 = .simple) ∨ s.Throughout) ∧ Each rest
end

/-- The same of the calls on a statement. -/
def OfLevel (calls : List (Connector × Said)) : Prop :=
  level (sinceReset (callWidths calls)) ∧ Each list level calls

end

/-- No list that counts has a group that says nothing. -/
abbrev Filled : List (Connector × Said) → Prop := OfLevel ([] ∉ ·) fun _ => True

/-- No list that counts has a group that says nothing, and all of them stand apart. -/
abbrev StandApart : List (Connector × Said) → Prop := OfLevel ([] ∉ ·) Apart

end Said

/-! ## Units beside ORs -/

/-- The value of units in a row. -/
abbrev truthOf : Truth → List (Connector × Truth) → Truth := precedence .and .or

/-- Units that OR joins, with an OR or nothing after them, are one unit. -/
theorem truthOf_ors (row : List (Connector × Truth)) (h : ∀ p ∈ row.head?, p.1 = .or) (t : Truth)
    (more : List Truth) :
    truthOf t (more.map (Connector.or, ·) ++ row) = truthOf ((Truth.any? more).elim t t.or) row := by
  have hor (t u : Truth) : truthOf (t.or u) row = t.or (truthOf u row) := by
    match row with
    | [] => rfl
    | (link, x) :: rest =>
      obtain rfl : link = .or := h _ rfl
      exact Truth.or_assoc t u _
  induction more generalizing t with
  | nil => rfl
  | cons u more ih =>
    have hrest : truthOf t ((u :: more).map (Connector.or, ·) ++ row) =
        t.or (truthOf u (more.map (Connector.or, ·) ++ row)) := rfl
    rw [hrest, ih u, ← hor, Truth.any?]
    rfl

/-- Calls, each with the units that are written for it, as calls with one unit. -/
def united (calls : List (Connector × List Truth)) : List (Connector × Truth) :=
  telling (calls.map fun call => (call.1, Truth.any? call.2))

/-- Calls, each with the number of its units. -/
def counted {α : Type} (calls : List (Connector × List α)) : List (Connector × Nat) :=
  calls.map fun call => (call.1, call.2.length)

/-- By the calls after one with the units `t :: more`: what an AND joins is one unit already, and beside an
OR the units of a call are joined to one. -/
theorem truthOf_spread {calls : List (Connector × List Truth)} {link : Connector} {t : Truth}
    {more : List Truth} (h : Apart (counted ((link, t :: more) :: calls))) :
    truthOf t (more.map (Connector.or, ·) ++ spread calls) =
      truthOf ((Truth.any? more).elim t t.or) (united calls) := by
  induction calls generalizing link t more with
  | nil => exact truthOf_ors [] (by simp) t more
  | cons call calls ih =>
    obtain ⟨link', us⟩ := call
    cases us with
    | nil => exact ih h
    | cons u more' =>
      obtain ⟨hbeside, hrest⟩ := List.isChain_cons_cons.mp h
      by_cases hlink : link' = .or
      · subst hlink
        have hmore := truthOf_ors (spread ((.or, u :: more') :: calls)) (by simp [spread]) t more
        rw [hmore]
        exact congrArg (Truth.or _) (ih hrest)
      · obtain ⟨hone, hone'⟩ := hbeside.resolve_left hlink
        obtain rfl : more = [] := List.length_eq_zero_iff.mp (Nat.le_zero.mp (Nat.le_of_succ_le_succ hone))
        obtain rfl : more' = [] := List.length_eq_zero_iff.mp (Nat.le_zero.mp (Nat.le_of_succ_le_succ hone'))
        -- The one unit that AND joins to `t` makes one unit with it.
        have hand := @ih link' (t.and u) [] hrest
        cases link' with
        | or => exact absurd rfl hlink
        | simple => exact hand
        | and => exact hand

theorem inRow_spread {calls : List (Connector × List Truth)} (h : Apart (counted calls)) :
    inRow .and .or (spread calls) = inRow .and .or (united calls) := by
  induction calls with
  | nil => rfl
  | cons call calls ih =>
    obtain ⟨link, us⟩ := call
    cases us with
    | nil => exact ih h
    | cons t more => exact congrArg some (truthOf_spread h)

/-! ## What is written and what is said -/

theorem inRow_map_some (row : List (Connector × Truth)) :
    rowValue (row.map fun p => (p.1, some p.2)) = (inRow .and .or row).map some := by
  have hprecedence (t : Truth) (row : List (Connector × Truth)) :
      Reading.precedence? (some t) (row.map fun p => (p.1, some p.2)) = some (truthOf t row) := by
    induction row generalizing t with
    | nil => rfl
    | cons p row ih =>
      obtain ⟨link, u⟩ := p
      cases link with
      | or => exact congrArg (Option.map₂ Truth.or (some t)) (ih u)
      | simple => exact ih (t.and u)
      | and => exact ih (t.and u)
  cases row with
  | nil => rfl
  | cons p row => exact congrArg some (hprecedence p.2 row)

theorem sinceReset_map {α β : Type} (f : α → β) (calls : List (Connector × α)) :
    sinceReset (calls.map fun call => (call.1, f call.2)) =
      (sinceReset calls).map fun call => (call.1, f call.2) := by
  induction calls with
  | nil => rfl
  | cons call rest ih =>
    have hany : (rest.map fun call => (call.1, f call.2)).any (·.1 = .simple) =
        rest.any (·.1 = .simple) := by
      rw [List.any_map]
      rfl
    rw [List.map_cons, sinceReset, sinceReset, hany, ih]
    split
    · rfl
    · rfl

theorem spread_map {α β : Type} (f : α → β) (calls : List (Connector × List α)) :
    spread (calls.map fun call => (call.1, call.2.map f)) = (spread calls).map fun p => (p.1, f p.2) := by
  induction calls with
  | nil => rfl
  | cons call rest ih =>
    obtain ⟨link, us⟩ := call
    cases us with
    | nil => exact ih
    | cons t more => simp [spread, ih]

namespace Said

variable {w : String → Truth}

theorem callUnits_eq_map (calls : List (Connector × Said)) :
    callUnits w calls = calls.map fun call => (call.1, call.2.units w) := by
  induction calls with
  | nil => rw [callUnits]; rfl
  | cons call rest ih => rw [callUnits, ih]; rfl

theorem truths_eq_map (calls : List (Connector × Said)) :
    truths w calls = calls.map fun call => (call.1, call.2.truth w) := by
  induction calls with
  | nil => rw [truths]; rfl
  | cons call rest ih => rw [truths, ih]; rfl

theorem callWidths_eq_map (calls : List (Connector × Said)) :
    callWidths calls = calls.map fun call => (call.1, call.2.width) := by
  induction calls with
  | nil => rw [callWidths]; rfl
  | cons call rest ih => rw [callWidths, ih]; rfl

/-- The units that are written for what is said can all be read, and joined by OR they are what is said. -/
structure Clear (w : String → Truth) (s : Said) : Prop where
  units : s.units w = (s.units w).reduceOption.map some
  truth : s.truth w = Truth.any? (s.units w).reduceOption
  width : s.width = (s.units w).reduceOption.length

theorem clear_of_units {s : Said} (us : List Truth) (hunits : s.units w = us.map some)
    (htruth : s.truth w = Truth.any? us) (hwidth : s.width = us.length) : Clear w s := by
  have hus : (s.units w).reduceOption = us := by
    rw [hunits, List.reduceOption, List.filterMap_map]
    exact List.filterMap_some
  exact ⟨by rw [hus, hunits], by rw [hus, htruth], by rw [hus, hwidth]⟩

theorem all?_eq_some {ts : List Truth} (h : ts ≠ []) : ∃ t, Truth.all? ts = some t := by
  cases ts with
  | nil => exact absurd rfl h
  | cons t ts => exact ⟨_, rfl⟩

theorem united_eq_nil {calls : List (Connector × List Truth)} :
    united calls = [] ↔ (counted calls).all (·.2 = 0) := by
  induction calls with
  | nil => exact iff_of_true rfl rfl
  | cons call calls ih =>
    obtain ⟨link, us⟩ := call
    cases us with
    | nil => exact ih
    | cons u us => simp [united, telling, counted, Truth.any?]

/-- A level whose calls are clear and whose lists stand apart is written as what its calls say. -/
theorem rowValue_of_clear {calls : List (Connector × Said)} (hclear : ∀ call ∈ sinceReset calls, Clear w call.2)
    (hapart : Apart (sinceReset (callWidths calls))) :
    rowValue (spread (sinceReset (callUnits w calls))) = (levelTruth (truths w calls)).map some ∧
      (levelTruth (truths w calls) = none ↔ (sinceReset (callWidths calls)).all (·.2 = 0)) := by
  have hunits : sinceReset (callUnits w calls) =
      ((sinceReset calls).map fun call => (call.1, (call.2.units w).reduceOption)).map
        fun call => (call.1, call.2.map some) := by
    rw [callUnits_eq_map, sinceReset_map, List.map_map]
    exact List.map_congr_left fun call hcall => by
      rw [Function.comp_apply, ← (hclear call hcall).units]
  have htruths : sinceReset (truths w calls) =
      ((sinceReset calls).map fun call => (call.1, (call.2.units w).reduceOption)).map
        fun call => (call.1, Truth.any? call.2) := by
    rw [truths_eq_map, sinceReset_map, List.map_map]
    exact List.map_congr_left fun call hcall => by
      rw [Function.comp_apply, ← (hclear call hcall).truth]
  have hwidths : sinceReset (callWidths calls) =
      counted ((sinceReset calls).map fun call => (call.1, (call.2.units w).reduceOption)) := by
    rw [callWidths_eq_map, sinceReset_map, counted, List.map_map]
    exact List.map_congr_left fun call hcall => by
      rw [Function.comp_apply, ← (hclear call hcall).width]
  generalize (sinceReset calls).map (fun call => (call.1, (call.2.units w).reduceOption)) = row at *
  rw [hwidths] at hapart ⊢
  have hlevel : levelTruth (truths w calls) = inRow .and .or (united row) := by
    rw [levelTruth, htruths]
    rfl
  refine ⟨?_, ?_⟩
  · rw [hunits, spread_map, inRow_map_some, inRow_spread hapart, hlevel]
  · rw [hlevel, ← united_eq_nil]
    cases united row <;> simp [inRow]

theorem clear_nested {negated : Bool} {calls : List (Connector × Said)}
    (hclear : ∀ call ∈ sinceReset calls, Clear w call.2) (hapart : Apart (sinceReset (callWidths calls))) :
    Clear w (.nested negated calls) := by
  obtain ⟨hrow, hnone⟩ := rowValue_of_clear hclear hapart
  refine clear_of_units ((levelTruth (truths w calls)).map (Truth.negated negated)).toList ?_ ?_ ?_
  · rw [Said.units, hrow]
    cases levelTruth (truths w calls) <;> rfl
  · rw [Said.truth]
    cases levelTruth (truths w calls) <;> rfl
  · rw [Said.width]
    cases hlevel : levelTruth (truths w calls) with
    | none =>
      rw [if_pos (hnone.mp hlevel)]
      rfl
    | some t =>
      rw [if_neg fun hall => Option.some_ne_none t (hlevel ▸ hnone.mpr hall)]
      rfl

mutual
theorem clear_of_throughout : ∀ s : Said, s.Throughout ([] ∉ ·) Apart → Clear w s
  | .all texts, _ => by
    by_cases h : texts = []
    · subst h
      exact clear_of_units [] rfl rfl rfl
    · have hne : texts.map w ≠ [] := by simpa using h
      obtain ⟨t, ht⟩ := all?_eq_some hne
      have hempty : texts.isEmpty = false := List.isEmpty_eq_false_iff.mpr h
      refine clear_of_units [t] ?_ ?_ ?_
      · rw [Said.units, hempty, ht]
        rfl
      · rw [Said.truth, ht]
        rfl
      · rw [Said.width, hempty]
        rfl
  | .any groups, h => by
    have hall : groups.map (fun texts => Truth.all? (texts.map w)) =
        (groups.filterMap fun texts => Truth.all? (texts.map w)).map some := by
      induction groups with
      | nil => rfl
      | cons texts groups ih =>
        rw [Throughout, List.mem_cons, not_or] at h
        have hne : texts.map w ≠ [] := by simpa using Ne.symm h.1
        obtain ⟨t, ht⟩ := all?_eq_some hne
        rw [List.map_cons, ih h.2, List.filterMap_cons, ht]
        rfl
    refine clear_of_units (groups.filterMap fun texts => Truth.all? (texts.map w)) ?_ ?_ ?_
    · rw [Said.units, hall]
    · rw [Said.truth]
    · have hlength := congrArg List.length hall
      rwa [List.length_map, List.length_map] at hlength
  | .nested negated calls, h => by
    rw [Throughout] at h
    exact clear_nested (clear_of_each calls h.2) h.1

theorem clear_of_each : ∀ calls : List (Connector × Said), Each ([] ∉ ·) Apart calls →
    ∀ call ∈ sinceReset calls, Clear w call.2
  | [], _ => by simp [sinceReset]
  | (link, s) :: rest, h => by
    rw [Each] at h
    have hrest := clear_of_each rest h.2
    rw [sinceReset]
    split
    · exact hrest
    · next hany =>
      rw [sinceReset_of_not_any hany] at hrest
      exact List.forall_mem_cons.mpr ⟨clear_of_throughout s (h.1.resolve_left hany), hrest⟩
end

/-- What is written for calls whose lists stand apart is what the calls say. -/
theorem rowValue_of_standApart {calls : List (Connector × Said)} (h : StandApart calls) :
    rowValue (spread (sinceReset (callUnits w calls))) = (levelTruth (truths w calls)).map some :=
  (rowValue_of_clear (clear_of_each calls h.2) h.1).1

/-! ## No lists -/

mutual
/-- Nothing that is said is a list of groups. -/
def NoLists : Said → Prop
  | .all _ => True
  | .any _ => False
  | .nested _ calls => NoneListed calls

def NoneListed : List (Connector × Said) → Prop
  | [] => True
  | (_, s) :: rest => s.NoLists ∧ NoneListed rest
end

theorem noneListed_iff (calls : List (Connector × Said)) :
    NoneListed calls ↔ ∀ call ∈ calls, call.2.NoLists := by
  induction calls with
  | nil => simp [NoneListed]
  | cons call rest ih => rw [NoneListed, ih, List.forall_mem_cons]

theorem width_le_of_noLists {s : Said} (h : s.NoLists) : s.width ≤ 1 := by
  cases s with
  | any groups => exact absurd h id
  | all texts =>
    rw [width]
    split <;> decide
  | nested negated calls =>
    rw [width]
    split <;> decide

theorem apart_of_narrow {calls : List (Connector × Nat)} (h : ∀ call ∈ calls, call.2 ≤ 1) : Apart calls := by
  refine List.Pairwise.isChain (List.pairwise_of_forall_mem_list fun a ha b hb => .inr ?_)
  exact ⟨h a (List.mem_of_mem_filter ha), h b (List.mem_of_mem_filter hb)⟩

theorem mem_of_mem_sinceReset {α : Type} {calls : List (Connector × α)} {call : Connector × α}
    (h : call ∈ sinceReset calls) : call ∈ calls := by
  induction calls with
  | nil => exact h
  | cons c rest ih =>
    rw [sinceReset] at h
    split at h
    · exact List.mem_cons_of_mem c (ih h)
    · exact h

theorem apart_of_noneListed {calls : List (Connector × Said)} (h : NoneListed calls) :
    Apart (sinceReset (callWidths calls)) := by
  refine apart_of_narrow fun call hcall => ?_
  have hmem := mem_of_mem_sinceReset hcall
  rw [callWidths_eq_map, List.mem_map] at hmem
  obtain ⟨c, hc, rfl⟩ := hmem
  exact width_le_of_noLists ((noneListed_iff calls).mp h c hc)

mutual
theorem throughout_of_noLists : ∀ s : Said, s.NoLists → s.Throughout ([] ∉ ·) Apart
  | .all _, _ => trivial
  | .any _, h => absurd h id
  | .nested _ calls, h => by
    rw [Throughout]
    exact ⟨apart_of_noneListed h, each_of_noneListed calls h⟩

theorem each_of_noneListed : ∀ calls : List (Connector × Said), NoneListed calls → Each ([] ∉ ·) Apart calls
  | [], _ => trivial
  | (_, s) :: rest, h => by
    rw [Each]
    exact ⟨.inr (throughout_of_noLists s h.1), each_of_noneListed rest h.2⟩
end

theorem standApart_of_noneListed {calls : List (Connector × Said)} (h : NoneListed calls) : StandApart calls :=
  ⟨apart_of_noneListed h, each_of_noneListed calls h⟩

end Said

end SqlWeave
