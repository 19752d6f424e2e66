import SqlWeave.Proofs.Condition.Said

/-!
# What calls say and how it is written

The level that calls leave is written as parts, and their values are those of the units of the calls that
count: a group of calls is one unit, but a list is written group by group, so its first group stands after
the connector of the list and the others stand after ORs. A group of a list that says nothing is written as
an empty pair of parentheses, which nothing can be read of.
-/

namespace SqlWeave

/-! ## Units in a row -/

/-- Units in a row: those of one call stand after ORs, but for the first of them. -/
def spread {α : Type} : List (Connector × List α) → List (Connector × α)
  | [] => []
  | (_, []) :: rest => spread rest
  | (link, t :: more) :: rest => (link, t) :: more.map (Connector.or, ·) ++ spread rest

/-- The value of units in a row, each of which may be unreadable. -/
abbrev rowValue : List (Connector × Option Truth) → Option (Option Truth) :=
  inRow (Option.map₂ .and) (Option.map₂ .or)

namespace Said

mutual
/-- The values of the units that are written for what is said. -/
def units (w : String → Truth) : Said → List (Option Truth)
  | .all texts => if texts.isEmpty then [] else [Truth.all? (texts.map w)]
  | .any groups => groups.map fun texts => Truth.all? (texts.map w)
  | .nested negated calls =>
    (rowValue (spread (sinceReset (callUnits w calls)))).toList.map (Option.map (Truth.negated negated))

def callUnits (w : String → Truth) : List (Connector × Said) → List (Connector × List (Option Truth))
  | [] => []
  | (link, s) :: rest => (link, s.units w) :: callUnits w rest
end

mutual
/-- All texts that are said. -/
def texts : Said → List String
  | .all texts => texts
  | .any groups => groups.flatten
  | .nested _ calls => callTexts calls

def callTexts : List (Connector × Said) → List String
  | [] => []
  | (_, s) :: rest => s.texts ++ callTexts rest
end

end Said

section Reset

variable {α β : Type} {calls : List (Connector × α)}

theorem sinceReset_of_not_any (h : ¬ calls.any (·.1 = .simple)) : sinceReset calls = calls := by
  cases calls with
  | nil => rfl
  | cons call rest =>
    rw [List.any_cons, Bool.or_eq_true, not_or] at h
    rw [sinceReset, if_neg h.2]

theorem spread_cons (call : Connector × List α) (rest : List (Connector × List α)) :
    spread (call :: rest) = spread [call] ++ spread rest := by
  obtain ⟨link, us⟩ := call
  cases us with
  | nil => rfl
  | cons t more => simp [spread]

/-- One more call in front of others, which come after what stood there before. -/
theorem spread_sinceReset_cons (before : List (Connector × α)) (call : Connector × List α)
    (rest : List (Connector × List α)) :
    (if (call :: rest).any (·.1 = .simple) then [] else before) ++ spread (sinceReset (call :: rest)) =
      (if rest.any (·.1 = .simple) then []
        else (if call.1 = .simple then [] else before) ++ spread [call]) ++ spread (sinceReset rest) := by
  rw [List.any_cons, sinceReset]
  by_cases h : rest.any (·.1 = .simple)
  · simp [h]
  · rw [if_neg h, if_neg h, sinceReset_of_not_any h, spread_cons, ← List.append_assoc]
    simp [h]

end Reset

namespace Reading

variable {d : Dialect}

/-! ## Texts that are units -/

/-- A text that can stand between connectors: it is read, and no OR stands at its own depth. -/
def IsUnit (d : Dialect) (sql : String) : Prop := ∃ xs f, pieces d sql = some xs ∧ Tight xs ∧ term xs = some f

/-- The value of a text by itself. A text that is no condition has none and counts as unknown. -/
def textTruth (d : Dialect) (v : List Token → Truth) (sql : String) : Truth :=
  (value? v (read d sql)).getD .unknown

theorem IsUnit.textTruth {sql : String} {xs : List Item} {f : Formula} (hp : pieces d sql = some xs)
    (hx : Tight xs) (hf : term xs = some f) (v : List Token → Truth) :
    textTruth d v sql = f.truth v := by
  rw [Reading.textTruth, read_eq_bind, hp, Option.bind_some, expression_of_noOr hx.noOr, hf]
  rfl

/-- A text that is read as an atom, or as anything but a disjunction, is a unit. -/
theorem isUnit_of_read {sql : String} {f : Formula} (h : read d sql = some f) (hf : ∀ g g', f ≠ .or g g') :
    IsUnit d sql := by
  rw [read_eq_bind] at h
  obtain ⟨xs, hxs, h⟩ := Option.bind_eq_some_iff.mp h
  obtain ⟨htight, hterm⟩ := tight_of_expression h hf
  exact ⟨xs, f, hxs, htight, hterm⟩

theorem allText_cons (text : String) {texts : List String} (h : texts ≠ []) :
    Said.allText (text :: texts) = text ++ " " ++ (Condition.joiner false .and ++ Said.allText texts) := by
  cases texts with
  | nil => exact absurd rfl h
  | cons text' texts =>
    have hword : " " ++ Condition.joiner false .and = " AND " := by decide
    rw [Said.allText, String.intercalate_cons_cons, ← hword, String.append_assoc, String.append_assoc,
      String.append_assoc]
    rfl

/-- Texts that AND joins are one part. -/
theorem pieces_allText {texts : List String} (h : ∀ t ∈ texts, IsUnit d t) :
    ∃ xs, pieces d (Said.allText texts) = some xs ∧ Tight xs ∧
      ∀ v, value? v (term xs) = Truth.all? (texts.map (textTruth d v)) := by
  induction texts with
  | nil => exact ⟨[], pieces_empty, ⟨by simp, rfl⟩, fun v => rfl⟩
  | cons text texts ih =>
    rw [List.forall_mem_cons] at h
    obtain ⟨⟨xs, f, hxs, htight, hf⟩, hrest⟩ := h
    have hvalue (v : List Token → Truth) : value? v (term xs) = some (textTruth d v text) := by
      rw [IsUnit.textTruth hxs htight hf, hf]
      rfl
    by_cases hne : texts = []
    · subst hne
      refine ⟨xs, ?_, htight, hvalue⟩
      rw [Said.allText, String.intercalate_singleton, hxs]
    · obtain ⟨ys, hys, htys, hvys⟩ := ih hrest
      obtain ⟨text', texts', rfl⟩ := List.exists_cons_of_ne_nil hne
      have hjoined := pieces_append_blank hxs (pieces_joiner .and hys)
      have hone := htight.append_and htys (a := .leaf (.word "AND".toList)) (by decide) (by decide)
      refine ⟨_, by rw [allText_cons text hne, hjoined]; rfl, hone, fun v => ?_⟩
      rw [value?_term_append_and htight htys (by decide), hvalue, hvys]
      rfl

/-! ## Calls as they are written -/

/-- A condition is written as parts, the first of them after `link`; none where it is empty. -/
structure Clausal (d : Dialect) (link : Connector) (c : Condition) (parts : List Part) : Prop where
  empty : c.isEmpty → parts = []
  spells : c.isEmpty = false → ∃ xs more, parts = (link, xs) :: more ∧ Spells d c.render parts

/-- The step: a level that goes on with one more condition. -/
theorem Standing.extend {level : List Clause} {parts ps : List Part} {link : Connector} {c : Condition}
    (h : Standing d level parts) (hc : Clausal d link c ps) :
    Standing d (Build.extendLevel level link c) ((if link = .simple then [] else parts) ++ ps) := by
  have hbase : Standing d (if link = .simple then [] else level) (if link = .simple then [] else parts) := by
    split
    · exact standing_nil
    · exact h
  generalize hb : (if link = .simple then [] else level) = base at hbase
  generalize (if link = .simple then [] else parts) = before at hbase
  rw [Build.extendLevel, hb]
  cases hempty : c.isEmpty with
  | true =>
    rw [if_pos rfl, hc.empty hempty, List.append_nil]
    exact hbase
  | false =>
    rw [if_neg Bool.false_ne_true]
    obtain ⟨xs, more, rfl, hspells⟩ := hc.spells hempty
    refine ⟨?_, by simp⟩
    by_cases hne : base = []
    · rw [hne, hbase.empty.mp hne, List.nil_append, List.nil_append, clausesText_singleton]
      exact hspells
    · rw [clausesText_concat hne]
      refine hbase.spells.append (fun h => hne (hbase.empty.mpr h)) hspells fun hlink => hne ?_
      rw [← hb, if_pos hlink]

theorem clausal_all {texts : List String} (h : ∀ t ∈ texts, IsUnit d t) (link : Connector) :
    ∃ parts, Clausal d link (Said.all texts).condition parts ∧
      ∀ v, parts.map (partValue v) = spread [(link, (Said.all texts).units (textTruth d v))] := by
  rw [Said.condition]
  by_cases hne : texts = []
  · subst hne
    exact ⟨[], ⟨fun _ => rfl, fun h => absurd h (by decide)⟩, fun v => rfl⟩
  · obtain ⟨xs, hxs, htight, hvalue⟩ := pieces_allText h
    -- Of no pieces nothing is read, but of texts that AND joins something is.
    have hfilled : xs ≠ [] := by
      rintro rfl
      obtain ⟨text, more, rfl⟩ := List.exists_cons_of_ne_nil hne
      cases hvalue fun _ => .unknown
    have hspells : Spells d (Said.allText texts) [(link, xs)] := .one hxs htight hfilled link
    refine ⟨[(link, xs)], ⟨fun hempty => ?_, fun _ => ⟨xs, [], rfl, hspells⟩⟩, fun v => ?_⟩
    · exact absurd (of_decide_eq_true hempty) hspells.ne_empty
    · rw [Said.units, if_neg (by simpa using hne), ← hvalue v]
      rfl

/-- A group of a list, in parentheses. -/
theorem spells_group {texts : List String} (h : ∀ t ∈ texts, IsUnit d t) (link : Connector) :
    ∃ xs, Spells d ("(" ++ Said.allText texts ++ ")") [(link, xs)] ∧
      ∀ v, value? v (term xs) = Truth.all? (texts.map (textTruth d v)) := by
  obtain ⟨xs, hxs, htight, hvalue⟩ := pieces_allText h
  obtain ⟨whole, hwhole⟩ := pieces_parentheses hxs
  rw [expression_of_noOr htight.noOr] at hwhole
  exact ⟨[.nest whole (term xs)], .one hwhole ⟨by simp [Item.isWord], rfl⟩ (by simp) link, hvalue⟩

theorem anyText_cons (texts texts' : List String) (groups : List (List String)) :
    Said.anyText (texts :: texts' :: groups) = "(" ++ Said.allText texts ++ ")" ++ " " ++
      (Condition.joiner false .or ++ Said.anyText (texts' :: groups)) := by
  have hword : " OR " = " " ++ Condition.joiner false .or := by decide
  have hcons : Said.anyText (texts :: texts' :: groups) =
      "(" ++ Said.allText texts ++ ")" ++ " OR " ++ Said.anyText (texts' :: groups) :=
    String.intercalate_cons_cons ..
  rw [hcons, hword, ← String.append_assoc, String.append_assoc]

/-- The groups of a list: the first after the connector of the list, the others after ORs. -/
theorem spells_anyText {texts : List String} {groups : List (List String)}
    (h : ∀ g ∈ texts :: groups, ∀ t ∈ g, IsUnit d t) (link : Connector) :
    ∃ xs more, Spells d (Said.anyText (texts :: groups)) ((link, xs) :: more) ∧
      ∀ v, ((link, xs) :: more).map (partValue v) =
        spread [(link, (texts :: groups).map fun texts => Truth.all? (texts.map (textTruth d v)))] := by
  induction groups generalizing texts link with
  | nil =>
    obtain ⟨xs, hspells, hvalue⟩ := spells_group (h texts List.mem_cons_self) link
    refine ⟨xs, [], ?_, fun v => ?_⟩
    · rwa [Said.anyText, List.map_singleton, String.intercalate_singleton]
    · simp [spread, partValue, hvalue v]
  | cons texts' groups ih =>
    obtain ⟨ys, more, hmore, hvalues⟩ := ih (fun g hg => h g (List.mem_cons_of_mem _ hg)) .or
    obtain ⟨xs, hspells, hvalue⟩ := spells_group (h texts List.mem_cons_self) link
    refine ⟨xs, (.or, ys) :: more, ?_, fun v => ?_⟩
    · rw [anyText_cons]
      exact hspells.append (by simp) hmore (by decide)
    · rw [List.map_cons, hvalues v]
      simp [spread, partValue, hvalue v]

theorem clausal_any {groups : List (List String)} (h : ∀ g ∈ groups, ∀ t ∈ g, IsUnit d t)
    (link : Connector) : ∃ parts, Clausal d link (Said.any groups).condition parts ∧
      ∀ v, parts.map (partValue v) = spread [(link, (Said.any groups).units (textTruth d v))] := by
  rw [Said.condition]
  cases groups with
  | nil => exact ⟨[], ⟨fun _ => rfl, fun h => absurd h (by decide)⟩, fun v => rfl⟩
  | cons texts groups =>
    obtain ⟨xs, more, hspells, hvalues⟩ := spells_anyText h link
    refine ⟨_, ⟨fun hempty => ?_, fun _ => ⟨xs, more, rfl, hspells⟩⟩, fun v => by rw [hvalues v, Said.units]⟩
    exact absurd (of_decide_eq_true hempty) hspells.ne_empty

theorem clausal_nested (negated : Bool) {level : List Clause} {parts : List Part}
    (h : Standing d level parts) (link : Connector) :
    ∃ ps, Clausal d link (.group negated level) ps ∧ ∀ v, ps.map (partValue v) =
      spread [(link, (rowValue (parts.map (partValue v))).toList.map (Option.map (Truth.negated negated)))] := by
  by_cases hne : level = []
  · obtain rfl := h.empty.mp hne
    subst hne
    exact ⟨[], ⟨fun _ => rfl, fun h => absurd h Bool.true_eq_false.mp⟩, fun v => rfl⟩
  · obtain ⟨xs, hxs, htight, hfilled, hvalue⟩ := pieces_group negated h
    have hparts : parts ≠ [] := fun hnil => hne (h.empty.mpr hnil)
    obtain ⟨⟨first, ys⟩, more, rfl⟩ := List.exists_cons_of_ne_nil hparts
    refine ⟨[(link, xs)], ⟨fun hempty => ?_, fun _ => ⟨xs, [], rfl, .one hxs htight hfilled link⟩⟩,
      fun v => ?_⟩
    · exact absurd (List.isEmpty_iff.mp hempty) hne
    · have hrow := h.spells.value? (v := v)
      simp [partValue, spread, inRow, hvalue v, hrow]

mutual
theorem clausal_said : ∀ (s : Said), (∀ t ∈ s.texts, IsUnit d t) → ∀ link : Connector,
    ∃ parts, Clausal d link s.condition parts ∧
      ∀ v, parts.map (partValue v) = spread [(link, s.units (textTruth d v))]
  | .all texts, h, link => clausal_all h link
  | .any groups, h, link =>
    clausal_any (fun g hg t ht => h t (List.mem_flatten.mpr ⟨g, hg, ht⟩)) link
  | .nested negated calls, h, link => by
    obtain ⟨parts, hstanding, hvalues⟩ := standing_level calls h standing_nil
    obtain ⟨ps, hps, hunit⟩ := clausal_nested negated hstanding link
    rw [Said.condition]
    refine ⟨ps, hps, fun v => ?_⟩
    rw [hunit v, hvalues v, Said.units]
    simp

/-- The run: what stood on the level before counts only if no call starts the level anew. -/
theorem standing_level : ∀ (calls : List (Connector × Said)), (∀ t ∈ Said.callTexts calls, IsUnit d t) →
    ∀ {level : List Clause} {before : List Part}, Standing d level before →
      ∃ parts, Standing d (Said.level level calls) parts ∧ ∀ v, parts.map (partValue v) =
        (if (Said.callUnits (textTruth d v) calls).any (·.1 = .simple) then []
          else before.map (partValue v)) ++ spread (sinceReset (Said.callUnits (textTruth d v) calls))
  | [], _, level, before, h => ⟨before, h, fun v => by simp [Said.callUnits, sinceReset, spread]⟩
  | (link, s) :: rest, htexts, level, before, h => by
    rw [Said.callTexts, List.forall_mem_append] at htexts
    obtain ⟨ps, hps, hunits⟩ := clausal_said s htexts.1 link
    obtain ⟨parts, hparts, hvalues⟩ := standing_level rest htexts.2 (h.extend hps)
    refine ⟨parts, hparts, fun v => ?_⟩
    rw [hvalues v, Said.callUnits, spread_sinceReset_cons, List.map_append, hunits v]
    simp only [apply_ite (List.map (partValue v)), List.map_nil]
end

/-- What is written of the level that calls leave, and what is read of it: the value of the units in a
row. Nothing is written exactly when no unit counts. -/
theorem pieces_renderLevel {calls : List (Connector × Said)} (h : ∀ t ∈ Said.callTexts calls, IsUnit d t) :
    ∃ xs, pieces d (Condition.renderLevel (Said.level [] calls)) = some xs ∧ ∀ v,
      (Condition.renderLevel (Said.level [] calls) = "" ↔
        rowValue (spread (sinceReset (Said.callUnits (textTruth d v) calls))) = none) ∧
      value? v (expression xs) = (rowValue (spread (sinceReset (Said.callUnits (textTruth d v) calls)))).join := by
  obtain ⟨parts, hstanding, hvalues⟩ := standing_level calls h standing_nil
  have htrimmed : Spells d (Condition.renderLevel (Said.level [] calls)) parts :=
    { hstanding.spells with pieces := pieces_trim hstanding.spells.pieces }
  refine ⟨glue true parts, htrimmed.pieces, fun v => ?_⟩
  have hrow : parts.map (partValue v) = spread (sinceReset (Said.callUnits (textTruth d v) calls)) := by
    rw [hvalues v, List.map_nil, ite_self, List.nil_append]
  rw [← hrow]
  match parts with
  | [] =>
    refine ⟨iff_of_true ?_ rfl, rfl⟩
    rw [hstanding.empty.mpr rfl]
    rfl
  | (link, xs) :: more =>
    refine ⟨iff_of_false htrimmed.ne_empty nofun, ?_⟩
    rw [htrimmed.value?]
    rfl

end Reading

end SqlWeave
