import SqlWeave.Proofs.Condition.Reading
import SqlWeave.Statement.Clause

/-!
# Levels as they are read

A level of conditions is written with its connectors between the texts of the conditions. What the text
says is put together from its parts, the pieces between connectors: parts that AND joins count before those
that OR joins. A text may be several parts, and a condition in parentheses is always one.
-/

namespace SqlWeave

/-- The value of units in a row, where AND binds before OR. The connector before the first of them does
not count. -/
def precedence {α : Type} (and or : α → α → α) : α → List (Connector × α) → α
  | t, [] => t
  | t, (.or, u) :: rest => or t (precedence and or u rest)
  | t, (_, u) :: rest => precedence and or (and t u) rest

/-- The value of units in a row, if there are any. -/
def inRow {α : Type} (and or : α → α → α) : List (Connector × α) → Option α
  | [] => none
  | (_, t) :: rest => some (precedence and or t rest)

namespace Reading

/-- The pieces of a text. -/
def pieces (d : Dialect) (sql : String) : Option (List Item) := (tokens d sql.toList).bind items

theorem read_eq_bind (d : Dialect) (sql : String) : read d sql = (pieces d sql).bind expression := by
  unfold read pieces
  cases tokens d sql.toList <;> rfl

/-- The pieces that a connector is written as. -/
def connective : Connector → List Item
  | .simple => []
  | .and => [.leaf (.word "AND".toList)]
  | .or => [.leaf (.word "OR".toList)]

/-- A part of a level, with the connector before it. -/
abbrev Part := Connector × List Item

/-- The pieces of parts in a row; `first` says whether the first of a level is among them. -/
def glue (first : Bool) : List Part → List Item
  | [] => []
  | (link, xs) :: rest => (if first then [] else connective link) ++ xs ++ glue false rest

/-- What a part says where the atoms have the values `v`. -/
def partValue (v : List Token → Truth) (p : Part) : Connector × Option Truth := (p.1, value? v (term p.2))

/-- Units of which each may be unreadable. -/
abbrev precedence? : Option Truth → List (Connector × Option Truth) → Option Truth :=
  precedence (Option.map₂ Truth.and) (Option.map₂ Truth.or)

variable {d : Dialect} {v : List Token → Truth}

/-! ## The value of parts in a row -/

theorem glue_append (first : Bool) (ps qs : List Part) :
    glue first (ps ++ qs) = glue first ps ++ glue (first && ps.isEmpty) qs := by
  induction ps generalizing first with
  | nil => rw [List.isEmpty_nil, Bool.and_true]; rfl
  | cons p ps ih =>
    rw [List.cons_append, glue, glue, ih false, List.isEmpty_cons, Bool.and_false, Bool.false_and,
      List.append_assoc, List.append_assoc, List.append_assoc]

/-- By the parts after the first: an AND makes one part of two, and an OR leaves the first part to itself. -/
theorem value?_expression_glue {xs : List Item} {parts : List Part} (hx : Tight xs)
    (htight : ∀ p ∈ parts, Tight p.2) (hlinks : ∀ p ∈ parts, p.1 ≠ .simple) :
    value? v (expression (xs ++ glue false parts)) =
      precedence? (value? v (term xs)) (parts.map (partValue v)) := by
  induction parts generalizing xs with
  | nil =>
    rw [glue, List.append_nil, expression_of_noOr hx.noOr]
    rfl
  | cons p parts ih =>
    obtain ⟨link, ys⟩ := p
    rw [List.forall_mem_cons] at htight hlinks
    rw [glue, if_neg Bool.false_ne_true]
    cases link with
    | simple => exact absurd rfl hlinks.1
    | and =>
      have hjoined : Tight (xs ++ .leaf (.word "AND".toList) :: ys) :=
        hx.append_and htight.1 (by decide) (by decide)
      have hglued : xs ++ (connective .and ++ ys ++ glue false parts) =
          (xs ++ .leaf (.word "AND".toList) :: ys) ++ glue false parts := by
        simp [connective]
      rw [hglued, ih hjoined htight.2 hlinks.2, value?_term_append_and hx htight.1 (by decide)]
      rfl
    | or =>
      have hglued : xs ++ (connective .or ++ ys ++ glue false parts) =
          xs ++ .leaf (.word "OR".toList) :: (ys ++ glue false parts) := by
        simp [connective]
      rw [hglued, value?_expression_append_or hx (by decide), ih htight.1 htight.2 hlinks.2]
      rfl

/-! ## The pieces of texts that are put together -/

variable {a b : String} {xs ys : List Item}

theorem pieces_eq_some {sql : String} :
    pieces d sql = some xs ↔ ∃ ts, tokens d sql.toList = some ts ∧ items ts = some xs :=
  Option.bind_eq_some_iff

theorem pieces_empty : pieces d "" = some [] := rfl

theorem toList_blank : " ".toList = [' '] := rfl

theorem toList_opening : "(".toList = ['('] := rfl

theorem toList_closing : ")".toList = [')'] := rfl

theorem pieces_append_blank (ha : pieces d a = some xs) (hb : pieces d b = some ys) :
    pieces d (a ++ " " ++ b) = some (xs ++ ys) := by
  obtain ⟨ts, hts, hxs⟩ := pieces_eq_some.mp ha
  obtain ⟨us, hus, hys⟩ := pieces_eq_some.mp hb
  have htokens : tokens d (a ++ " " ++ b).toList = some (ts ++ us) := by
    rw [String.toList_append, String.toList_append, List.append_assoc, toList_blank, List.singleton_append,
      tokens_append_cut (cuts_blank (by decide)) hts hus, List.append_nil]
  exact pieces_eq_some.mpr ⟨_, htokens, items_append hxs hys⟩

theorem pieces_trim (h : pieces d a = some xs) : pieces d (Text.trim a) = some xs := by
  obtain ⟨ts, hts, hxs⟩ := pieces_eq_some.mp h
  refine pieces_eq_some.mpr ⟨ts, ?_, hxs⟩
  rw [Text.trim, String.toList_ofList]
  exact tokens_trim hts

/-- A text in parentheses, perhaps after another. -/
theorem pieces_append_parentheses (ha : pieces d a = some xs) (hb : pieces d b = some ys) :
    ∃ whole, pieces d (a ++ "(" ++ b ++ ")") = some (xs ++ [.nest whole (expression ys)]) := by
  obtain ⟨ts, hts, hxs⟩ := pieces_eq_some.mp ha
  obtain ⟨us, hus, hys⟩ := pieces_eq_some.mp hb
  obtain ⟨whole, hwhole⟩ := items_parentheses hys
  have hinner : tokens d (b.toList ++ [')']) = some (us ++ [.closing]) := tokens_concat_cut cuts_closing hus
  have htokens : tokens d (a ++ "(" ++ b ++ ")").toList = some (ts ++ (.opening :: us ++ [.closing])) := by
    rw [String.toList_append, String.toList_append, String.toList_append, List.append_assoc,
      List.append_assoc, toList_opening, toList_closing, List.singleton_append,
      tokens_append_cut cuts_opening hts hinner, List.append_assoc]
    rfl
  exact ⟨whole, pieces_eq_some.mpr ⟨_, htokens, items_append hxs hwhole⟩⟩

theorem pieces_parentheses (h : pieces d b = some ys) :
    ∃ whole, pieces d ("(" ++ b ++ ")") = some [.nest whole (expression ys)] := by
  obtain ⟨whole, hwhole⟩ := pieces_append_parentheses (a := "") pieces_empty h
  rw [String.empty_append] at hwhole
  exact ⟨whole, hwhole⟩

theorem pieces_joiner (link : Connector) (h : pieces d b = some ys) :
    pieces d (Condition.joiner false link ++ b) = some (connective link ++ ys) := by
  have hword (word : String) (w : List Item) (hw : pieces d word = some w) :
      pieces d (word ++ " " ++ b) = some (w ++ ys) := pieces_append_blank hw h
  cases link with
  | simple => exact h
  | and => exact hword "AND" _ rfl
  | or => exact hword "OR" _ rfl

/-! ## Written levels -/

/-- A text is written as parts that connectors join. -/
structure Spells (d : Dialect) (sql : String) (parts : List Part) : Prop where
  pieces : pieces d sql = some (glue true parts)
  tight : ∀ p ∈ parts, Tight p.2
  filled : ∀ p ∈ parts, p.2 ≠ []
  links : ∀ p ∈ parts.tail, p.1 ≠ .simple

theorem spells_empty : Spells d "" [] := ⟨pieces_empty, by simp, by simp, by simp⟩

theorem Spells.one (h : Reading.pieces d a = some xs) (hx : Tight xs) (hne : xs ≠ []) (link : Connector) :
    Spells d a [(link, xs)] where
  pieces := by rw [h, glue, glue, if_pos rfl, List.append_nil]; rfl
  tight p hp := by
    obtain rfl := List.mem_singleton.mp hp
    exact hx
  filled p hp := by
    obtain rfl := List.mem_singleton.mp hp
    exact hne
  links := by simp

theorem Spells.ne_empty {p : Part} {parts : List Part} (h : Spells d a (p :: parts)) : a ≠ "" := by
  rintro rfl
  have hnil : some [] = some (glue true (p :: parts)) := h.pieces
  rw [glue, if_pos rfl, List.nil_append, Option.some.injEq, eq_comm, List.append_eq_nil_iff] at hnil
  exact h.filled p List.mem_cons_self hnil.1

/-- The value of a text is that of its parts in a row. -/
theorem Spells.value? {link : Connector} {parts : List Part} (h : Spells d a ((link, xs) :: parts)) :
    value? v (expression (glue true ((link, xs) :: parts))) =
      precedence? (Reading.value? v (term xs)) (parts.map (partValue v)) := by
  rw [glue, if_pos rfl, List.nil_append]
  exact value?_expression_glue (h.tight _ List.mem_cons_self)
    (fun p hp => h.tight p (List.mem_cons_of_mem _ hp)) h.links

/-- A text after another, with a connector between them. -/
theorem Spells.append {ps qs : List Part} {link : Connector} (ha : Spells d a ps) (hps : ps ≠ [])
    (hb : Spells d b ((link, xs) :: qs)) (hlink : link ≠ .simple) :
    Spells d (a ++ " " ++ (Condition.joiner false link ++ b)) (ps ++ (link, xs) :: qs) where
  pieces := by
    have hjoined := pieces_joiner link hb.pieces
    have hglue : connective link ++ glue true ((link, xs) :: qs) = glue false ((link, xs) :: qs) := by
      rw [glue, glue, if_pos rfl, if_neg Bool.false_ne_true, List.nil_append, List.append_assoc]
    have hempty : ps.isEmpty = false := List.isEmpty_eq_false_iff.mpr hps
    rw [hglue] at hjoined
    rw [pieces_append_blank ha.pieces hjoined, glue_append, hempty, Bool.and_false]
  tight p hp := (List.mem_append.mp hp).elim (ha.tight p) (hb.tight p)
  filled p hp := (List.mem_append.mp hp).elim (ha.filled p) (hb.filled p)
  links p hp := by
    rw [List.tail_append_of_ne_nil hps, List.mem_append, List.mem_cons] at hp
    rcases hp with hp | rfl | hp
    · exact ha.links p hp
    · exact hlink
    · exact hb.links p hp

/-- The texts of clauses in a row. -/
def clausesText (level : List Clause) : String := String.intercalate " " (Condition.renderClauses true level)

theorem renderClauses_append (first : Bool) (level more : List Clause) :
    Condition.renderClauses first (level ++ more) =
      Condition.renderClauses first level ++ Condition.renderClauses (first && level.isEmpty) more := by
  induction level generalizing first with
  | nil => rw [List.isEmpty_nil, Bool.and_true]; rfl
  | cons c level ih =>
    obtain ⟨link, c⟩ := c
    rw [List.cons_append, Condition.renderClauses, Condition.renderClauses, ih false, List.isEmpty_cons,
      Bool.and_false, Bool.false_and, List.cons_append]

theorem intercalate_concat {texts : List String} (h : texts ≠ []) (sep last : String) :
    String.intercalate sep (texts ++ [last]) = String.intercalate sep texts ++ sep ++ last := by
  induction texts with
  | nil => exact absurd rfl h
  | cons text texts ih =>
    cases texts with
    | nil => rw [List.singleton_append, String.intercalate_cons_cons, String.intercalate_singleton,
        String.intercalate_singleton]
    | cons text' texts =>
      rw [List.cons_append, List.cons_append, String.intercalate_cons_cons, ← List.cons_append,
        ih (by simp), String.intercalate_cons_cons, String.append_assoc, String.append_assoc,
        String.append_assoc, String.append_assoc, String.append_assoc]

theorem clausesText_singleton (link : Connector) (c : Condition) : clausesText [(link, c)] = c.render := by
  rw [clausesText, Condition.renderClauses, Condition.renderClauses, String.intercalate_singleton]
  cases link <;> exact String.empty_append

theorem clausesText_concat {level : List Clause} (h : level ≠ []) (link : Connector) (c : Condition) :
    clausesText (level ++ [(link, c)]) =
      clausesText level ++ " " ++ (Condition.joiner false link ++ c.render) := by
  have hempty : level.isEmpty = false := List.isEmpty_eq_false_iff.mpr h
  have hne : Condition.renderClauses true level ≠ [] := by
    cases level with
    | nil => exact absurd rfl h
    | cons c level =>
      rw [Condition.renderClauses]
      simp
  rw [clausesText, renderClauses_append, hempty, Bool.and_false, Condition.renderClauses,
    Condition.renderClauses, intercalate_concat hne, clausesText]

/-- A level is written as parts, none where it holds no clause. -/
structure Standing (d : Dialect) (level : List Clause) (parts : List Part) : Prop where
  spells : Spells d (clausesText level) parts
  empty : level = [] ↔ parts = []

theorem standing_nil : Standing d [] [] := ⟨spells_empty, by simp⟩

/-- The part that a text in parentheses, perhaps negated, is, and what it says. -/
theorem pieces_group (negated : Bool) {level : List Clause} {parts : List Part}
    (h : Standing d level parts) : ∃ xs, pieces d (Condition.group negated level).render = some xs ∧
      Tight xs ∧ xs ≠ [] ∧ ∀ v, value? v (term xs) =
        (value? v (expression (glue true parts))).map (Truth.negated negated) := by
  have hinner := pieces_trim h.spells.pieces
  rw [Condition.render]
  cases negated with
  | false =>
    obtain ⟨whole, hwhole⟩ := pieces_parentheses hinner
    refine ⟨_, hwhole, ⟨?_, rfl⟩, by simp, fun v => ?_⟩
    · simp [Item.isWord]
    · exact Option.map_id'.symm
  | true =>
    have hnot : pieces d "NOT" = some [.leaf (.word "NOT".toList)] := rfl
    obtain ⟨whole, hwhole⟩ := pieces_append_parentheses hnot hinner
    refine ⟨_, hwhole, ⟨?_, rfl⟩, by simp, fun v => ?_⟩
    · simp only [List.singleton_append, List.forall_mem_cons, List.not_mem_nil, false_implies,
        implies_true, and_true]
      exact ⟨by decide, rfl⟩
    · exact value?_not _

end Reading

end SqlWeave
