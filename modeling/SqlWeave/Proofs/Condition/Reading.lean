import Mathlib.Data.Option.NAry
import SqlWeave.Proofs.Condition.Token

/-!
# How a condition is read

The text of a condition is read with the precedence of SQL: NOT binds before AND, AND binds before OR, and
parentheses group. The AND of a BETWEEN joins nothing, and what stands between CASE and END is one piece.
What is neither a connector nor a whole text in parentheses is an atom. An empty pair of parentheses and a
connector that lacks a side are no condition, and a text that holds one is not read.

Conditions are true, false or unknown. Main facts: a text that is joined from two by AND or OR has the
conjunction or disjunction of their values, and parentheses around a text make a unit of it.
-/

namespace SqlWeave

/-! ## Truth -/

/-- The truth of a condition in SQL, where a comparison with an absent value is unknown. -/
inductive Truth where
  | fails | unknown | holds
  deriving DecidableEq, Inhabited

namespace Truth

def not : Truth → Truth
  | .fails => .holds
  | .unknown => .unknown
  | .holds => .fails

def and : Truth → Truth → Truth
  | .holds, t => t
  | .unknown, .fails => .fails
  | .unknown, _ => .unknown
  | .fails, _ => .fails

def or : Truth → Truth → Truth
  | .fails, t => t
  | .unknown, .holds => .holds
  | .unknown, _ => .unknown
  | .holds, _ => .holds

/-- The value of what may be negated. -/
def negated (negated : Bool) (t : Truth) : Truth := bif negated then t.not else t

theorem and_assoc (s t u : Truth) : (s.and t).and u = s.and (t.and u) := by
  cases s <;> cases t <;> cases u <;> rfl

theorem or_assoc (s t u : Truth) : (s.or t).or u = s.or (t.or u) := by
  cases s <;> cases t <;> cases u <;> rfl

theorem and_eq_holds {s t : Truth} : s.and t = .holds ↔ s = .holds ∧ t = .holds := by
  cases s <;> cases t <;> simp [and]

theorem or_eq_holds {s t : Truth} : s.or t = .holds ↔ s = .holds ∨ t = .holds := by
  cases s <;> cases t <;> simp [or]

end Truth

namespace Reading

/-! ## Formulas -/

/-- What a text says. An atom is known by its tokens. -/
inductive Formula where
  | atom (ts : List Token)
  | not (f : Formula)
  | and (f g : Formula)
  | or (f g : Formula)
  deriving DecidableEq, Inhabited

/-- The value of a formula where the atoms have the values `v`. -/
def Formula.truth (v : List Token → Truth) : Formula → Truth
  | .atom ts => v ts
  | .not f => (f.truth v).not
  | .and f g => (f.truth v).and (g.truth v)
  | .or f g => (f.truth v).or (g.truth v)

/-- Formulas in a row, joined by one connective; nothing is joined where one is missing. -/
def joined (op : Formula → Formula → Formula) : List (Option Formula) → Option Formula
  | [] => none
  | [f] => f
  | f :: rest => Option.map₂ op f (joined op rest)

/-! ## Pieces -/

/-- A piece of a text, at its own depth of parentheses. -/
inductive Item where
  | leaf (t : Token)
  /-- A text in parentheses, and what is said between them. -/
  | nest (ts : List Token) (said : Option Formula)
  /-- From CASE to END. -/
  | block (ts : List Token)
  deriving Inhabited

namespace Item

def tokens : Item → List Token
  | .leaf t => [t]
  | .nest ts _ | .block ts => ts

def isWord (word : String) : Item → Bool
  | .leaf t => t.isWord word
  | _ => false

end Item

/-! ## Reading pieces -/

/-- Puts a piece in front of the first of some parts. -/
def onFirst (i : Item) : List (List Item) → List (List Item)
  | [] => [[i]]
  | part :: rest => (i :: part) :: rest

/-- The parts between the ORs. -/
def disjuncts : List Item → List (List Item)
  | [] => [[]]
  | i :: rest => if i.isWord "OR" then [] :: disjuncts rest else onFirst i (disjuncts rest)

/-- The parts between the ANDs. `waits` says that a BETWEEN waits for its AND; one that waits to the end
leaves no parts. -/
def conjuncts : (waits : Bool) → List Item → Option (List (List Item))
  | waits, [] => if waits then none else some [[]]
  | waits, i :: rest =>
    if i.isWord "AND" then
      if waits then (conjuncts false rest).map (onFirst i) else (conjuncts false rest).map ([] :: ·)
    else (conjuncts (waits || i.isWord "BETWEEN") rest).map (onFirst i)

/-- What a part without connectors says. -/
def factor : List Item → Option Formula
  | [] => none
  | [.nest _ said] => said
  | i :: rest =>
    if i.isWord "NOT" then (factor rest).map .not else some (.atom ((i :: rest).flatMap Item.tokens))

/-- What a part without ORs says. -/
def term (items : List Item) : Option Formula :=
  (conjuncts false items).bind fun parts => joined .and (parts.map factor)

/-- What the pieces of a text say. -/
def expression (items : List Item) : Option Formula := joined .or ((disjuncts items).map term)

/-! ## Parentheses -/

/-- What was opened and not closed yet: with which token, and the pieces since then. -/
structure Frame where
  opener : Token
  items : List Item := []

/-- Does a token close what another one has opened? -/
def closes (opener t : Token) : Bool :=
  if opener = .opening then t = .closing else t.isWord "END"

/-- The piece that a closed frame is. -/
def Frame.closed (f : Frame) (t : Token) : Item :=
  let ts := f.opener :: f.items.flatMap Item.tokens ++ [t]
  if f.opener = .opening then .nest ts (expression f.items) else .block ts

def Frame.add (f : Frame) (i : Item) : Frame := { f with items := f.items ++ [i] }

/-- Reads one more token; the frame that was opened last comes first. -/
def step : List Frame → Token → Option (List Frame)
  | [], _ => none
  | f :: rest, t =>
    if t = .opening || t.isWord "CASE" then some ({ opener := t } :: f :: rest)
    else if closes f.opener t then match rest with
      | [] => none
      | g :: more => some (g.add (f.closed t) :: more)
    else if t = .closing then none
    else some (f.add (.leaf t) :: rest)

/-- Reads tokens one after the other. -/
def steps : List Frame → List Token → Option (List Frame)
  | fs, [] => some fs
  | fs, t :: rest => (step fs t).bind fun fs => steps fs rest

/-- The pieces of a text whose parentheses match. -/
def items (ts : List Token) : Option (List Item) :=
  match steps [{ opener := .opening }] ts with
  | some [f] => some f.items
  | _ => none

/-- What a text says, if it is a condition. -/
def read (d : Dialect) (sql : String) : Option Formula := do
  let ts ← tokens d sql.toList
  let pieces ← items ts
  expression pieces

/-! ## Joined formulas -/

variable {v : List Token → Truth}

/-- The value of what may not be there. -/
def value? (v : List Token → Truth) (f : Option Formula) : Option Truth := f.map (Formula.truth v)

theorem value?_and (f g : Option Formula) :
    value? v (Option.map₂ .and f g) = Option.map₂ Truth.and (value? v f) (value? v g) := by
  cases f <;> cases g <;> rfl

theorem value?_or (f g : Option Formula) :
    value? v (Option.map₂ .or f g) = Option.map₂ Truth.or (value? v f) (value? v g) := by
  cases f <;> cases g <;> rfl

theorem value?_not (f : Option Formula) : value? v (f.map .not) = (value? v f).map Truth.not := by
  cases f <;> rfl

theorem joined_cons {op : Formula → Formula → Formula} {f : Option Formula} {fs : List (Option Formula)}
    (h : fs ≠ []) : joined op (f :: fs) = Option.map₂ op f (joined op fs) := by
  cases fs with
  | nil => exact absurd rfl h
  | cons g fs => rfl

/-- Formulas that are joined by AND in two steps have the value that they have in one. -/
theorem value?_joined_append {fs gs : List (Option Formula)} (hf : fs ≠ []) (hg : gs ≠ []) :
    value? v (joined .and (fs ++ gs)) =
      Option.map₂ Truth.and (value? v (joined .and fs)) (value? v (joined .and gs)) := by
  induction fs with
  | nil => exact absurd rfl hf
  | cons f fs ih =>
    cases fs with
    | nil => rw [List.singleton_append, joined_cons hg, value?_and, joined]
    | cons f' fs =>
      rw [List.cons_append, joined_cons (by simp), joined_cons (by simp), value?_and, value?_and,
        ih (by simp), Option.map₂_assoc Truth.and_assoc]

/-! ## Parts -/

/-- No OR stands at the text's own depth, and no BETWEEN waits for its AND. -/
structure Tight (xs : List Item) : Prop where
  noOr : ∀ i ∈ xs, i.isWord "OR" = false
  closed : (conjuncts false xs).isSome

theorem disjuncts_ne_nil (xs : List Item) : disjuncts xs ≠ [] := by
  cases xs with
  | nil => simp [disjuncts]
  | cons i xs =>
    rw [disjuncts]
    split
    · simp
    · cases disjuncts xs <;> simp [onFirst]

theorem disjuncts_of_noOr {xs : List Item} (h : ∀ i ∈ xs, i.isWord "OR" = false) : disjuncts xs = [xs] := by
  induction xs with
  | nil => rfl
  | cons i xs ih =>
    rw [List.forall_mem_cons] at h
    rw [disjuncts, h.1, if_neg Bool.false_ne_true, ih h.2]
    rfl

theorem disjuncts_append_or {xs : List Item} (h : ∀ i ∈ xs, i.isWord "OR" = false) {o : Item}
    (ho : o.isWord "OR") (ys : List Item) : disjuncts (xs ++ o :: ys) = xs :: disjuncts ys := by
  induction xs with
  | nil => rw [List.nil_append, disjuncts, if_pos ho]
  | cons i xs ih =>
    rw [List.forall_mem_cons] at h
    rw [List.cons_append, disjuncts, h.1, if_neg Bool.false_ne_true, ih h.2]
    rfl

theorem noOr_of_disjuncts {xs part : List Item} (h : disjuncts xs = [part]) :
    ∀ i ∈ xs, i.isWord "OR" = false := by
  induction xs generalizing part with
  | nil => simp
  | cons i xs ih =>
    rw [disjuncts] at h
    split at h
    · exact absurd (List.cons.inj h).2 (disjuncts_ne_nil xs)
    · next hi =>
      rw [List.forall_mem_cons]
      refine ⟨Bool.eq_false_iff.mpr hi, ?_⟩
      match hrest : disjuncts xs with
      | [] => exact absurd hrest (disjuncts_ne_nil xs)
      | [rest] => exact ih hrest
      | one :: two :: more =>
        rw [hrest] at h
        cases h

theorem onFirst_append (i : Item) {ps : List (List Item)} (h : ps ≠ []) (qs : List (List Item)) :
    onFirst i (ps ++ qs) = onFirst i ps ++ qs := by
  cases ps with
  | nil => exact absurd rfl h
  | cons p ps => rfl

theorem ne_nil_of_conjuncts {waits : Bool} {xs : List Item} {ps : List (List Item)}
    (h : conjuncts waits xs = some ps) : ps ≠ [] := by
  cases xs with
  | nil =>
    rw [conjuncts] at h
    split at h <;> cases h
    simp
  | cons i xs =>
    have honFirst : ∀ qs, onFirst i qs ≠ [] := fun qs => by cases qs <;> simp [onFirst]
    rw [conjuncts] at h
    split at h
    · split at h <;>
      · obtain ⟨qs, -, rfl⟩ := Option.map_eq_some_iff.mp h
        simp [honFirst]
    · obtain ⟨qs, -, rfl⟩ := Option.map_eq_some_iff.mp h
      exact honFirst qs

/-- An AND after a part whose BETWEENs are closed ends the part. -/
theorem conjuncts_append_and {waits : Bool} {xs : List Item} {ps : List (List Item)}
    (h : conjuncts waits xs = some ps) {a : Item} (ha : a.isWord "AND") (ys : List Item) :
    conjuncts waits (xs ++ a :: ys) = (conjuncts false ys).map (ps ++ ·) := by
  induction xs generalizing waits ps with
  | nil =>
    cases waits with
    | true => cases h
    | false =>
      cases h
      rw [List.nil_append, conjuncts, if_pos ha, if_neg Bool.false_ne_true]
      rfl
  | cons i xs ih =>
    rw [conjuncts] at h
    rw [List.cons_append, conjuncts]
    split at h
    · next hi =>
      rw [if_pos hi]
      split at h
      · next hw =>
        obtain ⟨qs, hqs, rfl⟩ := Option.map_eq_some_iff.mp h
        rw [if_pos hw, ih hqs, Option.map_map]
        exact congrArg (fun f => Option.map f _) (funext fun zs =>
          onFirst_append i (ne_nil_of_conjuncts hqs) zs)
      · next hw =>
        obtain ⟨qs, hqs, rfl⟩ := Option.map_eq_some_iff.mp h
        rw [if_neg hw, ih hqs, Option.map_map]
        rfl
    · next hi =>
      obtain ⟨qs, hqs, rfl⟩ := Option.map_eq_some_iff.mp h
      rw [if_neg hi, ih hqs, Option.map_map]
      exact congrArg (fun f => Option.map f _) (funext fun zs =>
        onFirst_append i (ne_nil_of_conjuncts hqs) zs)

theorem expression_of_noOr {xs : List Item} (h : ∀ i ∈ xs, i.isWord "OR" = false) :
    expression xs = term xs := by
  rw [expression, disjuncts_of_noOr h]
  rfl

/-- What is read as something else than a disjunction has no OR at its own depth. -/
theorem tight_of_expression {xs : List Item} {f : Formula} (h : expression xs = some f)
    (hf : ∀ g g', f ≠ .or g g') : Tight xs ∧ term xs = some f := by
  unfold expression at h
  match hparts : disjuncts xs with
  | [] => exact absurd hparts (disjuncts_ne_nil xs)
  | [part] =>
    have hno := noOr_of_disjuncts hparts
    have hterm : term xs = some f := by rwa [disjuncts_of_noOr hno] at h
    obtain ⟨parts, hconjuncts, -⟩ := Option.bind_eq_some_iff.mp hterm
    exact ⟨⟨hno, Option.isSome_iff_exists.mpr ⟨parts, hconjuncts⟩⟩, hterm⟩
  | one :: two :: more =>
    rw [hparts, List.map_cons, joined_cons (by simp)] at h
    obtain ⟨g, g', -, -, rfl⟩ := Option.map₂_eq_some_iff.mp h
    exact absurd rfl (hf g g')

/-- What is said before an OR and what is said after it. -/
theorem value?_expression_append_or {xs : List Item} (h : Tight xs) {o : Item} (ho : o.isWord "OR")
    (ys : List Item) : value? v (expression (xs ++ o :: ys)) =
      Option.map₂ Truth.or (value? v (term xs)) (value? v (expression ys)) := by
  have hrest : (disjuncts ys).map term ≠ [] := by simp [disjuncts_ne_nil]
  rw [expression, disjuncts_append_or h.noOr ho, List.map_cons, joined_cons hrest, value?_or, expression]

/-- What is said before an AND and what is said after it, where no OR comes between. -/
theorem value?_term_append_and {xs ys : List Item} (hx : Tight xs) (hy : Tight ys) {a : Item}
    (ha : a.isWord "AND") : value? v (term (xs ++ a :: ys)) =
      Option.map₂ Truth.and (value? v (term xs)) (value? v (term ys)) := by
  obtain ⟨ps, hps⟩ := Option.isSome_iff_exists.mp hx.closed
  obtain ⟨qs, hqs⟩ := Option.isSome_iff_exists.mp hy.closed
  have hjoin := conjuncts_append_and hps ha ys
  rw [hqs, Option.map_some] at hjoin
  rw [term, term, term, hjoin, hps, hqs, Option.bind_some, Option.bind_some, Option.bind_some,
    List.map_append]
  exact value?_joined_append (by simp [ne_nil_of_conjuncts hps]) (by simp [ne_nil_of_conjuncts hqs])

theorem Tight.append_and {xs ys : List Item} (hx : Tight xs) (hy : Tight ys) {a : Item}
    (ha : a.isWord "AND") (hno : a.isWord "OR" = false) : Tight (xs ++ a :: ys) where
  noOr i hi := by
    rcases List.mem_append.mp hi with hi | hi
    · exact hx.noOr i hi
    · rcases List.mem_cons.mp hi with rfl | hi
      · exact hno
      · exact hy.noOr i hi
  closed := by
    obtain ⟨ps, hps⟩ := Option.isSome_iff_exists.mp hx.closed
    rw [conjuncts_append_and hps ha, Option.isSome_map]
    exact hy.closed

/-! ## Pieces of joined texts -/

theorem steps_append (fs : List Frame) (xs ys : List Token) :
    steps fs (xs ++ ys) = (steps fs xs).bind fun fs => steps fs ys := by
  induction xs generalizing fs with
  | nil => rfl
  | cons t xs ih =>
    rw [List.cons_append, steps, steps]
    cases step fs t with
    | none => rfl
    | some gs => exact ih gs

section
variable {f : Frame} {rest fs : List Frame} {t : Token}

theorem step_opens (h : (t = .opening || t.isWord "CASE") = true) :
    step (f :: rest) t = some ({ opener := t } :: f :: rest) :=
  if_pos h

theorem step_closes {g : Frame} (hopens : ¬ (t = .opening || t.isWord "CASE") = true) (h : closes f.opener t = true) :
    step (f :: g :: rest) t = some (g.add (f.closed t) :: rest) :=
  (if_neg hopens).trans (if_pos h)

theorem step_leaf (hopens : ¬ (t = .opening || t.isWord "CASE") = true) (hcloses : ¬ closes f.opener t = true)
    (h : t ≠ .closing) : step (f :: rest) t = some (f.add (.leaf t) :: rest) :=
  (if_neg hopens).trans ((if_neg hcloses).trans (if_neg h))

/-- A token opens a frame, or closes the last one, which becomes a piece of the frame below, or is a piece itself. -/
theorem step_cases (h : step (f :: rest) t = some fs) :
    ((t = .opening || t.isWord "CASE") = true ∧ fs = { opener := t } :: f :: rest) ∨
    ¬ (t = .opening || t.isWord "CASE") = true ∧
      ((closes f.opener t = true ∧ ∃ g more, rest = g :: more ∧ fs = g.add (f.closed t) :: more) ∨
        ¬ closes f.opener t = true ∧ t ≠ .closing ∧ fs = f.add (.leaf t) :: rest) := by
  by_cases hopens : (t = .opening || t.isWord "CASE") = true
  · rw [step_opens hopens] at h
    cases h
    exact .inl ⟨hopens, rfl⟩
  refine .inr ⟨hopens, ?_⟩
  by_cases hcloses : closes f.opener t = true
  · cases rest with
    | nil =>
      have hnone : step [f] t = none := (if_neg hopens).trans (if_pos hcloses)
      cases hnone.symm.trans h
    | cons g more =>
      rw [step_closes hopens hcloses] at h
      cases h
      exact .inl ⟨hcloses, g, more, rfl, rfl⟩
  · by_cases hclosing : t = .closing
    · have hnone : step (f :: rest) t = none := (if_neg hopens).trans ((if_neg hcloses).trans (if_pos hclosing))
      cases hnone.symm.trans h
    · rw [step_leaf hopens hcloses hclosing] at h
      cases h
      exact .inr ⟨hcloses, hclosing, rfl⟩

end

/-- What a text does by itself it does within any text: its last frame may hold more pieces, and more
frames may lie below. -/
theorem step_within {above : List Frame} {here : List Item} {t : Token} {fs : List Frame}
    (h : step (above ++ [{ opener := .opening, items := here }]) t = some fs) (before : List Item)
    (below : List Frame) :
    ∃ above' here', fs = above' ++ [{ opener := .opening, items := here' }] ∧
      step (above ++ { opener := .opening, items := before ++ here } :: below) t =
        some (above' ++ { opener := .opening, items := before ++ here' } :: below) := by
  cases above with
  | nil =>
    rcases step_cases h with ⟨ht, rfl⟩ | ⟨hopens, ⟨-, g, more, hbelow, -⟩ | ⟨hcloses, hclosing, rfl⟩⟩
    · exact ⟨[{ opener := t }], here, rfl, step_opens ht⟩
    · cases hbelow
    · have hleaf : step ({ opener := .opening, items := before ++ here } :: below) t = _ :=
        step_leaf hopens hcloses hclosing
      refine ⟨[], here ++ [.leaf t], rfl, hleaf.trans ?_⟩
      rw [Frame.add, List.append_assoc]
      rfl
  | cons f above =>
    rcases step_cases h with ⟨ht, rfl⟩ | ⟨hopens, ⟨hcloses, g, more, hbelow, rfl⟩ | ⟨hcloses, hclosing, rfl⟩⟩
    · exact ⟨{ opener := t } :: f :: above, here, rfl, step_opens ht⟩
    · -- The closed piece goes to the next frame, which is another one above or the last.
      cases above with
      | nil =>
        cases hbelow
        refine ⟨[], here ++ [f.closed t], rfl, (step_closes hopens hcloses).trans ?_⟩
        simp only [List.nil_append, Frame.add, List.append_assoc]
      | cons g' above =>
        cases hbelow
        exact ⟨g.add (f.closed t) :: above, here, rfl, step_closes hopens hcloses⟩
    · exact ⟨f.add (.leaf t) :: above, here, rfl, step_leaf hopens hcloses hclosing⟩

theorem steps_within (above : List Frame) {here : List Item} {ts : List Token} {fs : List Frame}
    (h : steps (above ++ [{ opener := .opening, items := here }]) ts = some fs) (before : List Item)
    (below : List Frame) :
    ∃ above' here', fs = above' ++ [{ opener := .opening, items := here' }] ∧
      steps (above ++ { opener := .opening, items := before ++ here } :: below) ts =
        some (above' ++ { opener := .opening, items := before ++ here' } :: below) := by
  induction ts generalizing above here with
  | nil =>
    cases h
    exact ⟨above, here, rfl, rfl⟩
  | cons t ts ih =>
    obtain ⟨gs, hgs, h⟩ := Option.bind_eq_some_iff.mp h
    obtain ⟨above', here', rfl, hstep⟩ := step_within hgs before below
    obtain ⟨above'', here'', rfl, hsteps⟩ := ih above' h
    refine ⟨above'', here'', rfl, ?_⟩
    rw [steps, hstep, Option.bind_some, hsteps]

variable {ts us : List Token} {xs ys : List Item}

theorem steps_of_items (h : items ts = some xs) :
    steps [{ opener := .opening }] ts = some [{ opener := .opening, items := xs }] := by
  unfold items at h
  split at h
  · next f hf =>
    cases h
    obtain ⟨above', here', hfs, -⟩ := steps_within [] hf [] []
    cases above' with
    | nil =>
      cases hfs
      exact hf
    | cons g above' => simp at hfs
  · cases h

/-- The pieces of a text come after those that were there before, whatever lies below. -/
theorem steps_of_items_within (h : items ts = some xs) (before : List Item) (below : List Frame) :
    steps ({ opener := .opening, items := before } :: below) ts =
      some ({ opener := .opening, items := before ++ xs } :: below) := by
  obtain ⟨above', here', hfs, hsteps⟩ := steps_within [] (steps_of_items h) before below
  rw [List.append_nil] at hsteps
  cases above' with
  | nil =>
    cases hfs
    exact hsteps
  | cons g above' => simp at hfs

theorem items_append (hx : items ts = some xs) (hy : items us = some ys) :
    items (ts ++ us) = some (xs ++ ys) := by
  rw [items, steps_append, steps_of_items hx, Option.bind_some, steps_of_items_within hy]

/-- A text in parentheses is one piece. -/
theorem items_parentheses (h : items ts = some xs) :
    ∃ whole, items (.opening :: ts ++ [.closing]) = some [.nest whole (expression xs)] := by
  have hopen : step [{ opener := .opening }] .opening =
      some [{ opener := .opening }, { opener := .opening }] := rfl
  refine ⟨.opening :: xs.flatMap Item.tokens ++ [.closing], ?_⟩
  rw [items, List.cons_append, steps, hopen, Option.bind_some, steps_append,
    steps_of_items_within h, Option.bind_some]
  rfl

/-- A token that opens and closes nothing is a piece by itself. -/
theorem items_leaf {t : Token} (hopen : t ≠ .opening) (hclose : t ≠ .closing)
    (hcase : t.isWord "CASE" = false) : items [t] = some [.leaf t] := by
  have hstep : step [{ opener := .opening }] t = some [{ opener := .opening, items := [.leaf t] }] := by
    rw [step, hcase]
    simp [hopen, hclose, closes, Frame.add]
  rw [items, steps, hstep]
  rfl

end Reading

end SqlWeave
