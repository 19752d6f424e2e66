import SqlWeave.Proofs.Condition.Qualified
import SqlWeave.Proofs.Statement.Scope

/-!
# Statements with one target, qualified and bare

Two statements stand beside each other when they have the same target and the same bindings, and differ in
the qualifier alone: the first may write it in front of its column references, the second does not. A step
that ends well on the first ends well on the second, and what it states there has the qualifier in one place
less for each reference. So the conditions of the two drift apart, call by call, by a number of places that
the calls alone tell.
-/

namespace SqlWeave

open Text (Qualified QualifiedAll IsQualifier)
open Condition (Qualifies LevelQualifies)

/-! ## References in criteria -/

/-- The properties that the items of a list compare. -/
def Value.properties : List Value → Nat
  | [] => 0
  | .record r :: rest => r.length + properties rest
  | _ :: rest => properties rest

/-- The properties that records compare. -/
def Record.properties : List Record → Nat
  | [] => 0
  | r :: rest => r.length + properties rest

/-- The properties that a criterion without calls compares. Texts are written as they are given. -/
def Simple.properties : Simple → Nat
  | .record r => r.length
  | .anyOf items => Value.properties items
  | .keys maps => Record.properties maps
  | .text _ | .template .. | .unfit | .unsupported _ => 0

/-- How often a statement qualifies a reference to a column. -/
def Draft.mark (d : Draft) : Nat := if d.qualified then 1 else 0

/-- The qualified references that a match on ids writes. -/
def Draft.idReferences (d : Draft) (ids : Value) : Nat :=
  match d.idsCriterion ids with
  | .ok c => c.properties * d.mark
  | .error _ => 0

mutual
/-- The qualified references that a criterion writes on a statement like `d`. -/
def Criterion.references (d : Draft) : Criterion → Nat
  | .simple c => c.properties * d.mark
  | .group _ calls => GroupCall.references d 0 calls

/-- The qualified references on a level of a group after its calls. -/
def GroupCall.references (d : Draft) (level : Nat) : List GroupCall → Nat
  | [] => level
  | .where link c _ :: rest => GroupCall.references d (link.places level (c.references d)) rest
  | .whereInIds link ids :: rest => GroupCall.references d (link.places level (d.idReferences ids)) rest
  | .setParameter .. :: rest | .setParameters .. :: rest | .whereEquals .. :: rest | .failing _ :: rest =>
    GroupCall.references d level rest
end

/-! ## One target -/

namespace Draft

/-- What the references of a statement are qualified with. -/
def qualifier? (dialect : Dialect) (d : Draft) : Option String :=
  d.main.bind fun a => a.name.text?.map fun name => dialect.escape name ++ "."

theorem main_of_target {d o : Draft} {a : Alias} (h : d.scope.target = o.scope.target) (ha : o.main = some a) :
    ∃ b, d.main = some b ∧ b.name = a.name ∧ b.subject = a.subject := by
  have ho : o.scope.target = some (a.name, a.subject) := congrArg (Option.map _) ha
  obtain ⟨b, hb, hfields⟩ := Option.map_eq_some_iff.mp (h.trans ho)
  obtain ⟨hname, hsubject⟩ := Prod.mk.inj hfields
  exact ⟨b, hb, hname, hsubject⟩

theorem entity_eq_of_target {d o : Draft} (h : d.scope.target = o.scope.target) : d.entity = o.entity := by
  unfold entity
  cases ha : o.main with
  | none =>
    have hnone : d.main = none := by
      have ho : o.scope.target = none := congrArg (Option.map _) ha
      exact Option.map_eq_none_iff.mp (h.trans ho)
    rw [hnone]
  | some a =>
    obtain ⟨b, hb, -, hsubject⟩ := main_of_target h ha
    simp only [hb, Alias.entity, hsubject]

theorem idsCriterion_eq_of_target {d o : Draft} (h : d.scope.target = o.scope.target) (ids : Value) :
    d.idsCriterion ids = o.idsCriterion ids := by
  rw [idsCriterion, idsCriterion, entity_eq_of_target h]

/-- Both drafts have the target of `o` and the same bindings. The first qualifies its references by `q` when `o`
does, the second leaves them bare, and their conditions differ in `n` places. -/
structure Beside (o : Draft) (q : String) (n : Nat) (d d' : Draft) : Prop where
  target : d.scope.target = o.scope.target
  target' : d'.scope.target = o.scope.target
  qualified : d.qualified = o.qualified
  bare : d'.qualified = false
  parameters : d'.parameters = d.parameters
  parameterIndex : d'.parameterIndex = d.parameterIndex
  wheres : LevelQualifies q n d.wheres d'.wheres

/-- What is compared of the first draft. -/
theorem Beside.of_core {o d e d' : Draft} {q : String} {n : Nat} (hscope : d.scope = e.scope)
    (hqualified : d.qualified = e.qualified) (hwheres : d.wheres = e.wheres)
    (hparameters : d.parameters = e.parameters) (hindex : d.parameterIndex = e.parameterIndex)
    (h : Beside o q n e d') : Beside o q n d d' where
  target := hscope ▸ h.target
  target' := h.target'
  qualified := hqualified.trans h.qualified
  bare := h.bare
  parameters := h.parameters.trans hparameters.symm
  parameterIndex := h.parameterIndex.trans hindex.symm
  wheres := hwheres ▸ h.wheres

end Draft

theorem Dialect.isBlank_quoteChar (dialect : Dialect) : Text.isBlank dialect.quoteChar = false := by
  cases dialect <;> decide

theorem Dialect.toList_escape (dialect : Dialect) (name : String) :
    ∃ rest, (dialect.escape name).toList = dialect.quoteChar :: rest :=
  ⟨_, by rw [escape, String.toList_ofList, List.cons_append]⟩

theorem Text.Qualified.escaped (q : String) (dialect : Dialect) (name : String) :
    Qualified q 1 (q ++ dialect.escape name) (dialect.escape name) := by
  obtain ⟨rest, hrest⟩ := dialect.toList_escape name
  exact .once q hrest dialect.isBlank_quoteChar

theorem Dialect.nameText_of_text {v : Value} {name : String} (h : v.text? = some name) : nameText v = .ok name := by
  unfold nameText
  rw [h]

theorem Dialect.escapeValue_of_text {dialect : Dialect} {v : Value} {name : String} (h : v.text? = some name) :
    dialect.escapeValue v = .ok (dialect.escape name) := by
  rw [escapeValue, nameText_of_text h]
  rfl

theorem Draft.isQualifier_of_qualifier? {dialect : Dialect} {o : Draft} {q : String}
    (h : o.qualifier? dialect = some q) : IsQualifier q := by
  obtain ⟨a, -, h⟩ := Option.bind_eq_some_iff.mp h
  obtain ⟨name, -, rfl⟩ := Option.map_eq_some_iff.mp h
  obtain ⟨rest, hrest⟩ := dialect.toList_escape name
  exact ⟨_, rest ++ ".".toList, by rw [String.toList_append, hrest, List.cons_append], dialect.isBlank_quoteChar⟩

/-- A reference to a column is qualified once, or not at all. -/
theorem Draft.Beside.columnReference {dialect : Dialect} {o d d' : Draft} {q : String} {n : Nat}
    (hq : o.qualifier? dialect = some q) (h : Beside o q n d d') {property ref : String}
    (href : d.columnReference dialect property = .ok ref) :
    ∃ ref', d'.columnReference dialect property = .ok ref' ∧ Qualified q o.mark ref ref' := by
  obtain ⟨a, ha, hq⟩ := Option.bind_eq_some_iff.mp hq
  obtain ⟨name, hname, rfl⟩ := Option.map_eq_some_iff.mp hq
  obtain ⟨b, hb, hbname, hsubject⟩ := main_of_target h.target ha
  obtain ⟨b', hb', -, hsubject'⟩ := main_of_target h.target' ha
  have hnaming : b'.namingEntity = b.namingEntity := by
    simp only [Alias.namingEntity, Alias.entity, hsubject, hsubject']
  unfold Draft.columnReference at href ⊢
  simp only [hb, hb', h.qualified, h.bare, hnaming] at href ⊢
  obtain ⟨e, he, href⟩ := Result.bind_eq_ok.mp href
  rw [he]
  unfold Draft.mark
  cases hqualified : o.qualified with
  | false =>
    rw [hqualified] at href
    cases href
    exact ⟨_, rfl, .refl _ _⟩
  | true =>
    rw [hqualified, if_pos rfl, hbname, Dialect.escapeValue_of_text hname] at href
    cases href
    exact ⟨_, rfl, .escaped _ dialect _⟩

/-! ## Steps beside each other -/

namespace Build

variable {α β α' β' : Type} {B C D : Draft → Draft → Prop} {R : α → α' → Prop} {S : β → β' → Prop}

/-- From drafts that `B` relates: where `s` ends well on the first, `t` does on the second, with results that
`R` relates, and it leaves drafts that `C` relates. -/
def Follows (B C : Draft → Draft → Prop) (R : α → α' → Prop) (s : Build α) (t : Build α') : Prop :=
  ∀ d d' a e, B d d' → ends s d = (.ok a, e) → ∃ a' e', ends t d' = (.ok a', e') ∧ R a a' ∧ C e e'

theorem follows_pure {a : α} {a' : α'} (h : R a a') : Follows B B R (pure a) (pure a') := by
  intro d d' _ e hd he
  cases he
  exact ⟨a', d', rfl, h, hd⟩

theorem follows_throw (f : Failure) (t : Build α') : Follows B C R (throw f) t := by
  intro d d' a e hd he
  cases he

theorem follows_bind {s : Build α} {t : Build α'} {k : α → Build β} {l : α' → Build β'} (h : Follows B C R s t)
    (hk : ∀ a a', R a a' → Follows C D S (k a) (l a')) : Follows B D S (s >>= k) (t >>= l) := by
  intro d d' b e hd he
  obtain ⟨a, e₁, hs, he⟩ := ends_bind_eq_ok.mp he
  obtain ⟨a', e₁', ht, ha, he₁⟩ := h d d' a e₁ hd hs
  obtain ⟨b', e', hl, hb, he'⟩ := hk a a' ha e₁ e₁' b e he₁ he
  exact ⟨b', e', ends_bind_eq_ok.mpr ⟨a', e₁', ht, hl⟩, hb, he'⟩

theorem follows_get : Follows B B B get get := by
  intro d d' a e hd he
  cases he
  exact ⟨d', d', rfl, hd, hd⟩

theorem follows_modify {f g : Draft → Draft} (h : ∀ d d', B d d' → C (f d) (g d')) :
    Follows B C (fun _ _ => True) (modify f) (modify g) := by
  intro d d' a e hd he
  cases he
  exact ⟨⟨⟩, g d', rfl, trivial, h d d' hd⟩

theorem follows_ofExcept {r : Result α} {r' : Result α'} (h : ∀ a, r = .ok a → ∃ a', r' = .ok a' ∧ R a a') :
    Follows B B R (MonadExcept.ofExcept r) (MonadExcept.ofExcept r') := by
  intro d d' a e hd he
  obtain ⟨hr, rfl⟩ := ends_ofExcept_eq_ok.mp he
  obtain ⟨a', hr', ha⟩ := h a hr
  exact ⟨a', d', ends_ofExcept_eq_ok.mpr ⟨hr', rfl⟩, ha, hd⟩

theorem follows_unless {c : Prop} [Decidable c] {f : Failure} {k : PUnit → Build α} {l : PUnit → Build α'}
    (h : Follows B C R (k ⟨⟩) (l ⟨⟩)) :
    Follows B C R (if c then throw f >>= k else k ⟨⟩) (if c then throw f >>= l else l ⟨⟩) := by
  split
  · exact follows_bind (R := Eq) (C := B) (follows_throw f _) fun ⟨⟩ ⟨⟩ _ => h
  · exact h

/-! ### Bindings -/

variable {dialect : Dialect} {o : Draft} {q : String} {m n : Nat}

open Draft (Beside)

theorem follows_setParameter (key v : Value) :
    Follows (Beside o q n) (Beside o q n) Eq (setParameter key v) (setParameter key v) := by
  unfold setParameter
  refine follows_unless ?_
  split
  · exact follows_throw _ _
  · next name _ =>
    refine follows_unless fun d d' a e hd he => ?_
    cases he
    exact ⟨⟨⟩, _, rfl, rfl, { hd with parameters := congrArg (fun bound => bound.put name v) hd.parameters }⟩

theorem follows_setParameters : ∀ r : Record,
    Follows (Beside o q n) (Beside o q n) Eq (setParameters r) (setParameters r)
  | [] => follows_pure rfl
  | (key, v) :: rest => follows_bind (follows_setParameter (.text key) v) fun _ _ _ => follows_setParameters rest

theorem follows_setGiven (given : Value) :
    Follows (Beside o q n) (Beside o q n) Eq (setGiven given) (setGiven given) := by
  unfold setGiven
  split
  · exact follows_setParameters _
  · exact follows_throw _ _

theorem follows_bindGiven (given : Value) :
    Follows (Beside o q n) (Beside o q n) Eq (bindGiven given) (bindGiven given) := by
  unfold bindGiven
  split
  · exact follows_setGiven given
  · exact follows_pure rfl

theorem follows_createParameter (v : Value) :
    Follows (Beside o q n) (Beside o q n) Eq (createParameter v) (createParameter v) := by
  refine follows_bind follows_get fun d d' hd => ?_
  rw [hd.parameterIndex]
  refine follows_bind (C := Beside o q n) (follows_modify fun d d' hd => ?_) fun _ _ _ => ?_
  · exact { hd with parameterIndex := congrArg (· + 1) hd.parameterIndex }
  · exact follows_bind (follows_setParameter _ v) fun _ _ _ => follows_pure rfl

/-! ### Texts -/

theorem follows_comparison {column column' : String} (h : Qualified q m column column') (v : Value) :
    Follows (Beside o q n) (Beside o q n) (Qualified q m) (comparison column v) (comparison column' v) := by
  unfold comparison
  split
  · exact follows_pure (h.followed _)
  all_goals
    refine follows_bind (follows_createParameter _) fun name name' hname => ?_
    obtain rfl := hname
  · exact follows_pure (((h.followed _).followed _).followed _)
  · exact follows_pure (((h.followed _).followed _).followed _)
  · exact follows_pure (((h.followed _).followed _).followed _)
  · exact follows_pure ((h.followed _).followed _)

/-- What a step reads off its draft, beside what it reads off the other. -/
theorem follows_read {f : Draft → Result α} {k : α → Build β} {l : α → Build β'}
    {R : α → α → Prop} (h : ∀ d d', Beside o q n d d' → ∀ a, f d = .ok a → ∃ a', f d' = .ok a' ∧ R a a')
    (hk : ∀ a a', R a a' → Follows (Beside o q n) D S (k a) (l a')) :
    Follows (Beside o q n) D S (get >>= fun d => MonadExcept.ofExcept (f d) >>= k)
      (get >>= fun d => MonadExcept.ofExcept (f d) >>= l) :=
  follows_bind follows_get fun d d' hd => follows_bind (follows_ofExcept (h d d' hd)) hk

theorem follows_fill (bound : List Value) : ∀ sql : String,
    Follows (Beside o q n) (Beside o q n) Eq (fill sql bound) (fill sql bound) := by
  induction bound with
  | nil => exact fun _ => follows_pure rfl
  | cons v rest ih =>
    refine fun sql => follows_bind (follows_createParameter v) fun name name' hname => ?_
    obtain rfl := hname
    exact ih _

/-- A match on ids is the same criterion on both sides. -/
theorem follows_ids {k l : Simple → Build β} {S : β → β → Prop} (ids : Value)
    (hk : ∀ c : Simple, c.properties * o.mark = o.idReferences ids → Follows (Beside o q n) D S (k c) (l c)) :
    Follows (Beside o q n) D S (get >>= fun d : Draft => MonadExcept.ofExcept (d.idsCriterion ids) >>= k)
      (get >>= fun d : Draft => MonadExcept.ofExcept (d.idsCriterion ids) >>= l) := by
  refine follows_read (R := fun c c' => c = c' ∧ c.properties * o.mark = o.idReferences ids) (fun d d' hd c hc => ?_) ?_
  · rw [Draft.idsCriterion_eq_of_target hd.target] at hc
    exact ⟨c, (Draft.idsCriterion_eq_of_target hd.target' ids).trans hc, rfl, by rw [Draft.idReferences, hc]⟩
  · rintro c c' ⟨rfl, hc⟩
    exact hk c hc

section
variable (hq : o.qualifier? dialect = some q)

include hq

theorem follows_comparisons : ∀ r : Record, Follows (Beside o q n) (Beside o q n) (QualifiedAll q (r.length * o.mark))
    (comparisons dialect r) (comparisons dialect r)
  | [] => by
    rw [List.length_nil, Nat.zero_mul]
    exact follows_pure .nil
  | (property, v) :: rest => by
    refine follows_read (R := Qualified q o.mark) (fun d d' hd ref href => hd.columnReference hq href)
      fun _ _ href => ?_
    refine follows_bind (follows_comparison href v) fun _ _ hhere => ?_
    refine follows_bind (follows_comparisons rest) fun _ _ hmore => follows_pure ?_
    rw [List.length_cons, Nat.succ_mul, Nat.add_comm]
    exact .cons hhere hmore

theorem follows_allOf (r : Record) :
    Follows (Beside o q n) (Beside o q n) (Qualified q (r.length * o.mark)) (allOf dialect r) (allOf dialect r) :=
  follows_bind (follows_comparisons hq r) fun _ _ htexts => follows_pure (htexts.intercalate " AND ")

theorem follows_alternatives : ∀ items : List Value, Follows (Beside o q n) (Beside o q n)
    (QualifiedAll q (Value.properties items * o.mark)) (alternatives dialect items) (alternatives dialect items)
  | [] => by
    rw [Value.properties, Nat.zero_mul]
    exact follows_pure .nil
  | v :: rest => by
    unfold alternatives
    split
    · next h => cases h
    · next r more h =>
      cases h
      rw [Value.properties, Nat.add_mul]
      refine follows_bind (follows_allOf hq r) fun _ _ hhere => ?_
      exact follows_bind (follows_alternatives rest) fun _ _ hmore => follows_pure (.cons hhere hmore)
    · exact follows_throw _ _

theorem follows_keyGroups : ∀ maps : List Record, Follows (Beside o q n) (Beside o q n)
    (LevelQualifies q (Record.properties maps * o.mark)) (keyGroups dialect maps) (keyGroups dialect maps)
  | [] => by
    rw [Record.properties, Nat.zero_mul]
    exact follows_pure .nil
  | r :: rest => by
    refine follows_bind (follows_allOf hq r) fun here here' hhere => ?_
    refine follows_bind (follows_keyGroups rest) fun more more' hmore => ?_
    rw [Record.properties, Nat.add_mul]
    by_cases hempty : here' = ""
    · rw [if_pos (hhere.empty_iff.1.mpr hempty), if_pos hempty, hhere.empty_iff.2 hempty, Nat.zero_add]
      exact follows_pure hmore
    · rw [if_neg fun h => hempty (hhere.empty_iff.1.mp h), if_neg hempty]
      have hgroup : LevelQualifies q (r.length * o.mark + 0) [(.simple, .text here)] [(.simple, .text here')] :=
        .cons (.text hhere) .nil
      exact follows_pure (.cons (.group hgroup) hmore)

/-! ### Conditions -/

theorem follows_simpleCondition (c : Simple) : Follows (Beside o q n) (Beside o q n)
    (Qualifies q (c.properties * o.mark)) (simpleCondition dialect c) (simpleCondition dialect c) := by
  cases c with
  | text sql =>
    rw [Simple.properties, Nat.zero_mul]
    exact follows_pure (.refl q _)
  | record r => exact follows_bind (follows_allOf hq r) fun _ _ h => follows_pure (.text h)
  | anyOf items =>
    refine follows_bind (follows_alternatives hq items) fun groups groups' h => ?_
    -- A list of one record is written as the record.
    have hmany : Qualifies q (Value.properties items * o.mark)
        (.text (String.intercalate " OR " (groups.map fun s => "(" ++ s ++ ")")))
        (.text (String.intercalate " OR " (groups'.map fun s => "(" ++ s ++ ")"))) :=
      .text ((h.map fun _ _ _ hs => (hs.preceded "(").followed ")").intercalate " OR ")
    rw [Simple.properties]
    generalize Value.properties items * o.mark = k at h hmany ⊢
    cases h with
    | nil => exact follows_pure hmany
    | cons hone hrest =>
      cases hrest with
      | nil => exact follows_pure (.text hone)
      | cons => exact follows_pure hmany
  | template sql bound =>
    refine follows_bind (follows_fill bound sql) fun text text' htext => ?_
    obtain rfl := htext
    rw [Simple.properties, Nat.zero_mul]
    exact follows_pure (.refl q _)
  | keys maps => exact follows_bind (follows_keyGroups hq maps) fun _ _ h => follows_pure (.group h)
  | unfit => exact follows_throw _ _
  | unsupported kind => exact follows_throw _ _

mutual
/-- What a criterion states on the two statements differs in its references. -/
theorem follows_condition : ∀ c : Criterion, Follows (Beside o q n) (Beside o q n) (Qualifies q (c.references o))
    (condition dialect c) (condition dialect c)
  | .simple c => by
    rw [condition, Criterion.references]
    exact follows_simpleCondition hq c
  | .group negated calls => by
    rw [condition, Criterion.references]
    exact follows_bind (follows_runGroup calls .nil) fun _ _ h => follows_pure (.group h)

theorem follows_runGroup : ∀ calls : List GroupCall, ∀ {k : Nat} {level level' : List Clause},
    LevelQualifies q k level level' → Follows (Beside o q n) (Beside o q n)
      (LevelQualifies q (GroupCall.references o k calls)) (runGroup dialect level calls) (runGroup dialect level' calls)
  | [], _, _, _, h => by
    rw [runGroup, runGroup, GroupCall.references]
    exact follows_pure h
  | .where link c given :: rest, _, _, _, h => by
    rw [runGroup, runGroup, GroupCall.references]
    refine follows_bind (follows_condition c) fun _ _ hc => follows_bind (follows_bindGiven given) fun _ _ _ => ?_
    exact follows_runGroup rest (h.extendLevel link hc)
  | .whereInIds link ids :: rest, _, _, _, h => by
    rw [runGroup, runGroup, GroupCall.references]
    refine follows_ids ids fun c hreferences => follows_bind (follows_simpleCondition hq c) fun _ _ hc => ?_
    rw [hreferences] at hc
    exact follows_runGroup rest (h.extendLevel link hc)
  | .setParameter key v :: rest, _, _, _, h => by
    rw [runGroup, runGroup, GroupCall.references]
    exact follows_bind (follows_setParameter key v) fun _ _ _ => follows_runGroup rest h
  | .setParameters given :: rest, _, _, _, h => by
    rw [runGroup, runGroup, GroupCall.references]
    exact follows_bind (follows_setGiven given) fun _ _ _ => follows_runGroup rest h
  | .whereEquals column v :: rest, k, _, _, h => by
    rw [runGroup, runGroup, GroupCall.references]
    refine follows_bind (R := Eq) (follows_ofExcept fun name hname => ⟨name, hname, rfl⟩) fun name name' hname => ?_
    obtain rfl := hname
    refine follows_bind (follows_createParameter v) fun parameter parameter' hparameter => ?_
    obtain rfl := hparameter
    have hlevel := h.extendLevel .and (Qualifies.refl q (.text (name ++ " = :" ++ parameter)))
    exact follows_runGroup rest hlevel
  | .failing f :: rest, _, _, _, _ => by
    rw [runGroup]
    exact follows_throw f _
end

/-! ### Calls that state conditions -/

/-- After a call that states a condition the statements differ in its references, and in those of the
conditions that its connector leaves. -/
theorem follows_whereCall (link : Connector) (c : Criterion) (given : Value) :
    Follows (Beside o q n) (Beside o q (link.places n (c.references o))) Eq
      (whereCall dialect link c given) (whereCall dialect link c given) := by
  -- A bare connector clears the conditions, and extending them clears them once more.
  have hrest {k : Nat} (hplaces : link.places k (c.references o) = link.places n (c.references o)) :
      Follows (Beside o q k) (Beside o q (link.places n (c.references o))) Eq
        (condition dialect c >>= fun condition => modify (fun d =>
          { d with wheres := extendLevel d.wheres link condition }) >>= fun _ => bindGiven given)
        (condition dialect c >>= fun condition => modify (fun d =>
          { d with wheres := extendLevel d.wheres link condition }) >>= fun _ => bindGiven given) := by
    refine follows_bind (follows_condition hq c) fun _ _ hc =>
      follows_bind (follows_modify fun d d' hd => ?_) fun _ _ _ => follows_bindGiven given
    rw [← hplaces]
    exact { hd with wheres := hd.wheres.extendLevel link hc }
  unfold whereCall
  dsimp only
  split
  · next hlink =>
    refine follows_bind (C := Beside o q 0) (follows_modify fun d d' hd => { hd with wheres := .nil }) fun _ _ _ => ?_
    exact hrest (by rw [Connector.places, Connector.places, if_pos hlink, if_pos hlink])
  · exact hrest rfl

theorem follows_whereInIds (link : Connector) (ids : Value) :
    Follows (Beside o q n) (Beside o q (link.places n (o.idReferences ids))) Eq
      (whereInIds dialect link ids) (whereInIds dialect link ids) := by
  refine follows_ids ids fun c hreferences => ?_
  rw [← hreferences]
  exact follows_whereCall hq link (.simple c) .null

end

end Build

end SqlWeave
