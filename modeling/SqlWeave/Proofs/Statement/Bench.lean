import SqlWeave.Proofs.Statement.AliasIdentity

/-!
# Builders on a bench

Callers may hold an alias of one builder and make it the main alias of another. For the identity of an alias to say
which alias it is, whoever holds it, builders stand on a bench here, which gives out the identities of all their
aliases. They are made, called, converted and copied in any order, and aliases are made and moved between them. Main
result: on every bench that can be reached the aliases of a builder are told apart and its main alias is one of them;
the next main alias takes the place of the one before it and of nothing else; and copies have aliases of their own.
-/

namespace SqlWeave

variable {σ : Type}

namespace Bench

/-- What is done with a builder. -/
inductive Act (σ : Type) where
  | call (c : Call σ)
  | createAlias (f : Alias.Fields)
  /-- Makes an alias that is in no list. -/
  | looseAlias (f : Alias.Fields)
  /-- Makes an alias that a builder holds, this one or another, the main one. -/
  | setMain (holder id : Nat)

namespace Act

def isCall : Act σ → Bool
  | .call _ => true
  | _ => false

def isConversion : Act σ → Bool
  | .call c => c.isConversion
  | _ => false

def place? (cat : Catalog) : Act σ → Option Alias.Fields
  | .call c => c.place? cat
  | _ => none

end Act

/-- A builder on the bench. -/
structure Entry (σ : Type) where
  builder : Builder σ := {}
  /-- What was done with the builder, and before with the one that it is a copy of. -/
  log : List (Act σ) := []

def Entry.scope (e : Entry σ) : Scope := e.builder.draft.scope

/-- A new builder joins the others, or something is done with one of them. -/
inductive Move (σ : Type) where
  | start
  | on (i : Nat) (act : Act σ)

end Bench

/-- Builders, and one supply of identities for the aliases of them all. -/
structure Bench (σ : Type) where
  entries : List (Bench.Entry σ) := []
  next : Nat := 0

def Builder.withScope (b : Builder σ) (scope : Scope) : Builder σ := { b with draft := { b.draft with scope } }

namespace Bench

/-- The alias of an identity that a builder holds. -/
def alias? (w : Bench σ) (holder id : Nat) : Option Alias := w.entries[holder]?.bind fun e => e.scope.get? id

/-- What is done with a builder on the bench, and how it fails. An alias that nobody holds cannot be made the main
one. -/
def effect (cat : Catalog) (w : Bench σ) (b : Builder σ) : Act σ → Builder σ × Option Failure
  | .call c => b.apply cat c
  | .createAlias f => (b.withScope (b.draft.scope.create f.name f.subject f.path f.role).2, none)
  | .looseAlias f => (b.withScope (b.draft.scope.fresh f.name f.subject f.path f.role).2, none)
  | .setMain holder id => (b.withScope (((w.alias? holder id).map b.draft.scope.setMain).getD b.draft.scope), none)

/-- The builder with the supply of the bench. -/
def supplied (w : Bench σ) (e : Entry σ) : Builder σ := e.builder.withScope { e.scope with next := w.next }

/-- A conversion puts a builder onto the bench, unless it fails. Anything else changes the builder in its place. -/
def play (cat : Catalog) (w : Bench σ) : Move σ → Bench σ
  | .start => { w with entries := w.entries ++ [{}] }
  | .on i act => match w.entries[i]? with
    | none => w
    | some e =>
      let (builder, failure) := w.effect cat (w.supplied e) act
      let changed : Entry σ := { builder, log := e.log ++ [act] }
      { next := builder.draft.scope.next
        entries :=
          if act.isConversion then if failure.isSome then w.entries else w.entries ++ [changed]
          else w.entries.set i changed }

def run (cat : Catalog) (moves : List (Move σ)) : Bench σ := moves.foldl (play cat) {}

/-- A builder on the bench holds the alias. -/
def Holds (w : Bench σ) (a : Alias) : Prop := ∃ e ∈ w.entries, a ∈ e.scope.held

/-- The list shares no alias with a builder on the bench. -/
def Apart (w : Bench σ) (s : Scope) : Prop := ∀ a, w.Holds a → ∀ b ∈ s.all, a.id ≠ b.id

/-- Where only calls were made there is one alias, that of the last target; or none, before a target is named. -/
def Entry.Follows (cat : Catalog) (e : Entry σ) : Prop :=
  (∀ act ∈ e.log, act.isCall) → e.scope.Single (e.log.filterMap (Act.place? cat)).getLast?

/-- Where the builder stands that an act makes or changes. -/
def place (w : Bench σ) (i : Nat) (act : Act σ) : Nat := if act.isConversion then w.entries.length else i

/-- The aliases of the builders on a bench, and what becomes of them next. -/
structure Orderly (cat : Catalog) (w : Bench σ) : Prop where
  /-- Identities tell aliases apart. -/
  same : ∀ a b, w.Holds a → w.Holds b → a.id = b.id → a = b
  distinct : ∀ e ∈ w.entries, (e.scope.all.map (·.id)).Nodup
  main : ∀ e ∈ w.entries, ∀ m ∈ e.scope.main, m ∈ e.scope.all
  follows : ∀ e ∈ w.entries, e.Follows cat
  /-- An alias that somebody holds becomes the main one. -/
  promoted : ∀ i e holder id a, w.entries[i]? = some e → w.alias? holder id = some a →
    ∃ e', (w.play cat (.on i (.setMain holder id))).entries[i]? = some e' ∧ e.scope.Promoted a e'.scope
  /-- A call that names a target makes an alias for it, which becomes the main one; a conversion copies the
  aliases before. -/
  retargeted : ∀ i e c f, w.entries[i]? = some e → c.place? cat = some f →
    ∃ e' s a, (w.play cat (.on i (.call c))).entries[w.place i (.call c)]? = some e' ∧
      (if c.isConversion then e.scope.CopiedTo s ∧ w.Apart s else e.scope = s) ∧
      a.fields = f ∧ (∀ b, w.Holds b → b.id ≠ a.id) ∧ a ∉ s.all ∧ s.Promoted a e'.scope
  /-- Any other conversion copies the aliases. -/
  copied : ∀ i e c, w.entries[i]? = some e → c.copies →
    ∃ e', (w.play cat (.on i (.call c))).entries[w.entries.length]? = some e' ∧
      e.scope.CopiedTo e'.scope ∧ w.Apart e'.scope

/-! ## What holds on every bench -/

/-- The aliases on hand are among those that were made, in the order of their identities. -/
structure DrawnFrom (made : List Alias) (w : Bench σ) : Prop where
  next : w.next = made.length
  scope : ∀ e ∈ w.entries, ({ e.scope with next := w.next } : Scope).DrawnFrom made

variable {cat : Catalog} {w : Bench σ} {made : List Alias} {i : Nat} {e : Entry σ}

namespace DrawnFrom

theorem made_of_holds (h : w.DrawnFrom made) {a : Alias} (ha : w.Holds a) : made[a.id]? = some a := by
  obtain ⟨e, he, ha⟩ := ha
  exact (h.scope e he).held a ha

theorem lt_of_holds (h : w.DrawnFrom made) {a : Alias} (ha : w.Holds a) : a.id < w.next := by
  rw [h.next]
  exact (List.getElem?_eq_some_iff.mp (h.made_of_holds ha)).1

end DrawnFrom

theorem holds_of_alias? {holder id : Nat} {a : Alias} (h : w.alias? holder id = some a) : w.Holds a := by
  obtain ⟨e, he, ha⟩ := Option.bind_eq_some_iff.mp h
  exact ⟨e, List.mem_of_getElem? he, List.mem_of_find?_eq_some ha⟩

/-- Whatever is done with a builder, the aliases on hand are among those made before and those it made. -/
theorem DrawnFrom.effect (h : w.DrawnFrom made) (cat : Catalog) {b : Builder σ}
    (hb : b.draft.scope.DrawnFrom made) (act : Act σ) :
    ∃ made', made <+: made' ∧ (w.effect cat b act).1.draft.scope.DrawnFrom made' := by
  have hretarget {s : Scope} {made : List Alias} (hs : s.DrawnFrom made) (place : Option Alias.Fields) :
      ∃ made', made <+: made' ∧ (s.retarget place).DrawnFrom made' := by
    cases place with
    | none => exact ⟨made, List.prefix_refl made, hs⟩
    | some f => exact ⟨_, List.prefix_append made _, hs.retarget f⟩
  cases act with
  | call c =>
    rw [Bench.effect, Builder.scope_apply]
    by_cases hconversion : c.isConversion
    · rw [if_pos hconversion]
      obtain ⟨made', hmade, hs⟩ := hretarget hb.copy (c.place? cat)
      exact ⟨made', (List.prefix_append made _).trans hmade, hs⟩
    · rw [if_neg hconversion]
      exact hretarget hb _
  | createAlias f => exact ⟨_, List.prefix_append made _, hb.create f.name f.subject f.path f.role⟩
  | looseAlias f => exact ⟨_, List.prefix_append made _, hb.fresh f.name f.subject f.path f.role⟩
  | setMain holder id =>
    refine ⟨made, List.prefix_refl made, ?_⟩
    cases halias : w.alias? holder id with
    | none =>
      rw [Bench.effect, halias]
      exact hb
    | some a =>
      rw [Bench.effect, halias]
      exact hb.setMain (h.made_of_holds (holds_of_alias? halias))

/-- What something that is done makes of a builder. -/
def changed (cat : Catalog) (w : Bench σ) (e : Entry σ) (act : Act σ) : Entry σ :=
  { builder := (w.effect cat (w.supplied e) act).1, log := e.log ++ [act] }

theorem scope_changed (cat : Catalog) (w : Bench σ) (e : Entry σ) (c : Call σ) : (w.changed cat e (.call c)).scope =
    (if c.isConversion then (w.supplied e).draft.scope.copy else (w.supplied e).draft.scope).retarget (c.place? cat) :=
  Builder.scope_apply cat (w.supplied e) c

theorem play_none (cat : Catalog) (hentry : w.entries[i]? = none) (act : Act σ) : w.play cat (.on i act) = w := by
  rw [play, hentry]

theorem play_on (cat : Catalog) (hentry : w.entries[i]? = some e) (act : Act σ) : w.play cat (.on i act) =
    { next := (w.changed cat e act).scope.next
      entries :=
        if act.isConversion then
          if (w.effect cat (w.supplied e) act).2.isSome then w.entries else w.entries ++ [w.changed cat e act]
        else w.entries.set i (w.changed cat e act) } := by
  rw [play, hentry]
  rfl

theorem mem_entries_play {act : Act σ} (hentry : w.entries[i]? = some e) {e' : Entry σ}
    (he' : e' ∈ (w.play cat (.on i act)).entries) : e' ∈ w.entries ∨ e' = w.changed cat e act := by
  rw [play_on cat hentry] at he'
  dsimp only at he'
  split at he'
  · split at he'
    · exact .inl he'
    · exact (List.mem_append.mp he').imp_right List.mem_singleton.mp
  · exact List.mem_or_eq_of_mem_set he'

theorem entry_play (cat : Catalog) (hentry : w.entries[i]? = some e) (act : Act σ)
    (hok : act.isConversion → (w.effect cat (w.supplied e) act).2 = none) :
    (w.play cat (.on i act)).entries[w.place i act]? = some (w.changed cat e act) := by
  rw [play_on cat hentry, place]
  by_cases hconversion : act.isConversion
  · rw [hok hconversion, if_pos hconversion]
    simp [hconversion]
  · simp only [if_neg hconversion]
    exact List.getElem?_set_self (List.getElem?_eq_some_iff.mp hentry).1

theorem DrawnFrom.supplied (h : w.DrawnFrom made) (he : w.entries[i]? = some e) :
    (w.supplied e).draft.scope.DrawnFrom made :=
  h.scope e (List.mem_of_getElem? he)

theorem DrawnFrom.play (h : w.DrawnFrom made) (cat : Catalog) (move : Move σ) :
    ∃ made', (w.play cat move).DrawnFrom made' := by
  cases move with
  | start =>
    refine ⟨made, h.next, fun e he => ?_⟩
    rcases List.mem_append.mp he with hold | hnew
    · exact h.scope e hold
    · rw [List.mem_singleton.mp hnew]
      exact ⟨⟨List.nodup_nil, nofun, nofun⟩, h.next, nofun⟩
  | on i act =>
    cases hentry : w.entries[i]? with
    | none =>
      rw [play_none cat hentry]
      exact ⟨made, h⟩
    | some e =>
      obtain ⟨made', hmade, hs⟩ := h.effect cat (h.supplied hentry) act
      have hnext : (w.play cat (.on i act)).next = (w.changed cat e act).scope.next := by rw [play_on cat hentry]
      refine ⟨made', hnext.trans hs.next, fun e' he' => ?_⟩
      rw [hnext]
      rcases mem_entries_play hentry he' with hold | rfl
      · have hstill := (h.scope e' hold).of_made_more hmade
        rwa [← hs.next] at hstill
      · exact hs

/-- What is made of a builder by calls follows the targets that they name. -/
theorem Entry.Follows.changed (h : e.Follows cat) (hs : (w.supplied e).draft.scope.Sound) (act : Act σ) :
    (w.changed cat e act).Follows cat := by
  intro hcalls
  obtain ⟨hbefore, hact⟩ := List.forall_mem_append.mp hcalls
  have hsingle : (w.supplied e).draft.scope.Single (e.log.filterMap (Act.place? cat)).getLast? :=
    ⟨(h hbefore).all, (h hbefore).fields⟩
  cases act with
  | call c =>
    have hlast : ((w.changed cat e (.call c)).log.filterMap (Act.place? cat)).getLast? =
        (c.place? cat).or (e.log.filterMap (Act.place? cat)).getLast? := by
      rw [Bench.changed, List.filterMap_append, List.getLast?_append]
      cases hplace : c.place? cat <;> simp [Act.place?, hplace]
    rw [hlast, scope_changed]
    by_cases hconversion : c.isConversion
    · rw [if_pos hconversion]
      exact hsingle.copy.retarget hs.copy _
    · rw [if_neg hconversion]
      exact hsingle.retarget hs _
  | _ => exact absurd (hact _ (List.mem_singleton_self _)) Bool.false_ne_true

theorem follows_play (h : w.DrawnFrom made) (hfollows : ∀ e ∈ w.entries, e.Follows cat) (move : Move σ) :
    ∀ e ∈ (w.play cat move).entries, e.Follows cat := by
  intro e' he'
  cases move with
  | start =>
    rcases List.mem_append.mp he' with hold | hnew
    · exact hfollows e' hold
    · rw [List.mem_singleton.mp hnew]
      exact fun _ => ⟨rfl, rfl⟩
  | on i act =>
    cases hentry : w.entries[i]? with
    | none =>
      rw [play_none cat hentry] at he'
      exact hfollows e' he'
    | some e =>
      rcases mem_entries_play hentry he' with hold | rfl
      · exact hfollows e' hold
      · exact (hfollows e (List.mem_of_getElem? hentry)).changed (h.supplied hentry).sound act

theorem reached_foldl (cat : Catalog) (moves : List (Move σ)) {w : Bench σ} (h : ∃ made, w.DrawnFrom made)
    (hfollows : ∀ e ∈ w.entries, e.Follows cat) :
    (∃ made, (moves.foldl (play cat) w).DrawnFrom made) ∧
      ∀ e ∈ (moves.foldl (play cat) w).entries, e.Follows cat := by
  induction moves generalizing w with
  | nil => exact ⟨h, hfollows⟩
  | cons move rest ih =>
    obtain ⟨made, h⟩ := h
    exact ih (h.play cat move) (follows_play h hfollows move)

/-- The aliases that a conversion hands over say the same, and are nobody else's. -/
theorem DrawnFrom.copiedTo_copy (h : w.DrawnFrom made) (hentry : w.entries[i]? = some e) :
    e.scope.CopiedTo (w.supplied e).draft.scope.copy ∧ w.Apart (w.supplied e).draft.scope.copy := by
  have hs := (h.supplied hentry).sound
  refine ⟨⟨hs.copiedTo.fields, hs.copiedTo.main⟩, fun a ha b hb => Nat.ne_of_lt ?_⟩
  exact Nat.lt_of_lt_of_le (h.lt_of_holds ha) (hs.le_id_of_mem_copy hb)

theorem DrawnFrom.promoted_setMain (h : w.DrawnFrom made) (hentry : w.entries[i]? = some e) {holder id : Nat}
    {a : Alias} (ha : w.alias? holder id = some a) :
    ∃ e', (w.play cat (.on i (.setMain holder id))).entries[i]? = some e' ∧ e.scope.Promoted a e'.scope := by
  have hp := (h.supplied hentry).promoted (h.made_of_holds (holds_of_alias? ha))
  have hscope : (w.changed cat e (.setMain holder id)).scope = (w.supplied e).draft.scope.setMain a := by
    rw [Entry.scope, changed, Bench.effect, ha]
    rfl
  have hplaced := entry_play cat hentry (.setMain holder id) fun hconversion => absurd hconversion Bool.false_ne_true
  refine ⟨_, hplaced, ?_⟩
  rw [hscope]
  exact hp.of_supplied

theorem DrawnFrom.retargeted_call (h : w.DrawnFrom made) (hentry : w.entries[i]? = some e) {c : Call σ}
    {f : Alias.Fields} (hplace : c.place? cat = some f) :
    ∃ e' s a, (w.play cat (.on i (.call c))).entries[w.place i (.call c)]? = some e' ∧
      (if c.isConversion then e.scope.CopiedTo s ∧ w.Apart s else e.scope = s) ∧
      a.fields = f ∧ (∀ b, w.Holds b → b.id ≠ a.id) ∧ a ∉ s.all ∧ s.Promoted a e'.scope := by
  have hs := (h.supplied hentry).sound
  have hplaced := entry_play cat hentry (.call c) fun hconversion =>
    Builder.failure_of_conversion cat _ hconversion (.inr (Option.isSome_of_eq_some hplace))
  have hscope := scope_changed cat w e c
  rw [hplace] at hscope
  -- No builder holds an alias with an identity that was not given out yet.
  have hnew (s : Scope) (hnext : w.next ≤ s.next) : ∀ b, w.Holds b → b.id ≠ (s.newAlias f).id :=
    fun b hb => Nat.ne_of_lt (Nat.lt_of_lt_of_le (h.lt_of_holds hb) hnext)
  by_cases hconversion : c.isConversion
  · rw [if_pos hconversion] at hscope
    refine ⟨_, _, (w.supplied e).draft.scope.copy.newAlias f, hplaced, ?_, rfl, hnew _ hs.next_le_copy,
      hs.copy.newAlias_not_mem f, ?_⟩
    · rw [if_pos hconversion]
      exact h.copiedTo_copy hentry
    · rw [hscope]
      exact hs.copy.promoted_retarget f
  · rw [if_neg hconversion] at hscope
    refine ⟨_, e.scope, (w.supplied e).draft.scope.newAlias f, hplaced, ?_, rfl, hnew _ (Nat.le_refl _),
      hs.newAlias_not_mem f, ?_⟩
    · rw [if_neg hconversion]
    · rw [hscope]
      exact (hs.promoted_retarget f).of_supplied

theorem DrawnFrom.copied_call (h : w.DrawnFrom made) (hentry : w.entries[i]? = some e) {c : Call σ}
    (hcopies : c.copies) : ∃ e', (w.play cat (.on i (.call c))).entries[w.entries.length]? = some e' ∧
      e.scope.CopiedTo e'.scope ∧ w.Apart e'.scope := by
  have hconversion := Call.isConversion_of_copies hcopies
  have hplaced : (w.play cat (.on i (.call c))).entries[if c.isConversion then w.entries.length else i]? = _ :=
    entry_play cat hentry (.call c) fun _ => Builder.failure_of_conversion cat _ hconversion (.inl hcopies)
  have hscope := scope_changed cat w e c
  rw [if_pos hconversion] at hplaced hscope
  rw [Call.place?_of_copies cat hcopies, Scope.retarget] at hscope
  refine ⟨_, hplaced, ?_⟩
  rw [hscope]
  exact h.copiedTo_copy hentry

theorem DrawnFrom.orderly (h : w.DrawnFrom made) (hfollows : ∀ e ∈ w.entries, e.Follows cat) : w.Orderly cat where
  same _ _ ha hb hid := Option.some.inj ((h.made_of_holds ha).symm.trans (hid ▸ h.made_of_holds hb))
  distinct e he := (h.scope e he).sound.nodup
  main e he := (h.scope e he).sound.main
  follows := hfollows
  promoted _ _ _ _ _ hentry := h.promoted_setMain hentry
  retargeted _ _ _ _ hentry := h.retargeted_call hentry
  copied _ _ _ hentry := h.copied_call hentry

/-- On every bench that can be reached, whatever was done with its builders, the aliases of a builder are told apart,
the main alias is one of them, and where only calls were made it is the only one and that of the last target. An alias
that becomes the main one takes the main alias before it out of the list, and nothing else. A copy has aliases of its
own that say the same, with its main alias at the same place. -/
theorem orderly_run (cat : Catalog) (moves : List (Move σ)) : (run cat moves).Orderly cat := by
  have hstart : ({} : Bench σ).DrawnFrom [] := ⟨rfl, fun e he => absurd he List.not_mem_nil⟩
  have hfollows : ∀ e ∈ ({} : Bench σ).entries, e.Follows cat := fun e he => absurd he List.not_mem_nil
  obtain ⟨⟨made, h⟩, hfollows⟩ := reached_foldl cat moves ⟨[], hstart⟩ hfollows
  exact h.orderly hfollows

/-- Two builders for one table, and another alias of the first that says almost the same. -/
def usersTwice : List (Move Statement) :=
  [.start, .on 0 (.call (.from (.text "users") .null)), .start, .on 1 (.call (.from (.text "users") .null)),
    .on 0 (.createAlias ⟨.text "users", none, .text "users", .text "other"⟩)]

/-- The aliases of each builder, and its main alias. -/
def ids (w : Bench σ) : List (List Nat × Option Nat) :=
  w.entries.map fun e => (e.scope.all.map (·.id), e.scope.main.map (·.id))

/-- The main alias of the second builder becomes that of the first, and a copy of the first is made. -/
theorem orderly_run_usersTwice :
    let cat : Catalog := { dialect := .sqlite }
    let w := run cat usersTwice
    ids w = [([0, 2], some 0), ([1], some 1)] ∧
    ids (w.play cat (.on 0 (.setMain 1 1))) = [([2, 1], some 1), ([1], some 1)] ∧
    ids (w.play cat (.on 0 (.call .clone))) = [([0, 2], some 0), ([1], some 1), ([3, 4], some 3)] ∧
    ∃ e a e' e'', w.entries[0]? = some e ∧ w.alias? 1 1 = some a ∧
      (w.play cat (.on 0 (.setMain 1 1))).entries[0]? = some e' ∧ e.scope.Promoted a e'.scope ∧
      (w.play cat (.on 0 (.call .clone))).entries[w.entries.length]? = some e'' ∧
      e.scope.CopiedTo e''.scope ∧ w.Apart e''.scope := by
  intro cat w
  obtain ⟨e, he⟩ : ∃ e, w.entries[0]? = some e := Option.isSome_iff_exists.mp (by decide +kernel)
  obtain ⟨a, ha⟩ : ∃ a, w.alias? 1 1 = some a := Option.isSome_iff_exists.mp (by decide +kernel)
  obtain ⟨e', he', hpromoted⟩ := (orderly_run cat usersTwice).promoted 0 e 1 1 a he ha
  obtain ⟨e'', he'', hcopied⟩ := (orderly_run cat usersTwice).copied 0 e .clone he rfl
  refine ⟨by decide +kernel, by decide +kernel, by decide +kernel, e, a, e', e'', he, ha, he', hpromoted, he'', hcopied⟩

end Bench

end SqlWeave
