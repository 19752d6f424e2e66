import Mathlib.Data.List.Nodup
import SqlWeave.Proofs.Statement.Step

/-!
# The aliases of a statement

A scope is sound when its aliases have identities of their own, all given out before, and the main alias is
one of them. Scopes stay sound however they are built: an alias that becomes the main one takes the place of the
main alias before it, and a copy of a sound one has its main alias at the same place, for the same table and under
the same name. What every alias has, every alias of a copy has.
-/

namespace SqlWeave

/-- Aliases that can be told apart, and a main alias that is one of them. -/
structure Scope.Sound (s : Scope) : Prop where
  nodup : (s.all.map (·.id)).Nodup
  below : ∀ a ∈ s.all, a.id < s.next
  main : ∀ m ∈ s.main, m ∈ s.all

/-- What the main alias is called, and what stands behind it. -/
def Scope.target (s : Scope) : Option (Value × Option Registered) := s.main.map fun a => (a.name, a.subject)

namespace Scope

variable {s : Scope} {a m : Alias}

theorem sound_empty : Sound {} := ⟨by simp, by simp, by simp⟩

theorem Sound.eq_of_id_eq (h : s.Sound) (ha : a ∈ s.all) (hm : m ∈ s.all) (hid : a.id = m.id) : a = m :=
  List.inj_on_of_nodup_map h.nodup ha hm hid

theorem Sound.create (h : s.Sound) (name : Value) (subject : Option Registered) (path : Value) {role : Value} :
    (s.create name subject path role).2.Sound where
  nodup := by
    have hnew : s.next ∉ s.all.map (·.id) := by
      rintro hmem
      obtain ⟨a, ha, hid⟩ := List.mem_map.mp hmem
      exact Nat.ne_of_lt (h.below a ha) hid
    simp only [Scope.create, List.map_append, List.map_cons, List.map_nil]
    exact List.nodup_append.mpr ⟨h.nodup, List.nodup_singleton _, by simpa using hnew⟩
  below := by
    simp only [Scope.create, List.forall_mem_append, List.forall_mem_singleton]
    exact ⟨fun a ha => Nat.lt_succ_of_lt (h.below a ha), Nat.lt_succ_self _⟩
  main m hm := List.mem_append_left _ (h.main m hm)

theorem mem_create (name : Value) (subject : Option Registered) (path : Value) {role : Value} :
    (s.create name subject path role).1 ∈ (s.create name subject path role).2.all :=
  List.mem_append_right _ (List.mem_singleton_self _)

/-- What stays of the list when `a` becomes the main alias: all but the main alias before it. -/
inductive Rest (s : Scope) (a : Alias) : List Alias → Prop where
  | whole (h : ∀ m ∈ s.main, m = a) : Rest s a s.all
  | others {m : Alias} {before after : List Alias} (hmain : s.main = some m) (hne : m ≠ a)
      (hall : s.all = before ++ m :: after) : Rest s a (before ++ after)

/-- `a` took the place of the main alias, and joined the list when it was not there. -/
structure Promoted (s : Scope) (a : Alias) (s' : Scope) : Prop where
  main : s'.main = some a
  all : ∃ rest, s.Rest a rest ∧ (a ∈ rest ∧ s'.all = rest ∨ a ∉ rest ∧ s'.all = rest ++ [a])

theorem Rest.sublist {rest : List Alias} (h : s.Rest a rest) : rest.Sublist s.all := by
  cases h with
  | whole => exact .refl _
  | others hmain hne hall =>
    rw [hall]
    exact List.Sublist.append_left (List.sublist_cons_self _ _) _

theorem without_append_cons {before after : List Alias}
    (hnodup : ((before ++ m :: after).map (·.id)).Nodup) :
    without m.id (before ++ m :: after) = before ++ after := by
  rw [List.map_append, List.map_cons, List.nodup_middle, List.nodup_cons, ← List.map_append] at hnodup
  have hothers : ∀ b ∈ before ++ after, decide (b.id ≠ m.id) := fun b hb =>
    decide_eq_true fun hid => hnodup.1 (hid ▸ List.mem_map_of_mem hb)
  rw [List.forall_mem_append] at hothers
  unfold without
  rw [List.filter_append, List.filter_cons_of_neg (by simp), List.filter_eq_self.mpr hothers.1,
    List.filter_eq_self.mpr hothers.2]

/-- An alias becomes the main one, whether it is in the list or not. -/
theorem Sound.promoted_setMain (h : s.Sound) (hsame : ∀ b ∈ s.all, b.id = a.id → b = a) :
    s.Promoted a (s.setMain a) := by
  have hjoins {rest : List Alias} (hrest : s.Rest a rest) :
      ∃ rest', s.Rest a rest' ∧ (a ∈ rest' ∧ (if rest.any (·.id = a.id) then rest else rest ++ [a]) = rest' ∨
        a ∉ rest' ∧ (if rest.any (·.id = a.id) then rest else rest ++ [a]) = rest' ++ [a]) := by
    refine ⟨rest, hrest, ?_⟩
    by_cases ha : a ∈ rest
    · exact .inl ⟨ha, if_pos (List.any_eq_true.mpr ⟨a, ha, by simp⟩)⟩
    · refine .inr ⟨ha, if_neg fun hany => ha ?_⟩
      obtain ⟨b, hb, hid⟩ := List.any_eq_true.mp hany
      exact hsame b (hrest.sublist.subset hb) (of_decide_eq_true hid) ▸ hb
  refine ⟨rfl, ?_⟩
  unfold setMain
  cases hmain : s.main with
  | none => exact hjoins (.whole (by simp [hmain]))
  | some m =>
    have hm : m ∈ s.all := h.main m hmain
    by_cases hid : m.id = a.id
    · dsimp only
      rw [if_pos hid]
      exact hjoins (.whole fun m' hm' => by
        rw [hmain, Option.mem_some_iff] at hm'
        exact hm' ▸ hsame m hm hid)
    · obtain ⟨before, after, hall⟩ := List.append_of_mem hm
      dsimp only
      rw [if_neg hid, hall, without_append_cons (hall ▸ h.nodup)]
      exact hjoins (.others hmain (fun heq => hid (congrArg Alias.id heq)) hall)

theorem Sound.of_promoted {s' : Scope} (h : s.Sound) (hp : s.Promoted a s') (hnext : s.next ≤ s'.next)
    (hbelow : a.id < s'.next) (hsame : ∀ b ∈ s.all, b.id = a.id → b = a) : s'.Sound := by
  obtain ⟨rest, hrest, hcases⟩ := hp.all
  have hnodup : (rest.map (·.id)).Nodup := h.nodup.sublist (hrest.sublist.map _)
  have hold : ∀ b ∈ rest, b.id < s'.next := fun b hb =>
    Nat.lt_of_lt_of_le (h.below b (hrest.sublist.subset hb)) hnext
  rcases hcases with ⟨ha, hall⟩ | ⟨ha, hall⟩
  · refine ⟨hall ▸ hnodup, hall ▸ hold, fun m hm => ?_⟩
    rw [hp.main, Option.mem_some_iff] at hm
    exact hm ▸ hall ▸ ha
  · have hnew : a.id ∉ rest.map (·.id) := by
      intro hmem
      obtain ⟨b, hb, hid⟩ := List.mem_map.mp hmem
      exact ha (hsame b (hrest.sublist.subset hb) hid ▸ hb)
    refine ⟨?_, ?_, fun m hm => ?_⟩
    · rw [hall, List.map_append, List.map_singleton]
      exact List.nodup_append.mpr ⟨hnodup, List.nodup_singleton _, by simpa using hnew⟩
    · rw [hall]
      exact List.forall_mem_append.mpr ⟨hold, List.forall_mem_singleton.mpr hbelow⟩
    · rw [hp.main, Option.mem_some_iff] at hm
      rw [hall, ← hm]
      exact List.mem_append_right _ (List.mem_singleton_self _)

theorem Sound.setMain (h : s.Sound) (ha : a ∈ s.all) : (s.setMain a).Sound := by
  have hsame : ∀ b ∈ s.all, b.id = a.id → b = a := fun b hb hid => h.eq_of_id_eq hb ha hid
  exact h.of_promoted (h.promoted_setMain hsame) (Nat.le_refl _) (h.below a ha) hsame

/-! ## Copies -/

theorem map_id_renumber (n : Nat) (as : List Alias) :
    (renumber n as).map (·.id) = List.range' n as.length := by
  induction as generalizing n with
  | nil => rfl
  | cons a as ih => rw [renumber, List.map_cons, ih, List.length_cons, List.range'_succ]

theorem getElem?_renumber (n i : Nat) (as : List Alias) :
    (renumber n as)[i]? = as[i]?.map fun a => { a with id := n + i } := by
  induction as generalizing n i with
  | nil => rfl
  | cons a as ih =>
    cases i with
    | zero => rfl
    | succ i =>
      rw [renumber, List.getElem?_cons_succ, List.getElem?_cons_succ, ih]
      rw [Nat.add_assoc, Nat.add_comm 1 i]

theorem id_of_mem_renumber {n : Nat} {as : List Alias} (ha : a ∈ renumber n as) :
    n ≤ a.id ∧ a.id < n + as.length := by
  have hid : a.id ∈ (renumber n as).map (·.id) := List.mem_map_of_mem ha
  rwa [map_id_renumber, List.mem_range'_1] at hid

/-- The main alias of a copy is the main alias under a new identity, at the same place. -/
theorem Sound.main_copy (h : s.Sound) (hm : s.main = some m) :
    ∃ k, s.all[k]? = some m ∧ (renumber s.next s.all)[k]? = some { m with id := s.next + k } ∧
      s.copy = { all := renumber s.next s.all, main := some { m with id := s.next + k },
                 next := s.next + s.all.length } := by
  have hmem : m ∈ s.all := h.main m hm
  have hfound : s.all.findIdx (·.id = m.id) < s.all.length :=
    List.findIdx_lt_length_of_exists ⟨m, hmem, by simp⟩
  have hid : (s.all[s.all.findIdx (·.id = m.id)]).id = m.id :=
    of_decide_eq_true (List.findIdx_getElem (w := hfound))
  have hplace : s.all[s.all.findIdx (·.id = m.id)]? = some m := by
    rw [List.getElem?_eq_getElem hfound, h.eq_of_id_eq (List.getElem_mem hfound) hmem hid]
  have hget : (renumber s.next s.all)[s.all.findIdx (·.id = m.id)]? =
      some { m with id := s.next + s.all.findIdx (·.id = m.id) } := by
    rw [getElem?_renumber, hplace, Option.map_some]
  refine ⟨_, hplace, hget, ?_⟩
  unfold Scope.copy
  rw [hm]
  dsimp only
  rw [hget]

theorem copy_of_no_main (hm : s.main = none) :
    s.copy = { all := renumber s.next s.all, next := s.next + s.all.length } := by
  unfold Scope.copy
  rw [hm]

theorem Sound.copy (h : s.Sound) : s.copy.Sound := by
  have hnodup : ((renumber s.next s.all).map (·.id)).Nodup := by
    rw [map_id_renumber]
    exact List.nodup_range'
  have hbelow : ∀ a ∈ renumber s.next s.all, a.id < s.next + s.all.length := fun a ha => (id_of_mem_renumber ha).2
  cases hm : s.main with
  | none =>
    rw [copy_of_no_main hm]
    exact ⟨hnodup, hbelow, by simp⟩
  | some m =>
    obtain ⟨k, -, hget, hcopy⟩ := h.main_copy hm
    rw [hcopy]
    refine ⟨hnodup, hbelow, fun m' hm' => ?_⟩
    cases hm'
    exact List.mem_of_getElem? hget

theorem Sound.target_copy (h : s.Sound) : s.copy.target = s.target := by
  cases hm : s.main with
  | none => rw [copy_of_no_main hm, target, target, hm]
  | some m =>
    obtain ⟨k, -, -, hcopy⟩ := h.main_copy hm
    rw [hcopy, target, target, hm, Option.map_some, Option.map_some]

/-! ## What every alias has -/

variable {P : Alias → Prop}

/-- Every alias in the list has the property, and the main alias has it, wherever it is. -/
structure Each (P : Alias → Prop) (s : Scope) : Prop where
  all : ∀ a ∈ s.all, P a
  main : ∀ a ∈ s.main, P a

theorem each_empty : Each P {} := ⟨nofun, nofun⟩

theorem Each.create (h : s.Each P) {name : Value} {subject : Option Registered} {path : Value}
    (hnew : P (s.create name subject path).1) : (s.create name subject path).2.Each P :=
  ⟨List.forall_mem_append.mpr ⟨h.all, List.forall_mem_singleton.mpr hnew⟩, h.main⟩

theorem Each.setMain (h : s.Each P) (ha : P a) : (s.setMain a).Each P := by
  have hmore {kept : List Alias} (hkept : ∀ b ∈ kept, P b) :
      ∀ b ∈ (if kept.any (·.id = a.id) then kept else kept ++ [a]), P b := by
    split
    · exact hkept
    · exact List.forall_mem_append.mpr ⟨hkept, List.forall_mem_singleton.mpr ha⟩
  refine ⟨?_, fun b hb => Option.some.inj hb ▸ ha⟩
  unfold Scope.setMain
  cases s.main with
  | none => exact hmore h.all
  | some m =>
    dsimp only
    split
    · exact hmore h.all
    · exact hmore fun b hb => h.all b (List.mem_of_mem_filter hb)

/-- A copy keeps what does not depend on the identity of an alias. -/
theorem Each.copy (h : s.Each P) (hP : ∀ (a : Alias) (id : Nat), P a → P { a with id }) : s.copy.Each P := by
  have hall : ∀ a ∈ renumber s.next s.all, P a := fun a ha => by
    obtain ⟨i, hi⟩ := List.mem_iff_getElem?.mp ha
    rw [getElem?_renumber] at hi
    obtain ⟨b, hb, rfl⟩ := Option.map_eq_some_iff.mp hi
    exact hP b _ (h.all b (List.mem_of_getElem? hb))
  unfold Scope.copy
  cases hmain : s.main with
  | none => exact ⟨hall, nofun⟩
  | some m =>
    dsimp only
    split
    · next a ha => exact ⟨hall, fun b hb => Option.some.inj hb ▸ hall a (List.mem_of_getElem? ha)⟩
    · exact ⟨hall, fun b hb => Option.some.inj hb ▸ hP m _ (h.main m hmain)⟩

end Scope

/-! ## Calls -/

/-- What a target stands for under a name: an entity, or else a table by its path. -/
inductive Catalog.Stands (cat : Catalog) (target name : Value) : Value → Option Registered → Value → Prop where
  | entity {e : Entity} (h : cat.entities.find? (Registry.lookupKey target) = .ok (some e)) :
    Stands cat target name (name.orElse (.text e.table)) (some (.entity e)) .null
  | table (h : cat.entities.find? (Registry.lookupKey target) = .ok none) {path : String}
      (hpath : (Registry.lookupKey target).text? = some path) :
    Stands cat target name (name.orElse (Registry.lookupKey target)) none (Registry.lookupKey target)

namespace Build

/-- A target joins the tables of a statement and becomes the main one, or the step fails and changes nothing. -/
theorem ends_setTarget_cases (cat : Catalog) (target name : Value) (d : Draft) :
    (∃ f, ends (setTarget cat target name) d = (.error f, d)) ∨ ∃ called subject path,
      cat.Stands target name called subject path ∧ ends (setTarget cat target name) d = (.ok ⟨⟩,
        { d with scope := (d.scope.create called subject path).2.setMain (d.scope.create called subject path).1 }) := by
  unfold setTarget createFromAlias
  dsimp only
  cases hfound : cat.entities.find? (Registry.lookupKey target) with
  | error f => exact .inl ⟨f, rfl⟩
  | ok found =>
    cases found with
    | some e => exact .inr ⟨_, _, _, .entity hfound, rfl⟩
    | none =>
      cases hpath : (Registry.lookupKey target).text? with
      | some path => exact .inr ⟨_, _, _, .table hfound hpath, rfl⟩
      | none => exact .inl ⟨_, rfl⟩

theorem ends_setTarget (cat : Catalog) (target name : Value) (d : Draft) :
    (ends (setTarget cat target name) d).2 = d ∨ ∃ called subject path, cat.Stands target name called subject path ∧
      (ends (setTarget cat target name) d).2 =
        { d with scope := (d.scope.create called subject path).2.setMain (d.scope.create called subject path).1 } := by
  rcases ends_setTarget_cases cat target name d with ⟨f, h⟩ | ⟨called, subject, path, hstands, h⟩
  · exact .inl (congrArg Prod.snd h)
  · exact .inr ⟨called, subject, path, hstands, congrArg Prod.snd h⟩

/-- However a target is named, every alias has afterwards what every alias had and what the new one has. -/
theorem exists_each_setTarget {cat : Catalog} {target name : Value} {P : Alias → Prop}
    (hnew : ∀ id called subject path, cat.Stands target name called subject path →
      P { id, name := called, subject, path }) {d : Draft} (h : d.scope.Each P) :
    ∃ scope : Scope, scope.Each P ∧ (ends (setTarget cat target name) d).2 = { d with scope } := by
  rcases ends_setTarget cat target name d with he | ⟨called, subject, path, hstands, he⟩
  · exact ⟨d.scope, h, he⟩
  · have ha := hnew d.scope.next called subject path hstands
    exact ⟨_, (h.create ha).setMain ha, he⟩

theorem keeps_setTarget_of_scope {γ : Type} {f : Draft → γ}
    (hf : ∀ (d : Draft) (scope : Scope), f { d with scope } = f d) (cat : Catalog) (target name : Value) :
    Keeps f (setTarget cat target name) := by
  intro d
  rcases ends_setTarget cat target name d with h | ⟨_, _, _, -, h⟩
  · rw [h]
  · rw [h, hf]

end Build

end SqlWeave
