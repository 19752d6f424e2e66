import SqlWeave.Proofs.Statement.Target

/-!
# Which alias is which

Two aliases with the same fields are still two, so what an alias is follows from its identity alone. Here the aliases
that were made for any builder are listed by their identities, and those that a builder holds are found there. Main
facts: an alias that was made anywhere can become the main one, and takes the place of the main alias before it; a
copy says what the aliases say, with new aliases; and a new main alias is the only one where the one before it was.
-/

namespace SqlWeave

namespace Scope

variable {s s' : Scope} {a b : Alias} {made : List Alias}

/-- The aliases that can be held: those of the list and those that are not in it. -/
def held (s : Scope) : List Alias := s.all ++ s.former

/-! ## Copies -/

/-- The aliases of a copy say one by one what the aliases say, and the main alias of the one is at the place of the
main alias of the other. -/
structure CopiedTo (s s' : Scope) : Prop where
  fields : s'.all.map Alias.fields = s.all.map Alias.fields
  main : ∃ k : Nat, s.all[k]? = s.main ∧ s'.all[k]? = s'.main

theorem fields_renumber (n : Nat) (as : List Alias) : (renumber n as).map Alias.fields = as.map Alias.fields := by
  induction as generalizing n with
  | nil => rfl
  | cons a as ih =>
    rw [renumber, List.map_cons, List.map_cons, ih]
    rfl

theorem length_renumber (n : Nat) (as : List Alias) : (renumber n as).length = as.length := by
  rw [← List.length_map (·.id), map_id_renumber, List.length_range']

/-- The list of a copy, and the supply of identities after it. A copy holds no other alias. -/
theorem Sound.copy_eq (h : s.Sound) : ∃ main, s.copy =
    { all := renumber s.next s.all, main, former := [], next := s.next + s.all.length } := by
  cases hm : s.main with
  | none => exact ⟨none, copy_of_no_main hm⟩
  | some m =>
    obtain ⟨k, -, -, hcopy⟩ := h.main_copy hm
    exact ⟨_, hcopy⟩

theorem Sound.next_le_copy (h : s.Sound) : s.next ≤ s.copy.next := by
  obtain ⟨main, hcopy⟩ := h.copy_eq
  rw [hcopy]
  exact Nat.le_add_right _ _

/-- The aliases of a copy are new. -/
theorem Sound.le_id_of_mem_copy (h : s.Sound) (hb : b ∈ s.copy.all) : s.next ≤ b.id := by
  obtain ⟨main, hcopy⟩ := h.copy_eq
  rw [hcopy] at hb
  exact (id_of_mem_renumber hb).1

theorem Sound.copiedTo (h : s.Sound) : s.CopiedTo s.copy := by
  cases hm : s.main with
  | none =>
    rw [copy_of_no_main hm]
    refine ⟨fields_renumber _ _, s.all.length, ?_, ?_⟩
    · rw [hm, List.getElem?_eq_none (Nat.le_refl _)]
    · exact List.getElem?_eq_none (Nat.le_of_eq (length_renumber _ _))
  | some m =>
    obtain ⟨k, hk, hget, hcopy⟩ := h.main_copy hm
    rw [hcopy]
    exact ⟨fields_renumber _ _, k, hk.trans hm.symm, hget⟩

/-! ## Lists with one alias -/

/-- There is no alias but the main one, which says this. -/
structure Single (said : Option Alias.Fields) (s : Scope) : Prop where
  all : s.all = s.main.toList
  fields : s.main.map Alias.fields = said

theorem Single.copy {said : Option Alias.Fields} (h : s.Single said) : s.copy.Single said := by
  obtain ⟨hall, hfields⟩ := h
  cases hm : s.main with
  | none =>
    rw [hm] at hall hfields
    rw [copy_of_no_main hm, hall]
    exact ⟨rfl, hfields⟩
  | some m =>
    rw [hm] at hall hfields
    have hcopy : s.copy =
        { all := [{ m with id := s.next }], main := some { m with id := s.next }, next := s.next + 1 } := by
      unfold Scope.copy
      rw [hm, hall]
      simp [renumber]
    rw [hcopy]
    exact ⟨rfl, hfields⟩

/-! ## Aliases that were made -/

/-- The aliases on hand are among those that were made, in the order of their identities. -/
structure DrawnFrom (made : List Alias) (s : Scope) : Prop where
  sound : s.Sound
  next : s.next = made.length
  held : ∀ a ∈ s.held, made[a.id]? = some a

theorem getElem?_append_of_eq_some {i : Nat} (h : made[i]? = some a) (more : List Alias) :
    (made ++ more)[i]? = some a := by
  rw [List.getElem?_append_left (List.getElem?_eq_some_iff.mp h).1, h]

theorem DrawnFrom.lt (h : s.DrawnFrom made) (ha : a ∈ s.held) : a.id < s.next := by
  rw [h.next]
  exact (List.getElem?_eq_some_iff.mp (h.held a ha)).1

/-- More aliases were made elsewhere. -/
theorem DrawnFrom.of_made_more {made' : List Alias} (h : s.DrawnFrom made) (hmade : made <+: made') :
    ({ s with next := made'.length } : Scope).DrawnFrom made' where
  sound :=
    { nodup := h.sound.nodup
      below := fun a ha => by
        have hlt := h.lt (List.mem_append_left _ ha)
        rw [h.next] at hlt
        exact Nat.lt_of_lt_of_le hlt hmade.length_le
      main := h.sound.main }
  next := rfl
  held a ha := by
    obtain ⟨more, rfl⟩ := hmade
    exact getElem?_append_of_eq_some (h.held a ha) more

/-- One alias was made. -/
theorem DrawnFrom.adds (h : s.DrawnFrom made) (hsound : s'.Sound) (hid : a.id = s.next) (hnext : s'.next = s.next + 1)
    (hheld : ∀ b ∈ s'.held, b = a ∨ b ∈ s.held) : s'.DrawnFrom (made ++ [a]) where
  sound := hsound
  next := by rw [hnext, h.next, List.length_append, List.length_singleton]
  held b hb := by
    rcases hheld b hb with rfl | hold
    · rw [hid, h.next, List.getElem?_concat_length]
    · exact getElem?_append_of_eq_some (h.held b hold) [a]

theorem mem_former_setMain (hb : b ∈ (s.setMain a).former) : b ∈ s.former ∨ b ∈ s.main := by
  unfold setMain at hb
  rcases List.mem_append.mp hb with hold | hdropped
  · exact .inl (List.mem_of_mem_filter hold)
  · cases hm : s.main with
    | none =>
      rw [hm] at hdropped
      cases hdropped
    | some m =>
      rw [hm] at hdropped
      dsimp only at hdropped
      split at hdropped
      · cases hdropped
      · exact .inr (List.mem_singleton.mp hdropped ▸ rfl)

theorem Sound.mem_held_setMain (h : s.Sound) (hb : b ∈ (s.setMain a).held) : b = a ∨ b ∈ s.held := by
  have hmain : ∀ m ∈ s.main, m = a ∨ m ∈ s.held := fun m hm => .inr (List.mem_append_left _ (h.main m hm))
  have heach : (s.setMain a).Each fun b => b = a ∨ b ∈ s.held :=
    Each.setMain ⟨fun b hb => .inr (List.mem_append_left _ hb), hmain⟩ (.inl rfl)
  rcases List.mem_append.mp hb with hall | hformer
  · exact heach.all b hall
  · rcases mem_former_setMain hformer with hold | hm
    · exact .inr (List.mem_append_right _ hold)
    · exact hmain b hm

theorem DrawnFrom.create (h : s.DrawnFrom made) (name : Value) (subject : Option Registered) (path role : Value) :
    (s.create name subject path role).2.DrawnFrom (made ++ [(s.create name subject path role).1]) :=
  h.adds (h.sound.create name subject path) rfl rfl fun b hb => by
    simp only [Scope.held, Scope.create, List.mem_append, List.mem_singleton] at hb ⊢
    rcases hb with (hold | hnew) | hformer
    · exact .inr (.inl hold)
    · exact .inl hnew
    · exact .inr (.inr hformer)

theorem DrawnFrom.fresh (h : s.DrawnFrom made) (name : Value) (subject : Option Registered) (path role : Value) :
    (s.fresh name subject path role).2.DrawnFrom (made ++ [(s.fresh name subject path role).1]) :=
  h.adds ⟨h.sound.nodup, fun a ha => Nat.lt_succ_of_lt (h.sound.below a ha), h.sound.main⟩ rfl rfl fun b hb => by
    simp only [Scope.held, Scope.fresh, List.mem_append, List.mem_singleton] at hb ⊢
    rcases hb with hold | hformer | hnew
    · exact .inr (.inl hold)
    · exact .inr (.inr hformer)
    · exact .inl hnew

theorem DrawnFrom.eq_of_id_eq (h : s.DrawnFrom made) (ha : made[a.id]? = some a) :
    ∀ b ∈ s.all, b.id = a.id → b = a :=
  fun b hb hid => Option.some.inj ((h.held b (List.mem_append_left _ hb)).symm.trans (hid ▸ ha))

/-- An alias that was made for any builder becomes the main one. -/
theorem DrawnFrom.promoted (h : s.DrawnFrom made) (ha : made[a.id]? = some a) : s.Promoted a (s.setMain a) :=
  h.sound.promoted_setMain (h.eq_of_id_eq ha)

theorem DrawnFrom.setMain (h : s.DrawnFrom made) (ha : made[a.id]? = some a) : (s.setMain a).DrawnFrom made where
  sound :=
    have hbelow : a.id < s.next := h.next ▸ (List.getElem?_eq_some_iff.mp ha).1
    h.sound.of_promoted (h.promoted ha) (Nat.le_refl _) hbelow (h.eq_of_id_eq ha)
  next := h.next
  held b hb := by
    rcases h.sound.mem_held_setMain hb with rfl | hold
    · exact ha
    · exact h.held b hold

theorem DrawnFrom.copy (h : s.DrawnFrom made) : s.copy.DrawnFrom (made ++ renumber s.next s.all) := by
  have hsound := h.sound.copy
  obtain ⟨main, hcopy⟩ := h.sound.copy_eq
  rw [hcopy] at hsound ⊢
  refine ⟨hsound, ?_, fun b hb => ?_⟩
  · dsimp only
    rw [List.length_append, length_renumber, h.next]
  · rw [Scope.held, List.append_nil] at hb
    obtain ⟨i, hi⟩ := List.mem_iff_getElem?.mp hb
    have hid := hi
    rw [getElem?_renumber] at hid
    obtain ⟨c, -, rfl⟩ := Option.map_eq_some_iff.mp hid
    rw [h.next, List.getElem?_append_right (Nat.le_add_right _ _), Nat.add_sub_cancel_left]
    rwa [h.next] at hi

/-! ## The alias of a target -/

/-- That a new alias joins the list before it becomes the main one changes nothing but the supply. -/
theorem Sound.setMain_create (h : s.Sound) (name : Value) (subject : Option Registered) (path role : Value) :
    (s.create name subject path role).2.setMain (s.create name subject path role).1 =
      { s.setMain (s.create name subject path role).1 with next := s.next + 1 } := by
  have hnone : ∀ b ∈ s.all, b.id ≠ s.next := fun b hb => Nat.ne_of_lt (h.below b hb)
  have hnotAll : s.all.any (fun b => decide (b.id = s.next)) = false :=
    List.any_eq_false.mpr fun b hb => by simpa using hnone b hb
  unfold Scope.setMain Scope.create
  cases hm : s.main with
  | none => simp [hnotAll]
  | some m =>
    have hmain : m.id ≠ s.next := hnone m (h.main m hm)
    have hnotRest : (without m.id s.all).any (fun b => decide (b.id = s.next)) = false :=
      List.any_eq_false.mpr fun b hb => by simpa using hnone b (List.mem_of_mem_filter hb)
    have hrest (new : Alias) (hid : new.id = s.next) :
        without m.id (s.all ++ [new]) = without m.id s.all ++ [new] := by
      simp [without, hid, Ne.symm hmain]
    simp [hmain, hnotRest, hrest]

/-- The alias that is made for a target. -/
def newAlias (s : Scope) (f : Alias.Fields) : Alias := (s.create f.name f.subject f.path f.role).1

theorem Sound.promoted_retarget (h : s.Sound) (f : Alias.Fields) :
    s.Promoted (s.newAlias f) (s.retarget (some f)) := by
  have hp : s.Promoted (s.newAlias f) (s.setMain (s.newAlias f)) :=
    h.promoted_setMain fun b hb hid => absurd hid (Nat.ne_of_lt (h.below b hb))
  rw [Scope.retarget, h.setMain_create]
  exact ⟨hp.main, hp.all⟩

theorem DrawnFrom.retarget (h : s.DrawnFrom made) (f : Alias.Fields) :
    (s.retarget (some f)).DrawnFrom (made ++ [s.newAlias f]) := by
  have hcreate := h.create f.name f.subject f.path f.role
  exact hcreate.setMain (hcreate.held _ (List.mem_append_left _ (mem_create _ _ _)))

/-- A new alias takes the place of the only one. -/
theorem Single.promoted {said : Option Alias.Fields} (h : s.Single said) (hp : s.Promoted a s') (ha : a ∉ s.all) :
    s'.Single (some a.fields) := by
  obtain ⟨rest, hrest, hall⟩ := hp.all
  have hnone : rest = [] := by
    cases hrest with
    | whole hmain =>
      rw [h.all] at ha ⊢
      cases hm : s.main with
      | none => rfl
      | some m =>
        rw [hm, hmain m hm] at ha
        exact absurd (List.mem_singleton_self a) ha
    | others hmain hne hrest =>
      rw [h.all, hmain] at hrest
      obtain ⟨rfl, hafter⟩ | ⟨hbefore, hafter⟩ := List.singleton_eq_append_iff.mp hrest
      · rw [List.cons_eq_cons] at hafter
        exact hafter.2
      · cases hafter
  subst hnone
  obtain ⟨hmem, -⟩ | ⟨-, hall⟩ := hall
  · cases hmem
  · exact ⟨by rw [hall, hp.main]; rfl, by rw [hp.main]; rfl⟩

/-- Which alias is the next to be made does not matter. -/
theorem Promoted.of_supplied {n : Nat} (h : ({ s with next := n } : Scope).Promoted a s') : s.Promoted a s' := by
  obtain ⟨rest, hrest, hall⟩ := h.all
  refine ⟨h.main, rest, ?_, hall⟩
  cases hrest with
  | whole hmain => exact .whole hmain
  | others hmain hne hlist => exact .others hmain hne hlist

theorem Sound.newAlias_not_mem (h : s.Sound) (f : Alias.Fields) : s.newAlias f ∉ s.all :=
  fun hmem => Nat.lt_irrefl _ (h.below _ hmem)

theorem Single.retarget {said : Option Alias.Fields} (h : s.Single said) (hs : s.Sound) (place : Option Alias.Fields) :
    (s.retarget place).Single (place.or said) := by
  cases place with
  | none => exact h
  | some f => exact h.promoted (hs.promoted_retarget f) (hs.newAlias_not_mem f)

end Scope

end SqlWeave
