import Mathlib.Data.List.Forall2
import SqlWeave.Failure

/-!
# Results

A sequence of steps that ended well went through each of them. Two sequences whose steps give related
results give related results.
-/

namespace SqlWeave.Result

variable {α β : Type}

theorem bind_eq_ok {x : Result α} {f : α → Result β} {b : β} :
    x >>= f = .ok b ↔ ∃ a, x = .ok a ∧ f a = .ok b := by
  cases x with
  | error e =>
    refine iff_of_false nofun ?_
    rintro ⟨_, h, -⟩
    cases h
  | ok a =>
    refine ⟨fun h => ⟨a, rfl, h⟩, ?_⟩
    rintro ⟨_, ⟨⟩, h⟩
    exact h

theorem pure_eq_ok {a b : α} : (pure a : Result α) = .ok b ↔ a = b :=
  ⟨Except.ok.inj, congrArg Except.ok⟩

theorem map_eq_ok {x : Result α} {f : α → β} {b : β} :
    x.map f = .ok b ↔ ∃ a, x = .ok a ∧ f a = b := by
  cases x with
  | error e =>
    refine iff_of_false nofun ?_
    rintro ⟨_, h, -⟩
    cases h
  | ok a =>
    refine ⟨fun h => ⟨a, rfl, Except.ok.inj h⟩, ?_⟩
    rintro ⟨_, ⟨⟩, rfl⟩
    rfl

/-- A list whose elements all gave a value gave them one by one. -/
theorem mapM_cons_eq_ok {f : α → Result β} {a : α} {as : List α} {bs : List β} :
    (a :: as).mapM f = .ok bs ↔ ∃ b rest, f a = .ok b ∧ as.mapM f = .ok rest ∧ bs = b :: rest := by
  rw [List.mapM_cons, bind_eq_ok]
  constructor
  · rintro ⟨b, hb, h⟩
    obtain ⟨rest, hrest, hp⟩ := bind_eq_ok.mp h
    exact ⟨b, rest, hb, hrest, (pure_eq_ok.mp hp).symm⟩
  · rintro ⟨b, rest, hb, hrest, rfl⟩
    exact ⟨b, hb, bind_eq_ok.mpr ⟨rest, hrest, rfl⟩⟩

/-- A list whose elements all give a value gives their values. -/
theorem mapM_eq_ok_map {f : α → Result β} {g : α → β} {as : List α} (h : ∀ a ∈ as, f a = .ok (g a)) :
    as.mapM f = .ok (as.map g) := by
  induction as with
  | nil => rfl
  | cons a as ih =>
    obtain ⟨ha, has⟩ := List.forall_mem_cons.mp h
    exact mapM_cons_eq_ok.mpr ⟨g a, as.map g, ha, ih has, rfl⟩

theorem exists_of_mem_mapM {f : α → Result β} {as : List α} {bs : List β} (h : as.mapM f = .ok bs)
    {b : β} (hb : b ∈ bs) : ∃ a ∈ as, f a = .ok b := by
  induction as generalizing bs with
  | nil =>
    cases h
    cases hb
  | cons a as ih =>
    obtain ⟨b', rest, hb', hrest, rfl⟩ := mapM_cons_eq_ok.mp h
    rcases List.mem_cons.mp hb with rfl | hb
    · exact ⟨a, List.mem_cons_self, hb'⟩
    · obtain ⟨a', ha', hf⟩ := ih hrest hb
      exact ⟨a', List.mem_cons_of_mem _ ha', hf⟩

theorem exists_of_mapM_of_mem {f : α → Result β} {as : List α} {bs : List β} (h : as.mapM f = .ok bs)
    {a : α} (ha : a ∈ as) : ∃ b ∈ bs, f a = .ok b := by
  induction as generalizing bs with
  | nil => cases ha
  | cons a' as ih =>
    obtain ⟨b, rest, hb, hrest, rfl⟩ := mapM_cons_eq_ok.mp h
    rcases List.mem_cons.mp ha with rfl | ha
    · exact ⟨b, List.mem_cons_self, hb⟩
    · obtain ⟨b', hb', hf⟩ := ih hrest ha
      exact ⟨b', List.mem_cons_of_mem _ hb', hf⟩

/-- A list gives a list of values when each of its elements gives one. -/
theorem exists_mapM {f : α → Result β} {as : List α} :
    (∃ bs, as.mapM f = .ok bs) ↔ ∀ a ∈ as, ∃ b, f a = .ok b := by
  induction as with
  | nil => exact iff_of_true ⟨[], rfl⟩ (List.forall_mem_nil _)
  | cons a as ih =>
    rw [List.forall_mem_cons, ← ih]
    simp only [mapM_cons_eq_ok]
    constructor
    · rintro ⟨_, b, bs, hb, hbs, -⟩
      exact ⟨⟨b, hb⟩, bs, hbs⟩
    · rintro ⟨⟨b, hb⟩, bs, hbs⟩
      exact ⟨_, b, bs, hb, hbs, rfl⟩

/-- What is made of the values of a list is there when each element gives a value, and these values will do. -/
theorem exists_mapM_bind {γ : Type} {f : α → Result β} {g : List β → Result γ} {as : List α}
    (hf : ∀ a ∈ as, ∃ b, f a = .ok b) (hg : ∀ bs, as.mapM f = .ok bs → ∃ c, g bs = .ok c) :
    ∃ c, as.mapM f >>= g = .ok c := by
  obtain ⟨bs, hbs⟩ := exists_mapM.mpr hf
  obtain ⟨c, hc⟩ := hg bs hbs
  exact ⟨c, bind_eq_ok.mpr ⟨bs, hbs, hc⟩⟩

section
variable {α : Type} {f : α → Result Bool} {as : List α}

theorem filterAuxM_eq_ok {kept out : List α} (h : as.filterAuxM f kept = .ok out) : ∀ a ∈ out, a ∈ as ∨ a ∈ kept := by
  induction as generalizing kept with
  | nil =>
    cases h
    exact fun a => .inr
  | cons a as ih =>
    obtain ⟨b, -, h⟩ := bind_eq_ok.mp h
    intro x hx
    rcases ih h x hx with hx | hx
    · exact .inl (List.mem_cons_of_mem a hx)
    · cases b with
      | false => exact .inr hx
      | true =>
        rcases List.mem_cons.mp hx with rfl | hx
        · exact .inl List.mem_cons_self
        · exact .inr hx

theorem mem_of_mem_filterM {out : List α} (h : as.filterM f = .ok out) : ∀ a ∈ out, a ∈ as := by
  obtain ⟨kept, hkept, h⟩ := bind_eq_ok.mp h
  cases h
  intro a ha
  rcases filterAuxM_eq_ok hkept a (List.mem_reverse.mp ha) with ha | ha
  · exact ha
  · cases ha

/-- A list can be filtered when each of its elements can be tested. -/
theorem exists_filterM (h : ∀ a ∈ as, ∃ b, f a = .ok b) : ∃ out, as.filterM f = .ok out := by
  have haux (kept : List α) : ∃ out, as.filterAuxM f kept = .ok out := by
    induction as generalizing kept with
    | nil => exact ⟨kept, rfl⟩
    | cons a as ih =>
      obtain ⟨⟨b, hb⟩, has⟩ := List.forall_mem_cons.mp h
      obtain ⟨out, hout⟩ := ih has (cond b (a :: kept) kept)
      exact ⟨out, bind_eq_ok.mpr ⟨b, hb, hout⟩⟩
  obtain ⟨out, hout⟩ := haux []
  exact ⟨out.reverse, bind_eq_ok.mpr ⟨out, hout, rfl⟩⟩

/-- A list is filtered by what the tests of its elements give. -/
theorem filterM_eq_ok_filter {p : α → Bool} (h : ∀ a ∈ as, f a = .ok (p a)) : as.filterM f = .ok (as.filter p) := by
  have haux (kept : List α) : as.filterAuxM f kept = .ok ((as.filter p).reverse ++ kept) := by
    induction as generalizing kept with
    | nil => rfl
    | cons a as ih =>
      obtain ⟨ha, has⟩ := List.forall_mem_cons.mp h
      refine bind_eq_ok.mpr ⟨p a, ha, (ih has _).trans ?_⟩
      cases hp : p a with
      | false => rw [List.filter_cons_of_neg (by rw [hp]; exact Bool.false_ne_true)]; rfl
      | true =>
        rw [List.filter_cons_of_pos hp, List.reverse_cons, List.append_assoc]
        rfl
  exact bind_eq_ok.mpr ⟨_, haux [], by rw [List.append_nil, List.reverse_reverse]; rfl⟩

end

/-! ## Related results -/

/-- Two results that are there and related by `R`, or failures that are related by `E`. -/
inductive Rel (E : Failure → Failure → Prop) (R : α → α → Prop) : Result α → Result α → Prop where
  | ok {a b : α} : R a b → Rel E R (.ok a) (.ok b)
  | error {f g : Failure} : E f g → Rel E R (.error f) (.error g)

variable {E : Failure → Failure → Prop} {R : α → α → Prop} {S : β → β → Prop}

theorem Rel.refl (hE : ∀ f, E f f) (hR : ∀ a, R a a) (r : Result α) : Rel E R r r := by
  cases r with
  | ok a => exact .ok (hR a)
  | error f => exact .error (hE f)

theorem Rel.bind {x y : Result α} {f g : α → Result β} (h : Rel E R x y)
    (hfg : ∀ a b, R a b → Rel E S (f a) (g b)) : Rel E S (x >>= f) (y >>= g) := by
  cases h with
  | ok hab => exact hfg _ _ hab
  | error h => exact .error h

/-- What is known of the second result is known of a related pair. -/
theorem Rel.and_right {x y : Result α} {P : α → Prop} (h : Rel E R x y) (hP : ∀ b, y = .ok b → P b) :
    Rel E (fun a b => R a b ∧ P b) x y := by
  cases h with
  | ok hab => exact .ok ⟨hab, hP _ rfl⟩
  | error h => exact .error h

/-- Steps that go on to one result, from results with one failure. -/
theorem Rel.bind_eq {x y : Result α} {f g : α → Result β} (h : Rel Eq R x y)
    (hfg : ∀ a b, R a b → f a = g b) : x >>= f = y >>= g := by
  cases h with
  | ok hab => exact hfg _ _ hab
  | error h =>
    obtain rfl := h
    rfl

theorem Rel.mapM {P : α → α → Prop} {f : α → Result β} (hf : ∀ a b, P a b → Rel E S (f a) (f b))
    {as bs : List α} (h : List.Forall₂ P as bs) : Rel E (List.Forall₂ S) (as.mapM f) (bs.mapM f) := by
  induction h with
  | nil => exact .ok .nil
  | @cons a b as bs hab _ ih =>
    rw [List.mapM_cons, List.mapM_cons]
    exact (hf a b hab).bind fun _ _ hhead => ih.bind fun _ _ hrest => .ok (.cons hhead hrest)

end SqlWeave.Result
