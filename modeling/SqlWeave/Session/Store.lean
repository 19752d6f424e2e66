/-!
# Numbered cells

A store keeps values under numbers and hands the numbers out in order. Reading a number that was
never handed out gives a default. Main fact: a cell holds what was last put into it.
-/

namespace SqlWeave

structure Store (α : Type) where
  /-- The number that is handed out next. -/
  next : Nat := 0
  /-- What was put, newest first. -/
  cells : List (Nat × α) := []
  deriving Inhabited

namespace Store

variable {α : Type} [Inhabited α]

/-- What the cell of number `i` holds. -/
def get (s : Store α) (i : Nat) : α := ((s.cells.find? (·.1 = i)).map Prod.snd).getD default

/-- Puts a value into the cell of number `i`. -/
def put (s : Store α) (i : Nat) (a : α) : Store α :=
  { s with cells := (i, a) :: s.cells.filter (·.1 ≠ i) }

/-- Changes the cell of number `i`. -/
def update (s : Store α) (i : Nat) (f : α → α) : Store α := s.put i (f (s.get i))

/-- Puts a value into a new cell. -/
def add (s : Store α) (a : α) : Nat × Store α := (s.next, { (s.put s.next a) with next := s.next + 1 })

theorem get_put_self (s : Store α) (i : Nat) (a : α) : (s.put i a).get i = a := by
  simp [get, put]

theorem get_put_of_ne (s : Store α) {i j : Nat} (a : α) (h : i ≠ j) : (s.put i a).get j = s.get j := by
  have aux : ∀ l : List (Nat × α), (l.filter (·.1 ≠ i)).find? (·.1 = j) = l.find? (·.1 = j) := by
    intro l
    induction l with
    | nil => rfl
    | cons p rest ih =>
      by_cases hp : p.1 = i
      · have hj : ¬ p.1 = j := fun e => h (hp ▸ e)
        simp_all
      · by_cases hj : p.1 = j <;> simp_all
  simp only [get, put, List.find?_cons, decide_eq_false h]
  rw [aux]

theorem get_update_self (s : Store α) (i : Nat) (f : α → α) : (s.update i f).get i = f (s.get i) :=
  get_put_self s i _

theorem get_update (s : Store α) (i j : Nat) (f : α → α) :
    (s.update i f).get j = if i = j then f (s.get j) else s.get j := by
  by_cases h : i = j
  · subst h
    rw [if_pos rfl, get_update_self]
  · rw [if_neg h]
    exact get_put_of_ne s _ h

theorem get_add (s : Store α) (a : α) (j : Nat) :
    (s.add a).2.get j = if s.next = j then a else s.get j := by
  have hget : (s.add a).2.get j = (s.put s.next a).get j := rfl
  rw [hget]
  by_cases h : s.next = j
  · subst h
    rw [if_pos rfl, get_put_self]
  · rw [if_neg h]
    exact get_put_of_ne s a h

end Store

end SqlWeave
