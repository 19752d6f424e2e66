/-!
# Insertion-ordered maps

An `Assoc α` is a list of pairs in the order in which its keys were first written. Writing a key
that is present replaces its value and keeps its place; a new key goes to the end. Columns,
parameters and sort keys come out in this order, so the order is part of the value.

The main small facts: what a look-up finds after a write, which keys a write leaves, and that the
look-up in a merge prefers the later map.
-/

namespace SqlWeave

/-- Pairs of a key and a value, in the order in which the keys were first written. -/
abbrev Assoc (α : Type) := List (String × α)

namespace Assoc

variable {α β : Type}

/-- The value written under `key`, if any. -/
def get? : Assoc α → String → Option α
  | [], _ => none
  | (k, v) :: rest, key => if k = key then some v else get? rest key

/-- Is something written under `key`? -/
def has (m : Assoc α) (key : String) : Bool := (m.get? key).isSome

/-- Writes `value` under `key`: in place when the key is present, at the end otherwise. -/
def put : Assoc α → String → α → Assoc α
  | [], key, value => [(key, value)]
  | (k, v) :: rest, key, value =>
    if k = key then (k, value) :: rest else (k, v) :: put rest key value

/-- Writes every pair of `n` into `m`, in order. -/
def merge (m n : Assoc α) : Assoc α := n.foldl (fun acc p => acc.put p.1 p.2) m

/-- A map from pairs that may repeat a key: the last value of a key wins, its first place stays. -/
def ofPairs (ps : List (String × α)) : Assoc α := merge [] ps

/-- The keys, in order. -/
def keys (m : Assoc α) : List String := m.map Prod.fst

/-- The values, in order of their keys. -/
def values (m : Assoc α) : List α := m.map Prod.snd

/-- Drops the pair under `key`. -/
def erase (m : Assoc α) (key : String) : Assoc α := m.filter fun p => p.1 ≠ key

@[simp] theorem get?_nil (k : String) : get? ([] : Assoc α) k = none := rfl

theorem get?_cons (p : String × α) (m : Assoc α) (k : String) :
    get? (p :: m) k = if p.1 = k then some p.2 else get? m k := rfl

theorem get?_put_self (m : Assoc α) (k : String) (v : α) : (m.put k v).get? k = some v := by
  induction m with
  | nil => simp [put, get?]
  | cons p rest ih =>
    obtain ⟨k', v'⟩ := p
    by_cases h : k' = k <;> simp [put, get?, h, ih]

theorem get?_put_of_ne (m : Assoc α) {k k' : String} (v : α) (h : k' ≠ k) :
    (m.put k' v).get? k = m.get? k := by
  induction m with
  | nil => simp [put, get?, h]
  | cons p rest ih =>
    obtain ⟨k₀, v₀⟩ := p
    by_cases h₀ : k₀ = k'
    · subst h₀
      simp [put, get?, h]
    · simp only [put, if_neg h₀, get?_cons, ih]

theorem get?_put (m : Assoc α) (k k' : String) (v : α) :
    (m.put k' v).get? k = if k' = k then some v else m.get? k := by
  by_cases h : k' = k
  · subst h
    simp [get?_put_self]
  · simp [h, get?_put_of_ne m v h]

@[simp] theorem keys_nil : keys ([] : Assoc α) = [] := rfl

@[simp] theorem keys_cons (p : String × α) (m : Assoc α) : keys (p :: m) = p.1 :: keys m := rfl

theorem keys_put (m : Assoc α) (k : String) (v : α) :
    (m.put k v).keys = if k ∈ m.keys then m.keys else m.keys ++ [k] := by
  induction m with
  | nil => simp [put]
  | cons p rest ih =>
    obtain ⟨k', v'⟩ := p
    by_cases h : k' = k
    · simp [put, h]
    · have h' : ¬ k = k' := fun e => h e.symm
      by_cases hm : k ∈ keys rest <;> simp_all [put]

theorem mem_of_mem_put {m : Assoc α} {k : String} {v : α} {p : String × α} (h : p ∈ m.put k v) :
    p ∈ m ∨ p = (k, v) := by
  induction m with
  | nil => exact .inr (List.mem_singleton.mp h)
  | cons q m ih =>
    unfold put at h
    split at h
    · next hk =>
      rcases List.mem_cons.mp h with rfl | h
      · exact .inr (congrArg (·, v) hk)
      · exact .inl (List.mem_cons_of_mem _ h)
    · rcases List.mem_cons.mp h with rfl | h
      · exact .inl List.mem_cons_self
      · exact (ih h).imp_left (List.mem_cons_of_mem _)

/-! ## Merging -/

theorem merge_cons (m n : Assoc α) (p : String × α) : m.merge (p :: n) = (m.put p.1 p.2).merge n := rfl

theorem ofPairs_cons (p : String × α) (n : Assoc α) : ofPairs (p :: n) = merge [p] n := rfl

/-- What a merge finds: what was written last, and else what was there. -/
theorem get?_merge (m n : Assoc α) (k : String) :
    (m.merge n).get? k = ((ofPairs n).get? k).or (m.get? k) := by
  induction n generalizing m with
  | nil => rfl
  | cons p n ih =>
    rw [merge_cons, ofPairs_cons, ih (m.put p.1 p.2), ih [p], get?_put, get?_cons, get?_nil, Option.or_assoc]
    split
    · rfl
    · rfl

/-- A merge holds no other pairs than its parts. -/
theorem mem_of_mem_merge {m n : Assoc α} {p : String × α} (h : p ∈ m.merge n) : p ∈ m ∨ p ∈ n := by
  induction n generalizing m with
  | nil => exact .inl h
  | cons q n ih =>
    rcases ih h with h | h
    · rcases mem_of_mem_put h with h | rfl
      · exact .inl h
      · exact .inr List.mem_cons_self
    · exact .inr (List.mem_cons_of_mem _ h)

theorem mem_keys_merge {m n : Assoc α} {k : String} : k ∈ (m.merge n).keys ↔ k ∈ m.keys ∨ k ∈ n.keys := by
  induction n generalizing m with
  | nil => simp [merge]
  | cons p n ih =>
    rw [merge_cons, ih, keys_put, keys_cons, List.mem_cons]
    split
    · next hp =>
      constructor
      · exact Or.imp_right .inr
      · rintro (hm | rfl | hn)
        · exact .inl hm
        · exact .inl hp
        · exact .inr hn
    · rw [List.mem_append, List.mem_singleton, or_assoc]

theorem nodup_keys_put_iff (m : Assoc α) (k : String) (v : α) : (m.put k v).keys.Nodup ↔ m.keys.Nodup := by
  rw [keys_put]
  split
  · rfl
  · next hk =>
    rw [List.nodup_append]
    refine ⟨fun h => h.1, fun h => ⟨h, by simp, ?_⟩⟩
    intro a ha b hb
    rw [List.mem_singleton] at hb
    rintro rfl
    exact hk (hb ▸ ha)

theorem nodup_keys_merge {m : Assoc α} (h : m.keys.Nodup) (n : Assoc α) : (m.merge n).keys.Nodup := by
  induction n generalizing m with
  | nil => exact h
  | cons p n ih => exact ih ((nodup_keys_put_iff m p.1 p.2).mpr h)

theorem get?_of_not_mem {m : Assoc α} {k : String} (h : k ∉ m.keys) : m.get? k = none := by
  induction m with
  | nil => rfl
  | cons p m ih =>
    rw [keys_cons, List.mem_cons, not_or] at h
    rw [get?_cons, if_neg (Ne.symm h.1), ih h.2]

theorem exists_get?_of_mem {m : Assoc α} {k : String} (h : k ∈ m.keys) : ∃ v, m.get? k = some v := by
  induction m with
  | nil => cases h
  | cons p m ih =>
    rw [get?_cons]
    split
    · exact ⟨p.2, rfl⟩
    · next hne => exact ih ((List.mem_cons.mp h).resolve_left (Ne.symm hne))

theorem mem_of_get? {m : Assoc α} {k : String} {v : α} (h : m.get? k = some v) : (k, v) ∈ m := by
  induction m with
  | nil => cases h
  | cons p m ih =>
    rw [get?_cons] at h
    split at h
    · next hk =>
      cases h
      rw [← hk]
      exact List.mem_cons_self
    · exact List.mem_cons_of_mem _ (ih h)

/-- Where the keys differ, each pair is found by its key. -/
theorem get?_of_mem {m : Assoc α} (hm : m.keys.Nodup) {k : String} {v : α} (h : (k, v) ∈ m) :
    m.get? k = some v := by
  induction m with
  | nil => cases h
  | cons p m ih =>
    rw [keys_cons, List.nodup_cons] at hm
    rw [get?_cons]
    rcases List.mem_cons.mp h with rfl | h
    · rw [if_pos rfl]
    · have hne : p.1 ≠ k := fun hk => hm.1 (hk ▸ List.mem_map_of_mem (f := Prod.fst) h)
      rw [if_neg hne, ih hm.2 h]

/-- A merge keeps what it does not write. -/
theorem get?_merge_of_not_mem (m : Assoc α) {n : Assoc α} {k : String} (h : k ∉ n.keys) :
    (m.merge n).get? k = m.get? k := by
  induction n generalizing m with
  | nil => rfl
  | cons p n ih =>
    rw [keys_cons, List.mem_cons, not_or] at h
    rw [merge_cons, ih _ h.2, get?_put_of_ne m p.2 (Ne.symm h.1)]

theorem get?_ofPairs {m : Assoc α} (h : m.keys.Nodup) (k : String) : (ofPairs m).get? k = m.get? k := by
  induction m with
  | nil => rfl
  | cons p m ih =>
    rw [keys_cons, List.nodup_cons] at h
    rw [ofPairs_cons, get?_merge, ih h.2, get?_cons, get?_cons, get?_nil]
    by_cases hk : p.1 = k
    · subst hk
      rw [if_pos rfl, if_pos rfl, get?_of_not_mem h.1]
      rfl
    · rw [if_neg hk, if_neg hk, Option.or_none]

/-- What the merge of a map whose keys differ finds. -/
theorem get?_merge_of_nodup (m : Assoc α) {n : Assoc α} (h : n.keys.Nodup) (k : String) :
    (m.merge n).get? k = (n.get? k).or (m.get? k) := by
  rw [get?_merge, get?_ofPairs h]

end Assoc

end SqlWeave
