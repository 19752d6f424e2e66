import SqlWeave.Proofs.Statement.Write

/-!
# Names of callers and generated names

Callers may choose any name, also one that is generated for another value before or after, or when the
statement is lowered. All writes go to one map, and nobody looks at what a name already stands for. Main
result: which writes a statement is sent with. What a caller wrote last to a name is lost exactly when the name
is generated for another value afterwards, and a generated name loses its value exactly when the caller writes
another one to it afterwards.
-/

namespace SqlWeave

/-! ## Last writes -/

namespace Assoc

variable {α : Type}

theorem ofPairs_append (m n : Assoc α) : ofPairs (m ++ n) = (ofPairs m).merge n := List.foldl_append ..

theorem nodup_keys_ofPairs (m : Assoc α) : (ofPairs m).keys.Nodup :=
  have hnil : (keys ([] : Assoc α)).Nodup := List.nodup_nil
  nodup_keys_merge hnil m

/-- What comes after a pair decides whether its value stays. -/
theorem get?_ofPairs_append_cons (before after : Assoc α) (k : String) (v : α) :
    (ofPairs (before ++ (k, v) :: after)).get? k = some (((ofPairs after).get? k).getD v) := by
  rw [ofPairs_append, merge_cons, get?_merge, get?_put_self]
  cases (ofPairs after).get? k <;> rfl

/-- A write leaves what other keys come to, also in a list that repeats keys. -/
theorem get?_ofPairs_put_of_ne (m : Assoc α) {k k' : String} (v : α) (h : k' ≠ k) :
    (ofPairs (m.put k' v)).get? k = (ofPairs m).get? k := by
  induction m with
  | nil => rw [put, ofPairs_cons, get?_merge, get?_cons, if_neg h, get?_nil, Option.or_none]
  | cons p m ih =>
    obtain ⟨k₀, v₀⟩ := p
    unfold put
    split
    · next hk =>
      cases hk
      rw [ofPairs_cons, ofPairs_cons, get?_merge, get?_merge, get?_cons, get?_cons, if_neg h, if_neg h]
    · rw [ofPairs_cons, ofPairs_cons, get?_merge, get?_merge, ih]

theorem get?_ofPairs_merge_of_not_mem (m : Assoc α) {n : Assoc α} {k : String} (h : k ∉ n.keys) :
    (ofPairs (m.merge n)).get? k = (ofPairs m).get? k := by
  induction n generalizing m with
  | nil => rfl
  | cons p n ih =>
    obtain ⟨hp, hn⟩ := not_or.mp (List.mem_cons.not.mp h)
    rw [merge_cons, ih _ hn, get?_ofPairs_put_of_ne m p.2 (Ne.symm hp)]

/-- A value that is found stands in the list, and after it no other value of its key. -/
theorem mem_of_get?_ofPairs {m : Assoc α} {k : String} {v : α} (h : (ofPairs m).get? k = some v) : (k, v) ∈ m := by
  induction m with
  | nil => cases h
  | cons p m ih =>
    rw [ofPairs_cons, get?_merge, get?_cons, get?_nil] at h
    rcases Option.or_eq_some_iff.mp h with h | ⟨-, h⟩
    · exact List.mem_cons_of_mem p (ih h)
    · split at h
      · next hk =>
        cases h
        cases hk
        exact List.mem_cons_self
      · cases h

theorem get?_ofPairs_ne_none {m : Assoc α} {k : String} {v : α} (h : (k, v) ∈ m) : (ofPairs m).get? k ≠ none := by
  obtain ⟨before, after, rfl⟩ := List.append_of_mem h
  rw [get?_ofPairs_append_cons]
  exact nofun

end Assoc

namespace Write

/-- A name that some family of generated names has. -/
def IsGenerated (name : String) : Prop :=
  (∃ n, name = Build.generatedName n) ∨ (∃ i j, name = Insert.cellName i j) ∨ ∃ i, name = Update.parameterName i

/-- How a map settles writes of callers and of builders: a value that the caller wrote last to a name stays
exactly when no other value is bound to it by the builder afterwards, and a value that the builder bound exactly
when the caller leaves the name alone afterwards, or writes this value last. Builders bind to generated names
only. -/
structure Settles (m : Bindings) (writes : List Write) : Prop where
  caller : ∀ before after name v, writes = before ++ ⟨.caller, name, v⟩ :: after →
    (∀ u, ⟨.caller, name, u⟩ ∉ after) → (m.get? name = some v ↔ ∀ u, ⟨.builder, name, u⟩ ∈ after → u = v)
  builder : ∀ before after name v, writes = before ++ ⟨.builder, name, v⟩ :: after →
    (m.get? name = some v ↔ ∀ u ∈ (bindings (after.filter (·.chooser = .caller))).get? name, u = v)
  generated : ∀ w ∈ writes, w.chooser = .builder → IsGenerated w.name

variable {writes : List Write} {m : Bindings}

theorem get?_bindings_append_cons (before after : List Write) (w : Write) :
    (bindings (before ++ w :: after)).get? w.name = some (((bindings after).get? w.name).getD w.value) := by
  rw [bindings, List.map_append, List.map_cons]
  exact Assoc.get?_ofPairs_append_cons _ _ _ _

theorem mem_of_get?_bindings {name : String} {v : Value} (h : (bindings writes).get? name = some v) :
    ∃ chooser, ⟨chooser, name, v⟩ ∈ writes := by
  obtain ⟨w, hw, hpair⟩ := List.mem_map.mp (Assoc.mem_of_get?_ofPairs h)
  cases hpair
  exact ⟨w.chooser, hw⟩

theorem get?_bindings_ne_none {w : Write} (h : w ∈ writes) : (bindings writes).get? w.name ≠ none :=
  Assoc.get?_ofPairs_ne_none (v := w.value) (List.mem_map.mpr ⟨w, h, rfl⟩)

/-- Writes to other names may be left out. -/
theorem get?_bindings_filter {name : String} {q : Write → Bool} (h : ∀ w ∈ writes, w.name = name → q w) :
    (bindings (writes.filter q)).get? name = (bindings writes).get? name := by
  have hcons (w : Write) (rest : List Write) : (bindings (w :: rest)).get? name =
      ((bindings rest).get? name).or (if w.name = name then some w.value else none) := by
    rw [bindings, List.map_cons, Assoc.ofPairs_cons, Assoc.get?_merge, Assoc.get?_cons, Assoc.get?_nil]
    rfl
  induction writes with
  | nil => rfl
  | cons w rest ih =>
    obtain ⟨hw, hrest⟩ := List.forall_mem_cons.mp h
    rw [hcons, ← ih hrest, List.filter_cons]
    split
    · rw [hcons]
    · next hq => rw [if_neg fun hname => hq (hw hname), Option.or_none]

/-- The last of all writes to a name counts. -/
theorem get?_eq_some_iff (hm : ∀ w ∈ writes, m.get? w.name = (bindings writes).get? w.name)
    {before after : List Write} {w : Write} (h : writes = before ++ w :: after) :
    m.get? w.name = some w.value ↔ ∀ u ∈ (bindings after).get? w.name, u = w.value := by
  have hmem : w ∈ writes := by
    rw [h]
    exact List.mem_append_right _ List.mem_cons_self
  rw [hm w hmem, h, get?_bindings_append_cons]
  cases (bindings after).get? w.name <;> simp

/-- Builders that bind no name twice leave it to the last writes. -/
theorem settles_of_nodup (hm : ∀ w ∈ writes, m.get? w.name = (bindings writes).get? w.name)
    (hnodup : ((writes.filter (·.chooser = .builder)).map (·.name)).Nodup)
    (hgenerated : ∀ w ∈ writes, w.chooser = .builder → IsGenerated w.name) : Settles m writes where
  generated := hgenerated
  caller before after name v hwrites hlast := by
    rw [get?_eq_some_iff (w := ⟨.caller, name, v⟩) hm hwrites]
    have hbuilder {u : Value} (hu : (bindings after).get? name = some u) : ⟨.builder, name, u⟩ ∈ after := by
      obtain ⟨chooser, hmem⟩ := mem_of_get?_bindings hu
      cases chooser with
      | caller => exact absurd hmem (hlast u)
      | builder => exact hmem
    have hafter {u : Value} (hu : ⟨.builder, name, u⟩ ∈ after) :
        (⟨.builder, name, u⟩ : Write) ∈ writes.filter (·.chooser = .builder) := by
      rw [hwrites]
      exact List.mem_filter.mpr ⟨List.mem_append_right _ (List.mem_cons_of_mem _ hu), by simp⟩
    constructor
    · intro h u hu
      obtain ⟨u', hu'⟩ := Option.ne_none_iff_exists'.mp (get?_bindings_ne_none hu)
      have heq := List.inj_on_of_nodup_map hnodup (hafter hu) (hafter (hbuilder hu')) rfl
      cases heq
      exact h u hu'
    · exact fun h u hu => h u (hbuilder hu)
  builder before after name v hwrites := by
    rw [get?_eq_some_iff (w := ⟨.builder, name, v⟩) hm hwrites]
    -- The builder has bound the name already, so all writes to it afterwards are the caller's.
    have hcaller : ∀ w ∈ after, w.name = name → decide (w.chooser = .caller) := by
      intro w hw hname
      rw [hwrites, List.filter_append, List.filter_cons_of_pos (by simp), List.map_append, List.map_cons] at hnodup
      have hnew := (List.nodup_cons.mp (List.nodup_append.mp hnodup).2.1).1
      cases hchooser : w.chooser with
      | caller => rfl
      | builder => exact absurd (List.mem_map.mpr ⟨w, List.mem_filter.mpr ⟨hw, by simp [hchooser]⟩, hname⟩) hnew
    rw [get?_bindings_filter hcaller]

end Write

/-! ## Statements -/

/-- The writes of the values that are derived when a statement is lowered. -/
def Write.ofDerived (derived : Bindings) : List Write := derived.map fun p => ⟨.builder, p.1, p.2⟩

theorem Write.mem_ofDerived {derived : Bindings} {w : Write} :
    w ∈ ofDerived derived ↔ w.chooser = .builder ∧ (w.name, w.value) ∈ derived := by
  obtain ⟨chooser, name, v⟩ := w
  simp [ofDerived, @eq_comm _ chooser, and_comm]

/-- A derived value has a name of its family. -/
theorem Builder.Derives.name {σ : Type} {cat : Catalog} {b : Builder σ} {name : String} {v : Value}
    (h : b.Derives cat name v) :
    (∃ i j, name = Insert.cellName i j) ∨ ∃ i, name = Update.parameterName i := by
  cases h with
  | cell => exact .inl ⟨_, _, rfl⟩
  | assignment => exact .inr ⟨_, rfl⟩

namespace Statement

open Builder (reached)

variable {cat : Catalog} {m : Bindings}

/-- What a lowered statement binds to the names that were written: what all writes come to, and last of all those
of the values that are derived. -/
theorem get?_of_writes {b : Builder Statement} {writes : List Write} {derived : Bindings}
    (hwrites : b.draft.parameters = Write.bindings writes)
    (hderived : b.draft.statementParameters cat b.kind = .ok derived) (hm : parameters cat (.of b) = .ok m) :
    ∀ w ∈ writes ++ Write.ofDerived derived, m.get? w.name =
      (Write.bindings (writes ++ Write.ofDerived derived)).get? w.name := by
  obtain ⟨inherited, own, -, hown, rfl⟩ := parameters_of_eq_ok.mp hm
  obtain rfl : derived = own := Except.ok.inj (hderived.symm.trans hown)
  intro w hw
  have hsplit : Write.bindings (writes ++ Write.ofDerived derived) = (Write.bindings writes).merge derived := by
    rw [Write.bindings, List.map_append, Assoc.ofPairs_append, Write.ofDerived, List.map_map]
    exact congrArg _ (List.map_id' derived)
  have hnodup : (Write.bindings writes).keys.Nodup := Assoc.nodup_keys_ofPairs _
  have hfound := Write.get?_bindings_ne_none hw
  rw [hsplit] at hfound ⊢
  rw [Assoc.get?_merge] at hfound
  rw [Assoc.get?_merge, Assoc.get?_merge (Write.bindings writes), hwrites, Assoc.get?_merge_of_nodup _ hnodup]
  cases hd : (Assoc.ofPairs derived).get? w.name with
  | some u => rfl
  | none =>
    rw [hd, Option.none_or] at hfound
    obtain ⟨u, hu⟩ := Option.ne_none_iff_exists'.mp hfound
    rw [hu]
    rfl

/-- Calls on a new statement, whether they succeed or fail, and the names that the statement is sent with. They are
written by the calls, in order, and at last by the cells or the assignments that the statement is lowered from;
which writes count is settled as `Write.Settles` says. A reference in the text gets what its name is bound to. -/
theorem settles_writes (calls : List (Call Statement)) (hm : parameters cat (.of (reached cat {} calls)) = .ok m) :
    ∃ log derived, Builder.Logs cat {} calls log ∧
      (reached cat {} calls).draft.parameters = Write.bindings (Bind.writes 0 log) ∧
      (∀ name v, (name, v) ∈ derived ↔ (reached cat {} calls).Derives cat name v) ∧
      Write.Settles m (Bind.writes 0 log ++ Write.ofDerived derived) ∧
      ∀ sql text values, query cat (.of (reached cat {} calls)) = .ok sql →
        bound cat (.of (reached cat {} calls)) = .ok (text, values) →
        values = (Reference.all sql).flatMap m.valuesOf := by
  obtain ⟨log, hlog, hbooked⟩ : ∃ log, Builder.Logs cat {} calls log ∧
      Draft.Booked log ({} : Builder Statement).draft (reached cat {} calls).draft :=
    Builder.logged_reached {} calls
  have hwrites : (reached cat {} calls).draft.parameters = Write.bindings (Bind.writes 0 log) := hbooked.parameters
  obtain ⟨-, derived, -, hderived, -⟩ := parameters_of_eq_ok.mp hm
  obtain ⟨hnodup, hderives⟩ := Builder.derives_of_statementParameters hderived
  refine ⟨log, derived, hlog, hwrites, hderives, ?_, fun sql text values hsql hbound => ?_⟩
  · obtain ⟨hgenerated, hnames⟩ := Bind.nodup_generated 0 log
    have hfamily {w : Write} (hw : w ∈ Write.ofDerived derived) :=
      ((hderives w.name w.value).mp (Write.mem_ofDerived.mp hw).2).name
    refine Write.settles_of_nodup (get?_of_writes hwrites hderived hm) ?_ ?_
    · have hall : (Write.ofDerived derived).filter (·.chooser = .builder) = Write.ofDerived derived :=
        List.filter_eq_self.mpr fun w hw => decide_eq_true (Write.mem_ofDerived.mp hw).1
      have hkeys : (Write.ofDerived derived).map (·.name) = derived.keys := List.map_map ..
      rw [List.filter_append, hall, List.map_append, hkeys]
      refine List.nodup_append.mpr ⟨hgenerated, hnodup, ?_⟩
      rintro name hname _ hderived rfl
      obtain ⟨w, hw, rfl⟩ := List.mem_map.mp hname
      obtain ⟨hw, hbuilder⟩ := List.mem_filter.mp hw
      obtain ⟨k, -, hk⟩ := hnames w hw (of_decide_eq_true hbuilder)
      rw [← hkeys] at hderived
      obtain ⟨w', hw', hname'⟩ := List.mem_map.mp hderived
      rcases hfamily hw' with ⟨i, j, hcell⟩ | ⟨i, hassignment⟩
      · exact generatedName_ne_cellName k i j (hk.symm.trans (hname'.symm.trans hcell))
      · exact generatedName_ne_parameterName k i (hk.symm.trans (hname'.symm.trans hassignment))
    · intro w hw hbuilder
      rcases List.mem_append.mp hw with hw | hw
      · obtain ⟨k, -, hk⟩ := hnames w hw hbuilder
        exact .inl ⟨k, hk⟩
      · exact .inr (hfamily hw)
  · rw [bound, hsql, hm] at hbound
    exact Dialect.values_of_bindReferences hbound

end Statement

/-! ## A name that is taken -/

def Catalog.postgres : Catalog := { dialect := .postgres }

/-- Rows by a name, which the caller binds to the first generated name, and by an age. -/
def Call.takenCalls : List (Call Statement) :=
  [.where .simple (.simple (.text "name = :orm_param_0")) (.record [("orm_param_0", .text "Ada")]),
    .where .and (.simple (.record [("age", .int 5)])) .null]

set_option maxRecDepth 4000 in
/-- Both references are sent with the age. -/
theorem Statement.settles_taken_name :
    parameters .postgres (.of (Builder.reached .postgres {} Call.takenCalls)) = .ok [("orm_param_0", .int 5)] ∧
    bound .postgres (.of (Builder.reached .postgres {} Call.takenCalls)) =
      .ok ("SELECT * WHERE name = %s AND \"age\" = %s", [.int 5, .int 5]) ∧
    ∃ log derived, Builder.Logs .postgres {} Call.takenCalls log ∧
      (Builder.reached .postgres {} Call.takenCalls).draft.parameters = Write.bindings (Bind.writes 0 log) ∧
      (∀ name v, (name, v) ∈ derived ↔ (Builder.reached .postgres {} Call.takenCalls).Derives .postgres name v) ∧
      Write.Settles [("orm_param_0", .int 5)] (Bind.writes 0 log ++ Write.ofDerived derived) := by
  have hm : parameters .postgres (.of (Builder.reached .postgres {} Call.takenCalls)) =
      .ok [("orm_param_0", .int 5)] := rfl
  obtain ⟨log, derived, hlog, hwrites, hderives, hsettles, -⟩ := settles_writes Call.takenCalls hm
  exact ⟨hm, rfl, log, derived, hlog, hwrites, hderives, hsettles⟩

end SqlWeave
