import Mathlib.Data.List.Forall2
import SqlWeave.Statement.Insert

/-!
# Values of one kind

Two values are of one kind when a statement's text cannot tell them apart: both are absent, both are
functions that supply the same SQL, both are sequences of one type and one length, or both are bound as
one value. The relation is lifted to maps with the same keys, and to what a caller gives for rows and for
ids.
-/

namespace SqlWeave

/-! ## Maps with the same keys -/

namespace Assoc

variable {α : Type} {R : α → α → Prop}

/-- Two maps have the same keys in the same order, and related values under them. -/
inductive Rel (R : α → α → Prop) : Assoc α → Assoc α → Prop where
  | nil : Rel R [] []
  | cons {k : String} {a b : α} {m n : Assoc α} : R a b → Rel R m n → Rel R ((k, a) :: m) ((k, b) :: n)

theorem Rel.refl (h : ∀ a, R a a) (m : Assoc α) : Rel R m m := by
  induction m with
  | nil => exact .nil
  | cons p m ih => exact .cons (h p.2) ih

theorem Rel.isEmpty {m n : Assoc α} (h : Rel R m n) : m.isEmpty = n.isEmpty := by
  cases h <;> rfl

theorem Rel.keys {m n : Assoc α} (h : Rel R m n) : m.keys = n.keys := by
  induction h with
  | nil => rfl
  | cons _ _ ih => rw [keys_cons, keys_cons, ih]

theorem Rel.get? {m n : Assoc α} (h : Rel R m n) (k : String) : Option.Rel R (m.get? k) (n.get? k) := by
  induction h with
  | nil => exact .none
  | cons hab _ ih =>
    rw [get?_cons, get?_cons]
    split
    · exact .some hab
    · exact ih

theorem Rel.has {m n : Assoc α} (h : Rel R m n) (k : String) : m.has k = n.has k := by
  have hk := h.get? k
  unfold Assoc.has
  generalize m.get? k = a at hk ⊢
  generalize n.get? k = b at hk ⊢
  cases hk <;> rfl

theorem Rel.put {m n : Assoc α} (h : Rel R m n) (k : String) {a b : α} (hab : R a b) :
    Rel R (m.put k a) (n.put k b) := by
  induction h with
  | nil => exact .cons hab .nil
  | cons hp hmn ih =>
    rw [Assoc.put, Assoc.put]
    split
    · exact .cons hab hmn
    · exact .cons hp ih

theorem Rel.merge {m n m' n' : Assoc α} (h : Rel R m n) (h' : Rel R m' n') :
    Rel R (m.merge m') (n.merge n') := by
  induction h' generalizing m n with
  | nil => exact h
  | cons hab _ ih =>
    rw [merge_cons, merge_cons]
    exact ih (h.put _ hab)

theorem Rel.append {m n m' n' : Assoc α} (h : Rel R m n) (h' : Rel R m' n') :
    Rel R (m ++ m') (n ++ n') := by
  induction h with
  | nil => exact h'
  | cons hab _ ih => exact .cons hab ih

end Assoc

namespace Value

/-! ## Kinds -/

/-- A value that is there, cannot be called and is no sequence: it is bound as one value. -/
def isSingle : Value → Bool
  | .null | .list _ | .tuple _ | .set _ => false
  | v => !v.isCallable

inductive SameKind : Value → Value → Prop where
  | null : SameKind .null .null
  | callable {v w : Value} : v.isCallable → w.isCallable → v.supplied = w.supplied → SameKind v w
  | list {xs ys : List Value} : xs.length = ys.length → SameKind (.list xs) (.list ys)
  | tuple {xs ys : List Value} : xs.length = ys.length → SameKind (.tuple xs) (.tuple ys)
  | set {xs ys : List Value} : xs.length = ys.length → SameKind (.set xs) (.set ys)
  | single {v w : Value} : v.isSingle → w.isSingle → SameKind v w

theorem SameKind.refl (v : Value) : SameKind v v := by
  cases v with
  | null => exact .null
  | list xs => exact .list rfl
  | tuple xs => exact .tuple rfl
  | set xs => exact .set rfl
  | fragment sql => exact .callable rfl rfl rfl
  | template sql bound => exact .callable rfl rfl rfl
  | receiver refusal => exact .callable rfl rfl rfl
  | type name id => exact .callable rfl rfl rfl
  | _ => exact .single rfl rfl

theorem isCallable_of_isSingle {v : Value} (h : v.isSingle) : v.isCallable = false := by
  cases v <;> first | rfl | cases h

theorem isNull_of_isSingle {v : Value} (h : v.isSingle) : v.isNull = false := by
  cases v <;> first | rfl | cases h

theorem isNull_of_isCallable {v : Value} (h : v.isCallable) : v.isNull = false := by
  cases v <;> first | rfl | cases h

theorem SameKind.isCallable {v w : Value} (h : SameKind v w) : v.isCallable = w.isCallable := by
  cases h with
  | callable hv hw _ => rw [hv, hw]
  | single hv hw => rw [isCallable_of_isSingle hv, isCallable_of_isSingle hw]
  | _ => rfl

theorem SameKind.isNull {v w : Value} (h : SameKind v w) : v.isNull = w.isNull := by
  cases h with
  | callable hv hw _ => rw [isNull_of_isCallable hv, isNull_of_isCallable hw]
  | single hv hw => rw [isNull_of_isSingle hv, isNull_of_isSingle hw]
  | _ => rfl

theorem SameKind.supplied {v w : Value} (h : SameKind v w) (hv : v.isCallable) :
    v.supplied = w.supplied := by
  cases h with
  | callable _ _ h => exact h
  | single hs _ =>
    rw [isCallable_of_isSingle hs] at hv
    cases hv
  | _ => cases hv

/-- Values of one kind that are not single have the same number of elements, if they have any. -/
theorem SameKind.length_elements {v w : Value} (h : SameKind v w) (hv : v.isSingle → v = w) :
    v.elements?.map List.length = w.elements?.map List.length := by
  -- A function has no elements, and of sequences only the length is told.
  have hcallable : ∀ u : Value, u.isCallable → u.elements? = none := by
    intro u hu
    cases u <;> first | rfl | cases hu
  cases h with
  | null => rfl
  | callable hv hw _ => rw [hcallable _ hv, hcallable _ hw]
  | list h => exact congrArg some h
  | tuple h => exact congrArg some h
  | set h => exact congrArg some h
  | single hs _ => rw [hv hs]

theorem sameKind_ofOption {a b : Option Value} (h : Option.Rel SameKind a b) :
    SameKind (ofOption a) (ofOption b) := by
  cases h with
  | none => exact .null
  | some h => exact h

/-! ## What a caller gives -/

/-- Two values are one, or they are records of values of the same kinds. -/
inductive SameFields : Value → Value → Prop where
  | same (v : Value) : SameFields v v
  | record {r r' : Record} : Assoc.Rel SameKind r r' → SameFields (.record r) (.record r')

/-- What is given for rows: one row, or a sequence of as many. -/
inductive SameRows : Value → Value → Prop where
  | one {v w : Value} : SameFields v w → SameRows v w
  | list {xs ys : List Value} : List.Forall₂ SameFields xs ys → SameRows (.list xs) (.list ys)
  | tuple {xs ys : List Value} : List.Forall₂ SameFields xs ys → SameRows (.tuple xs) (.tuple ys)
  | set {xs ys : List Value} : List.Forall₂ SameFields xs ys → SameRows (.set xs) (.set ys)

/-- Two ids: neither is a record, or both are with values of the same kinds. -/
inductive SameId : Value → Value → Prop where
  | scalar {v w : Value} : v.record? = none → w.record? = none → SameId v w
  | record {r r' : Record} : Assoc.Rel SameKind r r' → SameId (.record r) (.record r')

theorem SameRows.refl (v : Value) : SameRows v v := .one (.same v)

theorem SameId.refl (v : Value) : SameId v v := by
  cases h : v.record? with
  | none => exact .scalar h h
  | some r =>
    cases v <;> cases h
    exact .record (.refl SameKind.refl r)

theorem SameFields.truth {v w : Value} (h : SameFields v w) : v.truth = w.truth := by
  cases h with
  | same => rfl
  | record h => exact congrArg Bool.not h.isEmpty

theorem SameRows.isNull {v w : Value} (h : SameRows v w) : v.isNull = w.isNull := by
  cases h with
  | one h => cases h <;> rfl
  | _ => rfl

end Value

end SqlWeave
