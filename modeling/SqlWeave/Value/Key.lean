import SqlWeave.Value

/-!
# Values as keys

A map may be keyed by any value that does not change: no collection that can grow, nothing that holds
one, and no object that is compared by its parts. Two keys are one when they are equal: numbers of
all kinds by their value, texts and words by their characters, tuples item by item. All other
objects are equal to themselves alone. Collections that can grow are equal item by item, too.

A `Keyed` map keeps the first spelling of a key and its first place. Main fact: what was written last
under a key is found under it.
-/

namespace SqlWeave

/-- A reference to an object that can be a key. -/
def Handle.isKey : Handle → Bool
  | .draft _ | .tableAlias .. | .entity _ | .column .. => false
  | _ => true

namespace Value

mutual
/-- Can a map be keyed by the value? -/
def isKey : Value → Bool
  | .list _ | .set _ | .record _ => false
  | .tuple xs => areKeys xs
  | .model _ fs => areKeyFields fs
  | .handle ref .. => ref.isKey
  | _ => true

def areKeys : List Value → Bool
  | [] => true
  | x :: xs => isKey x && areKeys xs

def areKeyFields : List (String × Value) → Bool
  | [] => true
  | (_, v) :: rest => isKey v && areKeyFields rest
end

/-- Are two numbers equal? -/
def sameNumber : Value → Value → Bool
  | .float x, .float y => x.sameValue y
  | .float x, v | v, .float x => match v.int? with
    | some n => Double.compareInt? n x = some .eq
    | none => false
  | v, w => v.int?.isSome && v.int? = w.int?

mutual
/-- Are two values equal? -/
def equals : Value → Value → Bool
  | .tuple xs, .tuple ys => equalItems xs ys
  | .list xs, .list ys => equalItems xs ys
  | .record xs, .record ys => xs.length = ys.length && areFields xs ys
  | .bytes a, .bytes b => a = b
  | v, w => (v.text?.isSome && v.text? = w.text?) || sameNumber v w || v.sameObject w

def equalItems : List Value → List Value → Bool
  | [], [] => true
  | x :: xs, y :: ys => equals x y && equalItems xs ys
  | _, _ => false

/-- Are fields also the fields of a record, in any order? -/
def areFields : List (String × Value) → List (String × Value) → Bool
  | [], _ => true
  | (k, x) :: xs, ys =>
    (match Assoc.get? ys k with
      | some y => equals x y
      | none => false) && areFields xs ys
end

/-- Is a value among some others? -/
def isAmong (v : Value) (vs : List Value) : Bool := vs.any fun w => w.equals v

end Value

/-- A map whose keys are values, in the order in which they were first written. -/
abbrev Keyed (α : Type) := List (Value × α)

namespace Keyed

variable {α : Type}

/-- The value written under `key`, if any. -/
def get? : Keyed α → Value → Option α
  | [], _ => none
  | (k, v) :: rest, key => if k.equals key then some v else get? rest key

/-- Writes `value` under `key`: in place when the key is present, at the end otherwise. -/
def put : Keyed α → Value → α → Keyed α
  | [], key, value => [(key, value)]
  | (k, v) :: rest, key, value =>
    if k.equals key then (k, value) :: rest else (k, v) :: put rest key value

theorem get?_put_self (m : Keyed α) (k : Value) (v : α) (h : k.equals k = true) :
    (m.put k v).get? k = some v := by
  induction m with
  | nil => simp [put, get?, h]
  | cons p rest ih =>
    obtain ⟨k', v'⟩ := p
    by_cases hk : k'.equals k <;> simp [put, get?, hk, ih]

/-- A map from one that is keyed by texts. -/
def ofRecord (r : Record) : Keyed Value := r.map fun p => (.text p.1, p.2)

end Keyed

end SqlWeave
