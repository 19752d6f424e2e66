import Mathlib.Data.List.DropRight
import SqlWeave.Statement.Lowering

/-!
# Texts with and without a qualifier

A text is qualified in some places when a qualifier stands in front of characters of it that are no blanks.
Texts that are put together and trimmed stay so, with the places counted together, and so do the conditions
and the levels that are made of them. The number of places is all that tells the texts apart.
-/

namespace SqlWeave

namespace Text

/-! ## Characters -/

/-- The characters `cs` are `ds` with `q` in front of `n` of them, none of which is a blank. -/
inductive QualifiedChars (q : List Char) : Nat → List Char → List Char → Prop where
  | nil : QualifiedChars q 0 [] []
  | keep {n : Nat} {cs ds : List Char} (c : Char) :
    QualifiedChars q n cs ds → QualifiedChars q n (c :: cs) (c :: ds)
  | put {n : Nat} {cs ds : List Char} {c : Char} :
    isBlank c = false → QualifiedChars q n cs ds → QualifiedChars q (n + 1) (q ++ c :: cs) (c :: ds)

namespace QualifiedChars

variable {q cs ds cs' ds' : List Char} {m n : Nat}

theorem refl (q : List Char) : ∀ cs : List Char, QualifiedChars q 0 cs cs
  | [] => .nil
  | c :: cs => .keep c (refl q cs)

theorem append (h : QualifiedChars q m cs ds) (h' : QualifiedChars q n cs' ds') :
    QualifiedChars q (m + n) (cs ++ cs') (ds ++ ds') := by
  induction h with
  | nil =>
    rw [Nat.zero_add]
    exact h'
  | keep c _ ih => exact .keep c ih
  | put hc _ ih =>
    rw [Nat.add_right_comm, List.append_assoc]
    exact .put hc ih

theorem length_eq (h : QualifiedChars q n cs ds) : cs.length = ds.length + n * q.length := by
  induction h with
  | nil => simp
  | keep c _ ih =>
    rw [List.length_cons, List.length_cons, ih]
    omega
  | put hc _ ih =>
    rw [List.length_append, List.length_cons, List.length_cons, ih, Nat.succ_mul]
    omega

theorem eq_of_zero (h : QualifiedChars q n cs ds) (hn : n = 0) : cs = ds := by
  induction h with
  | nil => rfl
  | keep c _ ih => rw [ih hn]
  | put => cases hn

/-- Where one of the texts is empty, so is the other, and no place is qualified. -/
theorem nil_iff (h : QualifiedChars q n cs ds) : (cs = [] ↔ ds = []) ∧ (ds = [] → n = 0) := by
  cases h <;> simp

/-! ### Trimming

A qualifier begins with a character that is no blank, and it stands in front of one: blanks at an end hold no
place that is qualified. -/

theorem dropWhile {c₀ : Char} {q₀ : List Char} (hq : isBlank c₀ = false)
    (h : QualifiedChars (c₀ :: q₀) n cs ds) :
    QualifiedChars (c₀ :: q₀) n (cs.dropWhile isBlank) (ds.dropWhile isBlank) := by
  induction h with
  | nil => exact .nil
  | keep c h ih =>
    rw [List.dropWhile_cons, List.dropWhile_cons]
    split
    · exact ih
    · exact .keep c h
  | put hc h _ =>
    rw [List.cons_append, List.dropWhile_cons_of_neg (by simp [hq]), List.dropWhile_cons_of_neg (by simp [hc])]
    exact .put hc h

/-- Blanks that are dropped at the end: the first character goes with the rest. -/
theorem rdropWhile_cons {α : Type} (p : α → Bool) (a : α) (as : List α) :
    (a :: as).rdropWhile p = if as.rdropWhile p = [] ∧ p a then [] else a :: as.rdropWhile p := by
  rw [List.rdropWhile, List.rdropWhile, List.reverse_cons, List.dropWhile_append]
  cases hrest : as.reverse.dropWhile p with
  | nil => cases hp : p a <;> simp [hp]
  | cons b bs => simp

theorem rdropWhile_append {α : Type} {p : α → Bool} {as : List α} (h : as.rdropWhile p ≠ []) :
    ∀ front : List α, (front ++ as).rdropWhile p = front ++ as.rdropWhile p
  | [] => rfl
  | a :: front => by
    have hne : (front ++ as).rdropWhile p ≠ [] := by
      rw [rdropWhile_append h front]
      simp [h]
    rw [List.cons_append, rdropWhile_cons, if_neg (by simp [hne]), rdropWhile_append h front, List.cons_append]

theorem rdropWhile (h : QualifiedChars q n cs ds) :
    QualifiedChars q n (cs.rdropWhile isBlank) (ds.rdropWhile isBlank) := by
  induction h with
  | nil => exact .nil
  | keep c _ ih =>
    simp only [rdropWhile_cons, ih.nil_iff.1]
    split
    · next hempty =>
      rw [ih.nil_iff.2 hempty.1]
      exact .nil
    · exact .keep c ih
  | @put _ _ _ c hc _ ih =>
    have hlast (cs : List Char) : (c :: cs).rdropWhile isBlank = c :: cs.rdropWhile isBlank :=
      (rdropWhile_cons isBlank c cs).trans (if_neg (by simp [hc]))
    rw [rdropWhile_append (by simp [hlast]), hlast, hlast]
    exact .put hc ih

end QualifiedChars

/-! ## Texts -/

/-- A qualifier begins with a character that is no blank. -/
def IsQualifier (q : String) : Prop := ∃ c rest, q.toList = c :: rest ∧ isBlank c = false

/-- The text `s` is `t` with `q` in front of `n` of its characters, none of which is a blank. -/
def Qualified (q : String) (n : Nat) (s t : String) : Prop := QualifiedChars q.toList n s.toList t.toList

namespace Qualified

variable {q s t s' t' : String} {m n : Nat}

theorem refl (q s : String) : Qualified q 0 s s := QualifiedChars.refl _ _

theorem append (h : Qualified q m s t) (h' : Qualified q n s' t') : Qualified q (m + n) (s ++ s') (t ++ t') := by
  rw [Qualified, String.toList_append, String.toList_append]
  exact QualifiedChars.append h h'

theorem followed (h : Qualified q n s t) (after : String) : Qualified q n (s ++ after) (t ++ after) :=
  h.append (refl q after)

theorem preceded (h : Qualified q n s t) (before : String) : Qualified q n (before ++ s) (before ++ t) := by
  have happend := (refl q before).append h
  rwa [Nat.zero_add] at happend

/-- A text with the qualifier in front. -/
theorem once (q : String) {c : Char} {rest : List Char} (ht : t.toList = c :: rest) (hc : isBlank c = false) :
    Qualified q 1 (q ++ t) t := by
  rw [Qualified, String.toList_append, ht]
  exact .put hc (.refl _ rest)

theorem empty_iff (h : Qualified q n s t) : (s = "" ↔ t = "") ∧ (t = "" → n = 0) := by
  have hnil := h.nil_iff
  rwa [String.toList_eq_nil_iff, String.toList_eq_nil_iff] at hnil

theorem trim (hq : IsQualifier q) (h : Qualified q n s t) : Qualified q n (trim s) (trim t) := by
  obtain ⟨c₀, q₀, hqualifier, hc₀⟩ := hq
  rw [Qualified, hqualifier] at h
  rw [Qualified, Text.trim, Text.trim, String.toList_ofList, String.toList_ofList, hqualifier]
  exact (h.dropWhile hc₀).rdropWhile

/-- The number of places tells the texts apart. -/
theorem eq_iff (hq : IsQualifier q) (h : Qualified q n s t) : s = t ↔ n = 0 := by
  refine ⟨?_, fun hn => String.toList_inj.mp (h.eq_of_zero hn)⟩
  rintro rfl
  obtain ⟨c₀, q₀, hqualifier, -⟩ := hq
  have hlength := h.length_eq
  rw [hqualifier, List.length_cons, Nat.mul_succ] at hlength
  omega

end Qualified

/-- Lists of texts of which each is qualified, in `n` places together. -/
inductive QualifiedAll (q : String) : Nat → List String → List String → Prop where
  | nil : QualifiedAll q 0 [] []
  | cons {m n : Nat} {s t : String} {ss ts : List String} :
    Qualified q m s t → QualifiedAll q n ss ts → QualifiedAll q (m + n) (s :: ss) (t :: ts)

namespace QualifiedAll

variable {q : String} {n : Nat} {ss ts : List String}

theorem map {f : String → String} (hf : ∀ m s t, Qualified q m s t → Qualified q m (f s) (f t))
    (h : QualifiedAll q n ss ts) : QualifiedAll q n (ss.map f) (ts.map f) := by
  induction h with
  | nil => exact .nil
  | cons hhead _ ih => exact .cons (hf _ _ _ hhead) ih

theorem intercalate (sep : String) (h : QualifiedAll q n ss ts) :
    Qualified q n (String.intercalate sep ss) (String.intercalate sep ts) := by
  induction h with
  | nil => exact .refl q _
  | cons hhead hrest ih =>
    cases hrest with
    | nil =>
      rw [String.intercalate_singleton, String.intercalate_singleton]
      exact hhead
    | cons =>
      rw [String.intercalate_cons_cons, String.intercalate_cons_cons]
      exact (hhead.append (.refl q sep)).append ih

end QualifiedAll

end Text

open Text (Qualified QualifiedAll IsQualifier)

/-! ## Conditions -/

namespace Condition

mutual
/-- Conditions of the same shape, whose texts are qualified in `n` places together. -/
inductive Qualifies (q : String) : Nat → Condition → Condition → Prop where
  | text {n : Nat} {s t : String} : Qualified q n s t → Qualifies q n (.text s) (.text t)
  | group {n : Nat} {negated : Bool} {cs ds : List Clause} :
    LevelQualifies q n cs ds → Qualifies q n (.group negated cs) (.group negated ds)

/-- Levels of the same shape, with the same connectors. -/
inductive LevelQualifies (q : String) : Nat → List Clause → List Clause → Prop where
  | nil : LevelQualifies q 0 [] []
  | cons {m n : Nat} {link : Connector} {c d : Condition} {cs ds : List Clause} :
    Qualifies q m c d → LevelQualifies q n cs ds → LevelQualifies q (m + n) ((link, c) :: cs) ((link, d) :: ds)
end

variable {q : String} {m n : Nat} {c d : Condition} {cs ds : List Clause}

mutual
theorem Qualifies.refl (q : String) : ∀ c : Condition, Qualifies q 0 c c
  | .text s => .text (.refl q s)
  | .group _ clauses => .group (LevelQualifies.refl q clauses)

theorem LevelQualifies.refl (q : String) : ∀ cs : List Clause, LevelQualifies q 0 cs cs
  | [] => .nil
  | (_, c) :: rest => .cons (Qualifies.refl q c) (LevelQualifies.refl q rest)
end

theorem LevelQualifies.isEmpty_eq (h : LevelQualifies q n cs ds) :
    cs.isEmpty = ds.isEmpty ∧ (ds.isEmpty → n = 0) := by
  cases h <;> simp

/-- Both conditions add something to a level, or neither does. -/
theorem Qualifies.isEmpty_eq (h : Qualifies q n c d) : c.isEmpty = d.isEmpty ∧ (d.isEmpty → n = 0) := by
  cases h with
  | text h =>
    rw [isEmpty, isEmpty, decide_eq_true_iff, decide_eq_decide]
    exact h.empty_iff
  | group h => exact h.isEmpty_eq

theorem LevelQualifies.concat (link : Connector) (h : LevelQualifies q n cs ds) (hc : Qualifies q m c d) :
    LevelQualifies q (n + m) (cs ++ [(link, c)]) (ds ++ [(link, d)]) := by
  induction cs generalizing n ds with
  | nil =>
    cases h
    rw [Nat.zero_add]
    exact .cons hc .nil
  | cons clause cs ih =>
    cases h with
    | cons hhead hrest =>
      rw [Nat.add_assoc]
      exact .cons hhead (ih hrest)

mutual
/-- Conditions are written with their texts in the same places. -/
theorem Qualifies.render (hq : IsQualifier q) : ∀ {n : Nat} {c d : Condition}, Qualifies q n c d →
    Qualified q n c.render d.render
  | _, _, _, .text h => by
    rw [Condition.render, Condition.render]
    exact h
  | _, _, _, .group h => by
    rw [Condition.render, Condition.render]
    exact ((((h.renderClauses hq true).intercalate " ").trim hq).preceded _).followed _

theorem LevelQualifies.renderClauses (hq : IsQualifier q) (first : Bool) :
    ∀ {n : Nat} {cs ds : List Clause}, LevelQualifies q n cs ds →
      QualifiedAll q n (Condition.renderClauses first cs) (Condition.renderClauses first ds)
  | _, _, _, .nil => .nil
  | _, _, _, .cons h hrest => by
    rw [Condition.renderClauses, Condition.renderClauses]
    exact .cons ((h.render hq).preceded _) (hrest.renderClauses hq false)
end

end Condition

open Condition (Qualifies LevelQualifies)

variable {q : String} {m n : Nat} {c d : Condition} {cs ds : List Clause}

/-- The places of a level after a call that states a condition: a bare connector drops those before it. -/
def Connector.places (link : Connector) (level stated : Nat) : Nat :=
  (if link = .simple then 0 else level) + stated

theorem Condition.LevelQualifies.extendLevel (link : Connector) (h : LevelQualifies q n cs ds)
    (hc : Qualifies q m c d) :
    LevelQualifies q (link.places n m) (Build.extendLevel cs link c) (Build.extendLevel ds link d) := by
  have hbase : LevelQualifies q (if link = .simple then 0 else n) (if link = .simple then [] else cs)
      (if link = .simple then [] else ds) := by
    split
    · exact .nil
    · exact h
  obtain ⟨hempty, hnone⟩ := hc.isEmpty_eq
  unfold Build.extendLevel Connector.places
  dsimp only
  rw [hempty]
  cases hd : d.isEmpty with
  | true =>
    rw [hnone hd, Nat.add_zero]
    exact hbase
  | false => exact hbase.concat link hc

/-- The WHERE clause of a statement without a guard. -/
theorem Draft.qualified_whereText (hq : IsQualifier q) {d d' : Draft} (h : LevelQualifies q n d.wheres d'.wheres) :
    Qualified q n (d.whereText none) (d'.whereText none) := by
  have hlevel : Qualified q n (Condition.renderLevel d.wheres) (Condition.renderLevel d'.wheres) :=
    ((h.renderClauses hq true).intercalate " ").trim hq
  unfold Draft.whereText
  simp only [hlevel.empty_iff.1]
  split
  · next hempty =>
    rw [hlevel.empty_iff.2 hempty]
    exact .refl q ""
  · exact hlevel.preceded " WHERE "

end SqlWeave
