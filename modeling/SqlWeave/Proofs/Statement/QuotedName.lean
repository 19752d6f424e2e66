import SqlWeave.Proofs.Condition.Comparison

/-!
# Quoted names read back

A name may hold quotes, dots, commas and parentheses, and is still told apart from what stands around it. The readers
here know the quote character and nothing else of the text: a quoted name ends at a quote that is not doubled, the
segments of a path stand between dots, and the names of a column list in parentheses. Each of them reads what was
written and leaves what follows, whatever that is, as long as it does not go on with a quote. What can be read back is
not written alike for two names.
-/

namespace SqlWeave.Quoted

open Dialect (doubled segments)

/-! ## Readers -/

/-- A reader of one piece: it gives the piece at the front of a text and what is left, which is not longer. -/
structure Reader where
  read : List Char → Option (List Char × List Char)
  length_le : ∀ {text piece rest}, read text = some (piece, rest) → rest.length ≤ text.length

/-- What is left of a text behind a mark that it begins with. -/
def behind? : List Char → List Char → Option (List Char)
  | [], rest => some rest
  | _ :: _, [] => none
  | m :: mark, c :: rest => if c = m then behind? mark rest else none

theorem behind?_append (mark rest : List Char) : behind? mark (mark ++ rest) = some rest := by
  induction mark with
  | nil => rfl
  | cons m mark ih =>
    show (if m = m then behind? mark (mark ++ rest) else none) = _
    rw [if_pos rfl, ih]

theorem eq_append_of_behind? {mark text rest : List Char} (h : behind? mark text = some rest) :
    text = mark ++ rest := by
  induction mark generalizing text with
  | nil => exact Option.some.inj h
  | cons m mark ih =>
    cases text with
    | nil => cases h
    | cons c text =>
      rw [behind?] at h
      split at h
      · next hc => rw [hc, ih h, List.cons_append]
      · cases h

theorem behind?_cons_of_head {m : Char} {rest : List Char} (h : rest.head? ≠ some m) (mark : List Char) :
    behind? (m :: mark) rest = none := by
  cases rest with
  | nil => rfl
  | cons c rest => exact if_neg fun hc => h (congrArg some hc)

/-- The pieces between the marks, as far as they go. -/
def Reader.separated (r : Reader) (m : Char) (mark text : List Char) : Option (List (List Char) × List Char) :=
  match _hread : r.read text with
  | none => none
  | some (piece, rest) =>
    match _hmark : behind? (m :: mark) rest with
    | none => some ([piece], rest)
    | some more => (r.separated m mark more).map (Prod.map (piece :: ·) id)
termination_by text.length
decreasing_by
  have hle := r.length_le _hread
  rw [eq_append_of_behind? _hmark] at hle
  simp at hle
  omega

section
variable {r : Reader} {m : Char} {mark text piece rest : List Char}

theorem Reader.separated_last (hread : r.read text = some (piece, rest)) (hmark : behind? (m :: mark) rest = none) :
    r.separated m mark text = some ([piece], rest) := by
  rw [separated]
  split
  · next h => cases hread.symm.trans h
  · next h =>
    cases hread.symm.trans h
    rw [hmark]

theorem Reader.separated_more (hread : r.read text = some (piece, m :: mark ++ rest)) :
    r.separated m mark text = (r.separated m mark rest).map (Prod.map (piece :: ·) id) := by
  rw [separated]
  split
  · next h => cases hread.symm.trans h
  · next h =>
    cases hread.symm.trans h
    rw [behind?_append]

/-- Pieces that a reader reads wherever no `q` follows are read one by one between marks. -/
theorem Reader.separated_intercalate {write : List Char → List Char} {q : Char}
    (hread : ∀ piece rest, rest.head? ≠ some q → r.read (write piece ++ rest) = some (piece, rest)) (hm : m ≠ q)
    (hq : rest.head? ≠ some q) (hrest : rest.head? ≠ some m) {pieces : List (List Char)} (hne : pieces ≠ []) :
    r.separated m mark (List.intercalate (m :: mark) (pieces.map write) ++ rest) = some (pieces, rest) := by
  induction pieces with
  | nil => exact absurd rfl hne
  | cons piece pieces ih =>
    cases pieces with
    | nil =>
      rw [List.map_singleton, List.intercalate_singleton]
      exact separated_last (hread piece rest hq) (behind?_cons_of_head hrest mark)
    | cons next pieces =>
      have hgo (more : List Char) : r.read (write piece ++ (m :: mark ++ more)) = some (piece, m :: mark ++ more) :=
        hread piece _ fun h => hm (Option.some.inj h)
      rw [List.map_cons, List.map_cons, List.intercalate_cons_cons, ← List.map_cons, List.append_assoc,
        List.append_assoc, separated_more (hgo _), ih (List.cons_ne_nil next pieces)]
      rfl

end

/-! ## One name -/

/-- What stands behind an opening quote, up to the closing one. A doubled quote stands for one. -/
def readQuoted (quote : Char) : List Char → Option (List Char × List Char)
  | [] => none
  | c :: rest =>
    if c ≠ quote then (readQuoted quote rest).map (Prod.map (c :: ·) id)
    else match rest with
      | [] => some ([], [])
      | c' :: more =>
        if c' = quote then (readQuoted quote more).map (Prod.map (quote :: ·) id) else some ([], c' :: more)

section
variable {quote c : Char} {text name rest : List Char}

theorem readQuoted_of_ne (h : c ≠ quote) (rest : List Char) :
    readQuoted quote (c :: rest) = (readQuoted quote rest).map (Prod.map (c :: ·) id) := by
  cases rest <;> simp [readQuoted, h]

theorem readQuoted_quote_quote (rest : List Char) :
    readQuoted quote (quote :: quote :: rest) = (readQuoted quote rest).map (Prod.map (quote :: ·) id) := by
  simp [readQuoted]

theorem readQuoted_quote (h : rest.head? ≠ some quote) : readQuoted quote (quote :: rest) = some ([], rest) := by
  cases rest with
  | nil => simp [readQuoted]
  | cons c more =>
    have hc : c ≠ quote := fun hc => h (congrArg some hc)
    simp [readQuoted, hc]

theorem length_lt_of_readQuoted (h : readQuoted quote text = some (name, rest)) : rest.length < text.length := by
  fun_induction readQuoted quote text generalizing name with
  | case1 => cases h
  | case2 c text hc ih =>
    obtain ⟨⟨name, rest⟩, hread, hp⟩ := Option.map_eq_some_iff.mp h
    cases hp
    exact Nat.lt_succ_of_lt (ih hread)
  | case3 =>
    cases h
    exact Nat.zero_lt_one
  | case4 c hc text ih =>
    obtain ⟨⟨name, rest⟩, hread, hp⟩ := Option.map_eq_some_iff.mp h
    cases hp
    exact Nat.lt_succ_of_lt (Nat.lt_succ_of_lt (ih hread))
  | case5 =>
    cases h
    exact Nat.lt_succ_self _

/-- A name whose quotes are doubled is read up to the quote behind it. -/
theorem readQuoted_doubled (name : List Char) (h : rest.head? ≠ some quote) :
    readQuoted quote (doubled quote name ++ quote :: rest) = some (name, rest) := by
  induction name with
  | nil => exact readQuoted_quote h
  | cons c name ih =>
    rw [Reading.doubled_cons, List.append_assoc]
    by_cases hc : c = quote
    · subst hc
      rw [if_pos rfl, List.cons_append, List.singleton_append, readQuoted_quote_quote, ih]
      rfl
    · rw [if_neg hc, List.singleton_append, readQuoted_of_ne hc, ih]
      rfl

end

/-- Reads a quoted identifier. -/
def identifier (quote : Char) : Reader where
  read
    | [] => none
    | c :: rest => if c = quote then readQuoted quote rest else none
  length_le {text piece rest} h := by
    cases text with
    | nil => cases h
    | cons c text =>
      dsimp only at h
      split at h
      · exact Nat.le_of_lt (Nat.lt_succ_of_lt (length_lt_of_readQuoted h))
      · cases h

/-- Reads a segment of a path: a quoted identifier, or nothing. -/
def segment (quote : Char) : Reader where
  read text := if text.head? = some quote then (identifier quote).read text else some ([], text)
  length_le {text piece rest} h := by
    split at h
    · exact (identifier quote).length_le h
    · cases h
      exact Nat.le_refl _

/-- A name between quotes. -/
def quoted (quote : Char) (name : List Char) : List Char := quote :: doubled quote name ++ [quote]

section
variable {quote : Char} {rest : List Char}

theorem read_identifier (name : List Char) (h : rest.head? ≠ some quote) :
    (identifier quote).read (quoted quote name ++ rest) = some (name, rest) := by
  show (if quote = quote then readQuoted quote (doubled quote name ++ [quote] ++ rest) else none) = _
  rw [if_pos rfl, List.append_assoc, List.singleton_append, readQuoted_doubled name h]

theorem read_segment (name : List Char) (h : rest.head? ≠ some quote) :
    (segment quote).read ((if name.isEmpty then [] else quoted quote name) ++ rest) = some (name, rest) := by
  cases name with
  | nil => exact if_neg h
  | cons c name =>
    show (if some quote = some quote then (identifier quote).read (quoted quote (c :: name) ++ rest) else _) = _
    rw [if_pos rfl, read_identifier _ h]

end

/-! ## Paths and column lists -/

/-- Reads the segments of a path. -/
def readPath (quote : Char) (text : List Char) : Option (List (List Char) × List Char) :=
  (segment quote).separated '.' [] text

/-- Reads the names of a column list, when there is one. -/
def readColumns (quote : Char) : List Char → Option (List (List Char) × List Char)
  | '(' :: text => do
    let (names, rest) ← (identifier quote).separated ',' [' '] text
    let rest ← behind? [')'] rest
    return (names, rest)
  | text => some ([], text)

section
variable {d : Dialect} {rest : List Char}

theorem toList_escape (name : String) : (d.escape name).toList = quoted d.quoteChar name.toList :=
  String.toList_ofList

theorem segments_ne_nil (path : List Char) : segments path ≠ [] := by
  cases path with
  | nil => simp [segments]
  | cons c path =>
    rw [segments]
    split
    · simp
    · split <;> simp

/-- Joined by dots again the segments are the path. -/
theorem intercalate_segments (path : List Char) : List.intercalate ['.'] (segments path) = path := by
  induction path with
  | nil => rfl
  | cons c path ih =>
    rw [segments]
    split
    · next hc =>
      obtain ⟨s, more, hsome⟩ := List.exists_cons_of_ne_nil (segments_ne_nil path)
      rw [hsome] at ih ⊢
      rw [List.intercalate_cons_cons, ih, hc]
      rfl
    · cases hsome : segments path with
      | nil => exact absurd hsome (segments_ne_nil path)
      | cons s more =>
        rw [hsome] at ih
        cases more with
        | nil =>
          rw [List.intercalate_singleton] at ih ⊢
          rw [ih]
        | cons s' more =>
          rw [List.intercalate_cons_cons] at ih ⊢
          rw [← ih]
          rfl

/-- No segment holds a dot. -/
theorem dot_notMem_segments {path s : List Char} (hs : s ∈ segments path) : '.' ∉ s := by
  induction path generalizing s with
  | nil =>
    rw [segments, List.mem_singleton] at hs
    simp [hs]
  | cons c path ih =>
    obtain ⟨first, more, hsome⟩ := List.exists_cons_of_ne_nil (segments_ne_nil path)
    rw [segments, hsome] at hs
    rw [hsome] at ih
    split at hs
    · rcases List.mem_cons.mp hs with rfl | hs
      · exact List.not_mem_nil
      · exact ih hs
    · next hc =>
      rcases List.mem_cons.mp hs with rfl | hs
      · intro hdot
        rcases List.mem_cons.mp hdot with hdot | hdot
        · exact hc hdot.symm
        · exact ih List.mem_cons_self hdot
      · exact ih (List.mem_cons_of_mem first hs)

theorem segments_injective {p q : List Char} (h : segments p = segments q) : p = q := by
  rw [← intercalate_segments p, h, intercalate_segments]

theorem toList_tablePath (path : String) : (d.tablePath path).toList =
    List.intercalate ['.'] ((segments path.toList).map fun s => if s.isEmpty then [] else quoted d.quoteChar s) := by
  rw [Dialect.tablePath, String.toList_intercalate, List.map_map]
  congr 1
  refine List.map_congr_left fun s _ => ?_
  show (if s.isEmpty then "" else d.escape (String.ofList s)).toList = _
  split
  · rfl
  · rw [toList_escape, String.toList_ofList]

/-- A table path reads as its segments, and what follows is left. -/
theorem readPath_tablePath (path : String) (hquote : rest.head? ≠ some d.quoteChar) (hdot : rest.head? ≠ some '.') :
    readPath d.quoteChar ((d.tablePath path).toList ++ rest) = some (segments path.toList, rest) := by
  have hne : '.' ≠ d.quoteChar := by cases d <;> decide
  rw [readPath, toList_tablePath]
  exact Reader.separated_intercalate (fun _ _ => read_segment _) hne hquote hdot (segments_ne_nil _)

/-- The columns of an INSERT between parentheses; nothing when there are none. -/
def columnList (d : Dialect) (names : List String) : String :=
  if names = [] then "" else "(" ++ String.intercalate ", " (names.map d.escape) ++ ")"

/-- A column list reads as its names, and what follows is left. -/
theorem readColumns_columnList (names : List String) (hrest : rest.head? ≠ some '(') :
    readColumns d.quoteChar ((columnList d names).toList ++ rest) = some (names.map String.toList, rest) := by
  rw [columnList]
  split
  · next hnone =>
    subst hnone
    show readColumns d.quoteChar rest = _
    unfold readColumns
    split
    · next text => exact absurd rfl hrest
    · rfl
  · next hsome =>
    have hcomma : ',' ≠ d.quoteChar := by cases d <;> decide
    have hclose : ')' ≠ d.quoteChar := by cases d <;> decide
    have hnames : (names.map d.escape).map String.toList = (names.map String.toList).map (quoted d.quoteChar) := by
      rw [List.map_map, List.map_map]
      exact List.map_congr_left fun name _ => toList_escape name
    have hread : (identifier d.quoteChar).separated ',' [' ']
        (List.intercalate [',', ' '] ((names.map String.toList).map (quoted d.quoteChar)) ++ ')' :: rest) =
        some (names.map String.toList, ')' :: rest) :=
      Reader.separated_intercalate (fun _ _ => read_identifier _) hcomma (by simpa using hclose) (by simp)
        (by simpa using hsome)
    have htext : ("(" ++ String.intercalate ", " (names.map d.escape) ++ ")").toList ++ rest =
        '(' :: (List.intercalate [',', ' '] ((names.map String.toList).map (quoted d.quoteChar)) ++ ')' :: rest) := by
      simp [String.toList_append, String.toList_intercalate, hnames]
    rw [htext, readColumns, hread]
    rfl

end

/-! ## Nothing left over -/

section
variable (d : Dialect)

theorem read_escape (name : String) :
    (identifier d.quoteChar).read (d.escape name).toList = some (name.toList, []) := by
  rw [toList_escape, ← List.append_nil (quoted _ _)]
  exact read_identifier _ nofun

theorem readPath_whole (path : String) :
    readPath d.quoteChar (d.tablePath path).toList = some (segments path.toList, []) := by
  rw [← List.append_nil (d.tablePath path).toList]
  exact readPath_tablePath path nofun nofun

theorem readColumns_whole (names : List String) :
    readColumns d.quoteChar (columnList d names).toList = some (names.map String.toList, []) := by
  rw [← List.append_nil (columnList d names).toList]
  exact readColumns_columnList names nofun

variable {d}

/-- What can be read back is not written alike. -/
theorem injective_of_read {α β γ : Type} {write : α → String} {what : α → β} {read : List Char → Option (β × γ)}
    {left : γ} (hwhat : Function.Injective what) (h : ∀ a, read (write a).toList = some (what a, left)) :
    Function.Injective write := by
  intro a b hsame
  have hread : some (what a, left) = some (what b, left) := by rw [← h a, ← h b, hsame]
  exact hwhat (Prod.ext_iff.mp (Option.some.inj hread)).1

theorem toList_injective : Function.Injective String.toList := fun _ _ => String.toList_inj.mp

end

end SqlWeave.Quoted
