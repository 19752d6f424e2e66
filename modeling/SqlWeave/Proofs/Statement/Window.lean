import SqlWeave.Proofs.Statement.Derived
import SqlWeave.Proofs.Statement.Layout

/-!
# The window of a SELECT

Each dialect writes a limit and an offset in words of its own, and some write one of the two where only the other is
given. The words are read back here by the grammar of the dialect, as a window of the rows that were selected. Main
result: the window is the same in every dialect, and its words stand where the dialect allows them.
-/

namespace SqlWeave

/-! ## Words -/

namespace Text

/-- The words of a text, with blanks between them. -/
def words (text : String) : List String := ((text.toList.splitOn ' ').filter (· ≠ [])).map String.ofList

/-- A text of words, with a blank in front of each of them. -/
def written (ws : List String) : String := String.ofList (ws.flatMap fun w => ' ' :: w.toList)

/-- A word: not empty, and without a blank in it. -/
def Solid (w : String) : Prop := w ≠ "" ∧ ∀ c ∈ w.toList, isBlank c = false

instance (w : String) : Decidable (Solid w) :=
  decidable_of_iff (w ≠ "" ∧ w.toList.all fun c => !isBlank c) (by simp [Solid])

variable {ws : List String}

theorem written_append (ws more : List String) : written (ws ++ more) = written ws ++ written more := by
  rw [written, List.flatMap_append, String.ofList_append]
  rfl

theorem intercalate_eq_append_flatMap (first : List Char) (rest : List (List Char)) :
    [' '].intercalate (first :: rest) = first ++ rest.flatMap (' ' :: ·) := by
  induction rest generalizing first with
  | nil => simp
  | cons second rest ih => rw [List.intercalate_cons_cons, ih, List.flatMap_cons, List.append_assoc]; rfl

theorem words_written (h : ∀ w ∈ ws, Solid w) : words (written ws) = ws := by
  -- The text begins with a blank, so an empty piece comes first.
  have hsplit : (written ws).toList.splitOn ' ' = [] :: ws.map String.toList := by
    have hwritten : (written ws).toList = [' '].intercalate ([] :: ws.map String.toList) := by
      rw [intercalate_eq_append_flatMap, List.nil_append, List.flatMap_map, written, String.toList_ofList]
    rw [hwritten]
    refine List.splitOn_intercalate ' ' ?_ (List.cons_ne_nil _ _)
    rw [List.forall_mem_cons]
    refine ⟨List.not_mem_nil, fun w hw => ?_⟩
    obtain ⟨w', hw', rfl⟩ := List.mem_map.mp hw
    intro hblank
    exact absurd ((h w' hw').2 ' ' hblank) (by decide)
  have hfilled : (ws.map String.toList).filter (· ≠ []) = ws.map String.toList := by
    rw [List.filter_eq_self]
    intro w hw
    obtain ⟨w', hw', rfl⟩ := List.mem_map.mp hw
    simpa using (h w' hw').1
  rw [words, hsplit, List.filter_cons_of_neg (by simp), hfilled, List.map_map]
  simp [Function.comp_def]

theorem endsFirm_written (hne : ws ≠ []) (h : ∀ w ∈ ws, Solid w) : EndsFirm (written ws) := by
  obtain ⟨init, last, rfl⟩ := List.eq_nil_or_concat ws |>.resolve_left hne
  obtain ⟨hfilled, hsolid⟩ := h last (by simp)
  have hchars : last.toList ≠ [] := fun h => hfilled (String.toList_eq_nil_iff.mp h)
  refine ⟨last.toList.getLast hchars, ?_, hsolid _ (List.getLast_mem hchars)⟩
  simp [written, List.getLast?_eq_getLast_of_ne_nil, hchars]

theorem isBlank_of_isDigit {c : Char} (h : c.isDigit) : isBlank c = false := by
  by_contra hblank
  have hcode := Reference.mem_blankCodes (eq_true_of_ne_false hblank)
  have hdigit : 48 ≤ c.toNat ∧ c.toNat ≤ 57 := Char.isDigit_iff_toNat.mp h
  simp only [Reference.blankCodes, List.mem_cons, List.not_mem_nil, or_false] at hcode
  omega

/-- The number that a word of digits is. -/
def count? (w : String) : Option Nat :=
  if w ≠ "" ∧ w.toList.all Char.isDigit then some (Nat.ofDigitChars 10 w.toList 0) else none

theorem toString_digits (n : Nat) : toString n ≠ "" ∧ (toString n).toList.all Char.isDigit :=
  ⟨(isPlainName_toString n).1, List.all_eq_true.mpr fun _ => isDigit_of_mem_toString⟩

theorem toString_ne {w : String} (h : w.toList.all Char.isDigit = false) (n : Nat) : toString n ≠ w := by
  rintro rfl
  rw [(toString_digits n).2] at h
  cases h

theorem solid_toString (n : Nat) : Solid (toString n) :=
  ⟨(isPlainName_toString n).1, fun _ hc => isBlank_of_isDigit (isDigit_of_mem_toString hc)⟩

@[simp] theorem count?_toString (n : Nat) : count? (toString n) = some n := by
  rw [count?, if_pos (toString_digits n), Nat.toString_eq_ofList_toDigits, String.toList_ofList,
    Nat.ofDigitChars_toDigits (by decide) (by decide)]

end Text

open Text (written Solid count?)

/-! ## Windows -/

/-- A window of rows: how many are skipped, and how many of the others are kept, or all of them. -/
structure Window where
  skipped : Nat
  kept : Option Nat
  deriving DecidableEq

namespace Window

variable {α : Type}

/-- The rows in a window. -/
def rows (w : Window) (all : List α) : List α :=
  match w.kept with
  | none => all.drop w.skipped
  | some n => (all.drop w.skipped).take n

/-- A window that keeps as many rows as there are keeps all of them. -/
theorem rows_of_length_le {skipped n : Nat} {all : List α} (h : all.length ≤ n) :
    (⟨skipped, some n⟩ : Window).rows all = (⟨skipped, none⟩ : Window).rows all := by
  refine List.take_of_length_le ?_
  rw [List.length_drop]
  omega

end Window

/-! ## The grammars -/

namespace Dialect

/-- A limit is a number; in the SQLite family, minus one is no limit. -/
def readLimit? (d : Dialect) (w : String) : Option (Option Nat) :=
  if w = "-1" then if d = .sqlite ∨ d = .sqljs then some none else none else (count? w).map some

/-- Reads `LIMIT` and `OFFSET`. Only one dialect has an offset without a limit. -/
def readLimitOffset? (d : Dialect) : List String → Option Window
  | [] => some ⟨0, none⟩
  | ["LIMIT", n] => (d.readLimit? n).map fun kept => ⟨0, kept⟩
  | ["LIMIT", n, "OFFSET", m] => do
    let kept ← d.readLimit? n
    let skipped ← count? m
    some ⟨skipped, kept⟩
  | ["OFFSET", m] => if d = .postgres then (count? m).map fun skipped => ⟨skipped, none⟩ else none
  | _ => none

/-- Reads `OFFSET` and `FETCH`, which stand after an order. -/
def readOffsetFetch? : List String → Option Window
  | ["OFFSET", m, "ROWS"] => (count? m).map fun skipped => ⟨skipped, none⟩
  | ["OFFSET", m, "ROWS", "FETCH", "NEXT", n, "ROWS", "ONLY"] => do
    let skipped ← count? m
    let kept ← count? n
    some ⟨skipped, some kept⟩
  | _ => none

/-- Reads the words after the conditions, or after the order when there is one. -/
def readWindow? (d : Dialect) (ordered : Bool) (ws : List String) : Option Window :=
  if d ≠ .mssql then d.readLimitOffset? ws
  else match ordered, ws with
    | _, [] => some ⟨0, none⟩
    | true, ws => readOffsetFetch? ws
    | false, "ORDER" :: "BY" :: "(SELECT" :: "NULL)" :: ws => readOffsetFetch? ws
    | false, _ => none

theorem readWindow?_of_ne {d : Dialect} (hd : d ≠ .mssql) (ordered : Bool) (ws : List String) :
    d.readWindow? ordered ws = d.readLimitOffset? ws := by
  unfold readWindow?
  rw [if_pos hd]

/-! ## Paging suffixes -/

/-- A paging suffix as its words, and the window that they are read as. -/
structure Pages (d : Dialect) (limit offset : Option Nat) (ordered : Bool) (ws : List String) (w : Window) : Prop where
  text : d.paging limit offset ordered = written ws
  solid : ∀ word ∈ ws, Solid word
  reads : d.readWindow? ordered ws = some w
  rows : ∀ {α : Type} (all : List α), (d = .mysql ∨ d = .mariadb → all.length ≤ largestLimit) →
    w.rows all = (⟨offset.getD 0, limit⟩ : Window).rows all
  limited : "OFFSET" ∈ ws → d = .postgres ∨ d = .mssql ∨ "LIMIT" ∈ ws

def limitOffsetWords (limit : Option String) (offset : Option Nat) : List String :=
  (match limit with
    | some l => ["LIMIT", l]
    | none => []) ++
  match offset with
    | some m => ["OFFSET", toString m]
    | none => []

def offsetFetchWords (limit offset : Option Nat) : List String :=
  ["OFFSET", toString (offset.getD 0), "ROWS"] ++
    match limit with
    | some n => ["FETCH", "NEXT", toString n, "ROWS", "ONLY"]
    | none => []

/-- The words of the order that a window is given where there is none. -/
def orderWords (ordered : Bool) : List String := if ordered then [] else ["ORDER", "BY", "(SELECT", "NULL)"]

variable {d : Dialect} {l : String} {kept limit offset : Option Nat} {ordered : Bool}

theorem limitOffset_eq_written (limit : Option String) (offset : Option Nat) :
    limitOffset limit (offset.map toString) = written (limitOffsetWords limit offset) := by
  -- The fixed words are the same characters, though they are not cut at the same places.
  rw [← String.toList_inj, written, String.toList_ofList]
  cases limit <;> cases offset <;>
    simp only [Option.map, limitOffset, limitOffsetWords, String.toList_append, List.flatMap_append, List.flatMap_cons,
      List.flatMap_nil, List.append_nil, List.append_assoc] <;> rfl

theorem limit_minus_one (m : Nat) :
    " LIMIT -1 OFFSET " ++ toString m = limitOffset (some "-1") (some (toString m)) := by
  rw [← String.toList_inj]
  simp only [limitOffset, String.toList_append]
  rfl

theorem window_mssql_eq_written (limit offset : Option Nat) (ordered : Bool) :
    (if ordered then "" else " ORDER BY (SELECT NULL)") ++ " OFFSET " ++ toString (offset.getD 0) ++ " ROWS" ++
      (match limit.map toString with
        | some l => " FETCH NEXT " ++ l ++ " ROWS ONLY"
        | none => "") = written (orderWords ordered ++ offsetFetchWords limit offset) := by
  rw [← String.toList_inj, written, String.toList_ofList]
  cases ordered <;> cases limit <;>
    simp only [Option.map, orderWords, offsetFetchWords, String.toList_append, List.flatMap_append, List.flatMap_cons,
      List.flatMap_nil, List.append_nil, List.append_assoc] <;> rfl

theorem solid_limitOffsetWords (hl : Solid l) (offset : Option Nat) :
    ∀ word ∈ limitOffsetWords (some l) offset, Solid word := by
  have hlimit : Solid "LIMIT" := by decide
  have hoffset : Solid "OFFSET" := by decide
  cases offset with
  | none => exact List.forall_mem_cons.mpr ⟨hlimit, List.forall_mem_singleton.mpr hl⟩
  | some m =>
    simp only [limitOffsetWords, List.cons_append, List.nil_append, List.forall_mem_cons]
    exact ⟨hlimit, hl, hoffset, Text.solid_toString m, List.forall_mem_nil _⟩

theorem solid_offsetFetchWords (limit offset : Option Nat) (ordered : Bool) :
    ∀ word ∈ orderWords ordered ++ offsetFetchWords limit offset, Solid word := by
  have horder : ∀ word ∈ orderWords ordered, Solid word := by cases ordered <;> decide
  have hrows : Solid "ROWS" := by decide
  have hskip : ∀ word ∈ ["OFFSET", toString (offset.getD 0), "ROWS"], Solid word := by
    simp only [List.forall_mem_cons]
    exact ⟨by decide, Text.solid_toString _, hrows, List.forall_mem_nil _⟩
  refine List.forall_mem_append.mpr ⟨horder, List.forall_mem_append.mpr ⟨hskip, ?_⟩⟩
  cases limit with
  | none => exact List.forall_mem_nil _
  | some n =>
    simp only [List.forall_mem_cons]
    exact ⟨by decide, by decide, Text.solid_toString n, hrows, by decide, List.forall_mem_nil _⟩

theorem readLimit?_toString (d : Dialect) (n : Nat) : d.readLimit? (toString n) = some (some n) := by
  have hminus : toString n ≠ "-1" := Text.toString_ne (by decide) n
  rw [readLimit?, if_neg hminus, Text.count?_toString]
  rfl

theorem readLimitOffset?_words (hl : d.readLimit? l = some kept) (offset : Option Nat) :
    d.readLimitOffset? (limitOffsetWords (some l) offset) = some ⟨offset.getD 0, kept⟩ := by
  cases offset with
  | none =>
    show (d.readLimit? l).map (fun kept => (⟨0, kept⟩ : Window)) = _
    rw [hl]
    rfl
  | some m =>
    show (d.readLimit? l).bind (fun kept => (count? (toString m)).bind fun skipped =>
      some (⟨skipped, kept⟩ : Window)) = _
    rw [hl, Text.count?_toString]
    rfl

theorem readOffsetFetch?_words (limit offset : Option Nat) :
    readOffsetFetch? (offsetFetchWords limit offset) = some ⟨offset.getD 0, limit⟩ := by
  cases limit with
  | none =>
    show (count? (toString (offset.getD 0))).map (fun skipped => (⟨skipped, none⟩ : Window)) = _
    rw [Text.count?_toString]
    rfl
  | some n =>
    show (count? (toString (offset.getD 0))).bind (fun skipped => (count? (toString n)).bind fun kept =>
      some (⟨skipped, some kept⟩ : Window)) = _
    rw [Text.count?_toString, Text.count?_toString]
    rfl

/-! ## The suffixes of each dialect -/

/-- Where neither is given nothing is written, and all rows are kept. -/
theorem pages_none (d : Dialect) (ordered : Bool) : d.Pages none none ordered [] ⟨0, none⟩ where
  text := by cases d <;> rfl
  solid := List.forall_mem_nil _
  reads := by cases d <;> cases ordered <;> rfl
  rows _ _ := rfl
  limited := nofun

/-- Where a limit is written, and an offset when one is given, the two are read back. -/
theorem pages_of_limit (hd : d ≠ .mssql) (hl : Solid l) (hread : d.readLimit? l = some kept)
    (htext : d.paging limit offset ordered = limitOffset (some l) (offset.map toString))
    (hrows : ∀ {α : Type} (all : List α), (d = .mysql ∨ d = .mariadb → all.length ≤ largestLimit) →
      (⟨offset.getD 0, kept⟩ : Window).rows all = (⟨offset.getD 0, limit⟩ : Window).rows all) :
    d.Pages limit offset ordered (limitOffsetWords (some l) offset) ⟨offset.getD 0, kept⟩ where
  text := by rw [htext, limitOffset_eq_written]
  solid := solid_limitOffsetWords hl offset
  reads := by
    rw [readWindow?_of_ne hd]
    exact readLimitOffset?_words hread offset
  rows := hrows
  limited _ := .inr (.inr List.mem_cons_self)

/-- An offset without a limit. Where the dialect does not have it, it is written with a limit that keeps all rows. -/
theorem exists_pages_offset (hd : d ≠ .mssql) (m : Nat) : ∃ ws w, d.Pages none (some m) ordered ws w := by
  have hlargest (d : Dialect) := d.readLimit?_toString largestLimit
  have hsolid := Text.solid_toString largestLimit
  have hminus : Solid "-1" := by decide
  cases d with
  | postgres =>
    refine ⟨limitOffsetWords none (some m), ⟨m, none⟩, (limitOffset_eq_written none (some m)), ?_, ?_, fun _ _ => rfl,
      fun _ => .inl rfl⟩
    · exact List.forall_mem_cons.mpr ⟨by decide, List.forall_mem_singleton.mpr (Text.solid_toString m)⟩
    · show (count? (toString m)).map (fun skipped => (⟨skipped, none⟩ : Window)) = _
      rw [Text.count?_toString]
      rfl
  | mysql =>
    exact ⟨_, _, pages_of_limit hd hsolid (hlargest _) rfl fun all h => Window.rows_of_length_le (h (.inl rfl))⟩
  | mariadb =>
    exact ⟨_, _, pages_of_limit hd hsolid (hlargest _) rfl fun all h => Window.rows_of_length_le (h (.inr rfl))⟩
  | sqlite => exact ⟨_, _, pages_of_limit hd hminus rfl (limit_minus_one m) fun _ _ => rfl⟩
  | sqljs => exact ⟨_, _, pages_of_limit hd hminus rfl (limit_minus_one m) fun _ _ => rfl⟩
  | mssql => exact (hd rfl).elim

theorem pages_mssql (h : limit ≠ none ∨ offset ≠ none) :
    Dialect.mssql.Pages limit offset ordered (orderWords ordered ++ offsetFetchWords limit offset)
      ⟨offset.getD 0, limit⟩ where
  text := by
    rw [← window_mssql_eq_written]
    cases limit with
    | some n => rfl
    | none =>
      cases offset with
      | some m => rfl
      | none => simp at h
  solid := solid_offsetFetchWords limit offset ordered
  reads := by
    cases ordered <;> exact readOffsetFetch?_words limit offset
  rows _ _ := rfl
  limited _ := .inr (.inl rfl)

theorem exists_pages (d : Dialect) (limit offset : Option Nat) (ordered : Bool) :
    ∃ ws w, d.Pages limit offset ordered ws w := by
  by_cases hd : d = .mssql
  · subst hd
    by_cases hnone : limit = none ∧ offset = none
    · obtain ⟨rfl, rfl⟩ := hnone
      exact ⟨_, _, pages_none _ _⟩
    · exact ⟨_, _, pages_mssql (by rwa [not_and_or] at hnone)⟩
  · cases limit with
    | some n =>
      refine ⟨_, _, pages_of_limit hd (Text.solid_toString n) (d.readLimit?_toString n) ?_ fun _ _ => rfl⟩
      cases d <;> first | rfl | exact (hd rfl).elim
    | none =>
      cases offset with
      | none => exact ⟨_, _, pages_none _ _⟩
      | some m => exact exists_pages_offset hd m

/-- A suffix ends in a word, so nothing of it is trimmed. -/
theorem trim_append_paging {text : String} (h : Text.BeginsFirm text) :
    Text.trim (text ++ d.paging limit offset ordered) =
      if d.paging limit offset ordered = "" then Text.trim text else text ++ d.paging limit offset ordered := by
  split
  · next hempty => rw [hempty, String.append_empty]
  · next hfilled =>
    obtain ⟨ws, w, hpages⟩ := d.exists_pages limit offset ordered
    have hne : ws ≠ [] := by
      rintro rfl
      exact hfilled hpages.text
    have hends := Text.endsFirm_written hne hpages.solid
    rw [← hpages.text] at hends
    exact Text.trim_eq_self (h.append _) (hends.append _)

/-- A window is written after an order: the one that stands before, or else one that says nothing. -/
theorem paging_mssql_of_ne (h : Dialect.mssql.paging limit offset ordered ≠ "") : ∃ rest,
    (ordered = true → Dialect.mssql.paging limit offset ordered = rest) ∧
    (ordered = false → Dialect.mssql.paging limit offset ordered = " ORDER BY (SELECT NULL)" ++ rest) ∧
    (Text.words rest).head? = some "OFFSET" ∧ "ORDER" ∉ Text.words rest := by
  have hgiven : limit ≠ none ∨ offset ≠ none := by
    -- Without a limit and an offset nothing is written.
    by_contra hnone
    rw [not_or, not_not, not_not] at hnone
    obtain ⟨rfl, rfl⟩ := hnone
    exact h rfl
  have hpages := @pages_mssql limit offset ordered hgiven
  have hnumber (n : Nat) : "ORDER" ≠ n.repr := (Text.toString_ne (by decide) n).symm
  refine ⟨written (offsetFetchWords limit offset), ?_, ?_, ?_⟩
  · rintro rfl
    exact hpages.text
  · rintro rfl
    rw [hpages.text, Text.written_append]
    rfl
  · rw [Text.words_written (List.forall_mem_append.mp hpages.solid).2]
    refine ⟨rfl, ?_⟩
    cases limit <;> simp [offsetFetchWords, hnumber]

end Dialect

/-! ## Statements with a window -/

variable {cat : Catalog}

namespace Draft

/-- A SELECT up to its conditions. -/
def selectFront (cat : Catalog) (d : Draft) : Result String := do
  let selected ← d.selectedText cat.dialect
  let source ← d.fromText cat
  let hidden ← d.softDelete cat.dialect
  .ok ("SELECT " ++ selected ++ source ++ d.whereText hidden)

theorem selectText_eq_front (d : Draft) : d.selectText cat = (d.selectFront cat).map fun front =>
    front ++ d.orderText ++ cat.dialect.paging d.limit d.offset (!d.orderBys.isEmpty) := by
  unfold selectText selectFront
  cases d.selectedText cat.dialect with
  | error f => rfl
  | ok selected =>
    cases d.fromText cat with
    | error f => rfl
    | ok source => cases d.softDelete cat.dialect <;> rfl

theorem exists_orderText {d : Draft} (h : d.orderBys.isEmpty = false) : ∃ keys, d.orderText = " ORDER BY " ++ keys :=
  ⟨_, if_neg (by simp [h])⟩

/-- Right before the offset stands one order, that of the statement or the one that says nothing. -/
theorem orderText_append_paging {d : Draft} {limit offset : Option Nat}
    (hfilled : Dialect.mssql.paging limit offset (!d.orderBys.isEmpty) ≠ "") : ∃ keys rest,
      d.orderText ++ Dialect.mssql.paging limit offset (!d.orderBys.isEmpty) = " ORDER BY " ++ keys ++ rest ∧
      (Text.words rest).head? = some "OFFSET" ∧ "ORDER" ∉ Text.words rest ∧
      (d.orderText = " ORDER BY " ++ keys ∧ Dialect.mssql.paging limit offset (!d.orderBys.isEmpty) = rest ∨
        d.orderText = "" ∧ keys = "(SELECT NULL)") := by
  obtain ⟨rest, hordered, hunordered, hhead, hrest⟩ := Dialect.paging_mssql_of_ne hfilled
  cases horder : d.orderBys.isEmpty with
  | true =>
    have hnone : d.orderText = "" := by rw [orderText, if_pos horder]
    rw [horder] at hunordered
    refine ⟨"(SELECT NULL)", rest, ?_, hhead, hrest, .inr ⟨hnone, rfl⟩⟩
    rw [hnone, String.empty_append]
    exact hunordered rfl
  | false =>
    obtain ⟨keys, hkeys⟩ := exists_orderText horder
    rw [horder] at hordered
    refine ⟨keys, rest, ?_, hhead, hrest, .inl ⟨hkeys, hordered rfl⟩⟩
    rw [hkeys]
    exact congrArg _ (hordered rfl)

end Draft

namespace Builder

/-- A SELECT with its comment and its WITH block, up to its conditions. -/
def front (cat : Catalog) (b : Builder Statement) : Result String := do
  let comment ← b.draft.commentText
  let entries ← Statement.entryTexts cat b.ctes
  let own ← b.draft.selectFront cat
  .ok (comment ++ Cte.block cat.dialect b.ctes entries ++ own)

theorem query_eq_front {b : Builder Statement} (hkind : b.kind = .select) :
    Statement.query cat (.of b) = (b.front cat).map fun front => Text.trim
      (front ++ b.draft.orderText ++ cat.dialect.paging b.draft.limit b.draft.offset (!b.draft.orderBys.isEmpty)) := by
  have hown : b.draft.statementText cat b.kind = b.draft.selectText cat := by rw [hkind]; rfl
  rw [Statement.query_of, front, hown, Draft.selectText_eq_front]
  cases b.draft.commentText with
  | error f => rfl
  | ok comment =>
    cases Statement.entryTexts cat b.ctes with
    | error f => rfl
    | ok entries =>
      cases b.draft.selectFront cat with
      | error f => rfl
      | ok own => simp [bind, Except.bind, Except.map, String.append_assoc]

theorem beginsFirm_front {b : Builder Statement} {text : String} (h : b.front cat = .ok text) :
    Text.BeginsFirm text := by
  obtain ⟨comment, hcomment, h⟩ := Result.bind_eq_ok.mp h
  obtain ⟨entries, -, h⟩ := Result.bind_eq_ok.mp h
  obtain ⟨own, hown, h⟩ := Result.bind_eq_ok.mp h
  cases h
  have hselect : Text.BeginsFirm own := by
    obtain ⟨selected, -, hown⟩ := Result.bind_eq_ok.mp hown
    obtain ⟨source, -, hown⟩ := Result.bind_eq_ok.mp hown
    obtain ⟨hidden, -, hown⟩ := Result.bind_eq_ok.mp hown
    cases hown
    simp only [String.append_assoc]
    exact Text.BeginsFirm.append (by decide) _
  rw [String.append_assoc]
  exact Draft.beginsFirm_commentText_append hcomment (Cte.beginsFirm_block_append _ _ hselect)

/-- The statement with a limit and an offset. -/
def paged (b : Builder Statement) (limit offset : Option Nat) : Builder Statement :=
  { b with draft := { b.draft with limit, offset } }

theorem query_paged {b : Builder Statement} (hkind : b.kind = .select) (limit offset : Option Nat) :
    Statement.query cat (.of (b.paged limit offset)) = (b.front cat).map fun front => Text.trim
      (front ++ b.draft.orderText ++ cat.dialect.paging limit offset (!b.draft.orderBys.isEmpty)) :=
  query_eq_front hkind

/-- A limit or an offset as it is given. -/
def given (n? : Option Nat) : Value := .ofOption (n?.map fun n => .int n)

theorem paging_given (name : String) (n? : Option Nat) : Build.paging name (given n?) = pure n? := by
  cases n? with
  | none => rfl
  | some n =>
    have hwhole : Number.whole (.int n) = .ok (n : Int) := rfl
    have hcount : ¬ (n : Int) < 0 := by omega
    unfold Build.paging
    simp [given, Value.ofOption, Value.isNull, hwhole, hcount]

theorem apply_limit (cat : Catalog) (b : Builder Statement) (limit : Option Nat) :
    b.apply cat (.limit (given limit)) = (b.paged limit b.draft.offset, none) := by
  show b.step (Build.paging "limit" (given limit) >>= fun n => modify fun d => { d with limit := n }) = _
  rw [paging_given]
  rfl

theorem apply_offset (cat : Catalog) (b : Builder Statement) (offset : Option Nat) :
    b.apply cat (.offset (given offset)) = (b.paged b.draft.limit offset, none) := by
  show b.step (Build.paging "offset" (given offset) >>= fun n => modify fun d => { d with offset := n }) = _
  rw [paging_given]
  rfl

/-- A SELECT with a limit and an offset keeps the same window of its rows in every dialect. A limit and an offset are
never refused, and they are no reason for a SELECT not to be written. One that is written is the SELECT without them,
up to the blanks at its end, and a suffix. By the grammar of the dialect the suffix is a window: it skips the rows of
the offset, if there is one, and keeps the rows of the limit, or all. Where there is no offset without a limit the
suffix has both, and where there is no window without an order there is one order right before the offset, either
that of the SELECT or one of the suffix. -/
theorem window_of_select {b : Builder Statement} (hkind : b.kind = .select) (limit offset : Option Nat) :
    (b.apply cat (.limit (given limit))).2 = none ∧
    (b.apply cat (.limit (given limit))).1.apply cat (.offset (given offset)) = (b.paged limit offset, none) ∧
    (∀ f, Statement.query cat (.of (b.paged none none)) = .error f →
      Statement.query cat (.of (b.paged limit offset)) = .error f) ∧
    ∀ sql, Statement.query cat (.of (b.paged limit offset)) = .ok sql → ∃ front suffix w,
      Statement.query cat (.of (b.paged none none)) = .ok (Text.trim (front ++ b.draft.orderText)) ∧
      suffix = cat.dialect.paging limit offset (!b.draft.orderBys.isEmpty) ∧
      sql = (if suffix = "" then Text.trim (front ++ b.draft.orderText) else front ++ b.draft.orderText ++ suffix) ∧
      cat.dialect.readWindow? (!b.draft.orderBys.isEmpty) (Text.words suffix) = some w ∧
      (∀ {α : Type} (all : List α),
        (cat.dialect = .mysql ∨ cat.dialect = .mariadb → all.length ≤ Dialect.largestLimit) →
        w.rows all = match limit with
          | none => all.drop (offset.getD 0)
          | some n => (all.drop (offset.getD 0)).take n) ∧
      ("OFFSET" ∈ Text.words suffix →
        cat.dialect = .postgres ∨ cat.dialect = .mssql ∨ "LIMIT" ∈ Text.words suffix) ∧
      (cat.dialect = .mssql → suffix ≠ "" → ∃ keys rest,
        b.draft.orderText ++ suffix = " ORDER BY " ++ keys ++ rest ∧
        (Text.words rest).head? = some "OFFSET" ∧ "ORDER" ∉ Text.words rest ∧
        (b.draft.orderText = " ORDER BY " ++ keys ∧ suffix = rest ∨
          b.draft.orderText = "" ∧ keys = "(SELECT NULL)")) := by
  refine ⟨?_, ?_, ?_, ?_⟩
  · rw [apply_limit]
  · rw [apply_limit]
    exact apply_offset cat _ offset
  · intro f h
    rw [query_paged hkind] at h ⊢
    cases hfront : b.front cat with
    | error g =>
      rw [hfront] at h
      exact h
    | ok front =>
      rw [hfront] at h
      cases h
  · intro sql hsql
    rw [query_paged hkind] at hsql
    obtain ⟨front, hfront, rfl⟩ := Result.map_eq_ok.mp hsql
    have hfirm := (beginsFirm_front hfront).append b.draft.orderText
    obtain ⟨ws, w, hpages⟩ := cat.dialect.exists_pages limit offset (!b.draft.orderBys.isEmpty)
    have hwords : Text.words (cat.dialect.paging limit offset (!b.draft.orderBys.isEmpty)) = ws := by
      rw [hpages.text, Text.words_written hpages.solid]
    refine ⟨front, _, w, ?_, rfl, Dialect.trim_append_paging hfirm, ?_, ?_, ?_, ?_⟩
    · have hnone : cat.dialect.paging none none (!b.draft.orderBys.isEmpty) = "" := (Dialect.pages_none ..).text
      rw [query_paged hkind, hfront, hnone]
      show Except.ok (Text.trim (front ++ b.draft.orderText ++ "")) = _
      rw [String.append_empty]
    · rw [hwords]
      exact hpages.reads
    · intro α all h
      rw [hpages.rows all h]
      cases limit <;> rfl
    · rw [hwords]
      exact hpages.limited
    · intro hd hfilled
      rw [hd] at hfilled ⊢
      exact Draft.orderText_append_paging hfilled

def skipping : Builder Statement := Builder.paged {} none (some 2)

set_option maxRecDepth 8000 in
/-- A SELECT that skips two rows, where there is no offset without a limit. -/
theorem window_of_skipping :
    Builder.kind ({} : Builder Statement) = .select ∧
    Statement.query ⟨.mysql, []⟩ (.of skipping) = .ok "SELECT * LIMIT 18446744073709551615 OFFSET 2" ∧
    ∃ w, Dialect.mysql.readWindow? false (Text.words " LIMIT 18446744073709551615 OFFSET 2") = some w ∧
      w.rows [10, 20, 30] = [30] := by
  have hkind : Builder.kind ({} : Builder Statement) = .select := rfl
  have hsql : Statement.query ⟨.mysql, []⟩ (.of skipping) = .ok "SELECT * LIMIT 18446744073709551615 OFFSET 2" := rfl
  obtain ⟨-, -, -, hwindow⟩ := @window_of_select ⟨.mysql, []⟩ _ hkind none (some 2)
  obtain ⟨front, suffix, w, -, rfl, -, hreads, hrows, -⟩ := hwindow _ hsql
  exact ⟨hkind, hsql, w, hreads, hrows [10, 20, 30] fun _ => by decide⟩

end Builder

end SqlWeave
