import SqlWeave.Proofs.Statement.Layout

/-!
# The comment of a statement

A statement begins with its comment, as a block comment whose text has lost its closing marks. They are taken out in
one pass, and where an asterisk and a slash stand around such marks they become a mark themselves. Main result: a
reader that takes the comment to end at the first closing mark reads the whole text as the comment exactly when
nothing like this stands in it; else what is left of the text is read as SQL.
-/

namespace SqlWeave

namespace Comment

/-! ## Reading a block comment -/

/-- The mark that closes a comment. -/
def closing : List Char := ['*', '/']

/-- What stands before the first closing mark, and what follows it. -/
def untilClosing? : List Char → Option (List Char × List Char)
  | [] => none
  | '*' :: '/' :: rest => some ([], rest)
  | c :: rest => (untilClosing? rest).map fun read => (c :: read.1, read.2)

/-- Reads a block comment, from its opening mark to the first closing mark after that: what stands in it, and what
follows it. -/
def read? : List Char → Option (List Char × List Char)
  | '/' :: '*' :: rest => untilClosing? rest
  | _ => none

theorem closing_prefix_cons {c : Char} {cs : List Char} : closing <+: c :: cs ↔ c = '*' ∧ cs.head? = some '/' := by
  cases cs with
  | nil => simp [closing]
  | cons d cs => simp [closing, eq_comm]

theorem untilClosing?_cons {c : Char} {cs : List Char} (h : ¬ closing <+: c :: cs) :
    untilClosing? (c :: cs) = (untilClosing? cs).map fun read => (c :: read.1, read.2) := by
  rw [untilClosing?]
  rintro rest rfl rfl
  exact h ⟨rest, rfl⟩

/-- A text without closing marks is read up to the mark that follows it. -/
theorem untilClosing?_of_free {cs : List Char} (h : ¬ closing <:+: cs) (rest : List Char) :
    untilClosing? (cs ++ '*' :: '/' :: rest) = some (cs, rest) := by
  induction cs with
  | nil => rfl
  | cons c cs ih =>
    rw [List.infix_cons_iff, not_or] at h
    have hmark : ¬ closing <+: c :: (cs ++ '*' :: '/' :: rest) := by
      rw [closing_prefix_cons]
      rintro ⟨rfl, hhead⟩
      cases cs with
      | nil => simp at hhead
      | cons d cs => exact h.1 (closing_prefix_cons.mpr ⟨rfl, hhead⟩)
    rw [List.cons_append, untilClosing?_cons hmark, ih h.2]
    rfl

/-- A text with a closing mark is read up to its first one, whatever follows. -/
theorem untilClosing?_of_infix {cs : List Char} (h : closing <:+: cs) :
    ∃ before left, cs = before ++ closing ++ left ∧
      ∀ rest, untilClosing? (cs ++ rest) = some (before, left ++ rest) := by
  induction cs with
  | nil => exact absurd (List.infix_nil.mp h) (by decide)
  | cons c cs ih =>
    by_cases hmark : closing <+: c :: cs
    · obtain ⟨left, hleft⟩ := hmark
      rw [← hleft]
      exact ⟨[], left, rfl, fun rest => rfl⟩
    · obtain ⟨before, left, rfl, hread⟩ := ih ((List.infix_cons_iff.mp h).resolve_left hmark)
      refine ⟨c :: before, left, rfl, fun rest => ?_⟩
      have hmark' : ¬ closing <+: c :: (before ++ closing ++ left ++ rest) := by
        rw [closing_prefix_cons] at hmark ⊢
        cases before with
        | nil => simp [closing]
        | cons d before => exact hmark
      rw [List.cons_append, untilClosing?_cons hmark', hread]
      rfl

/-! ## Taking the closing marks out -/

/-- An asterisk and a slash around one or more closing marks: what becomes a mark when these are taken out. -/
def concealing (n : Nat) : List Char := '*' :: ((List.replicate (n + 1) closing).flatten ++ ['/'])

/-- A closing mark comes out of the text when its closing marks are taken out. -/
def Conceals (cs : List Char) : Prop := ∃ n, concealing n <:+: cs

/-- What is left begins with a slash that only closing marks stand before. -/
theorem head?_withoutCommentEnd {cs : List Char} : (Draft.withoutCommentEnd cs).head? = some '/' ↔
    ∃ n rest, cs = (List.replicate n closing).flatten ++ '/' :: rest := by
  fun_induction Draft.withoutCommentEnd cs with
  | case1 => simp [closing]
  | case2 rest ih =>
    rw [ih]
    constructor
    · rintro ⟨n, rest', rfl⟩
      exact ⟨n + 1, rest', rfl⟩
    · rintro ⟨n, rest', h⟩
      cases n with
      | zero => simp at h
      | succ n => exact ⟨n, rest', by simpa [List.replicate_succ, closing] using h⟩
  | case3 c rest hmark ih =>
    rw [List.head?_cons, Option.some.injEq]
    constructor
    · rintro rfl
      exact ⟨0, rest, rfl⟩
    · rintro ⟨n, rest', h⟩
      cases n with
      | zero => exact (List.cons.inj h).1
      | succ n =>
        have h : c = '*' ∧ rest = '/' :: ((List.replicate n closing).flatten ++ '/' :: rest') := by
          simpa [List.replicate_succ, closing] using h
        exact (hmark _ h.1 h.2).elim

theorem closing_infix_withoutCommentEnd {cs : List Char} :
    closing <:+: Draft.withoutCommentEnd cs ↔ Conceals cs := by
  fun_induction Draft.withoutCommentEnd cs with
  | case1 => simp [Conceals, concealing, closing]
  | case2 rest ih =>
    -- A mark that is taken out begins nothing that conceals one.
    rw [ih]
    refine exists_congr fun n => ?_
    have hfirst : ¬ concealing n <+: '*' :: '/' :: rest := by simp [concealing, List.replicate_succ, closing]
    have hsecond : ¬ concealing n <+: '/' :: rest := by simp [concealing]
    rw [List.infix_cons_iff, List.infix_cons_iff, or_iff_right hfirst, or_iff_right hsecond]
  | case3 c rest hmark ih =>
    rw [List.infix_cons_iff, closing_prefix_cons, head?_withoutCommentEnd, ih]
    simp only [Conceals, List.infix_cons_iff, exists_or]
    refine or_congr_left ⟨?_, ?_⟩
    · rintro ⟨rfl, n, rest', rfl⟩
      cases n with
      | zero => exact (hmark rest' rfl rfl).elim
      | succ n => exact ⟨n, rest', by simp [concealing]⟩
    · rintro ⟨n, tail, h⟩
      obtain ⟨rfl, rfl⟩ := List.cons.inj h
      exact ⟨rfl, n + 1, tail, by simp⟩

/-- The text of a comment as it is written. -/
def kept (text : String) : String := String.ofList (Draft.withoutCommentEnd text.toList)

/-- A comment as it is written in front of a statement; an empty one is not written. -/
def leading (text : String) : String := if text = "" then "" else "/* " ++ kept text ++ " */ "

theorem leading_of_ne {text : String} (h : text ≠ "") : leading text = "/* " ++ kept text ++ " */ " := if_neg h

/-- What stands after a comment is trimmed by itself. -/
theorem trim_leading_append (text : String) {rest : String} (h : Text.BeginsFirm rest) :
    Text.trim (leading text ++ rest) = leading text ++ Text.trim rest := by
  by_cases htext : text = ""
  · rw [leading, if_pos htext, String.empty_append, String.empty_append]
  · have hfirm : Text.BeginsFirm (leading text) := by
      rw [leading_of_ne htext, String.append_assoc]
      exact Text.BeginsFirm.append (by decide) _
    exact Text.trim_append_of_begins hfirm h

/-- The blanks beside the text of a comment are part of no mark. -/
theorem closing_infix_kept {text : String} : closing <:+: ' ' :: ((kept text).toList ++ [' ']) ↔
    Conceals text.toList := by
  have hlast (cs : List Char) : closing <:+: cs ++ [' '] ↔ closing <:+: cs := by
    rw [List.infix_concat_iff]
    refine or_iff_right ?_
    rintro ⟨before, hbefore⟩
    have hblank := congrArg List.getLast? hbefore
    simp [closing] at hblank
  rw [List.infix_cons_iff, or_iff_right (by simp [closing]), hlast, kept, String.toList_ofList,
    closing_infix_withoutCommentEnd]

end Comment

/-! ## Statements with a comment -/

open Comment

namespace Draft

variable {cat : Catalog} {d : Draft} {text : String}

/-- The statement without its comment. -/
def uncommented (d : Draft) : Draft := { d with comment := .null }

theorem statementText_uncommented (kind : StatementKind) :
    d.uncommented.statementText cat kind = d.statementText cat kind := by
  cases kind <;> rfl

theorem commentText_of_text (htext : d.comment.text? = some text) : d.commentText = .ok (leading text) := by
  unfold commentText
  cases hcomment : d.comment with
  | text s | keyword name s =>
    obtain rfl : s = text := by simpa [hcomment, Value.text?] using htext
    by_cases hfilled : s = ""
    · simp [Value.truth, hfilled, leading]
    · simp [Value.truth, hfilled, Dialect.nameText, Value.text?, leading, kept, Except.map]
  | _ => simp [hcomment, Value.text?] at htext

end Draft

namespace Builder

variable {cat : Catalog} {σ : Type} {text sql : String}

/-- The statement without its comment. -/
def uncommented (b : Builder σ) : Builder σ := { b with draft := b.draft.uncommented }

/-- A comment is the whole of what it changes: it stands in front of the statement without it, and a statement that
cannot be written without it cannot be written with it. -/
theorem query_of_comment {b : Builder Statement} (htext : b.draft.comment.text? = some text) :
    Statement.query cat (.of b) = (Statement.query cat (.of b.uncommented)).map (leading text ++ ·) := by
  have hbare : b.uncommented.draft.commentText = .ok "" := rfl
  have hown : b.uncommented.draft.statementText cat b.uncommented.kind = b.draft.statementText cat b.kind :=
    Draft.statementText_uncommented b.kind
  rw [Statement.query_of, Statement.query_of, Draft.commentText_of_text htext, hbare, hown]
  cases hentries : Statement.entryTexts cat b.ctes with
  | error f => simp [uncommented, hentries, bind, Except.bind, Except.map]
  | ok entries =>
    cases hbody : b.draft.statementText cat b.kind with
    | error f => simp [uncommented, hentries, bind, Except.bind, Except.map]
    | ok body =>
      have hrest : Text.BeginsFirm (Cte.block cat.dialect b.ctes entries ++ body) :=
        Cte.beginsFirm_block_append b.ctes entries (Draft.beginsFirm_statementText hbody)
      have htrim := trim_leading_append text hrest
      simp [uncommented, hentries, bind, Except.bind, Except.map, String.append_assoc, htrim]

/-- A statement with a comment is written as the block comment and the statement without it. A reader that takes the
comment to end at its first closing mark takes the whole text for the comment and goes on with the statement exactly
when no closing mark comes out of the text as its own ones are taken out. Where one does, the reader stops there and
goes on with the rest of the text. -/
theorem read_comment {b : Builder Statement} (htext : b.draft.comment.text? = some text) (hfilled : text ≠ "")
    (hsql : Statement.query cat (.of b) = .ok sql) :
    ∃ rest, Statement.query cat (.of b.uncommented) = .ok rest ∧ sql = "/* " ++ kept text ++ " */ " ++ rest ∧
      ∃ inner after, read? sql.toList = some (inner, after) ∧
        (inner = (" " ++ kept text ++ " ").toList ∧ after = (" " ++ rest).toList ↔ ¬ Conceals text.toList) ∧
        (Conceals text.toList → ∃ before left, kept text = before ++ "*/" ++ left ∧
          inner = (" " ++ before).toList ∧ after = (left ++ " */ " ++ rest).toList) := by
  rw [query_of_comment htext, leading_of_ne hfilled] at hsql
  obtain ⟨rest, hrest, rfl⟩ := Result.map_eq_ok.mp hsql
  refine ⟨rest, hrest, rfl, ?_⟩
  have hsql : ("/* " ++ kept text ++ " */ " ++ rest).toList =
      '/' :: '*' :: (' ' :: ((kept text).toList ++ [' ']) ++ '*' :: '/' :: ' ' :: rest.toList) := by
    simp
  rw [hsql, read?]
  by_cases hconceals : Conceals text.toList
  · -- The reader stops at the mark that has come out, before the builder's own one.
    have hinfix : closing <:+: (kept text).toList := by
      rwa [kept, String.toList_ofList, closing_infix_withoutCommentEnd]
    obtain ⟨before, left, hkept, hread⟩ := untilClosing?_of_infix hinfix
    have hblank : ¬ closing <+: ' ' :: ((kept text).toList ++ ' ' :: '*' :: '/' :: ' ' :: rest.toList) := by
      simp [closing]
    refine ⟨' ' :: before, left ++ ' ' :: '*' :: '/' :: ' ' :: rest.toList, ?_, ?_, fun _ => ?_⟩
    · rw [List.cons_append, List.append_assoc, List.singleton_append, untilClosing?_cons hblank, hread]
      rfl
    · refine iff_of_false (fun h => ?_) (not_not_intro hconceals)
      have hlength := congrArg List.length h.1
      simp [hkept, closing] at hlength
    · refine ⟨String.ofList before, String.ofList left, ?_, ?_, ?_⟩
      · rw [← String.toList_inj, hkept]
        simp [closing]
      · simp
      · simp
  · have hfree := closing_infix_kept.not.mpr hconceals
    refine ⟨_, _, untilClosing?_of_free hfree _, iff_of_true ⟨?_, ?_⟩ hconceals, fun h => absurd h hconceals⟩
    · simp
    · rw [String.toList_append]
      rfl

/-- A comment with a statement of its own behind a concealed mark. -/
def smuggledText : String := "old **// DROP TABLE users --"

def smuggling : Builder Statement := (Builder.apply ⟨.sqlite, []⟩ {} (.comment (.text smuggledText))).1

def smuggledSql : String := "/* old */ DROP TABLE users -- */ SELECT *"

theorem read_smuggling :
    smuggling.draft.comment.text? = some smuggledText ∧ smuggledText ≠ "" ∧
    Statement.query ⟨.sqlite, []⟩ (.of smuggling) = .ok smuggledSql ∧ Conceals smuggledText.toList ∧
    ∃ before left, kept smuggledText = before ++ "*/" ++ left ∧
      read? smuggledSql.toList = some ((" " ++ before).toList, (left ++ " */ SELECT *").toList) := by
  have htext : smuggling.draft.comment.text? = some smuggledText := rfl
  have hfilled : smuggledText ≠ "" := by decide
  have hsql : Statement.query ⟨.sqlite, []⟩ (.of smuggling) = .ok smuggledSql := rfl
  have hconceals : Conceals smuggledText.toList := ⟨0, "old ".toList, " DROP TABLE users --".toList, rfl⟩
  obtain ⟨rest, hrest, -, inner, after, hread, -, hleft⟩ := read_comment htext hfilled hsql
  obtain rfl : "SELECT *" = rest := Except.ok.inj hrest
  obtain ⟨before, left, hkept, rfl, rfl⟩ := hleft hconceals
  refine ⟨htext, hfilled, hsql, hconceals, before, left, hkept, ?_⟩
  rw [hread, String.append_assoc]
  rfl

end Builder

end SqlWeave
