import SqlWeave.Dialect.Identifier
import SqlWeave.Proofs.Reference.Scan

/-!
# The tokens of a condition

A database reads the text of a condition as tokens: words, quoted runs, single signs and parentheses.
Which characters quote, and what begins a comment, differs between dialects. A text that leaves a quote
open, or that holds a comment or the end of a statement, is no text of a condition and has no tokens.

Reading goes by one character at a time, with a `Mode` for what is not finished yet. A blank or a
parenthesis finishes every token that can be finished, so a text may be cut there: its tokens are those
before the cut and those after it.
-/

namespace SqlWeave.Reading

inductive Token where
  | word (cs : List Char)
  /-- A quoted run with its quote characters. -/
  | quoted (cs : List Char)
  | sign (c : Char)
  | opening
  | closing
  deriving DecidableEq, Inhabited

/-- Is the token this word, in any case? -/
def Token.isWord (word : String) : Token → Bool
  | .word cs => cs.map Char.toUpper = word.toList
  | _ => false

/-! ## What a dialect quotes -/

inductive Quote where
  | single | double | back | bracket
  deriving DecidableEq, Inhabited

/-- The character that a quoted run ends with. -/
def Quote.ending : Quote → Char
  | .single => '\''
  | .double => '"'
  | .back => '\x60'
  | .bracket => ']'

/-- The quote that a character opens. -/
def quote? (d : Dialect) (c : Char) : Option Quote :=
  if c = '\'' then some .single
  else if c = '"' then some .double
  else if c = '\x60' then (if d = .postgres || d = .mssql then none else some .back)
  else if c = '[' then (if d = .mssql || d = .sqlite || d = .sqljs then some .bracket else none)
  else none

/-- Dialects that write comments with a number sign and take a backslash for an escape. -/
def isMySql (d : Dialect) : Bool := d = .mysql || d = .mariadb

/-- Is a backslash inside a quote an escape? -/
def escapes (d : Dialect) (q : Quote) : Bool := isMySql d && q ≠ .back

/-- The characters of words. A colon, a dot and an at sign belong to the name after them. -/
def isWordChar (c : Char) : Bool := Text.isWord c || c = ':' || c = '.' || c = '@' || c = '$'

/-- Do two signs in a row begin a comment? -/
def beginsComment (a b : Char) : Bool := (a = '-' && b = '-') || (a = '/' && b = '*')

/-! ## Reading -/

/-- What is not finished yet. -/
inductive Mode where
  | between
  | word (cs : List Char)
  | quoted (q : Quote) (cs : List Char)
  /-- After a backslash inside a quote. -/
  | escaped (q : Quote) (cs : List Char)
  | sign (c : Char)

/-- The tokens that are left at the end of a text. -/
def Mode.finish : Mode → Option (List Token)
  | .between => some []
  | .word cs => some [.word cs]
  | .sign c => some [.sign c]
  | .quoted .. | .escaped .. => none

/-- What a character does between two tokens. -/
def begins (d : Dialect) (c : Char) : Option (List Token × Mode) :=
  if Text.isBlank c then some ([], .between)
  else if c = '(' then some ([.opening], .between)
  else if c = ')' then some ([.closing], .between)
  else match quote? d c with
    | some q => some ([], .quoted q [c])
    | none =>
      if c = ';' || (c = '#' && isMySql d) then none
      else if isWordChar c then some ([], .word [c])
      else some ([], .sign c)

/-- What a character does after tokens that it finishes. -/
def beginsAfter (d : Dialect) (finished : List Token) (c : Char) : Option (List Token × Mode) :=
  (begins d c).map fun p => (finished ++ p.1, p.2)

/-- The tokens that a character finishes, and what is not finished then. -/
def Mode.next (d : Dialect) : Mode → Char → Option (List Token × Mode)
  | .between, c => begins d c
  | .word cs, c =>
    if isWordChar c then some ([], .word (cs ++ [c])) else beginsAfter d [.word cs] c
  | .sign a, c => if beginsComment a c then none else beginsAfter d [.sign a] c
  | .quoted q cs, c =>
    if c = q.ending then some ([.quoted (cs ++ [c])], .between)
    else if escapes d q && c = '\\' then some ([], .escaped q (cs ++ [c]))
    else some ([], .quoted q (cs ++ [c]))
  | .escaped q cs, c => some ([], .quoted q (cs ++ [c]))

/-- The tokens of the characters after a mode. -/
def tokensFrom (d : Dialect) : Mode → List Char → Option (List Token)
  | m, [] => m.finish
  | m, c :: rest => match m.next d c with
    | none => none
    | some p => (tokensFrom d p.2 rest).map (p.1 ++ ·)

/-- The tokens of a text. -/
def tokens (d : Dialect) (cs : List Char) : Option (List Token) := tokensFrom d .between cs

variable {d : Dialect} {m : Mode} {c : Char} {xs ys : List Token}

theorem tokensFrom_nil (d : Dialect) (m : Mode) : tokensFrom d m [] = m.finish := by
  rw [tokensFrom.eq_def]

theorem tokensFrom_cons {finished : List Token} {m' : Mode} (h : m.next d c = some (finished, m'))
    (rest : List Char) :
    tokensFrom d m (c :: rest) = (tokensFrom d m' rest).map (finished ++ ·) := by
  rw [tokensFrom.eq_def]
  simp only [h]

theorem tokensFrom_cons_eq_some {rest : List Char} (h : tokensFrom d m (c :: rest) = some xs) :
    ∃ finished m' more, m.next d c = some (finished, m') ∧ tokensFrom d m' rest = some more ∧
      xs = finished ++ more := by
  rw [tokensFrom.eq_def] at h
  cases hnext : m.next d c with
  | none => simp [hnext] at h
  | some p =>
    simp only [hnext, Option.map_eq_some_iff] at h
    obtain ⟨more, hmore, rfl⟩ := h
    exact ⟨p.1, p.2, more, rfl, hmore, rfl⟩

/-! ## Cuts -/

/-- A character finishes whatever can be finished, and then gives `out`. -/
def Cuts (d : Dialect) (c : Char) (out : List Token) : Prop :=
  ∀ m finished, Mode.finish m = some finished → m.next d c = some (finished ++ out, .between)

theorem Cuts.of_begins {out : List Token} (h : begins d c = some (out, .between))
    (hword : isWordChar c = false) (hdash : c ≠ '-') (hstar : c ≠ '*') : Cuts d c out := by
  have hafter (finished : List Token) : beginsAfter d finished c = some (finished ++ out, .between) := by
    rw [beginsAfter, h]
    rfl
  intro m finished hm
  cases m with
  | between =>
    cases hm
    exact h
  | word cs =>
    cases hm
    rw [Mode.next, hword, if_neg Bool.false_ne_true, hafter]
  | sign a =>
    cases hm
    have hcomment : beginsComment a c = false := by
      unfold beginsComment
      simp [hdash, hstar]
    rw [Mode.next, hcomment, if_neg Bool.false_ne_true, hafter]
  | quoted q cs => cases hm
  | escaped q cs => cases hm

theorem isWordChar_of_isBlank (h : Text.isBlank c) : isWordChar c = false := by
  have hcodes : ∀ n ∈ Reference.blankCodes, isWordChar (Char.ofNat n) = false := by decide +kernel
  have hc := hcodes c.toNat (Reference.mem_blankCodes h)
  rwa [Char.ofNat_toNat] at hc

theorem cuts_blank (h : Text.isBlank c) : Cuts d c [] := by
  have hbegins : begins d c = some ([], .between) := by
    rw [begins, if_pos h]
  refine .of_begins hbegins (isWordChar_of_isBlank h) ?_ ?_
  · rintro rfl
    exact absurd h (by decide)
  · rintro rfl
    exact absurd h (by decide)

theorem cuts_opening : Cuts d '(' [.opening] := .of_begins rfl (by decide) (by decide) (by decide)

theorem cuts_closing : Cuts d ')' [.closing] := .of_begins rfl (by decide) (by decide) (by decide)

/-- A text may be cut where all tokens are finished. -/
theorem tokensFrom_append_cut {out : List Token} (hc : Cuts d c out) (a b : List Char)
    (h : tokensFrom d m a = some xs) :
    tokensFrom d m (a ++ c :: b) = (tokens d b).map (xs ++ out ++ ·) := by
  induction a generalizing m xs with
  | nil =>
    rw [tokensFrom_nil] at h
    exact tokensFrom_cons (hc m xs h) b
  | cons x a ih =>
    obtain ⟨finished, m', more, hnext, hmore, rfl⟩ := tokensFrom_cons_eq_some h
    rw [List.cons_append, tokensFrom_cons hnext, ih hmore, Option.map_map]
    refine congrArg (fun f => (tokens d b).map f) (funext fun ys => ?_)
    simp only [Function.comp_apply, List.append_assoc]

theorem tokens_append_cut {out : List Token} (hc : Cuts d c out) {a b : List Char}
    (ha : tokens d a = some xs) (hb : tokens d b = some ys) :
    tokens d (a ++ c :: b) = some (xs ++ out ++ ys) := by
  rw [tokens, tokensFrom_append_cut hc a b ha, hb]
  rfl

theorem tokens_nil : tokens d [] = some [] := by
  rw [tokens, tokensFrom_nil]
  rfl

theorem tokens_concat_cut {out : List Token} (hc : Cuts d c out) {a : List Char}
    (ha : tokens d a = some xs) : tokens d (a ++ [c]) = some (xs ++ out) := by
  rw [tokens_append_cut (b := []) hc ha tokens_nil, List.append_nil]

/-! ## Blanks around a text -/

theorem tokens_of_cons_blank (hc : Text.isBlank c) {b : List Char} (h : tokens d (c :: b) = some xs) :
    tokens d b = some xs := by
  have hnext : Mode.next d .between c = some ([], .between) := cuts_blank hc .between [] rfl
  rw [tokens, tokensFrom_cons hnext] at h
  obtain ⟨ys, hys, rfl⟩ := Option.map_eq_some_iff.mp h
  exact hys

theorem tokensFrom_of_concat_blank (hc : Text.isBlank c) {a : List Char}
    (h : tokensFrom d m (a ++ [c]) = some xs) : tokensFrom d m a = some xs := by
  induction a generalizing m xs with
  | nil =>
    -- Nothing but the blank: what it finished can be finished without it, and it closes no quote.
    obtain ⟨finished, m', more, hnext, hmore, rfl⟩ := tokensFrom_cons_eq_some h
    rw [tokensFrom_nil] at hmore ⊢
    cases hm : m.finish with
    | some done =>
      rw [cuts_blank hc m done hm] at hnext
      cases hnext
      cases hmore
      rw [List.append_nil, List.append_nil]
    | none =>
      cases m with
      | between => cases hm
      | word cs => cases hm
      | sign a => cases hm
      | escaped q cs =>
        cases hnext
        cases hmore
      | quoted q cs =>
        have hend : c ≠ q.ending := by
          rintro rfl
          cases q <;> exact absurd hc (by decide)
        rw [Mode.next, if_neg hend] at hnext
        split at hnext <;>
        · cases hnext
          cases hmore
  | cons x a ih =>
    obtain ⟨finished, m', more, hnext, hmore, rfl⟩ := tokensFrom_cons_eq_some h
    rw [tokensFrom_cons hnext, ih hmore]
    rfl

/-- Trimming a text keeps its tokens. -/
theorem tokens_trim {cs : List Char} (h : tokens d cs = some xs) : tokens d (Text.trimChars cs) = some xs := by
  have hleft : ∀ cs, tokens d cs = some xs → tokens d (cs.dropWhile Text.isBlank) = some xs := by
    intro cs
    induction cs with
    | nil => exact id
    | cons c cs ih =>
      intro h
      rw [List.dropWhile_cons]
      split
      · next hc => exact ih (tokens_of_cons_blank hc h)
      · exact h
  have hright : ∀ cs, tokens d cs = some xs →
      tokens d (cs.reverse.dropWhile Text.isBlank).reverse = some xs := by
    intro cs
    induction cs using List.reverseRecOn with
    | nil => exact id
    | append_singleton cs c ih =>
      intro h
      rw [List.reverse_append, List.reverse_singleton, List.singleton_append, List.dropWhile_cons]
      split
      · next hc => exact ih (tokensFrom_of_concat_blank hc h)
      · rwa [List.reverse_cons, List.reverse_reverse]
  exact hright _ (hleft _ h)

end SqlWeave.Reading
