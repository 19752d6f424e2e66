import Mathlib.Data.List.DropRight
import Mathlib.Data.List.Forall2
import SqlWeave.Proofs.Session.Marking
import SqlWeave.Proofs.Session.Stranding

/-!
# Statements that are taken to only read

The runner of an embedded database does not mark itself for a statement that opens with a reading keyword behind
blanks and comments. A comment runs from its start to its first end, but the test lets it run to any later end, too,
and it takes letters for those of a keyword that only count as the same. `ReadOnly.Led` tells what may lead a
statement in, for both ways to read a comment; where the two differ, a statement that writes is taken for one that
reads.
-/

namespace SqlWeave

open Session World

namespace ReadOnly

/-! ## Opening with a keyword -/

/-- A letter of a keyword, in any case. -/
def anyCase (keyword c : Char) : Bool := c.toUpper = keyword

/-- The text opens with a reading keyword, spelled with such letters, and the keyword ends where it does. -/
def Opens (same : Char → Char → Bool) (cs : List Char) : Prop :=
  ∃ k ∈ keywords, ∃ word rest, cs = word ++ rest ∧ List.Forall₂ (fun k c => same k c = true) k.toList word ∧
    ∀ c ∈ rest.head?, Text.isWord c = false

/-- A text with no end of a comment in it. -/
def Endless (cs : List Char) : Prop := ¬ ['*', '/'] <:+: cs

/-- Blanks and comments lead the text in, and `rest` is what follows them. What stands inside a comment has to be
`inside`. -/
inductive Led (inside : List Char → Prop) : List Char → List Char → Prop
  | done {rest : List Char} : Led inside rest rest
  | blank {c : Char} {cs rest : List Char} (hc : Text.isBlank c = true) (h : Led inside cs rest) :
    Led inside (c :: cs) rest
  | comment {inner cs rest : List Char} (hinner : inside inner) (h : Led inside cs rest) :
    Led inside ('/' :: '*' :: (inner ++ '*' :: '/' :: cs)) rest

/-- A reading keyword follows blanks and whole comments, each of which runs from its start to its first end. -/
def OpensReading (cs : List Char) : Prop := ∃ rest, Led Endless cs rest ∧ Opens anyCase rest

/-- A reading keyword follows blanks and comments, each of which may run to any end. Its letters only have to count as
those of the keyword. -/
def TakenToRead (cs : List Char) : Prop := ∃ rest, Led (fun _ => True) cs rest ∧ Opens sameLetter rest

/-- The text is taken to read, with a comment that runs beyond its first end, or with a letter that only counts as
the one of a keyword. -/
def Disguised (cs : List Char) : Prop :=
  ∃ rest, Led (fun _ => True) cs rest ∧ Opens sameLetter rest ∧ ¬ (Led Endless cs rest ∧ Opens anyCase rest)

variable {cs rest rest' tail : List Char} {same : Char → Char → Bool} {inside : List Char → Prop}

theorem sameLetter_of_anyCase {k c : Char} (h : anyCase k c = true) : sameLetter k c = true := by
  unfold anyCase at h
  unfold sameLetter
  rw [h, Bool.true_or, Bool.true_or]

theorem Opens.of_anyCase (h : Opens anyCase cs) : Opens sameLetter cs := by
  obtain ⟨k, hk, word, rest, hcs, hword, hrest⟩ := h
  exact ⟨k, hk, word, rest, hcs, hword.imp fun _ _ => sameLetter_of_anyCase, hrest⟩

theorem beginsWith_eq_true_iff (k : List Char) : beginsWith k cs = true ↔ ∃ word rest, cs = word ++ rest ∧
    List.Forall₂ (fun k c => sameLetter k c = true) k word ∧ ∀ c ∈ rest.head?, Text.isWord c = false := by
  induction k generalizing cs with
  | nil =>
    constructor
    · intro h
      refine ⟨[], cs, rfl, .nil, fun c hc => ?_⟩
      cases cs with
      | nil => cases hc
      | cons d ds =>
        cases hc
        simpa [beginsWith] using h
    · rintro ⟨word, rest, rfl, hword, hrest⟩
      cases hword
      cases rest with
      | nil => rfl
      | cons d ds => simpa [beginsWith] using hrest d rfl
  | cons k ks ih =>
    constructor
    · intro h
      cases cs with
      | nil => cases h
      | cons c cs =>
        obtain ⟨hletter, hmore⟩ := Bool.and_eq_true_iff.mp h
        obtain ⟨word, rest, rfl, hword, hrest⟩ := ih.mp hmore
        exact ⟨c :: word, rest, rfl, .cons hletter hword, hrest⟩
    · rintro ⟨word, rest, rfl, hword, hrest⟩
      cases hword with
      | cons hletter hmore => exact Bool.and_eq_true_iff.mpr ⟨hletter, ih.mpr ⟨_, rest, rfl, hmore, hrest⟩⟩

theorem opens_iff : Opens sameLetter cs ↔ (keywords.any fun k => beginsWith k.toList cs) = true := by
  rw [List.any_eq_true]
  exact exists_congr fun k => and_congr_right fun _ => (beginsWith_eq_true_iff k.toList).symm

theorem reads_eq_true_iff : reads cs = true ↔ Opens sameLetter (cs.dropWhile Text.isBlank) := opens_iff.symm

theorem toUpper_of_not_small {c : Char} (h : ¬ (97 ≤ c.toNat ∧ c.toNat ≤ 122)) : c.toUpper = c := by
  have hsmall : ¬ (97 ≤ c.val ∧ c.val ≤ 122) := by
    rw [UInt32.le_iff_toNat_le, UInt32.le_iff_toNat_le]
    exact h
  exact dif_neg hsmall

/-- A letter of a keyword is the same one, a small one, or one of three others. -/
theorem sameLetter_cases {k c : Char} (h : sameLetter k c = true) :
    c = k ∨ (97 ≤ c.toNat ∧ c.toNat ≤ 122) ∨ c.toNat ∈ [0x17f, 0x130, 0x131] := by
  simp only [sameLetter, Bool.or_eq_true, Bool.and_eq_true, decide_eq_true_eq] at h
  rcases h with (h | ⟨-, h⟩) | ⟨-, h | h⟩
  · by_cases hsmall : 97 ≤ c.toNat ∧ c.toNat ≤ 122
    · exact .inr (.inl hsmall)
    · exact .inl ((toUpper_of_not_small hsmall).symm.trans h)
  all_goals simp [h]

/-- Neither a blank nor the start of a comment counts as the first letter of a keyword. -/
theorem head_of_sameLetter {k c : Char} (hk : k ∈ ['S', 'P', 'E']) (h : sameLetter k c = true) :
    Text.isBlank c = false ∧ c ≠ '/' := by
  rcases sameLetter_cases h with rfl | hsmall | hcode
  · simp only [List.mem_cons, List.not_mem_nil, or_false] at hk
    rcases hk with rfl | rfl | rfl
    all_goals exact ⟨by decide, by decide⟩
  · constructor
    · simp [Text.isBlank, Text.isSpace]
      omega
    · rintro rfl
      simp at hsmall
  · constructor
    · simp only [List.mem_cons, List.not_mem_nil, or_false] at hcode
      rcases hcode with h | h | h
      all_goals simp [Text.isBlank, Text.isSpace, h]
    · rintro rfl
      simp at hcode

/-- A keyword begins neither with a blank nor with a comment. -/
theorem Opens.head (h : Opens sameLetter cs) : ∃ c tail, cs = c :: tail ∧ Text.isBlank c = false ∧ c ≠ '/' := by
  obtain ⟨k, hk, word, rest, rfl, hword, -⟩ := h
  have hfirst : ∃ first ∈ ['S', 'P', 'E'], ∃ more, k.toList = first :: more := by
    simp only [keywords, List.mem_cons, List.not_mem_nil, or_false] at hk
    rcases hk with rfl | rfl | rfl
    · exact ⟨'S', by simp, _, rfl⟩
    · exact ⟨'P', by simp, _, rfl⟩
    · exact ⟨'E', by simp, _, rfl⟩
  obtain ⟨first, hmem, more, hmore⟩ := hfirst
  rw [hmore] at hword
  cases hword with
  | @cons _ c _ word hletter _ => exact ⟨c, word ++ rest, rfl, head_of_sameLetter hmem hletter⟩

/-! ## What the test accepts -/

theorem Led.of_dropWhile (h : Led inside (cs.dropWhile Text.isBlank) rest) : Led inside cs rest := by
  induction cs with
  | nil => exact h
  | cons c cs ih =>
    rw [List.dropWhile_cons] at h
    split at h
    case isTrue hc => exact .blank hc (ih h)
    case isFalse => exact h

theorem readsAfterComment_eq_true_iff : readsAfterComment cs = true ↔
    ∃ inner tail, cs = inner ++ '*' :: '/' :: tail ∧ reads tail = true := by
  fun_induction readsAfterComment cs with
  | case1 => simp
  | case2 rest ih =>
    rw [Bool.or_eq_true, ih]
    constructor
    · rintro (h | ⟨inner, tail, rfl, h⟩)
      · exact ⟨[], rest, rfl, h⟩
      · exact ⟨'*' :: '/' :: inner, tail, rfl, h⟩
    · rintro ⟨inner, tail, hcs, h⟩
      match inner with
      | [] =>
        simp only [List.nil_append, List.cons.injEq, true_and] at hcs
        exact .inl (hcs ▸ h)
      | [_] => simp at hcs
      | _ :: _ :: inner =>
        simp only [List.cons_append, List.cons.injEq] at hcs
        exact .inr ⟨inner, tail, hcs.2.2, h⟩
  | case3 c rest hnot ih =>
    rw [ih]
    constructor
    · rintro ⟨inner, tail, rfl, h⟩
      exact ⟨c :: inner, tail, rfl, h⟩
    · rintro ⟨inner, tail, hcs, h⟩
      match inner with
      | [] =>
        simp only [List.nil_append, List.cons.injEq] at hcs
        exact absurd hcs.2 (hnot tail hcs.1)
      | _ :: inner =>
        simp only [List.cons_append, List.cons.injEq] at hcs
        exact ⟨inner, tail, hcs.2, h⟩

/-- A keyword follows the blanks at the head of a text, or some end of the comment there. -/
def Taken (cs : List Char) : Prop :=
  Opens sameLetter (cs.dropWhile Text.isBlank) ∨ ∃ inner tail,
    cs.dropWhile Text.isBlank = '/' :: '*' :: (inner ++ '*' :: '/' :: tail) ∧
      Opens sameLetter (tail.dropWhile Text.isBlank)

theorem test_eq_true_iff_taken (sql : String) : test sql = true ↔ Taken sql.toList := by
  unfold test Taken
  split
  case h_1 rest hlead =>
    rw [hlead, readsAfterComment_eq_true_iff]
    constructor
    · rintro ⟨inner, tail, rfl, h⟩
      exact .inr ⟨inner, tail, rfl, reads_eq_true_iff.mp h⟩
    · rintro (h | ⟨inner, tail, heq, h⟩)
      · obtain ⟨c, tail, heq, -, hc⟩ := h.head
        cases heq
        exact absurd rfl hc
      · cases heq
        exact ⟨inner, tail, rfl, reads_eq_true_iff.mpr h⟩
  case h_2 hlead =>
    rw [reads_eq_true_iff, List.dropWhile_idempotent, or_iff_left]
    rintro ⟨inner, tail, heq, -⟩
    exact hlead _ heq

/-- However many comments lead a text in, and however far each is let run, that is no more than one comment. -/
theorem taken_iff : Taken cs ↔ TakenToRead cs := by
  constructor
  · rintro (h | ⟨inner, tail, hlead, h⟩)
    · exact ⟨_, .of_dropWhile .done, h⟩
    · refine ⟨_, .of_dropWhile ?_, h⟩
      rw [hlead]
      exact .comment trivial (.of_dropWhile .done)
  · rintro ⟨rest, hled, hopens⟩
    induction hled with
    | done =>
      obtain ⟨c, tail, rfl, hblank, -⟩ := hopens.head
      refine .inl ?_
      rwa [List.dropWhile_cons_of_neg (by simp [hblank])]
    | blank hc _ ih =>
      unfold Taken
      rw [List.dropWhile_cons_of_pos hc]
      exact ih hopens
    | @comment inner cs rest _ _ ih =>
      have hslash : ('/' :: '*' :: (inner ++ '*' :: '/' :: cs)).dropWhile Text.isBlank =
          '/' :: '*' :: (inner ++ '*' :: '/' :: cs) := List.dropWhile_cons_of_neg (by decide)
      refine .inr ?_
      rw [hslash]
      rcases ih hopens with h | ⟨inner', tail, hlead, h⟩
      · exact ⟨inner, cs, rfl, h⟩
      · -- The first comment runs on to the end behind which the keyword stands.
        have hcs := List.takeWhile_append_dropWhile (p := Text.isBlank) (l := cs)
        rw [hlead] at hcs
        refine ⟨inner ++ '*' :: '/' :: (cs.takeWhile Text.isBlank ++ '/' :: '*' :: inner'), tail, ?_, h⟩
        nth_rewrite 1 [← hcs]
        simp only [List.append_assoc, List.cons_append]

/-- The test accepts exactly the texts that are taken to read. -/
theorem test_eq_true_iff (sql : String) : test sql = true ↔ TakenToRead sql.toList :=
  (test_eq_true_iff_taken sql).trans taken_iff

/-! ## What leads a statement in -/

/-- The text begins with neither a blank nor a comment. -/
def Stops (cs : List Char) : Prop := ∀ c ∈ cs.head?, Text.isBlank c = false ∧ c ≠ '/'

theorem Opens.stops (h : Opens sameLetter cs) : Stops cs := by
  obtain ⟨c, tail, rfl, hc⟩ := h.head
  intro d hd
  cases hd
  exact hc

theorem Endless.of_cons {c : Char} (h : Endless (c :: cs)) : Endless cs :=
  fun hend => h (hend.trans (List.suffix_cons c cs).isInfix)

/-- A comment has one first end. -/
theorem Endless.unique {inner inner' : List Char} (h : Endless inner) (h' : Endless inner')
    (heq : inner ++ '*' :: '/' :: cs = inner' ++ '*' :: '/' :: tail) : inner = inner' := by
  -- A text in which the other one's end would begin is not endless.
  have hlonger {c : Char} {xs ys zs : List Char} (hxs : Endless (c :: xs))
      (hsame : c :: xs ++ '*' :: '/' :: ys = '*' :: '/' :: zs) : False := by
    match xs with
    | [] => simp at hsame
    | d :: xs =>
      simp only [List.cons_append, List.cons.injEq] at hsame
      rw [hsame.1, hsame.2.1] at hxs
      exact hxs ⟨[], xs, rfl⟩
  induction inner generalizing inner' with
  | nil =>
    cases inner' with
    | nil => rfl
    | cons c inner' => exact (hlonger h' heq.symm).elim
  | cons c inner ih =>
    cases inner' with
    | nil => exact (hlonger h heq).elim
    | cons c' inner' =>
      obtain ⟨rfl, hmore⟩ := List.cons.inj heq
      rw [ih h.of_cons h'.of_cons hmore]

/-- What follows the blanks and the whole comments at the head of a text is one text. -/
theorem Led.unique (h : Led Endless cs rest) (h' : Led Endless cs rest') (hstops : Stops rest)
    (hstops' : Stops rest') : rest = rest' := by
  induction h generalizing rest' with
  | done =>
    cases h' with
    | done => rfl
    | blank hc _ => exact absurd hc (by simp [(hstops _ rfl).1])
    | comment _ _ => exact absurd rfl (hstops _ rfl).2
  | blank hc _ ih =>
    cases h' with
    | done => exact absurd hc (by simp [(hstops' _ rfl).1])
    | blank _ h' => exact ih h' hstops hstops'
    | comment _ _ => exact absurd hc (by decide)
  | @comment inner cs rest hinner _ ih =>
    generalize htext : '/' :: '*' :: (inner ++ '*' :: '/' :: cs) = text at h'
    cases h' with
    | done => exact absurd rfl (hstops' _ (by rw [← htext]; rfl)).2
    | blank hc _ =>
      cases htext
      exact absurd hc (by decide)
    | @comment inner' cs' _ hinner' h' =>
      simp only [List.cons.injEq, true_and] at htext
      obtain rfl := hinner.unique hinner' htext
      have hcs : cs = cs' := by simpa using htext
      exact ih (hcs ▸ h') hstops hstops'

theorem takenToRead_iff (h : ¬ OpensReading cs) : TakenToRead cs ↔ Disguised cs := by
  constructor
  · rintro ⟨rest, hled, hopens⟩
    exact ⟨rest, hled, hopens, fun hreads => h ⟨rest, hreads⟩⟩
  · rintro ⟨rest, hled, hopens, -⟩
    exact ⟨rest, hled, hopens⟩

end ReadOnly

/-! ## The mark of a statement that writes -/

namespace World

/-- The runner remembers that something may have changed: in a transaction it is marked, and elsewhere the changes are
handed to the automatic save at once, which ends with the given result. -/
inductive Remembers (r : Nat) (w : World) : Result Unit → World → Prop
  | marked {v : World} (hactive : w.activeAt r = true) (hv : Unsaved w v) (hdirty : (v.runners.get r).dirty = true) :
    Remembers r w (.ok ()) v
  | handed {x : Result Unit} {v : World} (hinactive : w.activeAt r = false) (hv : Hands r w x v) : Remembers r w x v

variable {r : Nat} {sql : Value} {s : String} {v w : World}

theorem modifies_eq_false_iff (htext : sql.text? = some s) (hwrites : ¬ ReadOnly.OpensReading s.toList) :
    modifies sql = false ↔ ReadOnly.Disguised s.toList := by
  rw [modifies, htext, ← ReadOnly.takenToRead_iff hwrites, ← ReadOnly.test_eq_true_iff]
  simp

theorem Marks.remembers {x : Result Unit} (h : Marks r sql w x v) (hmodifies : ¬ modifies sql = false) :
    Remembers r w x v := by
  cases h with
  | spared hreads hv => exact absurd hreads hmodifies
  | marked _ hactive hv hdirty => exact .marked hactive hv hdirty
  | handed _ hinactive hv => exact .handed hinactive hv

theorem Marks.spares {x : Result Unit} (h : Marks r sql w x v) (hreads : modifies sql = false)
    (hclean : (w.runners.get r).dirty = false) : Spares r w v := by
  cases h with
  | spared _ hv => exact hv
  | marked hmodifies _ _ _ => exact absurd (hreads.symm.trans hmodifies) (by decide)
  | handed hdue _ _ =>
    rcases hdue with hmodifies | hdirty
    · exact absurd (hreads.symm.trans hmodifies) (by decide)
    · exact absurd (hclean.symm.trans hdirty) (by decide)

/-- A statement on a runner of an embedded database that opens with no reading keyword behind blanks and whole
comments. When it is run well the runner remembers that something may have changed, unless the statement is disguised;
when it fails, it is the statement or the automatic save that failed. After a disguised one a runner without a mark
stays without one, and no image was asked for. -/
theorem remembers_unless_disguised (r : Nat) (sql parameters : Value) (hdialect : w.dialect = .sqljs)
    (htext : sql.text? = some s) (hwrites : ¬ ReadOnly.OpensReading s.toList) :
    (¬ ReadOnly.Disguised s.toList →
      (∀ outcome v, ends (query r sql parameters) w = (.ok outcome, v) → Remembers r w (.ok ()) v) ∧
      (∀ f v, ends (query r sql parameters) w = (.error f, v) → Spares r w v ∨ Remembers r w (.error f) v)) ∧
    (ReadOnly.Disguised s.toList → (w.runners.get r).dirty = false →
      Spares r w (ends (query r sql parameters) w).2) := by
  have hmarks := marks_queries hdialect (queries_query r sql parameters w)
  rw [← modifies_eq_false_iff htext hwrites]
  refine ⟨fun hmodifies => ⟨fun outcome v hq => ?_, fun f v hq => ?_⟩, fun hreads hclean => ?_⟩
  · rw [hq] at hmarks
    rcases hmarks with ⟨-, f, hf⟩ | hmarks
    · cases hf
    · exact hmarks.remembers hmodifies
  · rw [hq] at hmarks
    rcases hmarks with ⟨hspares, -⟩ | hmarks
    · exact .inl hspares
    · exact .inr (hmarks.remembers hmodifies)
  · rcases hmarks with ⟨hspares, -⟩ | hmarks
    · exact hspares
    · exact hmarks.spares hreads hclean

/-- An embedded data source that is connected, hands its image to a callback, and has made its runner. -/
def handingImages : World :=
  (ends createRunner (SourceCall.connect.after
    { dialect := .sqljs
      settings := { values := [("auto_save", .bool true), ("auto_save_callback", .receiver none)] } })).2

/-- A deletion behind a comment. Another comment in it has a keyword behind its end. -/
def disguisedDeletion : String := "/* old */ DELETE FROM t WHERE id IN (/* ids */ SELECT id FROM u)"

theorem not_opensReading_disguisedDeletion : ¬ ReadOnly.OpensReading disguisedDeletion.toList := by
  let deletion := "DELETE FROM t WHERE id IN (/* ids */ SELECT id FROM u)".toList
  have hled : ReadOnly.Led ReadOnly.Endless disguisedDeletion.toList deletion := by
    have hinner : ReadOnly.Endless " old ".toList := by
      unfold ReadOnly.Endless
      decide
    exact .comment hinner (.blank (by decide) .done)
  have hstops : ReadOnly.Stops deletion := by
    intro c hc
    cases hc
    decide
  rintro ⟨rest, hrest, hopens⟩
  obtain rfl := hled.unique hrest hstops hopens.of_anyCase.stops
  exact absurd (ReadOnly.opens_iff.mp hopens.of_anyCase) (by decide)

/-- The deletion is run well, and it is not remembered. -/
theorem spares_disguisedDeletion :
    (∃ outcome, (ends (query 0 (.text disguisedDeletion) .null) handingImages).1 = .ok outcome) ∧
      Spares 0 handingImages (ends (query 0 (.text disguisedDeletion) .null) handingImages).2 := by
  have hwrites := not_opensReading_disguisedDeletion
  have hdisguised : ReadOnly.Disguised disguisedDeletion.toList :=
    (ReadOnly.takenToRead_iff hwrites).mp ((ReadOnly.test_eq_true_iff _).mp (by decide))
  have hdeletion := remembers_unless_disguised (w := handingImages) 0 (.text disguisedDeletion) .null rfl rfl hwrites
  exact ⟨⟨_, rfl⟩, hdeletion.2 hdisguised rfl⟩

end World

end SqlWeave
