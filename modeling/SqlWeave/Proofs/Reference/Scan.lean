import Mathlib.Data.List.Induction
import Mathlib.Data.List.TakeWhile
import SqlWeave.Dialect.Reference
import SqlWeave.Text.Blank

/-!
# Where a text may be cut

The references of a text are found by one pass from left to right. A character that is neither a colon
nor part of a name ends every reference before it, so a text may be cut there: its references are those
before the cut and those after it. From this follows what the rewritings of a text do to its references:
doubling percent signs and trimming blanks leave them as they are, and the references of a statement are
those of its parts.
-/

namespace SqlWeave.Reference

/-! ## Cuts -/

/-- A character at which a text may be cut. -/
def isCut (c : Char) : Bool := !isNameChar c && c ≠ ':'

/-- A cut after which a reference may begin at once. -/
def isOpenCut (c : Char) : Bool := isCut c && !blocks c

theorem isNameChar_of_isCut {c : Char} (h : isCut c) : isNameChar c = false := by
  unfold isCut at h
  simp_all

theorem ne_colon_of_isCut {c : Char} (h : isCut c) : c ≠ ':' := by
  unfold isCut at h
  simp_all

/-- A cut ends the run of name characters before it. -/
theorem takeWhile_append_cut {c : Char} (hc : isCut c) (xs ys : List Char) :
    (xs ++ c :: ys).takeWhile isNameChar = xs.takeWhile isNameChar := by
  induction xs with
  | nil => simp [isNameChar_of_isCut hc]
  | cons x xs ih =>
    rw [List.cons_append, List.takeWhile_cons, List.takeWhile_cons, ih]

theorem afterColon?_append_cut {c : Char} (hc : isCut c) (xs ys : List Char) :
    afterColon? (xs ++ c :: ys) = afterColon? xs := by
  unfold afterColon?
  rw [takeWhile_append_cut hc]

/-- A reference is a colon and the run of name characters after it. -/
theorem text_of_afterColon? {cs : List Char} {r : Reference} (h : afterColon? cs = some r) :
    r.text.toList = ':' :: cs.takeWhile isNameChar := by
  unfold afterColon? at h
  split at h
  · cases h
  · next hrun =>
    cases h
    simp [hrun, text]
  · next hrun =>
    cases h
    simp [text]

theorem length_text {cs : List Char} {r : Reference} (h : afterColon? cs = some r) :
    r.text.length - 1 = (cs.takeWhile isNameChar).length := by
  rw [← String.length_toList, text_of_afterColon? h]
  rfl

/-- A reference takes no more characters than there are after its colon. -/
theorem length_text_of_afterColon? {cs : List Char} {r : Reference} (h : afterColon? cs = some r) :
    r.text.length - 1 ≤ cs.length := by
  rw [length_text h]
  exact (List.takeWhile_prefix _).length_le

/-- Scanning goes on after a cut as it would begin there, but for what the cut blocks. -/
theorem scan_append_cut {c : Char} (hc : isCut c) (ys : List Char) (xs : List Char) :
    ∀ (blocked : Bool) (inside : Nat), inside ≤ xs.length →
      scan blocked inside (xs ++ c :: ys) =
        scan blocked inside xs ++ Piece.plain c :: scan (blocks c) 0 ys := by
  -- The bound on `inside` says that no reference found before the cut reaches over it.
  induction xs with
  | nil =>
    intro blocked inside hle
    obtain rfl : inside = 0 := Nat.le_zero.mp hle
    simp [scan, ne_colon_of_isCut hc]
  | cons x xs ih =>
    intro blocked inside hle
    cases inside with
    | succ n =>
      rw [List.cons_append, scan, scan]
      exact ih _ n (Nat.le_of_succ_le_succ hle)
    | zero =>
      rw [List.cons_append, scan, scan, afterColon?_append_cut hc]
      split
      · split
        · next r hr =>
          rw [ih _ _ (length_text_of_afterColon? hr), List.cons_append]
        · rw [ih _ _ (Nat.zero_le _), List.cons_append]
      · rw [ih _ _ (Nat.zero_le _), List.cons_append]

/-! ## Nothing is lost -/

end Reference

/-- A piece as it stands in the text. -/
def Piece.text : Piece → String
  | .plain c => String.singleton c
  | .reference r => r.text

namespace Reference

theorem text_scan (cs : List Char) : ∀ (blocked : Bool) (inside : Nat),
    (scan blocked inside cs).flatMap (·.text.toList) = cs.drop inside := by
  induction cs with
  | nil =>
    intro blocked inside
    cases inside <;> rfl
  | cons c cs ih =>
    intro blocked inside
    cases inside with
    | succ n =>
      rw [scan, ih]
      rfl
    | zero =>
      have hplain (b : Bool) : (Piece.plain c :: scan b 0 cs).flatMap (·.text.toList) = c :: cs := by
        rw [List.flatMap_cons, ih, List.drop_zero, Piece.text, String.toList_singleton]
        rfl
      rw [scan, List.drop_zero]
      split
      · next hcolon =>
        split
        · next r hr =>
          -- The reference stands for the colon and for the run that the scan jumps over.
          have hrun : cs.takeWhile isNameChar ++ cs.drop (cs.takeWhile isNameChar).length = cs :=
            List.prefix_iff_eq_append.mp (List.takeWhile_prefix _)
          have hc : c = ':' := by simp_all
          rw [List.flatMap_cons, ih, Piece.text, text_of_afterColon? hr, length_text hr, hc, List.cons_append, hrun]
        · exact hplain true
      · exact hplain (blocks c)

/-- The pieces of a text make up the text. -/
theorem text_pieces (sql : String) : (pieces sql).flatMap (·.text.toList) = sql.toList :=
  text_scan sql.toList false 0

/-! ## The references of characters -/

/-- The references that are found among characters. -/
def found (cs : List Char) : List Reference := (scan false 0 cs).filterMap Piece.reference?

theorem all_eq_found (sql : String) : all sql = found sql.toList := rfl

/-- A text that is cut where a reference may begin has the references of both of its parts. -/
theorem found_append_cut {c : Char} (hc : isOpenCut c) (xs ys : List Char) :
    found (xs ++ c :: ys) = found xs ++ found ys := by
  have hcut : isCut c ∧ blocks c = false := by simpa [isOpenCut] using hc
  unfold found
  rw [scan_append_cut hcut.1 ys xs false 0 (Nat.zero_le _), hcut.2, List.filterMap_append]
  rfl

theorem found_cons_cut {c : Char} (hc : isOpenCut c) (ys : List Char) : found (c :: ys) = found ys :=
  found_append_cut hc [] ys

theorem found_concat_cut {c : Char} (hc : isOpenCut c) (xs : List Char) :
    found (xs ++ [c]) = found xs := by
  rw [found_append_cut hc]
  exact List.append_nil _

/-- What is dropped in front of a text, when it is all cuts, held no reference. -/
theorem found_dropWhile {p : Char → Bool} (hp : ∀ c, p c → isOpenCut c) (cs : List Char) :
    found (cs.dropWhile p) = found cs := by
  induction cs with
  | nil => rfl
  | cons c cs ih =>
    rw [List.dropWhile_cons]
    split
    · next h => rw [ih, found_cons_cut (hp c h)]
    · rfl

theorem found_dropWhile_reverse {p : Char → Bool} (hp : ∀ c, p c → isOpenCut c) (cs : List Char) :
    found (cs.reverse.dropWhile p).reverse = found cs := by
  induction cs using List.reverseRecOn with
  | nil => rfl
  | append_singleton cs c ih =>
    rw [List.reverse_append, List.reverse_singleton, List.singleton_append, List.dropWhile_cons]
    split
    · next h => rw [ih, found_concat_cut (hp c h)]
    · rw [List.reverse_cons, List.reverse_reverse]

/-! ## Rewritings that keep the references -/

/-- The code points of the blanks. -/
def blankCodes : List Nat :=
  [9, 10, 11, 12, 13, 28, 29, 30, 31, 32, 0x85, 0xa0, 0x1680, 0x2000, 0x2001, 0x2002, 0x2003, 0x2004,
    0x2005, 0x2006, 0x2007, 0x2008, 0x2009, 0x200a, 0x2028, 0x2029, 0x202f, 0x205f, 0x3000]

theorem mem_blankCodes {c : Char} (h : Text.isBlank c) : c.toNat ∈ blankCodes := by
  unfold Text.isBlank Text.isSpace at h
  simp only [Bool.or_eq_true, Bool.and_eq_true, decide_eq_true_eq] at h
  simp only [blankCodes, List.mem_cons, List.not_mem_nil, or_false]
  omega

theorem isOpenCut_of_isBlank {c : Char} (h : Text.isBlank c) : isOpenCut c := by
  -- The blanks are few, so each of them is tried.
  have hcodes : ∀ n ∈ blankCodes, isOpenCut (Char.ofNat n) := by decide +kernel
  have hc := hcodes c.toNat (mem_blankCodes h)
  rwa [Char.ofNat_toNat] at hc

/-- Trimming drops no reference and makes none. -/
theorem all_trim (sql : String) : all (Text.trim sql) = all sql := by
  rw [all_eq_found, all_eq_found, Text.trim, String.toList_ofList, Text.trimChars, Text.trimBy]
  rw [found_dropWhile_reverse fun _ => isOpenCut_of_isBlank, found_dropWhile fun _ => isOpenCut_of_isBlank]

/-! ## Percent signs

A text whose percent signs are doubled has the same pieces, but for the percent signs. -/

/-- Writes every percent sign twice. -/
def doublePercent (cs : List Char) : List Char := cs.flatMap fun c => if c = '%' then ['%', '%'] else [c]

theorem doublePercent_cons_of_ne {c : Char} (h : c ≠ '%') (cs : List Char) :
    doublePercent (c :: cs) = c :: doublePercent cs := by
  rw [doublePercent, List.flatMap_cons, if_neg h]
  rfl

theorem takeWhile_doublePercent (cs : List Char) :
    (doublePercent cs).takeWhile isNameChar = cs.takeWhile isNameChar := by
  induction cs with
  | nil => rfl
  | cons c cs ih =>
    by_cases hc : c = '%'
    · subst hc
      rfl
    · rw [doublePercent_cons_of_ne hc, List.takeWhile_cons, List.takeWhile_cons, ih]

end Reference

/-- The pieces that a piece becomes when percent signs are doubled. -/
def Piece.doubled : Piece → List Piece
  | .plain c => if c = '%' then [.plain '%', .plain '%'] else [.plain c]
  | .reference r => [.reference r]

namespace Reference

/-- The scan runs over doubled percent signs as over single ones; none stands inside a reference. -/
theorem scan_doublePercent (cs : List Char) : ∀ (blocked : Bool) (inside : Nat), '%' ∉ cs.take inside →
    scan blocked inside (doublePercent cs) = (scan blocked inside cs).flatMap Piece.doubled := by
  induction cs with
  | nil =>
    intro blocked inside _
    cases inside <;> rfl
  | cons c cs ih =>
    intro blocked inside hinside
    cases inside with
    | succ n =>
      rw [List.take_succ_cons, List.mem_cons, not_or] at hinside
      rw [doublePercent_cons_of_ne (Ne.symm hinside.1), scan, scan]
      exact ih _ n hinside.2
    | zero =>
      by_cases hc : c = '%'
      · subst hc
        have hrest := ih (blocks '%') 0 (by simp)
        show Piece.plain '%' :: Piece.plain '%' :: scan (blocks '%') 0 (doublePercent cs) = _
        rw [hrest]
        rfl
      · rw [doublePercent_cons_of_ne hc, scan, scan, afterColon?, takeWhile_doublePercent, ← afterColon?]
        have hplain : Piece.doubled (.plain c) = [.plain c] := if_neg hc
        split
        · split
          · next r hr =>
            have hname : '%' ∉ cs.take (r.text.length - 1) := by
              rw [length_text hr]
              intro hmem
              have hrun := List.prefix_iff_eq_take.mp (List.takeWhile_prefix (l := cs) isNameChar)
              rw [← hrun] at hmem
              exact absurd (List.mem_takeWhile_imp hmem) (by decide)
            rw [ih _ _ hname, List.flatMap_cons]
            rfl
          · rw [ih _ 0 (by simp), List.flatMap_cons, hplain]
            rfl
        · rw [ih _ 0 (by simp), List.flatMap_cons, hplain]
          rfl

theorem pieces_guardPercent {d : Dialect} (hd : d.doublesPercent) (sql : String) :
    pieces (d.guardPercent sql) = (pieces sql).flatMap Piece.doubled := by
  rw [Dialect.guardPercent, if_pos hd, pieces, String.toList_ofList]
  exact scan_doublePercent sql.toList false 0 (by simp)

theorem references_doubled (ps : List Piece) :
    (ps.flatMap Piece.doubled).filterMap Piece.reference? = ps.filterMap Piece.reference? := by
  induction ps with
  | nil => rfl
  | cons p ps ih =>
    rw [List.flatMap_cons, List.filterMap_append, ih]
    cases p with
    | plain c => by_cases hc : c = '%' <;> simp only [Piece.doubled, hc, if_true, if_false] <;> rfl
    | reference r => rfl

/-- Doubling the percent signs of a text keeps its references. -/
theorem all_guardPercent (d : Dialect) (sql : String) : all (d.guardPercent sql) = all sql := by
  by_cases hd : d.doublesPercent
  · rw [all, pieces_guardPercent hd, references_doubled]
    rfl
  · rw [Dialect.guardPercent, if_neg hd]

/-! ## The references of texts in a row -/

/-- Two texts with an open cut between them have the pieces of both, and the cut. -/
theorem pieces_append_cut {c : Char} (hc : isOpenCut c) (a b : String) :
    pieces (a ++ String.singleton c ++ b) = pieces a ++ .plain c :: pieces b := by
  have hcut : isCut c ∧ blocks c = false := by simpa [isOpenCut] using hc
  unfold pieces
  rw [String.toList_append, String.toList_append, String.toList_singleton, List.append_assoc,
    List.singleton_append, scan_append_cut hcut.1 _ _ _ _ (Nat.zero_le _), hcut.2]

/-- A text that ends at an open cut, or is empty, does not change the references of what follows it. -/
def EndsOpen (a : String) : Prop := a = "" ∨ ∃ a' c, isOpenCut c ∧ a = a' ++ String.singleton c

theorem pieces_append_of_endsOpen {a : String} (h : EndsOpen a) (b : String) :
    pieces (a ++ b) = pieces a ++ pieces b := by
  rcases h with rfl | ⟨a', c, hc, rfl⟩
  · rw [String.empty_append]
    rfl
  · have hend : pieces (a' ++ String.singleton c) = pieces a' ++ [.plain c] := by
      rw [← String.append_empty (s := a' ++ String.singleton c), pieces_append_cut hc]
      rfl
    rw [pieces_append_cut hc, hend, List.append_assoc, List.singleton_append]

theorem all_append_of_endsOpen {a : String} (h : EndsOpen a) (b : String) :
    all (a ++ b) = all a ++ all b := by
  rw [all, pieces_append_of_endsOpen h, List.filterMap_append]
  rfl

/-- A text that begins at an open cut, or is empty, does not change the references of what stands before
it. -/
def BeginsOpen (b : String) : Prop := b = "" ∨ ∃ c b', isOpenCut c ∧ b = String.singleton c ++ b'

theorem pieces_append_of_beginsOpen {b : String} (h : BeginsOpen b) (a : String) :
    pieces (a ++ b) = pieces a ++ pieces b := by
  rcases h with rfl | ⟨c, b', hc, rfl⟩
  · rw [String.append_empty]
    exact (List.append_nil _).symm
  · have hbegin : pieces (String.singleton c ++ b') = .plain c :: pieces b' := by
      rw [← String.empty_append (s := String.singleton c), pieces_append_cut hc]
      rfl
    rw [← String.append_assoc, pieces_append_cut hc, hbegin]

theorem all_append_of_beginsOpen {b : String} (h : BeginsOpen b) (a : String) :
    all (a ++ b) = all a ++ all b := by
  rw [all, pieces_append_of_beginsOpen h, List.filterMap_append]
  rfl

theorem endsOpen_iff {a : String} : EndsOpen a ↔ ∀ c ∈ a.toList.getLast?, isOpenCut c := by
  constructor
  · rintro (rfl | ⟨a', c, hc, rfl⟩)
    · exact nofun
    · simpa using hc
  · intro h
    rcases List.eq_nil_or_concat a.toList with hnil | ⟨init, c, hinit⟩
    · exact .inl (String.toList_eq_nil_iff.mp hnil)
    · refine .inr ⟨String.ofList init, c, h c (by simp [hinit]), ?_⟩
      simp [← String.toList_inj, hinit]

theorem beginsOpen_iff {b : String} : BeginsOpen b ↔ ∀ c ∈ b.toList.head?, isOpenCut c := by
  constructor
  · rintro (rfl | ⟨c, b', hc, rfl⟩)
    · exact nofun
    · simpa using hc
  · intro h
    cases hb : b.toList with
    | nil => exact .inl (String.toList_eq_nil_iff.mp hb)
    | cons c rest =>
      refine .inr ⟨c, String.ofList rest, h c (by simp [hb]), ?_⟩
      simp [← String.toList_inj, hb]

instance (a : String) : Decidable (EndsOpen a) :=
  decidable_of_iff (a.toList.getLast?.all isOpenCut) ((Option.all_eq_true ..).trans endsOpen_iff.symm)

instance (b : String) : Decidable (BeginsOpen b) :=
  decidable_of_iff (b.toList.head?.all isOpenCut) ((Option.all_eq_true ..).trans beginsOpen_iff.symm)

/-- What is open at its beginning stays so when texts follow that are open there, or when it is not empty. -/
theorem BeginsOpen.append {a b : String} (ha : BeginsOpen a) (hb : a = "" → BeginsOpen b) : BeginsOpen (a ++ b) := by
  rcases ha with rfl | ⟨c, a', hc, rfl⟩
  · rw [String.empty_append]
    exact hb rfl
  · exact .inr ⟨c, a' ++ b, hc, String.append_assoc⟩

theorem EndsOpen.append {a b : String} (hb : EndsOpen b) (ha : b = "" → EndsOpen a) : EndsOpen (a ++ b) := by
  rcases hb with rfl | ⟨b', c, hc, rfl⟩
  · rw [String.append_empty]
    exact ha rfl
  · exact .inr ⟨a ++ b', c, hc, String.append_assoc.symm⟩

theorem endsOpen_append (a b' : String) (c : Char) {b : String} (hc : isOpenCut c)
    (hb : b = b' ++ String.singleton c) : EndsOpen (a ++ b) := by
  rw [hb, ← String.append_assoc]
  exact Or.inr ⟨a ++ b', c, hc, rfl⟩

/-- The references of a list of texts are those of one text after the other. -/
theorem all_intercalate (texts : List String) :
    all (String.intercalate ", " texts) = texts.flatMap all := by
  have hbegins : BeginsOpen ", " := Or.inr ⟨',', " ", by decide, rfl⟩
  have hcomma : all ", " = [] := by decide
  induction texts with
  | nil =>
    rw [String.intercalate_nil]
    rfl
  | cons first rest ih =>
    cases rest with
    | nil => rw [String.intercalate_singleton, List.flatMap_singleton]
    | cons second rest =>
      have hends : EndsOpen (first ++ ", ") := endsOpen_append first "," ' ' (by decide) rfl
      rw [String.intercalate_cons_cons, List.flatMap_cons, ← ih, all_append_of_endsOpen hends,
        all_append_of_beginsOpen hbegins, hcomma, List.append_nil]

end SqlWeave.Reference
