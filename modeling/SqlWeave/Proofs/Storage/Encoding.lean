import Mathlib.Data.List.Basic
import SqlWeave.Storage.Image

/-!
# Images as texts

An image is kept under a key as a JSON array of its bytes. The text is read back as the list of these numbers,
and so as the image, whatever bytes it has. The reading follows the text from bracket to bracket: a numeral ends
where a comma or a bracket follows, and the reader never runs out of steps.
-/

namespace SqlWeave

/-! ## Numerals -/

namespace Numeral

theorem asciiDigit?_eq_some {c : Char} (h : c.isDigit = true) : asciiDigit? c = some (c.toNat - 0x30) := if_pos h

theorem ne_of_isDigit {c d : Char} (h : c.isDigit = true) (hd : d.isDigit = false) : c ≠ d := by
  rintro rfl
  exact Bool.false_ne_true (hd.symm.trans h)

theorem digitRun_go {cs : List Char} (h : ∀ c ∈ cs, c.isDigit = true) (value count : Nat) :
    digitRun.go asciiDigit? value count false cs = some (Nat.ofDigitChars 10 cs value, count + cs.length) := by
  induction cs generalizing value count with
  | nil => rfl
  | cons c rest ih =>
    obtain ⟨hc, hrest⟩ := List.forall_mem_cons.mp h
    have hvalue : value * 10 + (c.toNat - 0x30) = 10 * value + (c.toNat - '0'.toNat) := by
      rw [Nat.mul_comm]
      rfl
    rw [digitRun.go, if_neg (ne_of_isDigit hc (by decide)), asciiDigit?_eq_some hc]
    dsimp only
    rw [ih hrest, hvalue, Nat.ofDigitChars, Nat.ofDigitChars, List.foldl_cons, List.length_cons, Nat.add_assoc,
      Nat.add_comm 1]

/-- A run of digits is read as the number that they write. -/
theorem digitRun_eq_some {cs : List Char} (hne : cs ≠ []) (h : ∀ c ∈ cs, c.isDigit = true) :
    digitRun asciiDigit? cs = some (Nat.ofDigitChars 10 cs 0, cs.length) := by
  cases cs with
  | nil => exact absurd rfl hne
  | cons c rest =>
    have hgo := digitRun_go h 0 0
    obtain ⟨hc, -⟩ := List.forall_mem_cons.mp h
    have hplain := ne_of_isDigit hc (d := '_') (by decide)
    rw [digitRun.go, if_neg hplain] at hgo
    show digitRun.go asciiDigit? 0 0 true (c :: rest) = _
    rw [digitRun.go, if_neg hplain, hgo, Nat.zero_add]

/-- Of the numerals only that of zero begins with a zero. -/
theorem eq_zero_of_head_toDigits {n : Nat} (h : (Nat.toDigits 10 n).head? = some '0') : n = 0 := by
  induction n using Nat.strongRecOn with
  | ind n ih =>
    by_cases hn : n < 10
    · have hdigit : ∀ m < 10, m.digitChar = '0' → m = 0 := by decide
      rw [Nat.toDigits_of_lt_base hn, List.head?_cons, Option.some.injEq] at h
      exact hdigit n hn h
    · rw [Nat.toDigits_of_base_le (by decide) (Nat.not_lt.mp hn),
        List.head?_append_of_ne_nil _ Nat.toDigits_ne_nil] at h
      have := ih (n / 10) (by omega) h
      omega

end Numeral

/-! ## Arrays of numbers -/

namespace Json

open Numeral

/-- The digits of a number, as it is written. -/
def digits (n : Nat) : List Char := Nat.toDigits 10 n

theorem isDigit_of_mem_digits {n : Nat} {c : Char} (h : c ∈ digits n) : c.isDigit = true :=
  Nat.isDigit_of_mem_toDigits (by decide) (by decide) h

theorem digits_ne_nil (n : Nat) : digits n ≠ [] := Nat.toDigits_ne_nil

theorem exists_digits_eq_cons (n : Nat) : ∃ c rest, digits n = c :: rest ∧ c.isDigit = true := by
  obtain ⟨c, rest, h⟩ := List.exists_cons_of_ne_nil (digits_ne_nil n)
  exact ⟨c, rest, h, isDigit_of_mem_digits (n := n) (h ▸ List.mem_cons_self)⟩

/-- A character that no numeral goes on with. -/
def EndsNumber (c : Char) : Prop := c = ',' ∨ c = ']'

theorem takeWhile_digits (n : Nat) {c : Char} (hc : EndsNumber c) (rest : List Char) :
    (digits n ++ c :: rest).takeWhile Char.isDigit = digits n := by
  have hstop : c.isDigit = false := by
    rcases hc with rfl | rfl
    · decide
    · decide
  rw [List.takeWhile_append_of_pos fun d hd => isDigit_of_mem_digits hd, List.takeWhile_cons_of_neg (by simp [hstop]),
    List.append_nil]

/-- A numeral is read as its number, and what ends it is left. -/
theorem number_digits {n : Nat} (hn : (digits n).length ≤ longest) {c : Char} (hc : EndsNumber c) (rest : List Char) :
    number (digits n ++ c :: rest) = .ok (.int n, c :: rest) := by
  obtain ⟨d, more, hdigits, hd⟩ := exists_digits_eq_cons n
  have hwhole : (if (digits n).head? = some '0' then ['0'] else digits n) = digits n := by
    split
    case isTrue hzero => rw [eq_zero_of_head_toDigits hzero]; rfl
    case isFalse => rfl
  have hrun : digitRun asciiDigit? (digits n) = some (n, (digits n).length) := by
    have hvalue : Nat.ofDigitChars 10 (digits n) 0 = n := Nat.ofDigitChars_toDigits (by decide) (by decide)
    rw [digitRun_eq_some (digits_ne_nil n) fun _ => isDigit_of_mem_digits, hvalue]
  unfold number
  split
  rename_i negative r hsign
  have hplain : (negative, r) = (false, digits n ++ c :: rest) := by
    rw [← hsign, hdigits, List.cons_append]
    split
    case h_1 heq => cases heq; cases hd
    case h_2 => rfl
  obtain ⟨rfl, rfl⟩ := Prod.mk.inj hplain
  dsimp only
  rw [takeWhile_digits n hc, hwhole, List.drop_left]
  rcases hc with rfl | rfl
  all_goals simp [hrun, Nat.not_lt.mpr hn, signed]

/-- A value that begins with a digit is a number. -/
theorem value_digits {n : Nat} (hn : (digits n).length ≤ longest) {c : Char} (hc : EndsNumber c)
    (rest : List Char) (depth fuel : Nat) :
    value depth (fuel + 1) (digits n ++ c :: rest) = .ok (.int n, c :: rest) := by
  have hnumber := number_digits hn hc rest
  obtain ⟨d, more, hdigits, hd⟩ := exists_digits_eq_cons n
  rw [hdigits, List.cons_append] at hnumber ⊢
  have hne {e : Char} (he : e.isDigit = false) : d ≠ e := ne_of_isDigit hd he
  rw [value, if_neg (hne (by decide)), if_neg (hne (by decide)), if_neg (hne (by decide))]
  split
  case h_7 => exact hnumber
  all_goals
    rename_i heq
    exact absurd (List.cons.inj heq).1 (hne (by decide))

/-- The numbers of an array as they are written, with the bracket after them. -/
def itemText : List Nat → List Char
  | [] => [']']
  | [n] => digits n ++ [']']
  | n :: m :: rest => digits n ++ ',' :: ' ' :: itemText (m :: rest)

theorem exists_itemText_eq (n : Nat) (rest : List Nat) : ∃ cs, itemText (n :: rest) = digits n ++ cs := by
  cases rest with
  | nil => exact ⟨_, rfl⟩
  | cons m rest => exact ⟨_, rfl⟩

/-- No blank is skipped before a digit. -/
theorem skip_digits (n : Nat) (rest : List Char) : skip (digits n ++ rest) = digits n ++ rest := by
  obtain ⟨d, more, hdigits, hd⟩ := exists_digits_eq_cons n
  have hne {e : Char} (he : e.isDigit = false) : d ≠ e := ne_of_isDigit hd he
  have hspace : isSpace d = false := by
    simp [isSpace, hne (e := ' ') (by decide), hne (e := '\t') (by decide), hne (e := '\n') (by decide),
      hne (e := '\r') (by decide)]
  rw [hdigits, List.cons_append, skip, List.dropWhile_cons_of_neg (by simp [hspace])]

theorem skip_itemText (ns : List Nat) : skip (itemText ns) = itemText ns := by
  cases ns with
  | nil => rfl
  | cons n rest =>
    obtain ⟨cs, hcs⟩ := exists_itemText_eq n rest
    rw [hcs, skip_digits]

/-- The items of an array are read one after the other, when there is a step for each and one more. -/
theorem items_itemText (depth : Nat) {ns : List Nat} (hne : ns ≠ [])
    (hns : ∀ n ∈ ns, (digits n).length ≤ longest) {fuel : Nat} (hfuel : ns.length < fuel) :
    items depth fuel (itemText ns) = .ok (ns.map fun (n : Nat) => .int n, []) := by
  induction ns generalizing fuel with
  | nil => exact absurd rfl hne
  | cons n rest ih =>
    obtain ⟨hn, hrest⟩ := List.forall_mem_cons.mp hns
    rw [List.length_cons] at hfuel
    obtain ⟨fuel, rfl⟩ : ∃ k, fuel = k + 2 := ⟨fuel - 2, by omega⟩
    cases rest with
    | nil =>
      have hvalue := value_digits hn (.inr rfl) [] depth fuel
      rw [itemText, items, skip_digits, hvalue]
      rfl
    | cons m rest =>
      have hvalue := value_digits hn (.inl rfl) (' ' :: itemText (m :: rest)) depth fuel
      have hblank : skip (' ' :: itemText (m :: rest)) = skip (itemText (m :: rest)) := rfl
      have hmore : items depth (fuel + 1) (' ' :: itemText (m :: rest)) =
          items depth (fuel + 1) (itemText (m :: rest)) := by
        rw [items, items, hblank]
      have htail : items depth (fuel + 1) (itemText (m :: rest)) =
          .ok ((m :: rest).map fun (n : Nat) => .int n, []) := ih (List.cons_ne_nil _ _) hrest (by omega)
      rw [itemText, items, skip_digits, hvalue]
      show (items depth (fuel + 1) (' ' :: itemText (m :: rest))).map _ = _
      rw [hmore, htail]
      rfl

theorem itemText_eq (ns : List Nat) : itemText ns = List.intercalate [',', ' '] (ns.map digits) ++ [']'] := by
  match ns with
  | [] => rfl
  | [n] => simp [itemText, List.intercalate]
  | n :: m :: rest =>
    have ih := itemText_eq (m :: rest)
    rw [itemText, ih]
    simp [List.intercalate]

theorem toList_writeNats (ns : List Nat) : (writeNats ns).toList = '[' :: itemText ns := by
  have hdigits (n : Nat) : (toString n).toList = digits n := by
    rw [Nat.toString_eq_ofList_toDigits, String.toList_ofList, digits]
  have hmap : (ns.map toString).map String.toList = ns.map digits := by
    rw [List.map_map]
    exact List.map_congr_left fun n _ => hdigits n
  unfold writeNats
  rw [String.toList_append, String.toList_append, String.toList_intercalate, hmap, itemText_eq]
  rfl

theorem length_le_itemText (ns : List Nat) : ns.length ≤ (itemText ns).length := by
  match ns with
  | [] => exact Nat.zero_le _
  | [n] => simp [itemText]
  | n :: m :: rest =>
    have ih := length_le_itemText (m :: rest)
    simp only [itemText, List.length_append, List.length_cons] at ih ⊢
    omega

/-- An array of numbers is read from its bracket on, when there is a step for each number and two more. -/
theorem value_itemText {ns : List Nat} (hns : ∀ n ∈ ns, (digits n).length ≤ longest) (depth : Nat) {fuel : Nat}
    (hfuel : ns.length < fuel) : value (depth + 1) (fuel + 1) ('[' :: itemText ns) =
      .ok (.list (ns.map fun (n : Nat) => .int n), []) := by
  rw [value, if_neg (by decide), if_pos rfl, if_neg (Nat.succ_ne_zero depth), skip_itemText]
  cases ns with
  | nil => rfl
  | cons n rest =>
    have hitems := items_itemText depth (List.cons_ne_nil n rest) hns hfuel
    split
    case h_1 r heq =>
      obtain ⟨cs, hcs⟩ := exists_itemText_eq n rest
      obtain ⟨d, more, hdigits, hd⟩ := exists_digits_eq_cons n
      rw [hcs, hdigits, List.cons_append] at heq
      exact absurd (List.cons.inj heq).1 (ne_of_isDigit hd (by decide))
    case h_2 =>
      rw [Nat.add_sub_cancel, hitems]
      rfl

/-- Numbers that are written as an array are read back from it. -/
theorem read_writeNats {ns : List Nat} (hns : ∀ n ∈ ns, (digits n).length ≤ longest) :
    read (writeNats ns) = .ok (.list (ns.map fun (n : Nat) => .int n)) := by
  have hlength := length_le_itemText ns
  have hvalue : value deepest (2 * ('[' :: itemText ns).length + 2) ('[' :: itemText ns) =
      .ok (.list (ns.map fun (n : Nat) => .int n), []) :=
    value_itemText hns (deepest - 1) (by rw [List.length_cons]; omega)
  unfold read
  dsimp only
  rw [toList_writeNats]
  show (value deepest (2 * ('[' :: itemText ns).length + 2) ('[' :: itemText ns) >>= _) = _
  rw [hvalue]
  rfl

end Json

namespace Image

/-- The list of an image's bytes, as numbers. -/
def numbers (image : List UInt8) : Value := .list (image.map fun b => .int b.toNat)

/-- The text that an image is kept as is a JSON array of its bytes. -/
theorem read_encode (image : List UInt8) : Json.read (encode image) = .ok (numbers image) := by
  have hbytes : ∀ n ∈ image.map UInt8.toNat, (Json.digits n).length ≤ Numeral.longest := by
    intro n hn
    obtain ⟨b, -, rfl⟩ := List.mem_map.mp hn
    have hthree : (Json.digits b.toNat).length ≤ 3 :=
      (Nat.length_toDigits_le_iff (by decide) (by decide)).mpr (Nat.lt_trans b.toNat_lt (by decide))
    exact Nat.le_trans hthree (by decide)
  rw [encode, Json.read_writeNats hbytes, List.map_map]
  rfl

theorem byte_toNat (b : UInt8) : byte (.int b.toNat) = .ok b := by
  have hrange : (0 ≤ (b.toNat : Int) && (b.toNat : Int) < 256) = true := by
    have hlt := b.toNat_lt
    simp only [Bool.and_eq_true, decide_eq_true_eq]
    omega
  have hint : (Value.int b.toNat).int? = some (b.toNat : Int) := rfl
  unfold byte
  rw [hint]
  dsimp only
  rw [if_pos hrange, Int.toNat_natCast, UInt8.ofNat_toNat]

theorem bytesOf_numbers (image : List UInt8) : bytesOf (numbers image) = .ok image := by
  have hbytes : (image.map fun b => (.int b.toNat : Value)).mapM byte = .ok image := by
    induction image with
    | nil => rfl
    | cons b rest ih =>
      rw [List.map_cons, List.mapM_cons, byte_toNat, ih]
      rfl
  exact hbytes

/-- The image is read back from the text that it is kept as. -/
theorem decode_encode (image : List UInt8) : decode (.text (encode image)) = .ok image := by
  have htext : textOf (.text (encode image)) = .ok (encode image) := by
    show (if (encode image).toList.head? = some '\ufeff' then _ else _) = _
    rw [encode, Json.toList_writeNats, List.head?_cons, if_neg (by decide)]
  unfold decode
  rw [htext]
  show (Json.read (encode image) >>= bytesOf) = _
  rw [read_encode]
  exact bytesOf_numbers image

end Image

end SqlWeave
