import SqlWeave.Proofs.Condition.Written
import SqlWeave.Proofs.Statement.Twin

/-!
# Comparisons that are generated

A record states one comparison for each of its properties: the quoted column, and what it is compared with,
a generated parameter name or nothing. Whatever the names are, each comparison is read as one atom, so it is
a unit wherever it stands. What a criterion says is made of such comparisons and of the texts that the
caller wrote.
-/

namespace SqlWeave

namespace Reading

variable {d : Dialect}

/-! ## Quoted names -/

/-- The tokens of a reference to a column: quoted runs, and dots between them. -/
def Token.isName : Token → Bool
  | .quoted _ => true
  | .word cs => cs = ['.']
  | _ => false

theorem begins_quoteChar (d : Dialect) : ∃ q, begins d d.quoteChar = some ([], .quoted q [d.quoteChar]) ∧
    q.ending = d.quoteChar ∧ escapes d q = false := by
  cases d <;> exact ⟨_, rfl, rfl, rfl⟩

theorem doubled_cons (quote c : Char) (name : List Char) : Dialect.doubled quote (c :: name) =
    (if c = quote then [c, c] else [c]) ++ Dialect.doubled quote name := List.flatMap_cons

/-- Inside a quote: each doubled quote character closes a run and opens the next. -/
theorem tokensFrom_doubled {q : Quote} (hbegins : begins d d.quoteChar = some ([], .quoted q [d.quoteChar]))
    (hending : q.ending = d.quoteChar) (hescapes : escapes d q = false) (name before : List Char) :
    ∃ t ts, (∀ u ∈ t :: ts, u.isName) ∧ ∀ rest,
      tokensFrom d (.quoted q before) (Dialect.doubled d.quoteChar name ++ d.quoteChar :: rest) =
        (tokens d rest).map (t :: ts ++ ·) := by
  have hclose (before : List Char) : Mode.next d (.quoted q before) d.quoteChar =
      some ([.quoted (before ++ [d.quoteChar])], .between) := by
    rw [Mode.next, if_pos hending.symm]
  induction name generalizing before with
  | nil =>
    refine ⟨.quoted (before ++ [d.quoteChar]), [], by simp [Token.isName], fun rest => ?_⟩
    exact tokensFrom_cons (hclose before) rest
  | cons c name ih =>
    by_cases hc : c = d.quoteChar
    · subst hc
      obtain ⟨t, ts, hnames, hrest⟩ := ih [d.quoteChar]
      refine ⟨.quoted (before ++ [d.quoteChar]), t :: ts, ?_, fun rest => ?_⟩
      · simpa [Token.isName] using hnames
      · have hopen : Mode.next d .between d.quoteChar = some ([], .quoted q [d.quoteChar]) := hbegins
        rw [doubled_cons, if_pos rfl, List.append_assoc, List.cons_append, List.singleton_append,
          tokensFrom_cons (hclose before), tokensFrom_cons hopen, hrest, Option.map_map, Option.map_map]
        rfl
    · obtain ⟨t, ts, hnames, hrest⟩ := ih (before ++ [c])
      refine ⟨t, ts, hnames, fun rest => ?_⟩
      have hgo : Mode.next d (.quoted q before) c = some ([], .quoted q (before ++ [c])) := by
        rw [Mode.next, if_neg (by rwa [hending]), hescapes]
        rfl
      rw [doubled_cons, if_neg hc, List.append_assoc, List.singleton_append, tokensFrom_cons hgo, hrest,
        Option.map_map]
      rfl

theorem tokens_escape (name : String) : ∃ t ts, (∀ u ∈ t :: ts, u.isName) ∧ ∀ rest,
    tokens d ((d.escape name).toList ++ rest) = (tokens d rest).map (t :: ts ++ ·) := by
  obtain ⟨q, hbegins, hending, hescapes⟩ := begins_quoteChar d
  obtain ⟨t, ts, hnames, hrest⟩ := tokensFrom_doubled hbegins hending hescapes name.toList [d.quoteChar]
  refine ⟨t, ts, hnames, fun rest => ?_⟩
  have hopen : Mode.next d .between d.quoteChar = some ([], .quoted q [d.quoteChar]) := hbegins
  rw [Dialect.escape, String.toList_ofList, List.cons_append, List.cons_append, List.append_assoc,
    List.singleton_append, tokens, tokensFrom_cons hopen, hrest, Option.map_map]
  rfl

/-- A text that names a column: quoted names with dots between them. -/
def IsReference (d : Dialect) (ref : String) : Prop :=
  ∃ t ts, tokens d ref.toList = some (t :: ts) ∧ ∀ u ∈ t :: ts, u.isName

theorem isReference_escape (name : String) : IsReference d (d.escape name) := by
  obtain ⟨t, ts, hnames, hrest⟩ := tokens_escape (d := d) name
  refine ⟨t, ts, ?_, hnames⟩
  have hnil := hrest []
  rw [List.append_nil, tokens_nil, Option.map_some, List.append_nil] at hnil
  exact hnil

theorem isReference_path (a b : String) : IsReference d (d.escape a ++ "." ++ d.escape b) := by
  obtain ⟨t, ts, hnames, hrest⟩ := tokens_escape (d := d) a
  obtain ⟨u, us, hlast, hnames'⟩ := isReference_escape (d := d) b
  -- The dot is a word by itself, since a quote character is none of its characters.
  have hdot : tokens d ('.' :: (d.escape b).toList) = some (.word ['.'] :: u :: us) := by
    obtain ⟨q, hbegins, hending, hescapes⟩ := begins_quoteChar d
    have hopen : Mode.next d .between d.quoteChar = some ([], .quoted q [d.quoteChar]) := hbegins
    have hbegin : Mode.next d .between '.' = some ([], .word ['.']) := by cases d <;> rfl
    have hend : Mode.next d (.word ['.']) d.quoteChar = some ([.word ['.']], .quoted q [d.quoteChar]) := by
      have hword : isWordChar d.quoteChar = false := by cases d <;> rfl
      rw [Mode.next, hword, if_neg Bool.false_ne_true, beginsAfter, hbegins]
      rfl
    rw [Dialect.escape, String.toList_ofList, List.cons_append, tokens, tokensFrom_cons hopen] at hlast
    rw [Dialect.escape, String.toList_ofList, List.cons_append, tokens, tokensFrom_cons hbegin,
      tokensFrom_cons hend]
    obtain ⟨more, hmore, htokens⟩ := Option.map_eq_some_iff.mp hlast
    rw [hmore]
    exact congrArg (fun ts => some (Token.word ['.'] :: ts)) htokens
  refine ⟨t, ts ++ .word ['.'] :: u :: us, ?_, ?_⟩
  · have htext : (d.escape a ++ "." ++ d.escape b).toList =
        (d.escape a).toList ++ '.' :: (d.escape b).toList := by
      rw [String.toList_append, String.toList_append, List.append_assoc]
      rfl
    rw [htext, hrest, hdot]
    rfl
  · rw [← List.cons_append]
    exact List.forall_mem_append.mpr ⟨hnames, List.forall_mem_cons.mpr ⟨by decide, hnames'⟩⟩

theorem isReference_columnReference {dr : Draft} {property ref : String}
    (h : dr.columnReference d property = .ok ref) : IsReference d ref := by
  unfold Draft.columnReference at h
  split at h
  · cases h
    exact isReference_escape property
  · next a _ =>
    obtain ⟨e, -, h⟩ := Result.bind_eq_ok.mp h
    dsimp only at h
    split at h
    · obtain ⟨name, hname, h⟩ := Result.bind_eq_ok.mp h
      obtain ⟨s, -, rfl⟩ := Result.map_eq_ok.mp hname
      cases h
      exact isReference_path s _
    · cases h
      exact isReference_escape _

/-! ## Atoms -/

theorem items_leaves {ts : List Token} (h : ∀ t ∈ ts, t ≠ .opening ∧ t ≠ .closing ∧ t.isWord "CASE" = false) :
    items ts = some (ts.map .leaf) := by
  induction ts with
  | nil => rfl
  | cons t ts ih =>
    rw [List.forall_mem_cons] at h
    obtain ⟨⟨hopen, hclose, hcase⟩, hrest⟩ := h
    exact items_append (items_leaf hopen hclose hcase) (ih hrest)

/-- A piece that joins nothing: no connector, and no BETWEEN, which would take the next AND. -/
def Item.joinsNothing (i : Item) : Bool := !i.isWord "OR" && !i.isWord "AND" && !i.isWord "BETWEEN"

theorem conjuncts_of_joinsNothing {xs : List Item} (h : ∀ i ∈ xs, i.joinsNothing) :
    conjuncts false xs = some [xs] := by
  induction xs with
  | nil => rfl
  | cons i xs ih =>
    rw [List.forall_mem_cons] at h
    have hi := h.1
    simp only [Item.joinsNothing, Bool.and_eq_true, Bool.not_eq_true'] at hi
    rw [conjuncts, hi.1.2, if_neg Bool.false_ne_true, hi.2, Bool.or_false, ih h.2]
    rfl

/-- Pieces that join nothing are one atom. -/
theorem isUnit_of_joinsNothing {sql : String} {t : Token} {xs : List Item}
    (hp : pieces d sql = some (.leaf t :: xs)) (h : ∀ i ∈ .leaf t :: xs, i.joinsNothing)
    (hnot : t.isWord "NOT" = false) :
    read d sql = some (.atom ((.leaf t :: xs).flatMap Item.tokens)) ∧ IsUnit d sql := by
  have hone := conjuncts_of_joinsNothing h
  have hno : ∀ i ∈ .leaf t :: xs, i.isWord "OR" = false := fun i hi => by
    have hi := h i hi
    simp only [Item.joinsNothing, Bool.and_eq_true, Bool.not_eq_true'] at hi
    exact hi.1.1
  have hterm : term (.leaf t :: xs) = some (.atom ((.leaf t :: xs).flatMap Item.tokens)) := by
    rw [term, hone, Option.bind_some, List.map_singleton, joined, factor]
    · rw [if_neg]
      rw [Item.isWord, hnot]
      exact Bool.false_ne_true
    · simp
  refine ⟨?_, _, _, hp, ⟨hno, by rw [hone]; rfl⟩, hterm⟩
  rw [read_eq_bind, hp, Option.bind_some, expression_of_noOr hno, hterm]

theorem isName_leaf {t : Token} (h : t.isName) : (t ≠ .opening ∧ t ≠ .closing ∧ t.isWord "CASE" = false) ∧
    (Item.leaf t).joinsNothing ∧ t.isWord "NOT" = false := by
  cases t with
  | quoted cs => exact ⟨⟨nofun, nofun, rfl⟩, rfl, rfl⟩
  | word cs =>
    obtain rfl : cs = ['.'] := of_decide_eq_true h
    exact ⟨⟨nofun, nofun, by decide⟩, by decide, by decide⟩
  | sign c => cases h
  | opening => cases h
  | closing => cases h

theorem pieces_reference {ref : String} (h : IsReference d ref) :
    ∃ t xs, pieces d ref = some (.leaf t :: xs) ∧ (∀ i ∈ .leaf t :: xs, i.joinsNothing) ∧
      t.isWord "NOT" = false := by
  obtain ⟨t, ts, htokens, hnames⟩ := h
  have hitems := items_leaves fun u hu => (isName_leaf (hnames u hu)).1
  refine ⟨t, ts.map .leaf, pieces_eq_some.mpr ⟨_, htokens, hitems⟩, ?_,
    (isName_leaf (hnames t List.mem_cons_self)).2.2⟩
  rw [← List.map_cons, List.forall_mem_map]
  exact fun u hu => (isName_leaf (hnames u hu)).2.1

/-- A reference to a column and then more pieces that join nothing are one atom. -/
theorem isUnit_reference {ref rest : String} {ys : List Item} (h : IsReference d ref)
    (hp : pieces d rest = some ys) (hys : ∀ i ∈ ys, i.joinsNothing) : IsUnit d (ref ++ " " ++ rest) := by
  obtain ⟨t, xs, hxs, hjoins, hnot⟩ := pieces_reference h
  refine (isUnit_of_joinsNothing (pieces_append_blank hxs hp) ?_ hnot).2
  exact List.forall_mem_append.mpr ⟨hjoins, hys⟩

theorem isUnit_isNull {ref : String} (h : IsReference d ref) : IsUnit d (ref ++ " IS NULL") := by
  have hunit : IsUnit d (ref ++ " " ++ "IS NULL") := isUnit_reference h rfl (by decide)
  rwa [String.append_assoc] at hunit

/-! ## Generated names -/

theorem isWordChar_of_isDigit {c : Char} (h : c.isDigit) : isWordChar c := by
  have hbound : c.toNat < 0x80 := by
    have := (Char.isDigit_iff_toNat.mp h).2
    have hnine : '9'.toNat = 57 := rfl
    omega
  simp [isWordChar, Text.isWord_of_ascii hbound, Text.isAsciiWord, Char.isAlphanum, h]

theorem isWordChar_generatedName (n : Nat) : ∀ c ∈ (Build.generatedName n).toList, isWordChar c := by
  have hdigits : ∀ c ∈ (toString n).toList, isWordChar c := by
    intro c hc
    rw [Nat.toString_eq_ofList_toDigits, String.toList_ofList] at hc
    exact isWordChar_of_isDigit (Nat.isDigit_of_mem_toDigits (by decide) (by decide) hc)
  rw [Build.generatedName, String.toList_append]
  exact List.forall_mem_append.mpr ⟨List.all_eq_true.mp rfl, hdigits⟩

theorem tokensFrom_word {cs : List Char} (h : ∀ c ∈ cs, isWordChar c) (before : List Char) :
    tokensFrom d (.word before) cs = some [.word (before ++ cs)] := by
  induction cs generalizing before with
  | nil =>
    rw [tokensFrom_nil, List.append_nil]
    rfl
  | cons c cs ih =>
    rw [List.forall_mem_cons] at h
    have hgo : Mode.next d (.word before) c = some ([], .word (before ++ [c])) := by
      rw [Mode.next, if_pos h.1]
    rw [tokensFrom_cons hgo, ih h.2, List.append_assoc]
    rfl

/-- A reference to a parameter is a word that begins with a colon. -/
theorem pieces_parameter {name : String} (h : ∀ c ∈ name.toList, isWordChar c) :
    pieces d (":" ++ name) = some [.leaf (.word (':' :: name.toList))] := by
  have hbegin : Mode.next d .between ':' = some ([], .word [':']) := by cases d <;> rfl
  have hcolon : ":".toList = [':'] := rfl
  have htokens : tokens d (":" ++ name).toList = some [.word (':' :: name.toList)] := by
    rw [String.toList_append, hcolon, List.singleton_append, tokens, tokensFrom_cons hbegin,
      tokensFrom_word h]
    rfl
  refine pieces_eq_some.mpr ⟨_, htokens, items_leaf (by simp) (by simp) ?_⟩
  simp [Token.isWord]

theorem joinsNothing_parameter (cs : List Char) : (Item.leaf (.word (':' :: cs))).joinsNothing := by
  simp [Item.joinsNothing, Item.isWord, Token.isWord]

theorem isUnit_equals {ref : String} (h : IsReference d ref) (n : Nat) :
    IsUnit d (ref ++ " = :" ++ Build.generatedName n) := by
  have hpieces : pieces d ("=" ++ " " ++ (":" ++ Build.generatedName n)) =
      some ([.leaf (.sign '=')] ++ [.leaf (.word (':' :: (Build.generatedName n).toList))]) :=
    pieces_append_blank (by cases d <;> rfl) (pieces_parameter (isWordChar_generatedName n))
  have hunit := isUnit_reference h hpieces ?_
  · have htext : ref ++ " " ++ ("=" ++ " " ++ (":" ++ Build.generatedName n)) =
        ref ++ " = :" ++ Build.generatedName n := by
      simp [← String.toList_inj]
    rwa [htext] at hunit
  · simp only [List.singleton_append, List.forall_mem_cons, List.not_mem_nil, false_implies, implies_true,
      and_true]
    exact ⟨rfl, joinsNothing_parameter _⟩

theorem isUnit_isIn {ref : String} (h : IsReference d ref) (n : Nat) :
    IsUnit d (ref ++ " IN (:..." ++ Build.generatedName n ++ ")") := by
  obtain ⟨t, xs, hxs, hjoins, hnot⟩ := pieces_reference h
  have hdots : ∀ c ∈ ("..." ++ Build.generatedName n).toList, isWordChar c := by
    rw [String.toList_append]
    exact List.forall_mem_append.mpr ⟨List.all_eq_true.mp rfl, isWordChar_generatedName n⟩
  have hin : pieces d (ref ++ " " ++ "IN ") = some (.leaf t :: xs ++ [.leaf (.word "IN".toList)]) :=
    pieces_append_blank hxs (by cases d <;> rfl)
  obtain ⟨whole, hwhole⟩ := pieces_append_parentheses hin (pieces_parameter hdots)
  have htext : ref ++ " " ++ "IN " ++ "(" ++ (":" ++ ("..." ++ Build.generatedName n)) ++ ")" =
      ref ++ " IN (:..." ++ Build.generatedName n ++ ")" := by
    simp [← String.toList_inj]
  rw [htext, List.append_assoc, List.cons_append] at hwhole
  refine (isUnit_of_joinsNothing hwhole ?_ hnot).2
  rw [← List.cons_append]
  refine List.forall_mem_append.mpr ⟨hjoins, ?_⟩
  simp only [List.singleton_append, List.forall_mem_cons, List.not_mem_nil, false_implies, implies_true,
    and_true]
  exact ⟨by decide, rfl⟩

end Reading

end SqlWeave
