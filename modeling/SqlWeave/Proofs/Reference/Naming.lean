import SqlWeave.Proofs.Reference.Percent
import SqlWeave.Statement.Call

/-!
# Names that can be referred to

A name is checked when a value is bound to it, and read again when a text refers to it. Main result: the check and
the reader agree on names of letters, digits, underscores and dots, but for two kinds. A line break at the end of a
name passes the check, and no reference has one; and three dots at the beginning of a name, with more of it after
them, are read as the sign for the elements of a sequence, so that nothing refers to that name by itself.
-/

namespace SqlWeave

open Reference (isNameChar)

/-! ## Names -/

namespace Reference

/-- At least one letter, digit, underscore or dot, and nothing else. -/
def IsName (name : String) : Prop := name ≠ "" ∧ ∀ c ∈ name.toList, isNameChar c

instance (name : String) : Decidable (IsName name) :=
  decidable_of_iff (name ≠ "" ∧ name.toList.all isNameChar) (by simp [IsName])

/-- A name that does not begin like the sign for the elements of a sequence. -/
def Referable (name : String) : Prop := IsName name ∧ ∀ rest, name = "..." ++ rest → rest = ""

theorem IsName.takeWhile {name : String} (h : IsName name) {c : Char} (hc : isNameChar c = false) :
    (name.toList ++ [c]).takeWhile isNameChar = name.toList := by
  rw [List.takeWhile_append_of_pos h.2, List.takeWhile_cons_of_neg (by simp [hc]), List.append_nil]

/-- What is read as a reference to one value, and the names of such references. -/
theorem afterColon?_eq_single {cs : List Char} {name : String} :
    afterColon? cs = some ⟨false, name⟩ ↔ cs.takeWhile isNameChar = name.toList ∧ Referable name := by
  unfold afterColon?
  split
  · next hrun =>
    refine iff_of_false nofun fun h => h.2.1.1 ?_
    rw [← String.toList_eq_nil_iff, ← h.1, hrun]
  · next c more hrun =>
    refine iff_of_false (by simp) fun h => ?_
    have hname : name = "..." ++ String.ofList (c :: more) := by
      rw [← String.toList_inj, ← h.1, hrun]
      simp
    have hrest := h.2.2 _ hname
    rw [← String.toList_eq_nil_iff, String.toList_ofList] at hrest
    cases hrest
  · next hempty hdots =>
    constructor
    · intro h
      obtain rfl : String.ofList (cs.takeWhile isNameChar) = name := by simpa using h
      refine ⟨String.toList_ofList.symm, ⟨?_, ?_⟩, ?_⟩
      · rw [Ne, ← String.toList_eq_nil_iff, String.toList_ofList]
        exact hempty
      · rw [String.toList_ofList]
        exact fun c hc => List.mem_takeWhile_imp hc
      · intro rest hrest
        rw [← String.toList_inj, String.toList_ofList, String.toList_append] at hrest
        cases hmore : rest.toList with
        | nil => exact String.toList_eq_nil_iff.mp hmore
        | cons c more =>
          rw [hmore] at hrest
          exact (hdots c more hrest).elim
    · rintro ⟨hrun, -⟩
      rw [hrun, String.ofList_toList]

/-- No text refers to a name of another kind. -/
theorem referable_of_mem_all {name sql : String} (h : ⟨false, name⟩ ∈ all sql) : Referable name := by
  obtain ⟨p, hp, hname⟩ := List.mem_filterMap.mp h
  cases p with
  | plain c => cases hname
  | reference r =>
    cases hname
    obtain ⟨rest, hrest⟩ := afterColon?_of_mem_scan _ _ _ hp
    exact (afterColon?_eq_single.mp hrest).2

/-! ## References by themselves -/

/-- A reference and nothing else but a character on either side. -/
def alone (before : Char) (name : String) (after : Char) : String :=
  String.singleton before ++ ":" ++ name ++ String.singleton after

variable {before after : Char} {name : String}

theorem toList_alone : (alone before name after).toList = before :: ':' :: (name.toList ++ [after]) := by
  simp [alone]

theorem scan_length_append {cs : List Char} (blocked : Bool) :
    scan blocked cs.length (cs ++ [after]) = [.plain after] := by
  induction cs generalizing blocked with
  | nil =>
    rw [List.nil_append, List.length_nil, scan]
    split <;> rfl
  | cons c cs ih =>
    rw [List.cons_append, List.length_cons, scan]
    exact ih _

theorem pieces_alone (hname : Referable name) (hbefore : blocks before = false) (hafter : isNameChar after = false) :
    pieces (alone before name after) = [.plain before, .reference ⟨false, name⟩, .plain after] := by
  have hcolon : before ≠ ':' := by
    rintro rfl
    cases hbefore
  -- The run of name characters ends right before the last character, so the scan jumps over the name and no more.
  have hrun := hname.1.takeWhile hafter
  have hread : afterColon? (name.toList ++ [after]) = some ⟨false, name⟩ := afterColon?_eq_single.mpr ⟨hrun, hname⟩
  have hinside : (⟨false, name⟩ : Reference).text.length - 1 = name.toList.length := by rw [length_text hread, hrun]
  rw [pieces, toList_alone, scan, if_neg (by simp [hcolon]), hbefore, scan]
  simp only [Bool.not_false, Bool.and_true, decide_true, if_true, hread, hinside]
  rw [scan_length_append]

/-- The text is too short to ask for the elements of what its name is bound to. -/
theorem not_mem_all_alone : ⟨true, name⟩ ∉ all (alone before name after) := by
  intro h
  obtain ⟨p, hp, hexpands⟩ := List.mem_filterMap.mp h
  cases p with
  | plain c => cases hexpands
  | reference r =>
    cases hexpands
    have hpart : (Piece.reference ⟨true, name⟩).text.toList <:+:
        (pieces (alone before name after)).flatMap (·.text.toList) :=
      List.infix_of_mem_flatten (List.mem_map_of_mem hp)
    have hlength := hpart.length_le
    rw [text_pieces, toList_alone] at hlength
    simp only [Piece.text, text, if_true, String.toList_append, List.length_append, List.length_cons,
      List.length_nil] at hlength
    have hsign : ":...".toList.length = 4 := rfl
    omega

end Reference

open Reference (IsName Referable alone)

/-! ## Binding to a name -/

theorem isParameterName_iff {key : String} :
    isParameterName key ↔ IsName key ∨ ∃ name, IsName name ∧ key = name ++ "\n" := by
  have hbreak : isNameChar '\n' = false := rfl
  have hname (cs : List Char) : (!cs.isEmpty && cs.all isNameChar) = true ↔ IsName (String.ofList cs) := by
    simp [IsName, ← String.toList_eq_nil_iff]
  unfold isParameterName
  rw [hname]
  by_cases hlast : key.toList.getLast? = some '\n'
  · -- A name does not end in a line break, so what stands before it is the name.
    obtain ⟨init, hinit⟩ := List.getLast?_eq_some_iff.mp hlast
    have hkey : key = String.ofList init ++ "\n" := by
      rw [← String.toList_inj, hinit]
      simp
    have hnot : ¬ IsName key := by
      intro h
      have hmem := h.2 '\n' (by rw [hinit]; simp)
      rw [hbreak] at hmem
      cases hmem
    rw [if_pos hlast, hinit, List.dropLast_concat, or_iff_right hnot]
    constructor
    · exact fun h => ⟨_, h, hkey⟩
    · rintro ⟨name, h, hkey'⟩
      rw [hkey, String.append_left_inj] at hkey'
      rwa [hkey']
  · rw [if_neg hlast, String.ofList_toList, or_iff_left]
    rintro ⟨name, -, rfl⟩
    exact hlast (by simp)

namespace Dialect

variable {d : Dialect} {m : Bindings} {before after : Char} {name : String} {v : Value}

theorem bindReferences_alone (hname : Referable name) (hm : m.get? name = some v)
    (hbefore : Reference.blocks before = false) (hafter : isNameChar after = false) (hpercent : before ≠ '%')
    (hpercent' : after ≠ '%') :
    d.bindReferences (alone before name after) m =
      .ok (String.singleton before ++ d.placeholder ++ String.singleton after, [v.plain]) := by
  have hpieces := Reference.pieces_alone hname hbefore hafter
  have hguarded : Reference.pieces (d.guardPercent (alone before name after)) =
      [.plain before, .reference ⟨false, name⟩, .plain after] := by
    cases hd : d.doublesPercent with
    | false => rw [guardPercent, hd, if_neg Bool.false_ne_true, hpieces]
    | true =>
      rw [Reference.pieces_guardPercent hd, hpieces]
      simp [Piece.doubled, hpercent, hpercent']
  have hpiece : d.bindPiece (fun name => .ok (m.get? name)) (.reference ⟨false, name⟩) =
      .ok (d.placeholder, [v.plain]) := bindPiece_of_bound hm
  have hplain (c : Char) : d.bindPiece (fun name => .ok (m.get? name)) (.plain c) = .ok (String.singleton c, []) := rfl
  rw [bindReferences_eq, hguarded]
  simp only [bindPieces, hpiece, hplain, bind, Except.bind, List.append_nil, List.nil_append, String.append_empty,
    String.append_assoc]

/-- A value is sent for a name between blanks only where the name can be referred to. -/
theorem referable_of_bindReferences {text : String}
    (h : d.bindReferences (alone ' ' name ' ') [(name, v)] = .ok (text, [v.plain])) : Referable name := by
  have hvalues := values_of_bindReferences h
  have hsome : ∃ r ∈ Reference.all (alone ' ' name ' '), Bindings.valuesOf [(name, v)] r ≠ [] := by
    by_contra hnone
    push Not at hnone
    rw [List.flatMap_eq_nil_iff.mpr hnone] at hvalues
    cases hvalues
  obtain ⟨⟨expands, name'⟩, hr, hgives⟩ := hsome
  obtain rfl : name = name' := by
    by_contra hne
    exact hgives (by simp [Bindings.valuesOf, Assoc.get?_cons, hne])
  cases expands with
  | false => exact Reference.referable_of_mem_all hr
  | true => exact (Reference.not_mem_all_alone hr).elim

end Dialect

namespace Builder

variable {σ : Type}

theorem apply_setParameter (cat : Catalog) (b : Builder σ) (key : String) {v : Value} (hv : v.isCallable = false) :
    b.apply cat (.setParameter (.text key) v) =
      if isParameterName key then
        ({ b with draft := { b.draft with parameters := b.draft.parameters.put key v } }, none)
      else (b, some (.validation
        "QueryBuilder parameter keys may only contain numbers, letters, underscores, or periods." (.text key))) := by
  show b.step (Build.setParameter (.text key) v) = _
  unfold Build.setParameter
  rw [hv]
  cases hkey : isParameterName key <;> simp [hkey, Value.text?] <;> rfl

/-- Which names a value can be bound to, and which of them a text can refer to. A name is accepted when it is made of
letters, digits, underscores and dots, with or without a line break at its end; if it is not, the statement stays as
it is. A reference to an accepted name, between a character that does not block it and one that ends it, gives way
to one placeholder for the value, and nothing else of the text changes, exactly when the name has no line break and
does not begin with three dots and more. No text refers to any other name by itself. -/
theorem reference_of_setParameter (cat : Catalog) (b : Builder σ) (key : String) {v : Value}
    (hv : v.isCallable = false) :
    ((b.apply cat (.setParameter (.text key) v)).2 = none ↔
      IsName key ∨ ∃ name, IsName name ∧ key = name ++ "\n") ∧
    ((b.apply cat (.setParameter (.text key) v)).2 ≠ none →
      b.apply cat (.setParameter (.text key) v) = (b, some (.validation
        "QueryBuilder parameter keys may only contain numbers, letters, underscores, or periods." (.text key)))) ∧
    ((b.apply cat (.setParameter (.text key) v)).2 = none →
      (b.apply cat (.setParameter (.text key) v)).1.draft.parameters.get? key = some v ∧
      ∀ d : Dialect, (∀ (m : Bindings) (before after : Char), m.get? key = some v →
          Text.isWord before = false → before ≠ ':' → before ≠ '%' → isNameChar after = false → after ≠ '%' →
          d.bindReferences (String.singleton before ++ ":" ++ key ++ String.singleton after) m =
            .ok (String.singleton before ++ d.placeholder ++ String.singleton after, [v.plain])) ↔
        Referable key) ∧
    (¬ Referable key → ∀ sql, ⟨false, key⟩ ∉ Reference.all sql) := by
  have hreads (d : Dialect) : (∀ (m : Bindings) (before after : Char), m.get? key = some v →
      Text.isWord before = false → before ≠ ':' → before ≠ '%' → isNameChar after = false → after ≠ '%' →
      d.bindReferences (alone before key after) m =
        .ok (String.singleton before ++ d.placeholder ++ String.singleton after, [v.plain])) ↔ Referable key := by
    constructor
    · intro h
      have hblank : Text.isWord ' ' = false := by decide
      exact Dialect.referable_of_bindReferences
        (h [(key, v)] ' ' ' ' (by simp [Assoc.get?_cons]) hblank (by decide) (by decide) rfl (by decide))
    · intro hkey m before after hm hword hcolon hpercent hafter hpercent'
      have hbefore : Reference.blocks before = false := by simp [Reference.blocks, hword, hcolon]
      exact Dialect.bindReferences_alone hkey hm hbefore hafter hpercent hpercent'
  rw [apply_setParameter cat b key hv, ← isParameterName_iff]
  refine ⟨?_, ?_, ?_, fun hnot sql h => hnot (Reference.referable_of_mem_all h)⟩
  · cases isParameterName key <;> simp
  · cases isParameterName key <;> simp
  · intro haccepted
    have hkey : isParameterName key := by
      by_contra hkey
      rw [if_neg hkey] at haccepted
      cases haccepted
    rw [if_pos hkey]
    exact ⟨Assoc.get?_put_self _ _ _, hreads⟩

/-- A name with a dot inside can be referred to; one that begins with three dots is accepted, too, and cannot. -/
theorem reference_of_dotted_names :
    Value.isCallable (.int 5) = false ∧
    (Builder.apply ⟨.sqlite, []⟩ ({} : Builder Statement) (.setParameter (.text "a.b") (.int 5))).2 = none ∧
    Dialect.sqlite.bindReferences " :a.b;" [("a.b", .int 5)] = .ok (" ?;", [.int 5]) ∧
    (Builder.apply ⟨.sqlite, []⟩ ({} : Builder Statement) (.setParameter (.text "...x") (.int 5))).2 = none ∧
    ∀ sql, ⟨false, "...x"⟩ ∉ Reference.all sql := by
  have hv : Value.isCallable (.int 5) = false := rfl
  obtain ⟨hinside, -, hreads, -⟩ := reference_of_setParameter ⟨.sqlite, []⟩ ({} : Builder Statement) "a.b" hv
  obtain ⟨hleading, -, -, hnone⟩ := reference_of_setParameter ⟨.sqlite, []⟩ ({} : Builder Statement) "...x" hv
  have haccepted := hinside.mpr (.inl (by decide))
  have hname : Referable "a.b" := by
    refine ⟨by decide, fun rest hrest => ?_⟩
    have hfirst := congrArg (fun name => name.toList.head?) hrest
    simp only [String.toList_append] at hfirst
    exact absurd (Option.some.inj hfirst) (by decide)
  have hblank : Text.isWord ' ' = false := by decide
  refine ⟨hv, haccepted, ?_, hleading.mpr (.inl (by decide)), hnone fun h => ?_⟩
  · exact ((hreads haccepted).2 .sqlite).mpr hname _ ' ' ';' rfl hblank (by decide) (by decide) rfl (by decide)
  · exact absurd (h.2 "x" rfl) (by decide)

end Builder

end SqlWeave
