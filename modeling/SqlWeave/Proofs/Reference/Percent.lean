import SqlWeave.Proofs.Reference.Binding

/-!
# Percent signs

A backend whose placeholders begin with a percent sign reads `%s` as a placeholder and `%%` as a percent
sign, from left to right, and can do nothing with any other percent sign. So percent signs are doubled before
references are replaced. Main result: what such a backend reads of a text that was sent to it is the text
itself with its bound references replaced, whatever percent signs stand beside them.
-/

namespace SqlWeave

/-! ## Reading placeholders -/

/-- What a backend with percent placeholders reads. -/
inductive Mark where
  | char (c : Char)
  | placeholder
  deriving DecidableEq

namespace Mark

/-- Reads characters from left to right; there is no reading when a percent sign is left over. -/
def read : List Char → Option (List Mark)
  | [] => some []
  | '%' :: '%' :: rest => (read rest).map (.char '%' :: ·)
  | '%' :: 's' :: rest => (read rest).map (.placeholder :: ·)
  | '%' :: _ => none
  | c :: rest => (read rest).map (.char c :: ·)

/-- The text that was read, with `T k` in the place of placeholder number `k` and so on. -/
def fill (T : Nat → String) (k : Nat) : List Mark → String
  | [] => ""
  | .char c :: rest => String.singleton c ++ fill T k rest
  | .placeholder :: rest => T k ++ fill T (k + 1) rest

theorem read_cons_of_ne {c : Char} (h : c ≠ '%') (cs : List Char) :
    read (c :: cs) = (read cs).map (.char c :: ·) := by
  rw [read]
  all_goals simp_all

/-- Reading goes on where it came to an end. -/
theorem read_append {as : List Char} {xs : List Mark} (h : read as = some xs) (bs : List Char) :
    read (as ++ bs) = (read bs).map (xs ++ ·) := by
  fun_induction read as generalizing xs with
  | case1 =>
    cases h
    simp
  | case2 rest ih =>
    obtain ⟨ys, hys, rfl⟩ := Option.map_eq_some_iff.mp h
    simp [read, ih hys, Function.comp_def]
  | case3 rest ih =>
    obtain ⟨ys, hys, rfl⟩ := Option.map_eq_some_iff.mp h
    simp [read, ih hys, Function.comp_def]
  | case4 => cases h
  | case5 c rest _ _ hc ih =>
    obtain ⟨ys, hys, rfl⟩ := Option.map_eq_some_iff.mp h
    rw [List.cons_append, read_cons_of_ne fun hc' => hc hc']
    simp [ih hys, Function.comp_def]

theorem read_of_not_mem {cs : List Char} (h : '%' ∉ cs) : read cs = some (cs.map .char) := by
  induction cs with
  | nil => rfl
  | cons c cs ih =>
    rw [List.mem_cons, not_or] at h
    rw [read_cons_of_ne (Ne.symm h.1), ih h.2]
    rfl

theorem fill_append (T : Nat → String) (k : Nat) (xs ys : List Mark) :
    fill T k (xs ++ ys) = fill T k xs ++ fill T (k + xs.count .placeholder) ys := by
  induction xs generalizing k with
  | nil => simp [fill]
  | cons x xs ih =>
    cases x with
    | char c => simp [fill, ih, String.append_assoc]
    | placeholder => simp [fill, ih, String.append_assoc, Nat.add_assoc, Nat.add_comm 1]

theorem fill_map_char (T : Nat → String) (k : Nat) (cs : List Char) :
    fill T k (cs.map .char) = String.ofList cs := by
  induction cs with
  | nil => rfl
  | cons c cs ih =>
    rw [List.map_cons, fill, ih, ← String.toList_inj]
    simp

/-- Placeholders for several values, with a comma between them. -/
theorem read_placeholders (n : Nat) :
    ∃ marks, read (String.intercalate ", " (List.replicate (n + 1) "%s")).toList = some marks ∧
      marks.count .placeholder = n + 1 ∧
      ∀ T k, fill T k marks = String.intercalate ", " ((List.range' k (n + 1)).map T) := by
  induction n with
  | zero => exact ⟨[.placeholder], rfl, rfl, fun T k => by simp [fill]⟩
  | succ n ih =>
    obtain ⟨marks, hread, hcount, hfill⟩ := ih
    have hlead : read ("%s" ++ ", ").toList = some [.placeholder, .char ',', .char ' '] := rfl
    refine ⟨[.placeholder, .char ',', .char ' '] ++ marks, ?_, ?_, fun T k => ?_⟩
    · rw [List.replicate_succ, List.replicate_succ, String.intercalate_cons_cons, ← List.replicate_succ,
        String.toList_append, read_append hlead, hread]
      rfl
    · simp [hcount]
    · have hrange : List.range' k (n + 1 + 1) = k :: (k + 1) :: List.range' (k + 1 + 1) n := rfl
      rw [fill_append, hfill, hrange, List.map_cons, List.map_cons, String.intercalate_cons_cons,
        ← List.map_cons, ← List.range'_succ]
      rfl

end Mark

/-! ## Texts in the place of references -/

namespace Bindings

/-- What stands in the place of a reference, when the values from number `k` on have the texts `T k` and so on:
a reference that is not bound stays, and a sequence becomes the texts of its elements. -/
def standIn (m : Bindings) (T : Nat → String) (k : Nat) (r : Reference) : String :=
  match m.get? r.name with
  | none => r.text
  | some v =>
    if r.expands then
      match v.elements?.getD [] with
      | [] => "NULL"
      | items => String.intercalate ", " ((List.range' k items.length).map T)
    else T k

/-- A text with the references that are bound replaced, numbered from the left. -/
def substitute (m : Bindings) (T : Nat → String) (k : Nat) : List Piece → String
  | [] => ""
  | .plain c :: rest => String.singleton c ++ substitute m T k rest
  | .reference r :: rest => m.standIn T k r ++ substitute m T (k + (m.valuesOf r).length) rest

end Bindings

namespace Bindings

/-- The values of a piece count for the numbers of the pieces after it. -/
theorem substitute_cons (m : Bindings) (T : Nat → String) (k : Nat) (p : Piece) (ps : List Piece) :
    m.substitute T k (p :: ps) = m.substitute T k [p] ++
      m.substitute T (k + ((p.reference?.map m.valuesOf).getD []).length) ps := by
  cases p with
  | plain c =>
    rw [substitute, substitute, substitute, String.append_empty]
    rfl
  | reference r =>
    rw [substitute, substitute, substitute, String.append_empty]
    rfl

end Bindings

/-! ## What is sent is read back -/

/-- What a backend with percent placeholders was sent for some pieces, beside what one without them was sent: it
gets the same values, finds a placeholder for each, and reads the pieces with their bound references replaced. -/
structure Mark.Reads (m : Bindings) (ps : List Piece) (sent plain : String × List Value) : Prop where
  values : sent.2 = plain.2
  marks : ∃ marks, read sent.1.toList = some marks ∧ marks.count .placeholder = sent.2.length ∧
    ∀ T k, fill T k marks = m.substitute T k ps

namespace Dialect

variable {d base : Dialect} {m : Bindings}

theorem placeholder_of_doublesPercent (hd : d.doublesPercent) : d.placeholder = "%s" := by
  cases d with
  | postgres | mysql | mariadb => rfl
  | mssql | sqlite | sqljs => cases hd

theorem reads_bindValue (hd : d.doublesPercent) {r : Reference} {v : Value} (hv : m.get? r.name = some v) :
    Result.Rel Eq (Mark.Reads m [.reference r]) (d.bindValue r v) (base.bindValue r v) := by
  have hread (marks : List Mark) {text text' : String} {values : List Value}
      (hmarks : Mark.read text.toList = some marks) (hcount : marks.count .placeholder = values.length)
      (hfill : ∀ T k, Mark.fill T k marks = m.standIn T k r) :
      Mark.Reads m [.reference r] (text, values) (text', values) := by
    refine ⟨rfl, marks, hmarks, hcount, fun T k => ?_⟩
    rw [hfill, Bindings.substitute, Bindings.substitute, String.append_empty]
  unfold bindValue
  rw [placeholder_of_doublesPercent hd]
  cases he : r.expands with
  | false =>
    refine .ok (hread [.placeholder] rfl rfl fun T k => ?_)
    simp [Mark.fill, Bindings.standIn, hv, he]
  | true =>
    simp only [if_true]
    match hitems : v.elements? with
    | none => exact .error rfl
    | some [] =>
      refine .ok (hread ("NULL".toList.map .char) rfl rfl fun T k => ?_)
      rw [Mark.fill_map_char]
      simp [Bindings.standIn, hv, he, hitems]
    | some (x :: xs) =>
      obtain ⟨marks, hmarks, hcount, hfill⟩ := Mark.read_placeholders xs.length
      refine .ok (hread marks ?_ ?_ fun T k => ?_)
      · rw [List.map_const', List.length_cons, hmarks]
      · rw [hcount, List.length_map, List.length_cons]
      · simp only [hfill, Bindings.standIn, hv, he, hitems, if_true, Option.getD_some, List.length_cons]

theorem bindPieces_append (lookUp : LookUp) (ps qs : List Piece) :
    d.bindPieces lookUp (ps ++ qs) = (do
      let here ← d.bindPieces lookUp ps
      let more ← d.bindPieces lookUp qs
      .ok (here.1 ++ more.1, here.2 ++ more.2)) := by
  induction ps with
  | nil =>
    rw [List.nil_append]
    cases h : d.bindPieces lookUp qs with
    | ok out => simp [bindPieces, bind, Except.bind]
    | error f => rfl
  | cons p ps ih =>
    rw [List.cons_append, bindPieces, bindPieces, ih]
    cases d.bindPiece lookUp p with
    | error f => rfl
    | ok here =>
      cases d.bindPieces lookUp ps with
      | error f => rfl
      | ok more =>
        cases d.bindPieces lookUp qs with
        | error f => rfl
        | ok rest => simp [bind, Except.bind, String.append_assoc]

theorem bindPieces_singleton (lookUp : LookUp) (p : Piece) :
    d.bindPieces lookUp [p] = d.bindPiece lookUp p := by
  cases h : d.bindPiece lookUp p with
  | error f => simp [bindPieces, h, bind, Except.bind]
  | ok out => simp [bindPieces, h, bind, Except.bind]

theorem reads_bindPiece (hd : d.doublesPercent) {p : Piece} (hp : ∀ r, p = .reference r → '%' ∉ r.text.toList) :
    Result.Rel Eq (Mark.Reads m [p]) (d.bindPieces (fun name => .ok (m.get? name)) p.doubled)
      (base.bindPiece (fun name => .ok (m.get? name)) p) := by
  cases p with
  | plain c =>
    by_cases hc : c = '%'
    · subst hc
      exact .ok ⟨rfl, [.char '%'], rfl, rfl, fun T k => rfl⟩
    · rw [Piece.doubled, if_neg hc, bindPieces_singleton]
      refine .ok ⟨rfl, [.char c], ?_, rfl, fun T k => rfl⟩
      rw [String.toList_singleton, Mark.read_cons_of_ne hc]
      rfl
  | reference r =>
    rw [Piece.doubled, bindPieces_singleton]
    cases hm : m.get? r.name with
    | none =>
      rw [bindPiece_of_unbound hm, bindPiece_of_unbound hm]
      refine .ok ⟨rfl, _, Mark.read_of_not_mem (hp r rfl), ?_, fun T k => ?_⟩
      · simp [List.count_eq_zero]
      · rw [Mark.fill_map_char]
        simp [Bindings.substitute, Bindings.standIn, hm]
    | some v =>
      rw [bindPiece_of_bound hm, bindPiece_of_bound hm]
      exact reads_bindValue hd hm

theorem reads_bindPieces (hd : d.doublesPercent) (ps : List Piece)
    (hps : ∀ r, .reference r ∈ ps → '%' ∉ r.text.toList) :
    Result.Rel Eq (Mark.Reads m ps) (d.bindPieces (fun name => .ok (m.get? name)) (ps.flatMap Piece.doubled))
      (base.bindPieces (fun name => .ok (m.get? name)) ps) := by
  induction ps with
  | nil => exact .ok ⟨rfl, [], rfl, rfl, fun T k => rfl⟩
  | cons p ps ih =>
    have hhere : ∀ r, p = .reference r → '%' ∉ r.text.toList := fun r h => hps r (h ▸ List.mem_cons_self)
    have hmore := ih fun r hr => hps r (List.mem_cons_of_mem _ hr)
    rw [List.flatMap_cons, bindPieces_append, bindPieces]
    have hpiece : Result.Rel Eq (Mark.Reads m [p]) (d.bindPieces (fun name => .ok (m.get? name)) p.doubled)
        (base.bindPiece (fun name => .ok (m.get? name)) p) := reads_bindPiece hd hhere
    refine (hpiece.and_right fun out h => values_of_bindPiece h).bind fun here here' hboth =>
      hmore.bind fun more more' hmore => .ok ?_
    obtain ⟨hhere, hvalues⟩ := hboth
    -- The placeholders of the first piece count for the numbers of the others.
    obtain ⟨xs, hxs, hxcount, hxfill⟩ := hhere.marks
    obtain ⟨ys, hys, hycount, hyfill⟩ := hmore.marks
    refine ⟨congrArg₂ _ hhere.values hmore.values, xs ++ ys, ?_, ?_, fun T k => ?_⟩
    · rw [String.toList_append, Mark.read_append hxs, hys]
      rfl
    · rw [List.count_append, hxcount, hycount, List.length_append]
    · rw [Mark.fill_append, hxfill, hyfill, Bindings.substitute_cons m T k p ps, hxcount, hhere.values, hvalues]

end Dialect

/-! ## Texts -/

namespace Reference

theorem afterColon?_of_mem_scan {r : Reference} (cs : List Char) : ∀ (blocked : Bool) (inside : Nat),
    .reference r ∈ scan blocked inside cs → ∃ rest, afterColon? rest = some r := by
  induction cs with
  | nil =>
    intro blocked inside h
    cases inside <;> cases h
  | cons c cs ih =>
    intro blocked inside h
    have hplain (b : Bool) (h : .reference r ∈ Piece.plain c :: scan b 0 cs) : ∃ rest, afterColon? rest = some r := by
      rcases List.mem_cons.mp h with h | h
      · cases h
      · exact ih b 0 h
    cases inside with
    | succ n =>
      rw [scan] at h
      exact ih _ n h
    | zero =>
      rw [scan] at h
      split at h
      · split at h
        · next r' hr' =>
          rcases List.mem_cons.mp h with heq | h
          · cases heq
            exact ⟨cs, hr'⟩
          · exact ih _ _ h
        · exact hplain _ h
      · exact hplain _ h

/-- No cut stands inside a reference. -/
theorem cut_not_mem_text {c : Char} (hc : isCut c) {r : Reference} {sql : String} (h : .reference r ∈ pieces sql) :
    c ∉ r.text.toList := by
  obtain ⟨rest, hrest⟩ := afterColon?_of_mem_scan _ _ _ h
  rw [text_of_afterColon? hrest, List.mem_cons, not_or]
  refine ⟨ne_colon_of_isCut hc, fun hmem => ?_⟩
  have hname := List.mem_takeWhile_imp hmem
  rw [isNameChar_of_isCut hc] at hname
  cases hname

theorem percent_not_mem_text {r : Reference} {sql : String} (h : .reference r ∈ pieces sql) :
    '%' ∉ r.text.toList := cut_not_mem_text (by decide) h

end Reference

namespace Dialect

variable {d base : Dialect} {m : Bindings}

/-- Pieces of which none is bound make up their text. -/
theorem bindPieces_unbound (ps : List Piece) :
    d.bindPieces (fun _ => .ok none) ps = .ok (String.ofList (ps.flatMap (·.text.toList)), []) := by
  induction ps with
  | nil => rfl
  | cons p ps ih =>
    have hpiece : d.bindPiece (fun _ => .ok none) p = .ok (p.text, []) := by cases p <;> rfl
    rw [bindPieces, hpiece, ih]
    simp [bind, Except.bind]

/-- Where nothing is bound a text is sent without a scan, which would find nothing to replace. -/
theorem bindReferences_eq (d : Dialect) (sql : String) (m : Bindings) :
    d.bindReferences sql m =
      d.bindPieces (fun name => .ok (m.get? name)) (Reference.pieces (d.guardPercent sql)) := by
  unfold bindReferences
  dsimp only
  split
  · next hm =>
    rw [List.isEmpty_iff.mp hm]
    show _ = d.bindPieces (fun _ => .ok none) (Reference.pieces (d.guardPercent sql))
    rw [bindPieces_unbound, Reference.text_pieces, String.ofList_toList]
  · rfl

/-- Bindings that give the references of a text the same values bind it to the same end. -/
theorem bindReferences_congr {sql : String} {m n : Bindings}
    (h : ∀ r ∈ Reference.all sql, m.get? r.name = n.get? r.name) :
    d.bindReferences sql m = d.bindReferences sql n := by
  have hpieces (ps : List Piece) (hps : ∀ r ∈ ps.filterMap Piece.reference?, m.get? r.name = n.get? r.name) :
      d.bindPieces (fun name => .ok (m.get? name)) ps = d.bindPieces (fun name => .ok (n.get? name)) ps := by
    induction ps with
    | nil => rfl
    | cons p ps ih =>
      have hpiece : d.bindPiece (fun name => .ok (m.get? name)) p = d.bindPiece (fun name => .ok (n.get? name)) p := by
        cases p with
        | plain c => rfl
        | reference r =>
          have hr : m.get? r.name = n.get? r.name := hps r (by simp [Piece.reference?])
          simp only [bindPiece, hr]
      rw [bindPieces, bindPieces, hpiece, ih fun r hr => hps r ?_]
      rw [List.filterMap_cons]
      split
      · exact hr
      · exact List.mem_cons_of_mem _ hr
  rw [bindReferences_eq, bindReferences_eq]
  refine hpieces _ fun r hr => h r ?_
  rw [← Reference.all_guardPercent d sql]
  exact hr

/-- A text that is given as a value, with parameters by name, is bound like a text. -/
theorem bindValues_record (d : Dialect) (sql : String) (m : Bindings) :
    d.bindValues (.text sql) (.record m) = (d.bindReferences sql m).map fun sent => (.text sent.1, sent.2) := by
  have hlook : lookUpIn (.record m) = fun name => .ok (m.get? name) := rfl
  have hnamed : nameText (.text sql) = .ok sql := rfl
  have hrest (guarded : String) : (if (!(Value.record m).truth) = true then pure (.text guarded, [])
      else do
        let sent ← d.bindPieces (lookUpIn (.record m)) (Reference.pieces guarded)
        pure (.text sent.1, sent.2) : Result (Value × List Value)) =
      (if m.isEmpty then .ok (guarded, [])
        else d.bindPieces (fun name => .ok (m.get? name)) (Reference.pieces guarded)).map
          fun sent => (.text sent.1, sent.2) := by
    rw [hlook]
    cases hm : m.isEmpty with
    | true => simp [Value.truth, hm, pure, Except.pure, Except.map]
    | false =>
      simp only [Value.truth, hm]
      cases d.bindPieces (fun name => .ok (m.get? name)) (Reference.pieces guarded) <;> rfl
  unfold bindValues bindReferences guardPercent
  cases hd : d.doublesPercent with
  | true => exact hrest _
  | false => exact hrest _

/-- A text with references, as it is sent to a backend with percent placeholders and as it is sent to one
without. It can be sent to neither, for the same reason, or both get the same values; then the first reads each
percent sign as part of a placeholder or of a doubled sign, there are as many placeholders as values, and what it
reads is the text, made of its pieces, with the texts of the values in the place of the bound references. The
same holds where the text is given as a value, with parameters by name or without any. -/
theorem read_bindReferences (hd : d.doublesPercent) (hbase : base.doublesPercent = false) (sql : String)
    (m : Bindings) :
    Result.Rel Eq (Mark.Reads m (Reference.pieces sql)) (d.bindReferences sql m) (base.bindReferences sql m) ∧
    (Reference.pieces sql).flatMap (·.text.toList) = sql.toList ∧
    ∀ given, given = .record m ∨ m = [] ∧ given = .null →
      d.bindValues (.text sql) given = (d.bindReferences sql m).map fun sent => (.text sent.1, sent.2) := by
  refine ⟨?_, Reference.text_pieces sql, ?_⟩
  · have hplain : base.guardPercent sql = sql := by rw [guardPercent, hbase, if_neg Bool.false_ne_true]
    rw [bindReferences_eq, bindReferences_eq, hplain, Reference.pieces_guardPercent hd]
    exact reads_bindPieces hd _ fun r hr => Reference.percent_not_mem_text hr
  · rintro given (rfl | ⟨rfl, rfl⟩)
    · exact bindValues_record d sql m
    · rw [← bindValues_record]
      rfl

/-- A rate with a percent sign right before a reference, and a name that is not bound. -/
def rateText : String := "rate = %:who AND id IN (:...ids) OR :no"

def rateBindings : Bindings := [("who", .text "%s"), ("ids", .list [.int 1, .int 2])]

set_option maxRecDepth 4000 in
theorem read_rates :
    Dialect.postgres.doublesPercent = true ∧ Dialect.sqlite.doublesPercent = false ∧
    Dialect.postgres.bindReferences rateText rateBindings =
      .ok ("rate = %%%s AND id IN (%s, %s) OR :no", [.text "%s", .int 1, .int 2]) ∧
    ∃ marks, Mark.read "rate = %%%s AND id IN (%s, %s) OR :no".toList = some marks ∧
      marks.count .placeholder = 3 ∧ ∀ T : Nat → String, Mark.fill T 0 marks =
        rateBindings.substitute T 0 (Reference.pieces rateText) := by
  have hdoubles : Dialect.postgres.doublesPercent = true := rfl
  have hplaced : Dialect.sqlite.doublesPercent = false := rfl
  have hsent : Dialect.postgres.bindReferences rateText rateBindings =
      .ok ("rate = %%%s AND id IN (%s, %s) OR :no", [.text "%s", .int 1, .int 2]) := rfl
  have hplain : Dialect.sqlite.bindReferences rateText rateBindings =
      .ok ("rate = %? AND id IN (?, ?) OR :no", [.text "%s", .int 1, .int 2]) := rfl
  have hrel := (read_bindReferences hdoubles hplaced rateText rateBindings).1
  rw [hsent, hplain] at hrel
  cases hrel with
  | ok hreads =>
    obtain ⟨marks, hmarks, hcount, hfill⟩ := hreads.marks
    exact ⟨hdoubles, hplaced, hsent, marks, hmarks, hcount, fun T => hfill T 0⟩

end Dialect

end SqlWeave
