import SqlWeave.Proofs.Reference.Percent
import SqlWeave.Proofs.Statement.Comment

/-!
# What the comment of a statement binds

References are replaced in the whole text of a statement, and so in its comment, too. Main result: a comment leaves
the values and the rest of the text as they are, and has no placeholder put into it, exactly when none of its
references is bound to something that gives a value. Every value that it gives comes before those of the statement.
-/

namespace SqlWeave

open Reference (EndsOpen)

namespace Dialect

variable {d : Dialect} {m : Bindings}

/-! ## Texts in a row -/

theorem pieces_guardPercent_append {a : String} (h : EndsOpen a) (d : Dialect) (b : String) :
    Reference.pieces (d.guardPercent (a ++ b)) =
      Reference.pieces (d.guardPercent a) ++ Reference.pieces (d.guardPercent b) := by
  cases hd : d.doublesPercent with
  | false =>
    simp only [guardPercent, hd, Bool.false_eq_true, if_false]
    exact Reference.pieces_append_of_endsOpen h b
  | true =>
    rw [Reference.pieces_guardPercent hd, Reference.pieces_guardPercent hd, Reference.pieces_guardPercent hd,
      Reference.pieces_append_of_endsOpen h, List.flatMap_append]

/-- Two texts in a row are bound one after the other. -/
theorem bindReferences_append {a : String} (h : EndsOpen a) (b : String) :
    d.bindReferences (a ++ b) m = (do
      let here ← d.bindReferences a m
      let more ← d.bindReferences b m
      .ok (here.1 ++ more.1, here.2 ++ more.2)) := by
  rw [bindReferences_eq, bindReferences_eq, bindReferences_eq, pieces_guardPercent_append h, bindPieces_append]

/-- A text can only fail to be bound for want of elements. -/
theorem eq_of_bindPieces_error {ps : List Piece} {f : Failure}
    (h : d.bindPieces (fun name => .ok (m.get? name)) ps = .error f) : f = .wrongKind := by
  induction ps with
  | nil => cases h
  | cons p ps ih =>
    rw [bindPieces] at h
    cases hp : d.bindPiece (fun name => .ok (m.get? name)) p with
    | error g =>
      obtain rfl : g = f := by simpa [hp, bind, Except.bind] using h
      cases p with
      | plain c => cases hp
      | reference r =>
        cases hr : m.get? r.name with
        | none =>
          rw [bindPiece_of_unbound hr] at hp
          cases hp
        | some v =>
          rw [bindPiece_of_bound hr, bindValue] at hp
          split at hp
          · split at hp
            · exact (Except.error.inj hp).symm
            · cases hp
            · cases hp
          · cases hp
    | ok here =>
      cases hps : d.bindPieces (fun name => .ok (m.get? name)) ps with
      | error g =>
        obtain rfl : g = f := by simpa [hp, hps, bind, Except.bind] using h
        exact ih hps
      | ok more => simp [hp, hps, bind, Except.bind] at h

theorem eq_of_bindReferences_error {sql : String} {f : Failure} (h : d.bindReferences sql m = .error f) :
    f = .wrongKind := by
  rw [bindReferences_eq] at h
  exact eq_of_bindPieces_error h

/-! ## Placeholders -/

/-- How many placeholders a backend finds in a text. Percent placeholders are read from left to right; of the others
every question mark counts. -/
def placeholders? (d : Dialect) (text : String) : Option Nat :=
  if d.doublesPercent then (Mark.read text.toList).map (·.count .placeholder) else some (text.toList.count '?')

theorem count_placeholders (n : Nat) :
    (String.intercalate ", " (List.replicate n "?")).toList.count '?' = n := by
  induction n with
  | zero => rfl
  | succ n ih =>
    cases n with
    | zero => rfl
    | succ n =>
      rw [List.replicate_succ, List.replicate_succ, String.intercalate_cons_cons, ← List.replicate_succ,
        String.toList_append, String.toList_append, List.count_append, List.count_append, ih]
      show 1 + 0 + (n + 1) = _
      omega

theorem placeholder_of_not_doublesPercent (hd : d.doublesPercent = false) : d.placeholder = "?" := by
  cases d with
  | postgres | mysql | mariadb => cases hd
  | mssql | sqlite | sqljs => rfl

theorem count_of_bindValue (hd : d.doublesPercent = false) {r : Reference} {v : Value} {text : String}
    {values : List Value} (h : d.bindValue r v = .ok (text, values)) : text.toList.count '?' = values.length := by
  rw [bindValue, placeholder_of_not_doublesPercent hd] at h
  split at h
  · split at h
    · cases h
    · cases h
      rfl
    · cases h
      rw [List.map_const', count_placeholders, List.length_map]
  · cases h
    rfl

theorem count_of_bindPieces (hd : d.doublesPercent = false) {ps : List Piece} {text : String} {values : List Value}
    (hps : ∀ r, .reference r ∈ ps → '?' ∉ r.text.toList)
    (h : d.bindPieces (fun name => .ok (m.get? name)) ps = .ok (text, values)) :
    text.toList.count '?' = (ps.flatMap (·.text.toList)).count '?' + values.length := by
  induction ps generalizing text values with
  | nil =>
    cases h
    rfl
  | cons p ps ih =>
    simp only [bindPieces, Result.bind_eq_ok] at h
    obtain ⟨⟨t, vs⟩, hp, ⟨u, us⟩, hmore, h⟩ := h
    cases h
    have hrest := ih (fun r hr => hps r (List.mem_cons_of_mem _ hr)) hmore
    have hhere : t.toList.count '?' = p.text.toList.count '?' + vs.length := by
      cases p with
      | plain c =>
        cases hp
        rfl
      | reference r =>
        -- The name holds no question mark, so it makes no difference whether it stays.
        have hname : r.text.toList.count '?' = 0 := List.count_eq_zero.mpr (hps r List.mem_cons_self)
        rw [Piece.text, hname, Nat.zero_add]
        cases hr : m.get? r.name with
        | none =>
          rw [bindPiece_of_unbound hr] at hp
          cases hp
          exact hname
        | some v =>
          rw [bindPiece_of_bound hr] at hp
          exact count_of_bindValue hd hp
    show (t ++ u).toList.count '?' = _ + (vs ++ us).length
    rw [String.toList_append, List.count_append, List.flatMap_cons, List.count_append, List.length_append, hhere, hrest]
    omega

/-- The placeholders that a text has of its own. Percent signs make none, as they are doubled. -/
def ownPlaceholders (d : Dialect) (text : String) : Nat := if d.doublesPercent then 0 else text.toList.count '?'

/-- A text that is sent has its own placeholders and one for each of its values. -/
theorem placeholders_of_bindReferences {sql text : String} {values : List Value}
    (h : d.bindReferences sql m = .ok (text, values)) :
    d.placeholders? text = some (d.ownPlaceholders sql + values.length) := by
  rw [bindReferences_eq] at h
  cases hd : d.doublesPercent with
  | false =>
    have hplain : d.guardPercent sql = sql := by rw [guardPercent, hd, if_neg Bool.false_ne_true]
    rw [hplain] at h
    have hcount := count_of_bindPieces hd (fun r hr => Reference.cut_not_mem_text (by decide) hr) h
    rw [Reference.text_pieces] at hcount
    simp [placeholders?, ownPlaceholders, hd, hcount]
  | true =>
    -- Any dialect with other placeholders will do to compare with.
    rw [Reference.pieces_guardPercent hd] at h
    have hreads := @reads_bindPieces d .sqlite m hd (Reference.pieces sql)
      fun r hr => Reference.percent_not_mem_text hr
    rw [h] at hreads
    generalize sqlite.bindPieces (fun name => .ok (m.get? name)) (Reference.pieces sql) = plain at hreads
    cases hreads with
    | ok hreads =>
      obtain ⟨marks, hmarks, hcount, -⟩ := hreads.marks
      simp [placeholders?, ownPlaceholders, hd, hmarks, hcount]

/-- A text of which nothing is bound is sent as it is, but for its percent signs. -/
theorem bindReferences_of_unbound {sql : String} (h : ∀ r ∈ Reference.all sql, m.get? r.name = none) :
    d.bindReferences sql m = .ok (d.guardPercent sql, []) := by
  rw [bindReferences_congr (n := []) fun r hr => (h r hr).trans rfl]
  rfl

end Dialect

/-! ## References that give nothing -/

/-- A reference gives nothing where its name is not bound, or where it asks for the elements of an empty sequence. -/
def Bindings.GivesNothing (m : Bindings) (r : Reference) : Prop :=
  ∀ v, m.get? r.name = some v → r.expands ∧ v.elements? = some []

theorem Bindings.givesNothing_iff {m : Bindings} {r : Reference} :
    m.GivesNothing r ↔ m.CanBind r ∧ m.valuesOf r = [] := by
  unfold GivesNothing CanBind valuesOf
  cases m.get? r.name with
  | none => simp
  | some v =>
    cases r.expands with
    | false => simp
    | true =>
      cases hitems : v.elements? with
      | none => simp [hitems]
      | some items => simp [hitems]

/-! ## The comment of a statement -/

open Comment (leading kept leading_of_ne)

variable {cat : Catalog} {text : String}

theorem Comment.endsOpen_leading (text : String) : EndsOpen (leading text) := by
  by_cases htext : text = ""
  · exact .inl (if_pos htext)
  · rw [leading_of_ne htext]
    exact Reference.endsOpen_append _ " */" ' ' (by decide) rfl

theorem Comment.all_leading (text : String) : Reference.all (leading text) = Reference.all (kept text) := by
  by_cases htext : text = ""
  · rw [htext]
    rfl
  · have hopens : EndsOpen "/* " := by decide
    have hcloses : Reference.BeginsOpen " */ " := by decide
    have hopening : Reference.all "/* " = [] := by decide
    have hclosing : Reference.all " */ " = [] := by decide
    rw [leading_of_ne htext, Reference.all_append_of_beginsOpen hcloses, Reference.all_append_of_endsOpen hopens,
      hopening, hclosing, List.nil_append, List.append_nil]

theorem Comment.ownPlaceholders_leading (d : Dialect) (text : String) :
    d.ownPlaceholders (leading text) = d.ownPlaceholders (kept text) := by
  by_cases htext : text = ""
  · rw [htext]
    rfl
  · simp [leading_of_ne htext, Dialect.ownPlaceholders]

namespace Builder

theorem parameters_uncommented (b : Builder Statement) :
    Statement.parameters cat (.of b.uncommented) = Statement.parameters cat (.of b) := by
  obtain ⟨kind, draft, ctes⟩ := b
  cases kind <;> rfl

/-- A statement is bound like its comment and the statement without it, one after the other. -/
theorem bound_append_comment {b : Builder Statement} (htext : b.draft.comment.text? = some text) {m : Bindings}
    {rest : String} (hrest : Statement.query cat (.of b.uncommented) = .ok rest)
    (hm : Statement.parameters cat (.of b) = .ok m) :
    Statement.bound cat (.of b) = (do
      let here ← cat.dialect.bindReferences (leading text) m
      let more ← Statement.bound cat (.of b.uncommented)
      .ok (here.1 ++ more.1, here.2 ++ more.2)) := by
  have hquery : Statement.query cat (.of b) = .ok (leading text ++ rest) := by
    rw [query_of_comment htext, hrest]
    rfl
  rw [Statement.bound, Statement.bound, hquery, hrest, parameters_uncommented, hm]
  exact Dialect.bindReferences_append (Comment.endsOpen_leading text) rest

theorem bound_error_of_uncommented {b : Builder Statement} (htext : b.draft.comment.text? = some text) {f : Failure}
    (h : Statement.bound cat (.of b.uncommented) = .error f) : Statement.bound cat (.of b) = .error f := by
  cases hrest : Statement.query cat (.of b.uncommented) with
  | error g =>
    rw [Statement.bound, hrest] at h
    rw [Statement.bound, query_of_comment htext, hrest]
    exact h
  | ok rest =>
    cases hm : Statement.parameters cat (.of b) with
    | error g =>
      rw [Statement.bound, hrest, parameters_uncommented, hm] at h
      rw [Statement.bound, query_of_comment htext, hrest, hm]
      exact h
    | ok m =>
      rw [bound_append_comment htext hrest hm, h]
      rw [Statement.bound, hrest, parameters_uncommented, hm] at h
      -- There is one way in which a text cannot be bound, so it does not matter which of the two fails first.
      cases hlead : cat.dialect.bindReferences (leading text) m with
      | error g => rw [Dialect.eq_of_bindReferences_error hlead, Dialect.eq_of_bindReferences_error h]; rfl
      | ok lead => rfl

/-- What a comment gives comes before what the statement gives without it. -/
theorem exists_lead_of_bound {b : Builder Statement} (htext : b.draft.comment.text? = some text) {m : Bindings}
    (hm : Statement.parameters cat (.of b) = .ok m) {rest sql : String} {values sent : List Value}
    (hrest : Statement.bound cat (.of b.uncommented) = .ok (rest, values))
    (hsql : Statement.bound cat (.of b) = .ok (sql, sent)) : ∃ lead,
      cat.dialect.bindReferences (leading text) m = .ok (lead, (Reference.all (kept text)).flatMap m.valuesOf) ∧
      sql = lead ++ rest ∧ sent = (Reference.all (kept text)).flatMap m.valuesOf ++ values := by
  obtain ⟨plain, -, hplain, -, -⟩ := Statement.bound_eq_ok.mp hrest
  rw [bound_append_comment htext hplain hm, hrest] at hsql
  obtain ⟨⟨lead, own⟩, hlead, hout⟩ := Result.bind_eq_ok.mp hsql
  obtain ⟨hsql, hsent⟩ := Prod.mk.inj (Except.ok.inj hout)
  have hown := Dialect.values_of_bindReferences hlead
  rw [Comment.all_leading] at hown
  rw [hown] at hlead
  refine ⟨lead, hlead, hsql.symm, ?_⟩
  rw [← hsent, ← hown]

theorem placeholders_of_leading {m : Bindings} {lead : String} {own : List Value}
    (h : cat.dialect.bindReferences (leading text) m = .ok (lead, own)) :
    cat.dialect.placeholders? lead = some (cat.dialect.ownPlaceholders (kept text) + own.length) := by
  rw [Dialect.placeholders_of_bindReferences h, Comment.ownPlaceholders_leading]

/-- A comment can be bound without a value exactly when each of its references gives nothing. -/
theorem bindReferences_leading_iff {m : Bindings} :
    (∃ lead, cat.dialect.bindReferences (leading text) m = .ok (lead, [])) ↔
      ∀ r ∈ Reference.all (kept text), m.GivesNothing r := by
  constructor
  · rintro ⟨lead, hlead⟩
    have hnone := Dialect.values_of_bindReferences hlead
    have hcan := (Dialect.bindReferences_isOk _ _ _).mp ⟨_, hlead⟩
    rw [Comment.all_leading] at hnone hcan
    intro r hr
    exact Bindings.givesNothing_iff.mpr ⟨hcan r hr, List.flatMap_eq_nil_iff.mp hnone.symm r hr⟩
  · intro h
    have hcan : ∀ r ∈ Reference.all (leading text), m.CanBind r := by
      rw [Comment.all_leading]
      exact fun r hr => (Bindings.givesNothing_iff.mp (h r hr)).1
    obtain ⟨⟨lead, own⟩, hlead⟩ := (Dialect.bindReferences_isOk cat.dialect _ _).mpr hcan
    have hown := Dialect.values_of_bindReferences hlead
    have hnone : (Reference.all (kept text)).flatMap m.valuesOf = [] :=
      List.flatMap_eq_nil_iff.mpr fun r hr => (Bindings.givesNothing_iff.mp (h r hr)).2
    rw [Comment.all_leading, hnone] at hown
    exact ⟨lead, by rw [hlead, hown]⟩

/-- How a comment changes what a statement is sent with. A statement that cannot be sent without its comment cannot
be sent with it. Of one that can be, the comment gives the values of its references, in front of the others, and
has a placeholder for each of them beside those of its own. So the values and the rest of the text stay as they are,
with no placeholder put into the comment, exactly when each of its references gives nothing; and where none of them
is bound the comment itself stays as it is, but for its percent signs. -/
theorem bound_comment {b : Builder Statement} (htext : b.draft.comment.text? = some text) :
    (∀ f, Statement.bound cat (.of b.uncommented) = .error f → Statement.bound cat (.of b) = .error f) ∧
    ∀ rest values, Statement.bound cat (.of b.uncommented) = .ok (rest, values) →
      ∃ m, Statement.parameters cat (.of b) = .ok m ∧
        (∀ sql sent, Statement.bound cat (.of b) = .ok (sql, sent) → ∃ lead, sql = lead ++ rest ∧
          sent = (Reference.all (kept text)).flatMap m.valuesOf ++ values ∧
          cat.dialect.placeholders? lead = some (cat.dialect.ownPlaceholders (kept text) +
            ((Reference.all (kept text)).flatMap m.valuesOf).length)) ∧
        ((∃ lead, Statement.bound cat (.of b) = .ok (lead ++ rest, values) ∧
            cat.dialect.placeholders? lead = some (cat.dialect.ownPlaceholders (kept text))) ↔
          ∀ r ∈ Reference.all (kept text), m.GivesNothing r) ∧
        ((∀ r ∈ Reference.all (kept text), m.get? r.name = none) →
          Statement.bound cat (.of b) = .ok (cat.dialect.guardPercent (leading text) ++ rest, values)) := by
  refine ⟨fun f h => bound_error_of_uncommented htext h, fun rest values hrest => ?_⟩
  obtain ⟨plain, m, hplain, hm, -⟩ := Statement.bound_eq_ok.mp hrest
  rw [parameters_uncommented] at hm
  have hbound := bound_append_comment htext hplain hm
  rw [hrest] at hbound
  refine ⟨m, hm, ?_, ?_, ?_⟩
  · intro sql sent hsql
    obtain ⟨lead, hlead, htext, hvalues⟩ := exists_lead_of_bound htext hm hrest hsql
    exact ⟨lead, htext, hvalues, placeholders_of_leading hlead⟩
  · rw [← bindReferences_leading_iff]
    constructor
    · rintro ⟨lead, hsql, -⟩
      obtain ⟨lead', hlead, -, hvalues⟩ := exists_lead_of_bound htext hm hrest hsql
      rw [List.self_eq_append_left.mp hvalues] at hlead
      exact ⟨lead', hlead⟩
    · rintro ⟨lead, hlead⟩
      refine ⟨lead, ?_, placeholders_of_leading hlead⟩
      rw [hbound, hlead]
      rfl
  · intro hunbound
    rw [← Comment.all_leading] at hunbound
    rw [hbound, Dialect.bindReferences_of_unbound hunbound]
    rfl

/-- A statement whose comment refers to one of its values. -/
def referring : Builder Statement :=
  { draft := { comment := .text "see :id", wheres := [(.simple, .text "id = :id")], parameters := [("id", .int 1)] } }

set_option maxRecDepth 4000 in
theorem bound_referring :
    referring.draft.comment.text? = some "see :id" ∧
    Statement.bound ⟨.sqlite, []⟩ (.of referring.uncommented) = .ok ("SELECT * WHERE id = ?", [.int 1]) ∧
    Statement.bound ⟨.sqlite, []⟩ (.of referring) =
      .ok ("/* see ? */ SELECT * WHERE id = ?", [.int 1, .int 1]) ∧
    ¬ ∃ lead, Statement.bound ⟨.sqlite, []⟩ (.of referring) = .ok (lead ++ "SELECT * WHERE id = ?", [.int 1]) ∧
      Dialect.sqlite.placeholders? lead = some 0 := by
  have htext : referring.draft.comment.text? = some "see :id" := rfl
  have hplain : Statement.bound ⟨.sqlite, []⟩ (.of referring.uncommented) =
      .ok ("SELECT * WHERE id = ?", [.int 1]) := rfl
  obtain ⟨m, hm, -, hneutral, -⟩ := (bound_comment htext).2 _ _ hplain
  obtain rfl := Except.ok.inj hm
  refine ⟨htext, hplain, rfl, fun hsame => ?_⟩
  have hnothing := hneutral.mp hsame ⟨false, "id"⟩ (by decide) (.int 1) rfl
  cases hnothing.1

end Builder

end SqlWeave
