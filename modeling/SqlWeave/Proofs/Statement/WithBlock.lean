import Mathlib.Data.List.Basic
import SqlWeave.Proofs.Reference.Binding
import SqlWeave.Statement.Lowering

/-!
# Bindings inside a WITH block

The statements of a WITH block bring their bindings with them, and all bindings of a tree of statements
end in one map. Names are generated by each builder for itself, so two statements of a tree may bind one
name to different values; then the one that is merged later wins. `Within` follows the way from a tree to
a statement inside of it and collects what is merged before and after that statement's bindings. A
reference inside keeps its value exactly when what is merged later does not bind its name to another one.
-/

namespace SqlWeave

open Reference (EndsOpen BeginsOpen all_append_of_endsOpen all_append_of_beginsOpen)

variable {cat : Catalog}

/-! ## Entries by themselves -/

/-- An entry of a WITH block as it is written: what stands before its SQL, this SQL, and what the names in
it are bound to where the entry stands alone. -/
structure Segment where
  head : String
  sql : String
  bindings : Bindings

namespace Segment

def text (g : Segment) : String := g.head ++ g.sql ++ ")"

/-- The values that the entry gives in a tree that binds `m`. -/
def valuesIn (m : Bindings) (g : Segment) : List Value :=
  (Reference.all g.head ++ Reference.all g.sql).flatMap m.valuesOf

/-- In a tree that binds `m` the entry refers to what it refers to where it stands alone. -/
def Kept (m : Bindings) (g : Segment) : Prop :=
  (∀ r ∈ Reference.all g.head, m.get? r.name = none) ∧
    ∀ r ∈ Reference.all g.sql, m.get? r.name = g.bindings.get? r.name

theorem valuesIn_of_kept {m : Bindings} {g : Segment} (h : g.Kept m) :
    g.valuesIn m = (Reference.all g.sql).flatMap g.bindings.valuesOf := by
  obtain ⟨hhead, hsql⟩ := h
  have hnone : (Reference.all g.head).flatMap m.valuesOf = [] := by
    refine List.flatMap_eq_nil_iff.mpr fun r hr => ?_
    rw [Bindings.valuesOf, hhead r hr]
  rw [valuesIn, List.flatMap_append, hnone, List.nil_append]
  exact List.flatMap_congr fun r hr => Bindings.valuesOf_congr (hsql r hr)

end Segment

namespace Cte

/-- The SQL that an entry stands for. -/
def inner (cat : Catalog) (c : Cte Statement) : Result String :=
  match c.source with
  | .value sql => .ok sql.display
  | .statement s => s.query cat

/-- What the names in an entry's SQL are bound to. -/
def bindings (cat : Catalog) (c : Cte Statement) : Result Bindings :=
  match c.source with
  | .value _ => .ok []
  | .statement s => s.parameters cat

/-- The values that an entry's SQL is sent with where it stands alone. -/
def valuesAlone (cat : Catalog) (c : Cte Statement) : Result (List Value) :=
  match c.source with
  | .value _ => .ok []
  | .statement s => (s.bound cat).map Prod.snd

def segment (cat : Catalog) (c : Cte Statement) : Result Segment := do
  let head ← c.head cat.dialect
  let sql ← c.inner cat
  let bindings ← c.bindings cat
  return { head, sql, bindings }

end Cte

namespace Statement

theorem entryTexts_cons (c : Cte Statement) (rest : List (Cte Statement)) :
    entryTexts cat (c :: rest) = (do
      let sql ← c.inner cat
      let here ← c.render cat.dialect sql
      let more ← entryTexts cat rest
      return here :: more) := by
  obtain ⟨source, name, columns, recursive, materialized⟩ := c
  rw [entryTexts.eq_def]
  cases source with
  | value sql => rfl
  | statement s => rfl

theorem entryParameters_cons (c : Cte Statement) (rest : List (Cte Statement)) :
    entryParameters cat (c :: rest) = (do
      let here ← c.bindings cat
      let more ← entryParameters cat rest
      return Assoc.merge here more) := by
  obtain ⟨source, name, columns, recursive, materialized⟩ := c
  rw [entryParameters.eq_def]
  cases source with
  | value sql => rfl
  | statement s => rfl

theorem entryTexts_cons_eq_ok {c : Cte Statement} {rest : List (Cte Statement)} {texts : List String} :
    entryTexts cat (c :: rest) = .ok texts ↔ ∃ head sql more, c.head cat.dialect = .ok head ∧
      c.inner cat = .ok sql ∧ entryTexts cat rest = .ok more ∧ texts = (head ++ sql ++ ")") :: more := by
  simp only [entryTexts_cons, Result.bind_eq_ok, Cte.render, Result.pure_eq_ok]
  constructor
  · rintro ⟨sql, hs, here, ⟨head, hh, rfl⟩, more, hm, rfl⟩
    exact ⟨head, sql, more, hh, hs, hm, rfl⟩
  · rintro ⟨head, sql, more, hh, hs, hm, rfl⟩
    exact ⟨sql, hs, _, ⟨head, hh, rfl⟩, more, hm, rfl⟩

theorem entryParameters_cons_eq_ok {c : Cte Statement} {rest : List (Cte Statement)} {m : Bindings} :
    entryParameters cat (c :: rest) = .ok m ↔ ∃ here more, c.bindings cat = .ok here ∧
      entryParameters cat rest = .ok more ∧ m = Assoc.merge here more := by
  simp only [entryParameters_cons, Result.bind_eq_ok, Result.pure_eq_ok]
  constructor
  · rintro ⟨here, hh, more, hm, rfl⟩
    exact ⟨here, more, hh, hm, rfl⟩
  · rintro ⟨here, more, hh, hm, rfl⟩
    exact ⟨here, hh, more, hm, rfl⟩

/-- A WITH block is written entry by entry. -/
theorem mapM_segment_of_entryTexts {ctes : List (Cte Statement)} {texts : List String} {m : Bindings}
    (ht : entryTexts cat ctes = .ok texts) (hm : entryParameters cat ctes = .ok m) :
    ∃ gs, ctes.mapM (Cte.segment cat) = .ok gs ∧ texts = gs.map Segment.text := by
  induction ctes generalizing texts m with
  | nil =>
    rw [entryTexts] at ht
    cases ht
    exact ⟨[], rfl, rfl⟩
  | cons c rest ih =>
    obtain ⟨head, sql, more, hh, hs, hr, rfl⟩ := entryTexts_cons_eq_ok.mp ht
    obtain ⟨here, posted, hb, hp, -⟩ := entryParameters_cons_eq_ok.mp hm
    obtain ⟨gs, hgs, rfl⟩ := ih hr hp
    have hseg : c.segment cat = .ok { head, sql, bindings := here } := by
      rw [Cte.segment, hh, hs, hb]
      rfl
    exact ⟨_ :: gs, Result.mapM_cons_eq_ok.mpr ⟨_, _, hseg, hgs, rfl⟩, rfl⟩

/-! ## The bindings of a tree -/

/-- What a builder binds by itself, without its WITH block. -/
def ownBindings (cat : Catalog) (b : Builder Statement) : Result Bindings :=
  parameters cat (.of { b with ctes := [] })

theorem parameters_of_eq_ok {b : Builder Statement} {m : Bindings} :
    parameters cat (.of b) = .ok m ↔ ∃ inherited own, entryParameters cat b.ctes = .ok inherited ∧
      b.draft.statementParameters cat b.kind = .ok own ∧
      m = Assoc.merge (Assoc.merge inherited b.draft.parameters) own := by
  obtain ⟨kind, draft, ctes⟩ := b
  rw [parameters, Result.bind_eq_ok]
  constructor
  · rintro ⟨inherited, hi, h⟩
    obtain ⟨own, ho, h⟩ := Result.bind_eq_ok.mp h
    exact ⟨inherited, own, hi, ho, (Except.ok.inj h).symm⟩
  · rintro ⟨inherited, own, hi, ho, rfl⟩
    exact ⟨inherited, hi, Result.bind_eq_ok.mpr ⟨own, ho, rfl⟩⟩

theorem ownBindings_eq_ok {b : Builder Statement} {own : Bindings} :
    ownBindings cat b = .ok own ↔ ∃ derived, b.draft.statementParameters cat b.kind = .ok derived ∧
      own = Assoc.merge (Assoc.ofPairs b.draft.parameters) derived := by
  rw [ownBindings, parameters_of_eq_ok]
  constructor
  · rintro ⟨inherited, derived, hi, hd, rfl⟩
    cases hi
    exact ⟨derived, hd, rfl⟩
  · rintro ⟨derived, hd, rfl⟩
    exact ⟨[], derived, rfl, hd, rfl⟩

/-- A builder's own bindings win over those that it inherits. -/
theorem get?_parameters {b : Builder Statement} {m : Bindings} (h : parameters cat (.of b) = .ok m) :
    ∃ own inherited, ownBindings cat b = .ok own ∧ entryParameters cat b.ctes = .ok inherited ∧
      ∀ n, m.get? n = (own.get? n).or (inherited.get? n) := by
  obtain ⟨inherited, derived, hi, hd, rfl⟩ := parameters_of_eq_ok.mp h
  refine ⟨_, inherited, ownBindings_eq_ok.mpr ⟨derived, hd, rfl⟩, hi, fun n => ?_⟩
  rw [Assoc.get?_merge, Assoc.get?_merge, Assoc.get?_merge, Option.or_assoc]

mutual
/-- The names of a tree's bindings differ. -/
theorem nodup_parameters : ∀ {s : Statement} {m : Bindings}, parameters cat s = .ok m → m.keys.Nodup
  | .endless, _, h => by
    rw [parameters] at h
    cases h
  | .of ⟨kind, draft, ctes⟩, m, h => by
    obtain ⟨inherited, own, hi, -, rfl⟩ := parameters_of_eq_ok.mp h
    exact Assoc.nodup_keys_merge (Assoc.nodup_keys_merge (nodup_entryParameters hi) _) _

theorem nodup_entryParameters : ∀ {ctes : List (Cte Statement)} {m : Bindings},
    entryParameters cat ctes = .ok m → m.keys.Nodup
  | [], m, h => by
    rw [entryParameters] at h
    cases h
    exact List.nodup_nil
  | ⟨.value _, _, _, _, _⟩ :: rest, m, h => by
    obtain ⟨here, more, hh, -, rfl⟩ := entryParameters_cons_eq_ok.mp h
    obtain rfl : [] = here := Except.ok.inj hh
    exact Assoc.nodup_keys_merge (m := ([] : Bindings)) List.nodup_nil more
  | ⟨.statement s, _, _, _, _⟩ :: rest, m, h => by
    obtain ⟨here, more, hh, -, rfl⟩ := entryParameters_cons_eq_ok.mp h
    exact Assoc.nodup_keys_merge (nodup_parameters (s := s) hh) more
end

/-- What a WITH block binds a name to: what the entries after one of them bind it to, and else what this
entry binds it to, and else what the entries before it do. -/
theorem get?_entryParameters {before : List (Cte Statement)} {c : Cte Statement}
    {after : List (Cte Statement)} {m : Bindings} (h : entryParameters cat (before ++ c :: after) = .ok m) :
    ∃ earlier here later, entryParameters cat before = .ok earlier ∧ c.bindings cat = .ok here ∧
      entryParameters cat after = .ok later ∧
      ∀ n, m.get? n = (later.get? n).or ((here.get? n).or (earlier.get? n)) := by
  -- By the entries before it: each of them is merged before all that follows it.
  induction before generalizing m with
  | nil =>
    obtain ⟨here, later, hh, hl, rfl⟩ := entryParameters_cons_eq_ok.mp h
    refine ⟨[], here, later, by rw [entryParameters], hh, hl, fun n => ?_⟩
    rw [Assoc.get?_merge_of_nodup _ (nodup_entryParameters hl), Assoc.get?_nil, Option.or_none]
  | cons first before ih =>
    obtain ⟨lead, more, hlead, hmore, rfl⟩ := entryParameters_cons_eq_ok.mp h
    obtain ⟨earlier, here, later, he, hh, hl, hget⟩ := ih hmore
    refine ⟨Assoc.merge lead earlier, here, later,
      entryParameters_cons_eq_ok.mpr ⟨lead, earlier, hlead, he, rfl⟩, hh, hl, fun n => ?_⟩
    rw [Assoc.get?_merge_of_nodup _ (nodup_entryParameters hmore),
      Assoc.get?_merge_of_nodup _ (nodup_entryParameters he), hget, Option.or_assoc, Option.or_assoc]

/-! ## A statement within a tree -/

/-- What the first of some maps that binds a name binds it to. -/
def firstBound (ms : List Bindings) (n : String) : Option Value := ms.findSome? (·.get? n)

/-- The statement `s` stands in a tree, at any depth. `later` are the bindings that are merged after those
of `s`, the last of them first, and `earlier` those that are merged before. -/
inductive Within (cat : Catalog) (s : Statement) : List Bindings → List Bindings → Statement → Prop where
  | self : Within cat s [] [] s
  | entry {b : Builder Statement} {before after : List (Cte Statement)} {c : Cte Statement}
      {inner : Statement} {later earlier : List Bindings} {own pre post : Bindings} :
      b.ctes = before ++ c :: after → c.source = .statement inner → Within cat s later earlier inner →
      ownBindings cat b = .ok own → entryParameters cat before = .ok pre →
      entryParameters cat after = .ok post →
      Within cat s (own :: post :: later) (earlier ++ [pre]) (.of b)

theorem firstBound_cons (m : Bindings) (ms : List Bindings) (n : String) :
    firstBound (m :: ms) n = (m.get? n).or (firstBound ms n) := by
  rw [firstBound, List.findSome?_cons]
  cases m.get? n <;> rfl

theorem firstBound_concat (ms : List Bindings) (m : Bindings) (n : String) :
    firstBound (ms ++ [m]) n = (firstBound ms n).or (m.get? n) := by
  rw [firstBound, List.findSome?_append, List.findSome?_singleton]
  rfl

/-- What a tree binds a name to, seen from a statement in it. -/
theorem Within.get?_parameters {s t : Statement} {later earlier : List Bindings}
    (h : Within cat s later earlier t) {m : Bindings} (hm : parameters cat t = .ok m) :
    ∃ alone, parameters cat s = .ok alone ∧
      ∀ n, m.get? n = (firstBound later n).or ((alone.get? n).or (firstBound earlier n)) := by
  induction h generalizing m with
  | self => exact ⟨m, hm, fun n => (Option.or_none ..).symm⟩
  | @entry b before after c inner later earlier own pre post hb hc _ ho hpre hpost ih =>
    -- One step outwards: the builder's own bindings win over all, then those of the entries after `c`.
    obtain ⟨own', inherited, ho', hi, hget⟩ := Statement.get?_parameters hm
    rw [ho] at ho'
    cases ho'
    rw [hb] at hi
    obtain ⟨pre', here, post', hpre', hhere, hpost', hentry⟩ := get?_entryParameters hi
    rw [hpre] at hpre'
    cases hpre'
    rw [hpost] at hpost'
    cases hpost'
    rw [Cte.bindings, hc] at hhere
    obtain ⟨alone, halone, hinner⟩ := ih hhere
    refine ⟨alone, halone, fun n => ?_⟩
    rw [hget, hentry, hinner, firstBound_cons, firstBound_cons, firstBound_concat]
    simp only [Option.or_assoc]

/-! ## The references of a tree -/

theorem endsOpen_commentText {d : Draft} {comment : String} (h : d.commentText = .ok comment) :
    EndsOpen comment := by
  unfold Draft.commentText at h
  split at h
  · cases h
    exact Or.inl rfl
  · obtain ⟨c, -, rfl⟩ := Result.map_eq_ok.mp h
    exact Reference.endsOpen_append _ " */" ' ' (by decide) rfl

theorem endsOpen_head {c : Cte Statement} {head : String} (h : c.head cat.dialect = .ok head) :
    EndsOpen head := by
  unfold Cte.head at h
  obtain ⟨name, -, h⟩ := Result.bind_eq_ok.mp h
  obtain ⟨columns, -, h⟩ := Result.bind_eq_ok.mp h
  obtain rfl := Result.pure_eq_ok.mp h
  exact Reference.endsOpen_append _ "" '(' (by decide) rfl

theorem endsOpen_block (ctes : List (Cte Statement)) (entries : List String) :
    EndsOpen (Cte.block cat.dialect ctes entries) := by
  unfold Cte.block
  split
  · exact Or.inl rfl
  · exact Reference.endsOpen_append _ "" ' ' (by decide) rfl

/-- The references of an entry are those of its head and those of the SQL that it stands for. -/
theorem all_text_of_segment {c : Cte Statement} {g : Segment} (h : c.segment cat = .ok g) :
    Reference.all g.text = Reference.all g.head ++ Reference.all g.sql := by
  unfold Cte.segment at h
  obtain ⟨head, hhead, h⟩ := Result.bind_eq_ok.mp h
  obtain ⟨sql, -, h⟩ := Result.bind_eq_ok.mp h
  obtain ⟨bindings, -, h⟩ := Result.bind_eq_ok.mp h
  obtain rfl := Result.pure_eq_ok.mp h
  have hclose : BeginsOpen ")" := Or.inr ⟨')', "", by decide, rfl⟩
  have hnone : Reference.all ")" = [] := by decide
  rw [Segment.text, all_append_of_beginsOpen hclose, all_append_of_endsOpen (endsOpen_head hhead), hnone,
    List.append_nil]

theorem all_block (ctes : List (Cte Statement)) (entries : List String)
    (h : ctes = [] → entries = []) :
    Reference.all (Cte.block cat.dialect ctes entries) = entries.flatMap Reference.all := by
  unfold Cte.block
  split
  · next hc =>
    rw [h (List.isEmpty_iff.mp hc)]
    rfl
  · have hblank : BeginsOpen " " := Or.inr ⟨' ', "", by decide, rfl⟩
    have hnone : Reference.all " " = [] := by decide
    have hlead : ∀ recursive : Bool, EndsOpen ("WITH " ++ if recursive then "RECURSIVE " else "") ∧
        Reference.all ("WITH " ++ if recursive then "RECURSIVE " else "") = [] := by
      intro recursive
      cases recursive with
      | false => exact ⟨Or.inr ⟨"WITH", ' ', by decide, rfl⟩, by decide⟩
      | true => exact ⟨Or.inr ⟨"WITH RECURSIVE", ' ', by decide, rfl⟩, by decide⟩
    obtain ⟨hopen, hplain⟩ := hlead _
    rw [all_append_of_beginsOpen hblank, all_append_of_endsOpen hopen, hplain, hnone, List.append_nil,
      List.nil_append, Reference.all_intercalate]

theorem query_of_eq_ok {b : Builder Statement} {sql : String} :
    query cat (.of b) = .ok sql ↔ ∃ comment entries body, b.draft.commentText = .ok comment ∧
      entryTexts cat b.ctes = .ok entries ∧ b.draft.statementText cat b.kind = .ok body ∧
      sql = Text.trim (comment ++ Cte.block cat.dialect b.ctes entries ++ body) := by
  obtain ⟨kind, draft, ctes⟩ := b
  rw [query]
  simp only [Result.bind_eq_ok]
  constructor
  · rintro ⟨comment, hc, entries, he, body, hb, h⟩
    exact ⟨comment, entries, body, hc, he, hb, (Except.ok.inj h).symm⟩
  · rintro ⟨comment, entries, body, hc, he, hb, rfl⟩
    exact ⟨comment, hc, entries, he, body, hb, rfl⟩

/-- The references of a statement: those of its comment, then entry by entry those of the WITH block, then
those of the statement itself. -/
theorem all_query {b : Builder Statement} {sql : String} {m : Bindings} (hsql : query cat (.of b) = .ok sql)
    (hm : parameters cat (.of b) = .ok m) :
    ∃ comment segments body, b.draft.commentText = .ok comment ∧
      b.ctes.mapM (Cte.segment cat) = .ok segments ∧ b.draft.statementText cat b.kind = .ok body ∧
      Reference.all sql = Reference.all comment ++
        segments.flatMap (fun g => Reference.all g.head ++ Reference.all g.sql) ++ Reference.all body := by
  obtain ⟨comment, entries, body, hc, he, hb, rfl⟩ := query_of_eq_ok.mp hsql
  obtain ⟨inherited, own, hi, -, -⟩ := parameters_of_eq_ok.mp hm
  obtain ⟨segments, hs, rfl⟩ := mapM_segment_of_entryTexts he hi
  refine ⟨comment, segments, body, hc, hs, hb, ?_⟩
  -- The comment, each head and the block end at an open cut, and trimming drops blanks alone.
  have hempty : b.ctes = [] → segments.map Segment.text = [] := by
    intro h
    rw [h] at hs
    cases hs
    rfl
  have hparts : (segments.map Segment.text).flatMap Reference.all =
      segments.flatMap fun g => Reference.all g.head ++ Reference.all g.sql := by
    rw [List.flatMap_map]
    refine List.flatMap_congr fun g hg => ?_
    obtain ⟨c, -, hseg⟩ := Result.exists_of_mem_mapM hs hg
    exact all_text_of_segment hseg
  rw [Reference.all_trim, String.append_assoc, all_append_of_endsOpen (endsOpen_commentText hc),
    all_append_of_endsOpen (endsOpen_block ..), all_block _ _ hempty, hparts, List.append_assoc]

theorem segment_of_statement {c : Cte Statement} {s : Statement} {g : Segment}
    (hc : c.source = .statement s) (h : c.segment cat = .ok g) :
    query cat s = .ok g.sql ∧ parameters cat s = .ok g.bindings := by
  unfold Cte.segment at h
  obtain ⟨head, -, h⟩ := Result.bind_eq_ok.mp h
  obtain ⟨sql, hsql, h⟩ := Result.bind_eq_ok.mp h
  obtain ⟨bindings, hb, h⟩ := Result.bind_eq_ok.mp h
  obtain rfl := Result.pure_eq_ok.mp h
  rw [Cte.inner, hc] at hsql
  rw [Cte.bindings, hc] at hb
  exact ⟨hsql, hb⟩

/-- The references of a statement within a tree stand together in the text of the tree. -/
theorem Within.all_query {s t : Statement} {later earlier : List Bindings}
    (h : Within cat s later earlier t) {sql : String} {m : Bindings} (hsql : query cat t = .ok sql)
    (hm : parameters cat t = .ok m) :
    ∃ inner, query cat s = .ok inner ∧ Reference.all inner <:+: Reference.all sql := by
  induction h generalizing sql m with
  | self => exact ⟨sql, hsql, List.infix_rfl⟩
  | @entry b before after c inner later earlier own pre post hb hc _ _ _ _ ih =>
    obtain ⟨comment, segments, body, -, hs, -, hall⟩ := Statement.all_query hsql hm
    have hmem : c ∈ b.ctes := by
      rw [hb]
      exact List.mem_append_right _ List.mem_cons_self
    obtain ⟨g, hg, hseg⟩ := Result.exists_of_mapM_of_mem hs hmem
    obtain ⟨hgsql, hgbind⟩ := segment_of_statement hc hseg
    obtain ⟨text, htext, hin⟩ := ih hgsql hgbind
    refine ⟨text, htext, hin.trans ?_⟩
    have hentry : Reference.all g.sql <:+: Reference.all g.head ++ Reference.all g.sql :=
      (List.suffix_append _ _).isInfix
    have hblock : Reference.all g.head ++ Reference.all g.sql <:+:
        segments.flatMap fun g => Reference.all g.head ++ Reference.all g.sql :=
      List.infix_of_mem_flatten (List.mem_map_of_mem hg)
    rw [hall]
    exact (hentry.trans hblock).trans (List.infix_append _ _ _)

/-! ## The values of a tree -/

theorem bound_eq_ok {s : Statement} {out : String × List Value} :
    s.bound cat = .ok out ↔ ∃ sql m, query cat s = .ok sql ∧ parameters cat s = .ok m ∧
      cat.dialect.bindReferences sql m = .ok out := by
  rw [bound]
  simp only [Result.bind_eq_ok]
  constructor
  · rintro ⟨sql, hsql, m, hm, h⟩
    exact ⟨sql, m, hsql, hm, h⟩
  · rintro ⟨sql, m, hsql, hm, h⟩
    exact ⟨sql, hsql, m, hm, h⟩

/-- An entry that refers to the same alone gives the same alone. -/
theorem valuesAlone_of_kept {c : Cte Statement} {g : Segment} {m : Bindings} (hseg : c.segment cat = .ok g)
    (hkept : g.Kept m) (hm : ∀ r ∈ Reference.all g.sql, m.CanBind r) :
    c.valuesAlone cat = .ok (g.valuesIn m) := by
  rw [Segment.valuesIn_of_kept hkept]
  unfold Cte.valuesAlone
  split
  · next sql hc =>
    unfold Cte.segment Cte.bindings at hseg
    rw [hc] at hseg
    obtain ⟨head, -, hseg⟩ := Result.bind_eq_ok.mp hseg
    obtain ⟨text, -, hseg⟩ := Result.bind_eq_ok.mp hseg
    obtain rfl := Result.pure_eq_ok.mp hseg
    exact congrArg Except.ok (List.flatMap_eq_nil_iff.mpr fun _ _ => rfl).symm
  · next s hc =>
    obtain ⟨hsql, hb⟩ := segment_of_statement hc hseg
    have hbind : ∀ r ∈ Reference.all g.sql, g.bindings.CanBind r := by
      intro r hr
      exact (Bindings.canBind_congr (hkept.2 r hr)).mp (hm r hr)
    obtain ⟨⟨text, values⟩, hout⟩ := (Dialect.bindReferences_isOk cat.dialect _ _).mpr hbind
    rw [bound_eq_ok.mpr ⟨_, _, hsql, hb, hout⟩, Dialect.values_of_bindReferences hout]
    rfl

/-- Entries that refer to the same alone give the values of the WITH block, in order of declaration. -/
theorem mapM_valuesAlone_of_kept {ctes : List (Cte Statement)} {segments : List Segment} {m : Bindings}
    (hs : ctes.mapM (Cte.segment cat) = .ok segments) (hkept : ∀ g ∈ segments, g.Kept m)
    (hm : ∀ g ∈ segments, ∀ r ∈ Reference.all g.sql, m.CanBind r) :
    ctes.mapM (Cte.valuesAlone cat) = .ok (segments.map (Segment.valuesIn m)) := by
  induction ctes generalizing segments with
  | nil =>
    cases hs
    rfl
  | cons c ctes ih =>
    obtain ⟨g, rest, hg, hrest, rfl⟩ := Result.mapM_cons_eq_ok.mp hs
    rw [List.forall_mem_cons] at hkept hm
    exact Result.mapM_cons_eq_ok.mpr
      ⟨_, _, valuesAlone_of_kept hg hkept.1 hm.1, ih hrest hkept.2 hm.2, rfl⟩

/-- How a statement with a WITH block is bound. The values that are sent are those of the entries, in order
of declaration, and then those of the statement itself. What the statement binds by itself stays as it is.
A statement within the tree stands there with its references; what it binds a name to alone is what the
tree binds the name to, exactly when no bindings that are merged later say otherwise. Where this holds for
all references of the entries, they give the values that they are sent with alone. -/
theorem bound_with_block {b : Builder Statement} {text : String} {values : List Value}
    (h : bound cat (.of b) = .ok (text, values)) :
    ∃ sql m own comment segments body, query cat (.of b) = .ok sql ∧ parameters cat (.of b) = .ok m ∧
      ownBindings cat b = .ok own ∧ b.draft.commentText = .ok comment ∧
      b.ctes.mapM (Cte.segment cat) = .ok segments ∧ b.draft.statementText cat b.kind = .ok body ∧
      values = (Reference.all comment).flatMap m.valuesOf ++ segments.flatMap (Segment.valuesIn m) ++
        (Reference.all body).flatMap m.valuesOf ∧
      (∀ n v, own.get? n = some v → m.get? n = some v) ∧
      (∀ s later earlier, Within cat s later earlier (.of b) → ∃ inner alone,
        query cat s = .ok inner ∧ parameters cat s = .ok alone ∧
        Reference.all inner <:+: Reference.all sql ∧
        ∀ n v, alone.get? n = some v →
          (m.get? n = some v ↔ ∀ w, firstBound later n = some w → w = v)) ∧
      ((∀ g ∈ segments, g.Kept m) → ∃ alone, b.ctes.mapM (Cte.valuesAlone cat) = .ok alone ∧
        segments.flatMap (Segment.valuesIn m) = alone.flatten) := by
  obtain ⟨sql, m, hsql, hm, hout⟩ := bound_eq_ok.mp h
  obtain ⟨own, inherited, hown, -, hget⟩ := get?_parameters hm
  obtain ⟨comment, segments, body, hc, hs, hb, hall⟩ := all_query hsql hm
  refine ⟨sql, m, own, comment, segments, body, hsql, hm, hown, hc, hs, hb, ?_, ?_, ?_, ?_⟩
  · -- in the order of the text
    rw [Dialect.values_of_bindReferences hout, hall, List.flatMap_append, List.flatMap_append,
      List.flatMap_assoc]
    rfl
  · -- the builder's own bindings
    intro n v hv
    rw [hget, hv, Option.some_or]
  · -- a statement inside
    intro s later earlier hw
    obtain ⟨inner, hinner, hin⟩ := hw.all_query hsql hm
    obtain ⟨alone, halone, hm'⟩ := hw.get?_parameters hm
    refine ⟨inner, alone, hinner, halone, hin, fun n v hv => ?_⟩
    rw [hm', hv, Option.some_or]
    cases firstBound later n with
    | none => simp
    | some w => simp
  · -- entries that keep what they refer to; what could be bound here can be bound alone
    intro hkept
    have hbind : ∀ r ∈ Reference.all sql, m.CanBind r :=
      (Dialect.bindReferences_isOk cat.dialect sql m).mp ⟨_, hout⟩
    refine ⟨_, mapM_valuesAlone_of_kept hs hkept fun g hg r hr => hbind r ?_, ?_⟩
    · rw [hall]
      refine List.mem_append_left _ (List.mem_append_right _ (List.mem_flatMap.mpr ⟨g, hg, ?_⟩))
      exact List.mem_append_right _ hr
    · exact List.flatMap_def ..

end Statement

/-- A statement about one age, with its first generated name. -/
def Builder.ofAge (age : Nat) : Builder Statement :=
  { draft := { wheres := [(.simple, .text "age = :orm_param_0")]
               parameters := [("orm_param_0", .int age)] } }

/-- A statement about age 5 over one about age 1. -/
def Builder.withinAge : Builder Statement :=
  { Builder.ofAge 5 with ctes := [{ source := .statement (.of (Builder.ofAge 1)), name := .text "young" }] }

namespace Statement

set_option maxRecDepth 4000 in
/-- Both statements call their value by the first generated name, and the inner one loses it. -/
theorem bound_withinAge :
    bound ⟨.sqlite, []⟩ (.of .withinAge) = .ok
      ("WITH \"young\" AS (SELECT * WHERE age = ?) SELECT * WHERE age = ?", [.int 5, .int 5]) ∧
    ∃ m alone, parameters ⟨.sqlite, []⟩ (.of .withinAge) = .ok m ∧
      parameters ⟨.sqlite, []⟩ (.of (.ofAge 1)) = .ok alone ∧
      alone.get? "orm_param_0" = some (.int 1) ∧ m.get? "orm_param_0" ≠ some (.int 1) := by
  have hbound : bound ⟨.sqlite, []⟩ (.of .withinAge) = .ok
      ("WITH \"young\" AS (SELECT * WHERE age = ?) SELECT * WHERE age = ?", [.int 5, .int 5]) := rfl
  have hplace : Builder.withinAge.ctes =
      [] ++ { source := .statement (.of (.ofAge 1)), name := .text "young" } :: [] := rfl
  have hwithin : Within ⟨.sqlite, []⟩ (.of (.ofAge 1)) _ _ (.of .withinAge) :=
    .entry hplace rfl .self rfl rfl rfl
  obtain ⟨sql, m, own, comment, segments, body, -, hm, -, -, -, -, -, -, hinside, -⟩ :=
    bound_with_block hbound
  obtain ⟨inner, alone, -, halone, -, hkeeps⟩ := hinside _ _ _ hwithin
  obtain rfl := Except.ok.inj halone
  refine ⟨hbound, m, _, hm, rfl, rfl, fun hone => ?_⟩
  have hfive := (hkeeps "orm_param_0" (.int 1) rfl).mp hone (.int 5) rfl
  cases hfive

end Statement

end SqlWeave
