import SqlWeave.Proofs.Condition.Ids
import SqlWeave.Proofs.Statement.ClearText
import SqlWeave.Proofs.Statement.Mapping

/-!
# What conditions tell

A condition tells its values: its text refers to generated names, which are bound to them, in the order in which
they are written, and it has no other colon. What is told stays told, since names are generated once, so a level
tells the values of the calls that it keeps, whatever the calls after them bind. Criteria of mappings come to
such conditions at any depth of groups: `Build.tells_condition`.
-/

namespace SqlWeave

open Reference (Refers IsLead IsTail IsSeparator)
open Build (generatedName Binds ends)

/-! ## Values of conditions -/

/-- The values that a comparison with a value sends: the elements of a collection, and nothing for nothing. -/
def Value.sent : Value → List Value
  | .null => []
  | v => v.members.map Value.plain

mutual
/-- The values of the conditions that a criterion keeps, in the order in which they are written. -/
def Criterion.values : Criterion → List Value
  | .simple (.record r) => r.flatMap fun p => p.2.sent
  | .simple _ => []
  | .group _ calls => GroupCall.values [] calls

/-- The values of a level with the values `kept` after further calls. A bare connector starts the level anew. -/
def GroupCall.values (kept : List Value) : List GroupCall → List Value
  | [] => kept
  | .where link c _ :: rest => GroupCall.values ((if link = .simple then [] else kept) ++ c.values) rest
  | _ :: rest => GroupCall.values kept rest
end

/-! ## Telling values -/

namespace Draft

variable {d d' : Draft} {a b text : String} {vs ws : List Value}

/-- The text refers to generated names only, and they are bound to these values, in this order. -/
def Tells (d : Draft) (text : String) (vs : List Value) : Prop :=
  ∃ rs, Refers text rs ∧ rs.flatMap d.parameters.valuesOf = vs ∧
    ∀ r ∈ rs, d.parameters.Gives r ∧ ∃ n < d.parameterIndex, r.name = generatedName n

theorem tells_of_noColon (h : NoColon text) : d.Tells text [] :=
  ⟨[], Reference.refers_of_noColon h, rfl, List.forall_mem_nil _⟩

theorem Tells.eq_nil (h : d.Tells text vs) (hclear : NoColon text) : vs = [] := by
  obtain ⟨rs, hrs, rfl, -⟩ := h
  have hnone : rs = [] := hrs.references.symm.trans (Reference.refers_of_noColon hclear).references
  rw [hnone, List.flatMap_nil]

/-- What is told stays told, since names are generated once. -/
theorem Tells.binds (h : d.Tells text vs) (hd : Binds d d') : d'.Tells text vs := by
  obtain ⟨rs, hrs, rfl, hnames⟩ := h
  have hkept : ∀ r ∈ rs, d'.parameters.get? r.name = d.parameters.get? r.name := fun r hr => by
    obtain ⟨-, n, hn, hname⟩ := hnames r hr
    rw [hname, hd.kept n hn]
  refine ⟨rs, hrs, List.flatMap_congr fun r hr => Bindings.valuesOf_congr (hkept r hr), fun r hr => ?_⟩
  obtain ⟨⟨v, hv, helements⟩, n, hn, hname⟩ := hnames r hr
  exact ⟨⟨v, (hkept r hr).trans hv, helements⟩, n, hn.trans_le hd.index, hname⟩

theorem Tells.after (h : d.Tells text vs) (ha : IsLead a) : d.Tells (a ++ text) vs := by
  obtain ⟨rs, hrs, htold⟩ := h
  exact ⟨rs, hrs.after ha, htold⟩

theorem Tells.before (h : d.Tells text vs) (hb : IsTail b) : d.Tells (text ++ b) vs := by
  obtain ⟨rs, hrs, htold⟩ := h
  exact ⟨rs, hrs.before hb, htold⟩

theorem Tells.trim (h : d.Tells text vs) : d.Tells (Text.trim text) vs := by
  obtain ⟨rs, hrs, htold⟩ := h
  exact ⟨rs, hrs.trim, htold⟩

/-- Texts in a row tell their values one after the other. -/
theorem tells_intercalate {sep : String} (hsep : IsSeparator sep) {texts : List String} {vss : List (List Value)}
    (h : List.Forall₂ d.Tells texts vss) : d.Tells (String.intercalate sep texts) vss.flatten := by
  obtain ⟨rss, hrss, hvalues, hnames⟩ : ∃ rss : List (List Reference), List.Forall₂ Refers texts rss ∧
      rss.flatten.flatMap d.parameters.valuesOf = vss.flatten ∧
      ∀ r ∈ rss.flatten, d.parameters.Gives r ∧ ∃ n < d.parameterIndex, r.name = generatedName n := by
    induction h with
    | nil => exact ⟨[], .nil, rfl, List.forall_mem_nil _⟩
    | cons hfirst _ ih =>
      obtain ⟨rs, hrs, rfl, hnames⟩ := hfirst
      obtain ⟨rss, hrss, hvalues, hmore⟩ := ih
      refine ⟨rs :: rss, .cons hrs hrss, ?_, ?_⟩
      · rw [List.flatten_cons, List.flatMap_append, hvalues, List.flatten_cons]
      · rw [List.flatten_cons]
        exact List.forall_mem_append.mpr ⟨hnames, hmore⟩
  exact ⟨rss.flatten, Reference.refers_intercalate hsep hrss, hvalues, hnames⟩

/-- The conditions of a level tell values, one condition after the other. -/
def TellsLevel (d : Draft) (clauses : List Clause) (vs : List Value) : Prop :=
  ∃ vss, List.Forall₂ (fun clause vs => d.Tells clause.2.render vs) clauses vss ∧ vss.flatten = vs

theorem tellsLevel_nil : d.TellsLevel [] [] := ⟨[], .nil, rfl⟩

theorem TellsLevel.binds {clauses : List Clause} (h : d.TellsLevel clauses vs) (hd : Binds d d') :
    d'.TellsLevel clauses vs := by
  obtain ⟨vss, hvss, hvalues⟩ := h
  exact ⟨vss, hvss.imp fun _ _ h => h.binds hd, hvalues⟩

/-- A level that is extended tells one condition more; an empty condition has no values. -/
theorem TellsLevel.extend {clauses : List Clause} {c : Condition} (h : d.TellsLevel clauses vs)
    (hc : d.Tells c.render ws) (link : Connector) :
    d.TellsLevel (Build.extendLevel clauses link c) ((if link = .simple then [] else vs) ++ ws) := by
  have hbase : d.TellsLevel (if link = .simple then [] else clauses) (if link = .simple then [] else vs) := by
    split
    · exact tellsLevel_nil
    · exact h
  unfold Build.extendLevel
  dsimp only
  split
  · next hempty =>
    have hclear : NoColon c.render := by
      cases c with
      | text sql =>
        rw [Condition.isEmpty, decide_eq_true_eq] at hempty
        rw [hempty]
        decide
      | group negated clauses =>
        obtain rfl := List.isEmpty_iff.mp hempty
        cases negated <;> decide
    rw [hc.eq_nil hclear, List.append_nil]
    exact hbase
  · obtain ⟨vss, hvss, hvalues⟩ := hbase
    refine ⟨vss ++ [ws], List.rel_append hvss (.cons hc .nil), ?_⟩
    rw [List.flatten_append, hvalues, List.flatten_singleton]

/-- A level is written with connectors between its conditions, which have no values. -/
theorem TellsLevel.render {clauses : List Clause} (h : d.TellsLevel clauses vs) :
    d.Tells (Condition.renderLevel clauses) vs := by
  obtain ⟨vss, hvss, rfl⟩ := h
  have hjoiner (first : Bool) (link : Connector) : IsLead (Condition.joiner first link) := by
    cases first <;> cases link <;> decide
  have hclauses (first : Bool) : List.Forall₂ d.Tells (Condition.renderClauses first clauses) vss := by
    induction hvss generalizing first with
    | nil =>
      rw [Condition.renderClauses]
      exact .nil
    | cons hclause _ ih =>
      rw [Condition.renderClauses]
      exact .cons (hclause.after (hjoiner first _)) (ih false)
  exact (tells_intercalate (by decide) (hclauses true)).trim

end Draft

/-! ## Conditions of mappings -/

/-- Columns whose names have no colon are written without one. -/
def ReadsClear (reference : String → Result String) : Prop :=
  ∀ property ref, NoColon property → reference property = .ok ref → NoColon ref

theorem Draft.IsClear.reads {d : Draft} (hd : d.IsClear) (dialect : Dialect) : ReadsClear (d.columnReference dialect) :=
  fun _ _ hproperty h => noColon_columnReference hd (fun _ he => (hd.entity he).columnName hproperty)
    (fun _ => hproperty) h

/-- A comparison tells the values that it compares with. -/
theorem Compared.tells {reference : String → Result String} (hread : ReadsClear reference) {d : Draft}
    {p : String × Value} {text : String} (hp : NoColon p.1)
    (h : Compared reference d.parameters d.parameterIndex p text) : d.Tells text p.2.sent := by
  have hsent {v : Value} (hv : v ≠ .null) : v.sent = v.members.map Value.plain := by
    cases v with
    | null => exact absurd rfl hv
    | _ => rfl
  cases h with
  | isNull href => exact Draft.tells_of_noColon (noColon_append.mpr ⟨hread _ _ hp href, by decide⟩)
  | @isIn property ref n v href hn hv hbound =>
    have hlead : IsLead (ref ++ " IN (") := IsLead.less (hread _ _ hp href) (by decide) (by decide)
    have htext : ref ++ " IN (:..." ++ generatedName n ++ ")" =
        ref ++ " IN (" ++ (":..." ++ generatedName n) ++ ")" := by
      simp [← String.toList_inj]
    have hrefers := ((Reference.refers_elements (Build.isPlainName_generatedName n)).after hlead).before
      (by decide : IsTail ")")
    rw [htext, hsent hv]
    refine ⟨_, hrefers, ?_, List.forall_mem_singleton.mpr ⟨⟨_, hbound, fun _ => rfl⟩, n, hn, rfl⟩⟩
    rw [List.flatMap_singleton, Bindings.valuesOf, hbound]
    rfl
  | @equals property ref n v href hn hv hone hbound =>
    have hlead : IsLead (ref ++ " = ") := IsLead.less (hread _ _ hp href) (by decide) (by decide)
    have htext : ref ++ " = :" ++ generatedName n = ref ++ " = " ++ (":" ++ generatedName n) := by
      simp [← String.toList_inj]
    rw [htext, hsent hv, hone]
    refine ⟨_, (Reference.refers_one (Build.isPlainName_generatedName n)).after hlead, ?_,
      List.forall_mem_singleton.mpr ⟨⟨_, hbound, fun h => absurd h Bool.false_ne_true⟩, n, hn, rfl⟩⟩
    rw [List.flatMap_singleton, Bindings.valuesOf, hbound]
    rfl

theorem Compared.tells_each {reference : String → Result String} (hread : ReadsClear reference) {d : Draft} {r : Record}
    {texts : List String} (hr : ∀ p ∈ r, NoColon p.1)
    (h : List.Forall₂ (Compared reference d.parameters d.parameterIndex) r texts) :
    List.Forall₂ d.Tells texts (r.map fun p => p.2.sent) := by
  induction h with
  | nil => exact .nil
  | cons hfirst _ ih =>
    obtain ⟨hp, hr⟩ := List.forall_mem_cons.mp hr
    exact .cons (hfirst.tells hread hp) (ih hr)

namespace Build

variable {dialect : Dialect} {d d' : Draft}

theorem tells_allOf {r : Record} {text : String} (hread : ReadsClear (d.columnReference dialect))
    (hr : ∀ p ∈ r, NoColon p.1) (h : ends (allOf dialect r) d = (.ok text, d')) :
    Binds d d' ∧ d'.Tells text (r.flatMap fun p => p.2.sent) := by
  obtain ⟨texts, d₁, htexts, h⟩ := ends_bind_eq_ok.mp h
  cases h
  obtain ⟨hbinds, hcompared⟩ := compared_comparisons htexts
  exact ⟨hbinds, Draft.tells_intercalate (by decide) (Compared.tells_each hread hr hcompared)⟩

theorem ignoresBindings_reads (dialect : Dialect) : IgnoresBindings fun d => ReadsClear (d.columnReference dialect) :=
  ⟨fun _ _ => rfl, fun _ _ _ => rfl⟩

mutual
/-- The condition that a criterion of mappings states tells its values. -/
theorem tells_condition : ∀ (c : Criterion) {stated : Condition} {d d' : Draft}, c.OfMappings →
    ReadsClear (d.columnReference dialect) → ends (condition dialect c) d = (.ok stated, d') →
    Binds d d' ∧ d'.Tells stated.render c.values
  | .simple c, stated, d, d', hc, hread, h => by
    cases c with
    | record r =>
      rw [condition.eq_def] at h
      obtain ⟨text, d₁, htext, h⟩ := ends_bind_eq_ok.mp h
      cases h
      rw [Criterion.OfMappings] at hc
      rw [Criterion.values, Condition.render]
      exact tells_allOf hread hc htext
    | _ =>
      rw [Criterion.OfMappings] at hc
      · cases hc
      · nofun
  | .group negated calls, stated, d, d', hc, hread, h => by
    rw [Criterion.OfMappings] at hc
    rw [condition.eq_def] at h
    obtain ⟨clauses, d₁, hclauses, h⟩ := ends_bind_eq_ok.mp h
    cases h
    obtain ⟨hbinds, htold⟩ := tells_runGroup calls hc hread Draft.tellsLevel_nil hclauses
    have hopening : IsLead (if negated then "NOT(" else "(") := by cases negated <;> decide
    rw [Criterion.values, Condition.render]
    exact ⟨hbinds, (htold.render.after hopening).before (by decide)⟩

/-- The level that calls of mappings leave tells what they keep. -/
theorem tells_runGroup : ∀ (calls : List GroupCall) {level clauses : List Clause} {kept : List Value} {d d' : Draft},
    GroupCall.OfMappings calls → ReadsClear (d.columnReference dialect) → d.TellsLevel level kept →
    ends (runGroup dialect level calls) d = (.ok clauses, d') →
    Binds d d' ∧ d'.TellsLevel clauses (GroupCall.values kept calls)
  | [], level, clauses, kept, d, d', _, _, hlevel, h => by
    rw [runGroup.eq_def] at h
    cases h
    rw [GroupCall.values]
    exact ⟨.refl _, hlevel⟩
  | .where link c given :: rest, level, clauses, kept, d, d', hcalls, hread, hlevel, h => by
    rw [GroupCall.OfMappings] at hcalls
    obtain ⟨hc, hgiven, hrest⟩ := hcalls
    rw [runGroup.eq_def] at h
    obtain ⟨stated, d₁, hcondition, h⟩ := ends_bind_eq_ok.mp h
    obtain ⟨⟨⟩, d₂, hnothing, h⟩ := ends_bind_eq_ok.mp h
    rw [bindGiven, hgiven, if_neg Bool.false_ne_true] at hnothing
    cases hnothing
    obtain ⟨hbinds, htold⟩ := tells_condition c hc hread hcondition
    have hread' : ReadsClear (d₁.columnReference dialect) := by
      have hkeep := keeps_condition dialect (ignoresBindings_reads dialect) c d
      rw [hcondition] at hkeep
      exact hkeep.mpr hread
    obtain ⟨hmore, hlevel'⟩ := tells_runGroup rest hrest hread' ((hlevel.binds hbinds).extend htold link) h
    rw [GroupCall.values]
    exact ⟨hbinds.trans hmore, hlevel'⟩
  | .whereInIds .. :: _, _, _, _, _, _, hcalls, _, _, _ | .setParameter .. :: _, _, _, _, _, _, hcalls, _, _, _
  | .setParameters .. :: _, _, _, _, _, _, hcalls, _, _, _ | .whereEquals .. :: _, _, _, _, _, _, hcalls, _, _, _
  | .failing .. :: _, _, _, _, _, _, hcalls, _, _, _ => by
    rw [GroupCall.OfMappings] at hcalls
    · cases hcalls
    · nofun
end

end Build

end SqlWeave
