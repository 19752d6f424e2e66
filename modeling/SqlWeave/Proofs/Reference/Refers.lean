import SqlWeave.Proofs.Reference.Percent

/-!
# Texts without stray colons

A text that is put together from quoted names, fixed words and references to generated names has no colon but
those of its references. Such texts compose at cuts, whatever stands between them, and when they are bound to
a map that has all of their names, every reference gives way to placeholders: the values come in the order of
the references, and no colon is left.
-/

namespace SqlWeave

/-- A text without a colon. -/
def NoColon (s : String) : Prop := ':' ∉ s.toList

instance (s : String) : Decidable (NoColon s) := inferInstanceAs (Decidable (':' ∉ s.toList))

@[simp] theorem noColon_append {a b : String} : NoColon (a ++ b) ↔ NoColon a ∧ NoColon b := by
  simp [NoColon, not_or]

theorem noColon_intercalate {sep : String} (hsep : NoColon sep) {texts : List String} (h : ∀ t ∈ texts, NoColon t) :
    NoColon (String.intercalate sep texts) := by
  induction texts with
  | nil =>
    rw [String.intercalate_nil]
    exact List.not_mem_nil
  | cons first rest ih =>
    obtain ⟨hfirst, hrest⟩ := List.forall_mem_cons.mp h
    cases rest with
    | nil => rwa [String.intercalate_singleton]
    | cons second rest =>
      rw [String.intercalate_cons_cons, noColon_append, noColon_append]
      exact ⟨⟨hfirst, hsep⟩, ih hrest⟩

namespace Reference

/-- A name of letters, digits and underscores. -/
def IsPlainName (name : String) : Prop := name ≠ "" ∧ ∀ c ∈ name.toList, c.isAlphanum ∨ c = '_'

instance (name : String) : Decidable (IsPlainName name) :=
  decidable_of_iff (name ≠ "" ∧ name.toList.all fun c => c.isAlphanum || decide (c = '_')) (by simp [IsPlainName])

theorem IsPlainName.append {a b : String} (ha : IsPlainName a) (hb : IsPlainName b) : IsPlainName (a ++ b) := by
  refine ⟨fun h => ha.1 (String.append_eq_empty_iff.mp h).1, ?_⟩
  rw [String.toList_append]
  exact List.forall_mem_append.mpr ⟨ha.2, hb.2⟩

/-- The text has these references, in order, and no other colon. -/
structure Refers (sql : String) (rs : List Reference) : Prop where
  references : (pieces sql).filterMap Piece.reference? = rs
  noColon : .plain ':' ∉ pieces sql

/-! ## References by themselves -/

theorem scan_eq_nil {cs : List Char} : ∀ {blocked : Bool} {inside : Nat}, cs.length ≤ inside →
    scan blocked inside cs = [] := by
  induction cs with
  | nil => intros; cases ‹Nat› <;> rfl
  | cons c cs ih =>
    intro blocked inside h
    cases inside with
    | zero => cases h
    | succ n => exact ih (Nat.le_of_succ_le_succ h)

/-- A colon at the beginning and the run of name characters after it are one reference. -/
theorem pieces_colon {cs : List Char} {r : Reference} (h : afterColon? cs = some r) (hall : ∀ c ∈ cs, isNameChar c) :
    pieces (String.ofList (':' :: cs)) = [.reference r] := by
  have hlength : cs.length ≤ r.text.length - 1 := by
    rw [length_text h, List.takeWhile_eq_self_iff.mpr hall]
  rw [pieces, String.toList_ofList, scan, h]
  show Piece.reference r :: scan true (r.text.length - 1) cs = _
  rw [scan_eq_nil hlength]

theorem refers_of_pieces {sql : String} {r : Reference} (h : pieces sql = [.reference r]) : Refers sql [r] := by
  refine ⟨?_, ?_⟩
  · rw [h]
    rfl
  · rw [h]
    simp

variable {name : String}

theorem IsPlainName.isNameChar (h : IsPlainName name) : ∀ c ∈ name.toList, isNameChar c := by
  intro c hc
  rcases h.2 c hc with hc | rfl
  · simp [Reference.isNameChar, hc]
  · rfl

theorem IsPlainName.ne_dot (h : IsPlainName name) : ∀ c ∈ name.toList, c ≠ '.' := by
  rintro c hc rfl
  have := h.2 '.' hc
  revert this
  decide

/-- A plain name after a colon is referred to. -/
theorem refers_one (h : IsPlainName name) : Refers (":" ++ name) [⟨false, name⟩] := by
  have htext : ":" ++ name = String.ofList (':' :: name.toList) := by simp
  rw [htext]
  refine refers_of_pieces (pieces_colon ?_ h.isNameChar)
  rw [afterColon?, List.takeWhile_eq_self_iff.mpr h.isNameChar]
  split
  · next hnil => exact absurd (String.toList_eq_nil_iff.mp hnil) h.1
  · next hdots => exact absurd rfl (h.ne_dot '.' (by rw [hdots]; exact List.mem_cons_self))
  · rw [String.ofList_toList]

/-- Three dots between the colon and a plain name make the reference one to elements. -/
theorem refers_elements (h : IsPlainName name) : Refers (":..." ++ name) [⟨true, name⟩] := by
  have htext : ":..." ++ name = String.ofList (':' :: '.' :: '.' :: '.' :: name.toList) := by
    simp [← String.toList_inj]
  have hall : ∀ c ∈ '.' :: '.' :: '.' :: name.toList, Reference.isNameChar c := by
    simpa [Reference.isNameChar] using h.isNameChar
  rw [htext]
  refine refers_of_pieces (pieces_colon ?_ hall)
  rw [afterColon?, List.takeWhile_eq_self_iff.mpr hall]
  cases hname : name.toList with
  | nil => exact absurd (String.toList_eq_nil_iff.mp hname) h.1
  | cons c more =>
    show some (⟨true, String.ofList (c :: more)⟩ : Reference) = _
    rw [← hname, String.ofList_toList]

/-- A text without a colon refers to nothing. -/
theorem refers_of_noColon {sql : String} (h : NoColon sql) : Refers sql [] := by
  have hplain (cs : List Char) : ∀ blocked, ':' ∉ cs → scan blocked 0 cs = cs.map .plain := by
    induction cs with
    | nil => intros; rfl
    | cons c cs ih =>
      intro blocked hcs
      rw [List.mem_cons, not_or] at hcs
      have hc : (decide (c = ':') && !blocked) = false := by simp [Ne.symm hcs.1]
      rw [scan, hc, if_neg Bool.false_ne_true, ih _ hcs.2, List.map_cons]
  have hpieces : pieces sql = sql.toList.map .plain := hplain sql.toList false h
  refine ⟨?_, ?_⟩
  · rw [hpieces, List.filterMap_map]
    exact List.filterMap_eq_nil_iff.mpr fun c _ => rfl
  · rw [hpieces]
    simpa [NoColon] using h

/-! ## Texts in a row -/

section
variable {a b : String} {rs ss : List Reference}

theorem refers_of_append (h : pieces (a ++ b) = pieces a ++ pieces b) (ha : Refers a rs) (hb : Refers b ss) :
    Refers (a ++ b) (rs ++ ss) := by
  refine ⟨?_, ?_⟩
  · rw [h, List.filterMap_append, ha.references, hb.references]
  · rw [h, List.mem_append, not_or]
    exact ⟨ha.noColon, hb.noColon⟩

theorem Refers.append_endsOpen (hopen : EndsOpen a) (ha : Refers a rs) (hb : Refers b ss) :
    Refers (a ++ b) (rs ++ ss) :=
  refers_of_append (pieces_append_of_endsOpen hopen b) ha hb

theorem Refers.append_beginsOpen (hopen : BeginsOpen b) (ha : Refers a rs) (hb : Refers b ss) :
    Refers (a ++ b) (rs ++ ss) :=
  refers_of_append (pieces_append_of_beginsOpen hopen a) ha hb

end

/-- Words that may stand before a text: they end with an open cut, and they have no colon. -/
structure IsLead (s : String) : Prop where
  ends : EndsOpen s
  noColon : NoColon s

/-- Words that may stand after a text: they begin with an open cut, and they have no colon. -/
structure IsTail (s : String) : Prop where
  begins : BeginsOpen s
  noColon : NoColon s

/-- What may stand between texts. -/
structure IsSeparator (sep : String) : Prop extends IsLead sep, IsTail sep where
  filled : sep ≠ ""

instance (s : String) : Decidable (IsLead s) :=
  decidable_of_iff (EndsOpen s ∧ NoColon s) ⟨fun h => ⟨h.1, h.2⟩, fun h => ⟨h.ends, h.noColon⟩⟩

instance (s : String) : Decidable (IsTail s) :=
  decidable_of_iff (BeginsOpen s ∧ NoColon s) ⟨fun h => ⟨h.1, h.2⟩, fun h => ⟨h.begins, h.noColon⟩⟩

instance (sep : String) : Decidable (IsSeparator sep) :=
  decidable_of_iff (IsLead sep ∧ IsTail sep ∧ sep ≠ "")
    ⟨fun ⟨hlead, htail, hfilled⟩ => ⟨hlead, htail.begins, hfilled⟩, fun h => ⟨h.toIsLead, h.toIsTail, h.filled⟩⟩

theorem Refers.after {lead b : String} {rs : List Reference} (hlead : IsLead lead) (hb : Refers b rs) :
    Refers (lead ++ b) rs :=
  (refers_of_noColon hlead.noColon).append_endsOpen hlead.ends hb

theorem Refers.before {a tail : String} {rs : List Reference} (ha : Refers a rs) (htail : IsTail tail) :
    Refers (a ++ tail) rs := by
  have h := ha.append_beginsOpen htail.begins (refers_of_noColon htail.noColon)
  rwa [List.append_nil] at h

theorem IsTail.append {a b : String} (ha : IsTail a) (hb : IsTail b) : IsTail (a ++ b) :=
  ⟨ha.begins.append fun _ => hb.begins, noColon_append.mpr ⟨ha.noColon, hb.noColon⟩⟩

/-- A tail goes on with whatever has no colon. -/
theorem IsTail.more {a b : String} (ha : IsTail a) (hfilled : a ≠ "") (hb : NoColon b) : IsTail (a ++ b) :=
  ⟨ha.begins.append fun h => absurd h hfilled, noColon_append.mpr ⟨ha.noColon, hb⟩⟩

/-- Whatever has no colon may come before a lead. -/
theorem IsLead.less {a b : String} (ha : NoColon a) (hb : IsLead b) (hfilled : b ≠ "") : IsLead (a ++ b) :=
  ⟨hb.ends.append fun h => absurd h hfilled, noColon_append.mpr ⟨ha, hb.noColon⟩⟩

theorem refers_intercalate {sep : String} (hsep : IsSeparator sep) {texts : List String}
    {rss : List (List Reference)} (h : List.Forall₂ Refers texts rss) :
    Refers (String.intercalate sep texts) rss.flatten := by
  induction h with
  | nil =>
    rw [String.intercalate_nil]
    exact refers_of_noColon List.not_mem_nil
  | @cons first rs texts rss hfirst hrest ih =>
    cases texts with
    | nil =>
      cases hrest
      rw [String.intercalate_singleton, List.flatten_singleton]
      exact hfirst
    | cons second texts =>
      have hends : EndsOpen (first ++ sep) := hsep.ends.append fun h => absurd h hsep.filled
      rw [String.intercalate_cons_cons, List.flatten_cons]
      exact (hfirst.before hsep.toIsTail).append_endsOpen hends ih

/-- Trimming a text only drops blanks. -/
theorem exists_trim (sql : String) : ∃ before after : List Char, (∀ c ∈ before, Text.isBlank c) ∧
    (∀ c ∈ after, Text.isBlank c) ∧ sql.toList = before ++ (Text.trim sql).toList ++ after := by
  refine ⟨sql.toList.takeWhile Text.isBlank,
    ((sql.toList.dropWhile Text.isBlank).reverse.takeWhile Text.isBlank).reverse,
    fun c hc => List.mem_takeWhile_imp hc, fun c hc => List.mem_takeWhile_imp (List.mem_reverse.mp hc), ?_⟩
  rw [Text.trim, String.toList_ofList, Text.trimChars, Text.trimBy, List.append_assoc, ← List.reverse_append,
    List.takeWhile_append_dropWhile, List.reverse_reverse, List.takeWhile_append_dropWhile]

theorem Refers.trim {sql : String} {rs : List Reference} (h : Refers sql rs) : Refers (Text.trim sql) rs := by
  refine ⟨(all_trim sql).trans h.references, fun hmem => h.noColon ?_⟩
  obtain ⟨before, after, hbefore, hafter, hsql⟩ := exists_trim sql
  have htext : sql = String.ofList before ++ Text.trim sql ++ String.ofList after := by
    rw [← String.toList_inj, hsql]
    simp
  have hends : EndsOpen (String.ofList before) := by
    rcases List.eq_nil_or_concat before with rfl | ⟨init, c, rfl⟩
    · exact .inl rfl
    · refine .inr ⟨String.ofList init, c, isOpenCut_of_isBlank (hbefore c (by simp)), ?_⟩
      simp
  have hbegins : BeginsOpen (String.ofList after) := by
    cases after with
    | nil => exact .inl rfl
    | cons c rest =>
      refine .inr ⟨c, String.ofList rest, isOpenCut_of_isBlank (hafter c List.mem_cons_self), ?_⟩
      simp
  rw [htext, pieces_append_of_beginsOpen hbegins, pieces_append_of_endsOpen hends]
  exact List.mem_append_left _ (List.mem_append_right _ hmem)

end Reference

/-! ## Binding -/

/-- The map has the name of a reference, with elements where the reference asks for them. -/
def Bindings.Gives (m : Bindings) (r : Reference) : Prop :=
  ∃ v, m.get? r.name = some v ∧ (r.expands → v.elements?.isSome)

namespace Dialect

variable {d : Dialect} {m : Bindings}

theorem noColon_placeholder (d : Dialect) : NoColon d.placeholder := by
  cases d <;> decide

theorem noColon_bindValue {r : Reference} {v : Value} {text : String} {values : List Value}
    (h : d.bindValue r v = .ok (text, values)) : NoColon text := by
  unfold bindValue at h
  split at h
  · split at h
    · cases h
    · cases h
      decide
    · cases h
      refine noColon_intercalate (by decide) ?_
      simp [noColon_placeholder]
  · cases h
    exact noColon_placeholder d

theorem noColon_bindPieces {ps : List Piece} {text : String} {values : List Value}
    (hplain : .plain ':' ∉ ps) (hbound : ∀ r, .reference r ∈ ps → (m.get? r.name).isSome)
    (h : d.bindPieces (fun name => .ok (m.get? name)) ps = .ok (text, values)) : NoColon text := by
  induction ps generalizing text values with
  | nil =>
    cases h
    decide
  | cons p ps ih =>
    simp only [bindPieces, Result.bind_eq_ok] at h
    obtain ⟨⟨t, vs⟩, hp, ⟨u, us⟩, hps, h⟩ := h
    cases h
    rw [List.mem_cons, not_or] at hplain
    refine noColon_append.mpr ⟨?_, ih hplain.2 (fun r hr => hbound r (List.mem_cons_of_mem _ hr)) hps⟩
    cases p with
    | plain c =>
      cases hp
      have hc : c ≠ ':' := fun h => hplain.1 (h ▸ rfl)
      simpa [NoColon] using hc.symm
    | reference r =>
      obtain ⟨v, hv⟩ := Option.isSome_iff_exists.mp (hbound r List.mem_cons_self)
      rw [bindPiece_of_bound hv] at hp
      exact noColon_bindValue hp

/-- A text is sent without a colon and with the values of its references, when all of them are bound. -/
theorem bindReferences_refers {sql : String} {rs : List Reference} (h : Reference.Refers sql rs)
    (hgives : ∀ r ∈ rs, m.Gives r) :
    ∃ text, d.bindReferences sql m = .ok (text, rs.flatMap m.valuesOf) ∧ NoColon text := by
  have hall : Reference.all sql = rs := h.references
  obtain ⟨⟨text, values⟩, hsent⟩ := (bindReferences_isOk d sql m).mpr fun r hr hexpands v hv => by
    rw [hall] at hr
    obtain ⟨v', hv', helements⟩ := hgives r hr
    obtain rfl := Option.some.inj (hv.symm.trans hv')
    exact helements hexpands
  have hvalues := values_of_bindReferences hsent
  rw [hall] at hvalues
  refine ⟨text, hvalues ▸ hsent, ?_⟩
  -- Doubling percent signs makes no new pieces but percent signs.
  have hpieces {p : Piece} (hp : p ∈ Reference.pieces (d.guardPercent sql)) : p ∈ Reference.pieces sql := by
    cases hd : d.doublesPercent with
    | false => rwa [guardPercent, hd, if_neg Bool.false_ne_true] at hp
    | true =>
      rw [Reference.pieces_guardPercent hd] at hp
      obtain ⟨q, hq, hp⟩ := List.mem_flatMap.mp hp
      cases q with
      | reference r =>
        rw [Piece.doubled, List.mem_singleton] at hp
        rwa [hp]
      | plain c =>
        rw [Piece.doubled] at hp
        split at hp
        · next hc => simp_all
        · rwa [List.mem_singleton.mp hp]
  rw [bindReferences_eq] at hsent
  refine noColon_bindPieces (fun hcolon => h.noColon (hpieces hcolon)) (fun r hr => ?_) hsent
  have hmem : r ∈ rs := by
    rw [← hall]
    exact List.mem_filterMap.mpr ⟨_, hpieces hr, rfl⟩
  obtain ⟨v, hv, -⟩ := hgives r hmem
  exact Option.isSome_iff_exists.mpr ⟨v, hv⟩

end Dialect

end SqlWeave
