import SqlWeave.Proofs.Session.History

/-!
# The mark for the automatic save

The runner of an embedded database marks itself when a statement may have changed something, and loses its
mark when the changes are handed to the automatic save, before that can fail. For each call on the runner it is
told here what becomes of the mark, and whether an image is asked for.
-/

namespace SqlWeave

open Session World

/-! ## Ways without an image -/

/-- No image is asked for or handed over on the way from one world to the other, and nothing changes that the
automatic save goes by. -/
structure World.Unsaved (w v : World) : Prop where
  rest : v = { w with runners := v.runners, hookFaults := v.hookFaults, locks := v.locks, backend := v.backend,
                      trace := v.trace, logs := v.logs }
  trace : ∃ events, v.trace = w.trace ++ events ∧ ∀ e ∈ events, e.isImage = false
  answers : v.backend.faults .nativeSerialize = w.backend.faults .nativeSerialize

/-- Besides, the mark of runner `r` is as it was. -/
structure World.Spares (r : Nat) (w v : World) : Prop extends Unsaved w v where
  dirty : (v.runners.get r).dirty = (w.runners.get r).dirty

namespace World

variable {r c : Nat} {u v w : World}

namespace Unsaved

theorem refl (w : World) : Unsaved w w := ⟨rfl, ⟨[], by rw [List.append_nil], by simp⟩, rfl⟩

theorem trans (h : Unsaved u v) (h' : Unsaved v w) : Unsaved u w where
  rest := by rw [h'.rest, h.rest]
  trace := told_trans h.trace h'.trace
  answers := h'.answers.trans h.answers

theorem of_changeRunner (w : World) (r : Nat) (f : Runner → Runner) : Unsaved w (w.changeRunner r f) :=
  ⟨rfl, ⟨[], (List.append_nil _).symm, by simp⟩, rfl⟩

theorem dialect (h : Unsaved w v) : v.dialect = w.dialect := (congrArg World.dialect h.rest :)

theorem settings (h : Unsaved w v) : v.settings = w.settings := (congrArg World.settings h.rest :)

theorem live (h : Unsaved w v) : v.live = w.live := (congrArg World.live h.rest :)

end Unsaved

namespace Spares

theorem refl (r : Nat) (w : World) : Spares r w w := ⟨.refl w, rfl⟩

theorem trans (h : Spares r u v) (h' : Spares r v w) : Spares r u w :=
  ⟨h.toUnsaved.trans h'.toUnsaved, h'.dirty.trans h.dirty⟩

theorem of_calm (h : Calm r w v) : Spares r w v where
  rest := by
    have := h.rest
    exact this
  trace := by
    obtain ⟨events, htrace, hidle⟩ := h.trace
    refine ⟨events, htrace, fun e he => ?_⟩
    have := hidle e he
    cases e <;> first | rfl | cases this
  answers := h.answers.faults .nativeSerialize rfl
  dirty := h.dirty

theorem of_answered {e : Event} (he : e.isImage = false) (h : Answered e w v) : Spares r w v where
  rest := by rw [h.rest]
  trace := ⟨[e], h.trace, by simpa using he⟩
  answers := by
    rw [h.faults, Backend.faultsAfter]
    exact if_neg (by cases e <;> simp [Event.endSite?])
  dirty := by rw [h.runners]

/-- A change of the runner that keeps its mark. -/
theorem of_changeRunner (w : World) (r : Nat) {f : Runner → Runner} (h : ∀ x, (f x).dirty = x.dirty) :
    Spares r w (w.changeRunner r f) where
  toUnsaved := .of_changeRunner w r f
  dirty := by rw [changeRunner_get_self, h]

theorem of_sends {sql : Value} (h : Sends r sql c w v) : Spares r w v := by
  obtain ⟨u, values, hu, -, hv⟩ := h
  exact (of_calm hu).trans (of_answered rfl hv)

theorem of_undoes (h : Undoes r c w v) : Spares r w v := by
  rcases h with ⟨-, hv⟩ | ⟨-, p, q, hp, hq, hv⟩
  · exact of_calm hv
  · exact ((of_calm hp).trans (of_answered rfl hq)).trans (of_calm hv)

theorem of_prepares (h : Prepares r w v) : Spares r w v := by
  rcases h with hv | ⟨-, c, p, q, hp, -, hq, hv⟩
  · exact of_calm hv
  · exact ((of_calm hp).trans (of_answered rfl hq)).trans (of_calm hv)

theorem of_endsBy {e : Event} (he : e.isImage = false) (h : EndsBy r c e w v) : Spares r w v := by
  obtain ⟨-, p, q, hp, hq, hv⟩ := h
  have hended : Spares r q (q.changeRunner r .ended) := of_changeRunner q r fun _ => rfl
  exact (((of_calm hp).trans (of_answered he hq)).trans hended).trans (of_calm hv)

end Spares

end World

/-! ## The automatic save -/

/-- The data source keeps an image up to date: it has a database, and it is told where its image goes. -/
structure World.KeepsImage (w : World) : Prop where
  dialect : w.dialect = .sqljs
  wanted : w.settings.autoSave.truth = true
  target : w.settings.location.truth = true ∨ w.settings.autoSaveCallback.isNull = false
  live : w.live.isSome = true

/-- On the way from one world to the other the database is asked for its image. -/
def World.Asks (w v : World) : Prop := ∃ n xs ys, v.trace = w.trace ++ xs ++ .nativeSerialize n :: ys

/-- The worlds differ in no more than the storage and their surroundings, and the trace only grows. -/
structure World.Stores (w v : World) : Prop where
  rest : v = { w with storage := v.storage, backend := v.backend, trace := v.trace, logs := v.logs }
  trace : ∃ events, v.trace = w.trace ++ events

namespace World

variable {r c : Nat} {u v w : World}

theorem KeepsImage.of_unsaved (hk : KeepsImage w) (h : Unsaved w v) : KeepsImage v where
  dialect := h.dialect.trans hk.dialect
  wanted := by rw [h.settings, hk.wanted]
  target := by rw [h.settings]; exact hk.target
  live := by rw [h.live, hk.live]

theorem Stores.of_eq
    (hrest : v = { w with storage := v.storage, backend := v.backend, trace := v.trace, logs := v.logs })
    (htrace : v.trace = w.trace) : Stores w v :=
  ⟨hrest, [], by rw [htrace, List.append_nil]⟩

instance : IsPreorder World Stores where
  refl _ := .of_eq rfl rfl
  trans u v w h h' := by
    refine ⟨by rw [h'.rest, h.rest], ?_⟩
    obtain ⟨xs, hv⟩ := h.trace
    obtain ⟨ys, hw⟩ := h'.trace
    exact ⟨xs ++ ys, by rw [hw, hv, List.append_assoc]⟩

instance : Images Stores where
  logged _ _ := .of_eq rfl rfl
  idled _ e _ := ⟨rfl, [e], rfl⟩
  changed _ _ _ := .of_eq rfl rfl
  imaged _ e _ := ⟨rfl, [e], rfl⟩
  asked _ _ := .of_eq rfl rfl
  stored _ _ := .of_eq rfl rfl

theorem Stores.runners (h : Stores w v) : v.runners = w.runners := (congrArg World.runners h.rest :)

theorem KeepsImage.of_stores (hk : KeepsImage w) (h : Stores w v) : KeepsImage v := by
  have hsettings : v.settings = w.settings := (congrArg World.settings h.rest :)
  have hdialect : v.dialect = w.dialect := (congrArg World.dialect h.rest :)
  have hlive : v.live = w.live := (congrArg World.live h.rest :)
  exact ⟨hdialect.trans hk.dialect, by rw [hsettings, hk.wanted], by rw [hsettings]; exact hk.target,
    by rw [hlive, hk.live]⟩

theorem Asks.then_stores (h : Asks w u) (h' : Stores u v) : Asks w v := by
  obtain ⟨n, xs, ys, hu⟩ := h
  obtain ⟨zs, hv⟩ := h'.trace
  exact ⟨n, xs, ys ++ zs, by rw [hv, hu, List.append_assoc, List.cons_append]⟩

end World

namespace Session

variable {α β : Type} {r : Nat} {v w : World}

theorem asks_bind {s : Session α} {k : α → Session β} (h : Asks w (ends s w).2) (hk : ∀ a, Moves Stores (k a)) :
    Asks w (ends (s >>= k) w).2 := by
  rw [ends_bind]
  rcases hs : ends s w with ⟨f | a, v⟩
  all_goals rw [hs] at h
  · exact h
  · exact h.then_stores ((hk a).along v)

theorem asks_exportImage (h : w.live.isSome = true) : Asks w (ends exportImage w).2 := by
  obtain ⟨n, hn⟩ := Option.isSome_iff_exists.mp h
  have hemit : Asks w (ends (emit (.nativeSerialize n)) w).2 := ⟨n, [], [], by rw [List.append_nil]; rfl⟩
  unfold exportImage
  rw [ends_bind_ok (ends_get w), hn]
  refine asks_bind hemit fun _ => (moves_fault_of fun _ _ => ?_).bind fun _ => Moves.get.bind fun _ => .pure _
  exact .of_eq rfl rfl

/-- The automatic save of such a data source asks for the image, however it ends. -/
theorem asks_autoSave (h : w.KeepsImage) : Asks w (ends autoSave w).2 := by
  unfold autoSave
  rw [ends_bind_ok (ends_get w), if_pos h.wanted]
  cases hnull : w.settings.autoSaveCallback.isNull with
  | false =>
    refine asks_bind (asks_exportImage h.live) fun image => ?_
    split
    · refine .bind (.modify fun w => Images.imaged w _ rfl) fun _ => ?_
      split
      · exact .throw _
      · exact .pure _
    · exact .pure _
    · exact .throw _
    · exact .throw _
  | true =>
    have hlocation : w.settings.location.truth = true := h.target.resolve_right (by simp [hnull])
    have hpath : Value.null.orElse w.settings.location = w.settings.location := rfl
    show Asks w (ends (save .null) w).2
    unfold save
    rw [ends_bind_ok (ends_get w)]
    simp only [hpath, hlocation, Bool.not_true, Bool.false_eq_true, if_false]
    refine asks_bind (asks_exportImage h.live) fun image => (moves_store ..).attempt.bind fun x => ?_
    split
    · exact .pure _
    · exact .ite (moves_raise _) (.throw _)

/-- Handing changes over does nothing without the mark; with it, the mark is gone, and the automatic save is made. -/
theorem ends_flush (r : Nat) (w : World) : ends (flush r) w =
    if (w.runners.get r).dirty = true then ends autoSave (w.changeRunner r fun x => { x with dirty := false })
    else (.ok (), w) := by
  unfold flush
  rw [ends_bind_ok (ends_runner r w)]
  split
  · rw [ends_bind_ok (ends_changeRunner ..)]
  · rfl

/-- What follows a good statement of such a data source: it marks the runner, unless it only reads, and hands the
changes over, unless a transaction is active. -/
theorem ends_afterQuery (h : w.dialect = .sqljs) (r : Nat) (sql : Value) : ends (afterQuery r sql) w =
    match sql.text? with
    | none => (.error .wrongKind, w)
    | some s =>
      let u := if ReadOnly.test s then w else w.changeRunner r fun x => { x with dirty := true }
      if u.activeAt r = true then (.ok (), u) else ends (flush r) u := by
  have hkeeps : ends keepsImage w = (.ok true, w) := Prod.ext (congrArg Except.ok (decide_eq_true h)) rfl
  unfold afterQuery
  rw [ends_bind_ok hkeeps, if_pos rfl]
  cases sql.text? with
  | none => rfl
  | some s =>
    have hand (u : World) : ends (do if !(← runner r).active then flush r) u =
        if u.activeAt r = true then (.ok (), u) else ends (flush r) u := by
      rw [ends_bind_ok (ends_runner r u), World.activeAt]
      cases (u.runners.get r).active <;> rfl
    dsimp only
    cases ReadOnly.test s with
    | true => exact hand w
    | false => exact hand (w.changeRunner r fun x => { x with dirty := true })

end Session

/-! ## Handing over -/

/-- Does a statement count as one that may change something? It does unless it is known to only read. -/
def modifies (sql : Value) : Bool :=
  match sql.text? with
  | some s => !ReadOnly.test s
  | none => false

/-- Between the worlds the changes of runner `r` are handed to the automatic save once, which ends with the given
result. No transaction is active then, and the runner has lost its mark before. -/
def World.Hands (r : Nat) (w : World) (x : Result Unit) (v : World) : Prop :=
  ∃ u p, Unsaved w u ∧ u.activeAt r = false ∧ (u.runners.get r).dirty = false ∧ ends autoSave u = (x, p) ∧ Calm r p v

/-- What a good statement of runner `r` does to the mark. -/
inductive World.Marks (r : Nat) (sql : Value) (w : World) : Result Unit → World → Prop
  | spared {x : Result Unit} {v : World} (hreads : modifies sql = false) (hv : Spares r w v) : Marks r sql w x v
  | marked {v : World} (hmodifies : modifies sql = true) (hactive : w.activeAt r = true) (hv : Unsaved w v)
      (hdirty : (v.runners.get r).dirty = true) : Marks r sql w (.ok ()) v
  | handed {x : Result Unit} {v : World} (hdue : modifies sql = true ∨ (w.runners.get r).dirty = true)
      (hinactive : w.activeAt r = false) (hv : Hands r w x v) : Marks r sql w x v

namespace World

variable {r c : Nat} {u v w : World} {sql : Value}

namespace Hands

variable {x : Result Unit}

theorem of_unsaved (h : Unsaved w u) (hv : Hands r u x v) : Hands r w x v := by
  obtain ⟨p, q, hp, hv⟩ := hv
  exact ⟨p, q, h.trans hp, hv⟩

theorem trans_calm (h : Hands r w x u) (hv : Calm r u v) : Hands r w x v := by
  obtain ⟨p, q, hp, hinactive, hdirty, hq, hu⟩ := h
  exact ⟨p, q, hp, hinactive, hdirty, hq, hu.trans hv⟩

theorem stores (h : Hands r w x v) : ∃ u p, Unsaved w u ∧ u.activeAt r = false ∧ (u.runners.get r).dirty = false ∧
    Stores u p ∧ Calm r p v := by
  obtain ⟨u, p, hu, hinactive, hdirty, hp, hv⟩ := h
  have := (moves_autoSave (R := Stores)).along u
  rw [hp] at this
  exact ⟨u, p, hu, hinactive, hdirty, this, hv⟩

/-- The mark is gone, and still no transaction is active. -/
theorem leaves (h : Hands r w x v) : (v.runners.get r).dirty = false ∧ v.activeAt r = false := by
  obtain ⟨u, p, -, hinactive, hdirty, hp, hv⟩ := h.stores
  exact ⟨by rw [hv.dirty, hp.runners, hdirty], by rw [hv.activeAt, activeAt, hp.runners]; exact hinactive⟩

theorem keepsImage (h : Hands r w x v) (hk : w.KeepsImage) : v.KeepsImage := by
  obtain ⟨u, p, hu, -, -, hp, hv⟩ := h.stores
  exact ((hk.of_unsaved hu).of_stores hp).of_unsaved (Spares.of_calm hv).toUnsaved

end Hands

theorem Marks.of_spares {x : Result Unit} (h : Spares r w u) (hactive : u.activeAt r = w.activeAt r)
    (hv : Marks r sql u x v) : Marks r sql w x v := by
  cases hv with
  | spared hreads hv => exact .spared hreads (h.trans hv)
  | marked hmodifies ha hv hdirty => exact .marked hmodifies (hactive ▸ ha) (h.toUnsaved.trans hv) hdirty
  | handed hdue ha hv => exact .handed (h.dirty ▸ hdue) (hactive ▸ ha) (hv.of_unsaved h.toUnsaved)

theorem Marks.trans_calm {x : Result Unit} (h : Marks r sql w x u) (hv : Calm r u v) : Marks r sql w x v := by
  have hspares : Spares r u v := .of_calm hv
  cases h with
  | spared hreads hu => exact .spared hreads (hu.trans hspares)
  | marked hmodifies ha hu hdirty =>
    exact .marked hmodifies ha (hu.trans hspares.toUnsaved) (hspares.dirty.trans hdirty)
  | handed hdue ha hu => exact .handed hdue ha (hu.trans_calm hv)

end World

/-! ## What each call does to the mark -/

section
variable {r c : Nat} {u v w : World} {sql : Value}

/-- Without an active transaction, the changes of a marked runner are handed over. -/
theorem hands_flush (hinactive : w.activeAt r = false) :
    ((w.runners.get r).dirty = false ∧ ends (flush r) w = (.ok (), w)) ∨
    ((w.runners.get r).dirty = true ∧ Hands r w (ends (flush r) w).1 (ends (flush r) w).2) := by
  rw [ends_flush]
  cases hdirty : (w.runners.get r).dirty with
  | false => exact .inl ⟨rfl, if_neg Bool.false_ne_true⟩
  | true =>
    rw [if_pos rfl]
    refine .inr ⟨rfl, _, _, .of_changeRunner w r fun x => { x with dirty := false }, ?_, ?_, rfl, refl_of (Calm r) _⟩
    · rw [activeAt_changeRunner]
      exact hinactive
    · rw [changeRunner_get_self]

theorem marks_afterQuery (hdialect : w.dialect = .sqljs) (r : Nat) (sql : Value) :
    Marks r sql w (ends (afterQuery r sql) w).1 (ends (afterQuery r sql) w).2 := by
  rw [ends_afterQuery hdialect]
  cases htext : sql.text? with
  | none => exact .spared (by rw [modifies, htext]) (.refl r w)
  | some s =>
    have htold : modifies sql = !ReadOnly.test s := by simp only [modifies, htext]
    dsimp only
    cases htest : ReadOnly.test s with
    | true =>
      have hreads : modifies sql = false := by rw [htold, htest, Bool.not_true]
      rw [if_pos rfl]
      cases hactive : w.activeAt r with
      | true => exact .spared hreads (.refl r w)
      | false =>
        rw [if_neg Bool.false_ne_true]
        rcases hands_flush hactive with ⟨-, he⟩ | ⟨hdirty, hv⟩
        · rw [he]
          exact .spared hreads (.refl r w)
        · exact .handed (.inr hdirty) hactive hv
    | false =>
      have hmodifies : modifies sql = true := by rw [htold, htest, Bool.not_false]
      have hcell : (w.changeRunner r fun x => { x with dirty := true }).activeAt r = w.activeAt r :=
        activeAt_changeRunner ..
      have hmarked : ((w.changeRunner r fun x => { x with dirty := true }).runners.get r).dirty = true := by
        rw [changeRunner_get_self]
      have hunsaved : Unsaved w (w.changeRunner r fun x => { x with dirty := true }) := .of_changeRunner ..
      rw [if_neg Bool.false_ne_true, hcell]
      cases hactive : w.activeAt r with
      | true =>
        rw [if_pos rfl]
        exact .marked hmodifies hactive hunsaved hmarked
      | false =>
        rw [if_neg Bool.false_ne_true]
        rcases hands_flush (hcell.trans hactive) with ⟨hclean, -⟩ | ⟨-, hv⟩
        · rw [hmarked] at hclean
          cases hclean
        · exact .handed (.inl hmodifies) hactive (hv.of_unsaved hunsaved)

/-- A good statement does to the mark what it should, unless it cannot be told whether it was slow. -/
theorem marks_finishes {x : Result QueryOutcome} (hdialect : w.dialect = .sqljs) (h : Finishes r sql w x v) :
    (Spares r w v ∧ ∃ f duration, x = .error f ∧ (w.settings.get "max_query_execution_time").isNull = false ∧
      exceeds duration (w.settings.get "max_query_execution_time") = .error f) ∨
    Marks r sql w (x.map fun _ => ()) v := by
  cases h with
  | slow hv hlongest hslow => exact .inl ⟨.of_calm hv, _, _, rfl, hlongest, hslow⟩
  | @told u p _ x outcome hu hx hv =>
    have hspares : Spares r w u := .of_calm hu
    have hmarks := marks_afterQuery (hu.dialect.trans hdialect) r sql
    rw [hx] at hmarks
    have hresult : (x.map fun _ => outcome).map (fun _ => ()) = x := by cases x <;> rfl
    rw [hresult]
    exact .inr ((hmarks.of_spares hspares hu.activeAt).trans_calm hv)

/-- A statement that fails spares the mark, unless it is the automatic save that fails. -/
theorem marks_queries {x : Result QueryOutcome} (hdialect : w.dialect = .sqljs) (h : Queries r sql w x v) :
    (Spares r w v ∧ ∃ f, x = .error f) ∨ Marks r sql w (x.map fun _ => ()) v := by
  have hfinishes {s : World} (hs : Spares r w s) (hactive : s.activeAt r = w.activeAt r) (hv : Finishes r sql s x v) :
      (Spares r w v ∧ ∃ f, x = .error f) ∨ Marks r sql w (x.map fun _ => ()) v := by
    rcases marks_finishes (hs.toUnsaved.dialect.trans hdialect) hv with ⟨hv, f, -, hx, -⟩ | hv
    · exact .inl ⟨hs.trans hv, f, hx⟩
    · exact .inr (hv.of_spares hs hactive)
  cases h with
  | unsent hv => exact .inl ⟨.of_calm hv, _, rfl⟩
  | refused hs hreply hv => exact .inl ⟨(Spares.of_sends hs).trans (.of_undoes hv), _, rfl⟩
  | kept hactive hs hreply hv => exact hfinishes (.of_sends hs) hs.activeAt hv
  | committed hactive hs hreply hfault ht hv =>
    exact hfinishes ((Spares.of_sends hs).trans (.of_answered rfl ht)) ((ht.activeAt r).trans hs.activeAt) hv
  | turnedDown hactive hs hreply hfault ht hv =>
    exact .inl ⟨((Spares.of_sends hs).trans (.of_answered rfl ht)).trans (.of_undoes hv), _, rfl⟩

theorem spares_start {x : Result Unit} (h : Starts r w x v) : Spares r w v := by
  cases h with
  | refused hv => exact .of_prepares hv
  | @begun c u _ hactive hu hc hv =>
    exact ((Spares.of_prepares hu).trans (.of_changeRunner u r (f := .begun c) fun _ => rfl)).trans (.of_calm hv)

/-- A commit that passes, and the hook after it, hand the changes over, if there are any. A lock that was lost hides how
that ends. -/
theorem marks_commits {x : Result Unit} (hk : w.KeepsImage) (h : Commits r w x v) :
    (Spares r w v ∧ (w.letsCommit r → w.refusal? .afterCommit = none → (w.runners.get r).dirty = false)) ∨
    ((w.runners.get r).dirty = true ∧ ∃ y, x = outlived (w.lockFault? r) y ∧ Hands r w y v) := by
  cases h with
  | stopped hl hv => exact .inl ⟨.of_calm hv, fun h => absurd h hl⟩
  | turnedDown hactive hc hfault hu hp hv =>
    exact .inl ⟨((Spares.of_calm hu).trans (.of_answered rfl hp)).trans (.of_calm hv), fun h => absurd h.2.2 hfault⟩
  | hooked hl hv hhook => exact .inl ⟨.of_endsBy rfl hv, fun _ h => by simp [hhook] at h⟩
  | @ended c u hl hu hhook y p _ hp hv =>
    have hspares : Spares r w u := .of_endsBy rfl hu
    have hinactive : u.activeAt r = false := by
      obtain ⟨-, p, q, -, -, hu⟩ := hu
      rw [hu.activeAt, activeAt_changeRunner]
      rfl
    rw [if_pos hk.dialect] at hp
    rcases hands_flush hinactive with ⟨hclean, he⟩ | ⟨hdirty, hhands⟩
    · rw [he] at hp
      cases hp
      exact .inl ⟨hspares.trans (.of_calm hv), fun _ _ => hspares.dirty.symm.trans hclean⟩
    · rw [hp] at hhands
      exact .inr ⟨hspares.dirty.symm.trans hdirty, y, rfl, (hhands.of_unsaved hspares.toUnsaved).trans_calm hv⟩

/-- A rollback drops the mark, however it ends. -/
theorem marks_rollbacks (hk : w.KeepsImage) (h : Rollbacks r w u)
    (hv : Calm r (if w.dialect = .sqljs then u.changeRunner r fun x => { x with dirty := false } else u) v) :
    Unsaved w v ∧ (v.runners.get r).dirty = false := by
  have hu : Unsaved w u := by
    cases h with
    | stopped hl hv => exact (Spares.of_calm hv).toUnsaved
    | ended hl hv => exact (Spares.of_endsBy rfl hv).toUnsaved
  rw [if_pos hk.dialect] at hv
  exact ⟨(hu.trans (.of_changeRunner ..)).trans (Spares.of_calm hv).toUnsaved, by rw [hv.dirty, changeRunner_get_self]⟩

theorem spares_detaches (h : Detaches r w v) : Spares r w v := by
  have hcell : Spares r w (w.changeRunner r .detached) := .of_changeRunner w r fun _ => rfl
  unfold Detaches at h
  split at h
  · exact hcell.trans (.of_answered rfl h)
  · rw [h]
    exact hcell

theorem marks_release (r : Nat) (w : World) : Spares r w (Deed.after ⟨w, .release⟩ r) ∨
    ((w.runners.get r).dirty = true ∧ w.activeAt r = false ∧
      Hands r w (Deed.answer ⟨w, .release⟩ r) (Deed.after ⟨w, .release⟩ r)) := by
  have hafter : Deed.after ⟨w, .release⟩ r = (ends (release r) w).2 := rfl
  have hanswer : Deed.answer ⟨w, .release⟩ r = (ends (release r) w).1 := rfl
  rw [hafter, hanswer]
  rcases release_cases r w with hsame | ⟨-, hinactive, he⟩ | hv
  · exact .inl (by rw [hsame]; exact .refl r w)
  · rw [he]
    rcases hands_flush hinactive with ⟨-, he⟩ | ⟨hdirty, hv⟩
    · exact .inl (by rw [he]; exact .refl r w)
    · exact .inr ⟨hdirty, hinactive, hv⟩
  · exact .inl ((Spares.of_changeRunner w r (f := fun x => { x with released := true }) fun _ => rfl).trans
      (spares_detaches hv))

/-- Handing over asks for the image. -/
theorem Hands.asks {x : Result Unit} (h : Hands r w x v) (hk : w.KeepsImage) : Asks w v := by
  obtain ⟨u, p, hu, -, -, hp, hv⟩ := h
  have hasks : Asks u p := by
    have := asks_autoSave (hk.of_unsaved hu)
    rwa [hp] at this
  obtain ⟨before, hbefore, -⟩ := hu.trace
  obtain ⟨n, xs, ys, hxs⟩ := hasks
  obtain ⟨later, hlater, -⟩ := hv.trace
  exact ⟨n, before ++ xs, ys ++ later, by simp [hlater, hxs, hbefore]⟩

theorem Unsaved.not_asks (h : Unsaved w v) : ¬ Asks w v := by
  obtain ⟨events, hevents, hsaves⟩ := h.trace
  rintro ⟨n, xs, ys, hv⟩
  rw [hevents, List.append_assoc] at hv
  have hmem : Event.nativeSerialize n ∈ events := by
    rw [List.append_cancel_left hv]
    simp
  exact Bool.false_ne_true (hsaves _ hmem).symm

end

namespace Deed

/-- The call has asked the database for its image. -/
def AsksImage (d : Deed) (r : Nat) : Prop := Asks d.before (d.after r)

/-- What a call can do to the mark and to the image. -/
inductive Treats (d : Deed) (r : Nat) : Prop
  | spares (hv : Spares r d.before (d.after r))
  | marks (hv : Unsaved d.before (d.after r)) (hdirty : ((d.after r).runners.get r).dirty = true)
  | drops (hcall : d.call = .rollback) (hv : Unsaved d.before (d.after r))
      (hclean : ((d.after r).runners.get r).dirty = false)
  | hands {x : Result Unit} (hv : Hands r d.before x (d.after r))

theorem treats (d : Deed) (r : Nat) (hk : d.before.KeepsImage) : d.Treats r := by
  obtain ⟨w, call⟩ := d
  cases call with
  | query sql parameters =>
    obtain ⟨x, hq, hx⟩ := queries (r := r) w sql parameters
    rcases marks_queries hk.dialect hq with ⟨hv, -⟩ | hmarks
    · exact .spares hv
    · rw [← hx] at hmarks
      generalize hy : answer ⟨w, .query sql parameters⟩ r = y at hmarks
      cases hmarks with
      | spared _ hv => exact .spares hv
      | marked _ _ hv hdirty => exact .marks hv hdirty
      | handed _ _ hv => exact .hands (hy ▸ hv)
  | start isolation => exact .spares (spares_start (starts w isolation))
  | commit =>
    rcases marks_commits hk (commits w) with ⟨hv, -⟩ | ⟨-, _, -, hv⟩
    · exact .spares hv
    · exact .hands hv
  | rollback =>
    obtain ⟨u, hu, hafter⟩ := rollbacks (r := r) w
    have hmarks := marks_rollbacks hk hu hafter
    exact .drops rfl hmarks.1 hmarks.2
  | close => exact .spares (spares_detaches (detaches w))
  | release =>
    rcases marks_release r w with hv | ⟨-, -, hv⟩
    · exact .spares hv
    · exact .hands hv

end Deed

end SqlWeave
