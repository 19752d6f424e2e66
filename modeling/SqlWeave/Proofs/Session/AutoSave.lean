import SqlWeave.Proofs.Session.Marking

/-!
# When the automatic save is made

The mark of a runner says whether a statement of the active transaction may have changed something, as long as
no hook gets in between and no save fails. So the automatic save is made right after the statements and the
commits that call for it, and at no other time.
-/

namespace SqlWeave

open Session World

namespace Deed

/-- The call is a statement that may have changed something, and has returned. -/
def Wrote (d : Deed) (r : Nat) : Prop :=
  ∃ sql parameters, d.call = .query sql parameters ∧ modifies sql = true ∧ d.Returned r

/-- No hook fails that gets between the call and the automatic save, or between it and the end of a transaction. -/
def PassesHooks (d : Deed) : Prop :=
  match d.call with
  | .commit => d.before.refusal? .afterCommit = none
  | .rollback => d.before.refusal? .beforeRollback = none
  | _ => True

end Deed

/-- A statement of the active transaction may have changed something. -/
def WroteSince (r : Nat) (ds : List Deed) (w : World) : Prop :=
  ∃ k d, ds[k]? = some d ∧ d.Wrote r ∧ OpenSince r ds w k

/-- After the calls before it, a call calls for the automatic save: it has written with no transaction active, or
it has committed a transaction in which something was written. -/
def DueAfter (r : Nat) (before : List Deed) (d : Deed) : Prop :=
  (d.before.activeAt r = false ∧ d.Wrote r) ∨ (d.call = .commit ∧ d.Returned r ∧ WroteSince r before d.before)

/-! ## What the mark says -/

/-- What holds of the mark after the calls of a history. -/
structure Settled (r : Nat) (ds : List Deed) (w : World) : Prop where
  keeps : w.KeepsImage
  endable : w.activeAt r = true → w.endable r
  marked : (w.runners.get r).dirty = true ↔ WroteSince r ds w

section
variable {r : Nat} {ds : List Deed} {d : Deed} {u v w : World}

theorem wroteSince_snoc : WroteSince r (ds ++ [d]) v ↔
    v.activeAt r = true ∧ d.before.activeAt r = true ∧ (d.Wrote r ∨ WroteSince r ds d.before) := by
  unfold WroteSince
  constructor
  · rintro ⟨k, e, he, hwrote, hopen⟩
    obtain ⟨hv, hd, rfl | hopen⟩ := openSince_snoc.mp hopen
    · obtain rfl : d = e := by simpa using he
      exact ⟨hv, hd, .inl hwrote⟩
    · rw [List.getElem?_append_left hopen.2.1] at he
      exact ⟨hv, hd, .inr ⟨k, e, he, hwrote, hopen⟩⟩
  · rintro ⟨hv, hd, hwrote | ⟨k, e, he, hwrote, hopen⟩⟩
    · exact ⟨ds.length, d, by simp, hwrote, openSince_snoc.mpr ⟨hv, hd, .inl rfl⟩⟩
    · refine ⟨k, e, ?_, hwrote, openSince_snoc.mpr ⟨hv, hd, .inr hopen⟩⟩
      rwa [List.getElem?_append_left hopen.2.1]

namespace Settled

theorem inactive_clean (h : Settled r ds w) (hinactive : w.activeAt r = false) : (w.runners.get r).dirty = false := by
  rw [Bool.eq_false_iff]
  intro hdirty
  obtain ⟨k, e, -, -, hopen⟩ := h.marked.mp hdirty
  exact Bool.false_ne_true (hinactive.symm.trans hopen.1)

/-- After a call that has not saved. -/
theorem of_unsaved (h : Settled r ds d.before) (hv : Unsaved d.before v)
    (hendable : v.activeAt r = true → v.endable r)
    (hmarked : (v.runners.get r).dirty = true ↔
      v.activeAt r = true ∧ d.before.activeAt r = true ∧ (d.Wrote r ∨ (d.before.runners.get r).dirty = true)) :
    Settled r (ds ++ [d]) v where
  keeps := h.keeps.of_unsaved hv
  endable := hendable
  marked := by rw [hmarked, wroteSince_snoc, h.marked]

/-- After a call that has saved. -/
theorem of_hands {x : Result Unit} (h : Settled r ds d.before) (hv : Hands r d.before x v) :
    Settled r (ds ++ [d]) v where
  keeps := hv.keepsImage h.keeps
  endable hactive := absurd (hv.leaves.2.symm.trans hactive) Bool.false_ne_true
  marked := by
    rw [wroteSince_snoc, hv.leaves.1, hv.leaves.2]
    simp

/-- After a call that has written nothing and keeps the standing of the runner. -/
theorem of_spares (h : Settled r ds d.before) (hv : Spares r d.before v) (hstanding : SameStanding d.before v)
    (hwrote : d.before.activeAt r = true → ¬ d.Wrote r) : Settled r (ds ++ [d]) v := by
  refine h.of_unsaved hv.toUnsaved (fun hactive => ?_) ?_
  · exact (hstanding.endable_iff r).mpr (h.endable (by rwa [← hstanding.activeAt r]))
  · rw [hv.dirty, hstanding.activeAt r]
    cases hactive : d.before.activeAt r with
    | true => simp [hwrote hactive]
    | false => simp [h.inactive_clean hactive]

/-- After a call by which the transaction is over, when nothing is marked. -/
theorem of_over (h : Settled r ds d.before) (hv : Unsaved d.before v) (hinactive : v.activeAt r = false)
    (hclean : (v.runners.get r).dirty = false) : Settled r (ds ++ [d]) v := by
  refine h.of_unsaved hv (fun hactive => absurd (hinactive.symm.trans hactive) Bool.false_ne_true) ?_
  rw [hinactive, hclean]
  simp

/-- Between the calls nothing changes. -/
theorem of_calm (h : Settled r ds w) (hv : Calm r w v) : Settled r ds v := by
  have hspares : Spares r w v := .of_calm hv
  refine ⟨h.keeps.of_unsaved hspares.toUnsaved, fun hactive => ?_, ?_⟩
  · exact hv.endable_iff.mpr (h.endable (hv.activeAt.symm.trans hactive))
  · rw [hspares.dirty, h.marked, WroteSince, WroteSince]
    simp only [OpenSince, hv.activeAt]

end Settled

/-! ## One call -/

/-- A call keeps what holds of the mark, and saves when that is due, and not otherwise. -/
structure SavesWhenDue (r : Nat) (ds : List Deed) (d : Deed) : Prop where
  keeps : d.before.KeepsImage
  settled : Settled r (ds ++ [d]) (d.after r)
  due : DueAfter r ds d → Hands r d.before (.ok ()) (d.after r)
  notDue : ¬ DueAfter r ds d → Unsaved d.before (d.after r)

namespace SavesWhenDue

theorem of_not_due (h : Settled r ds d.before) (hsettled : Settled r (ds ++ [d]) (d.after r))
    (hv : Unsaved d.before (d.after r)) (hdue : ¬ DueAfter r ds d) : SavesWhenDue r ds d :=
  ⟨h.keeps, hsettled, fun h => absurd h hdue, fun _ => hv⟩

theorem of_due (h : Settled r ds d.before) (hv : Hands r d.before (.ok ()) (d.after r)) (hdue : DueAfter r ds d) :
    SavesWhenDue r ds d :=
  ⟨h.keeps, h.of_hands hv, fun _ => hv, fun h => absurd hdue h⟩

end SavesWhenDue

/-- A call whose save fails does not return. -/
theorem result_of_hands {x : Result Unit} (hk : d.before.KeepsImage) (hsave : d.AsksImage r → d.Returned r)
    (hx : d.answer r = x) (hv : Hands r d.before x (d.after r)) : x = .ok () :=
  hx.symm.trans (hsave (Hands.asks hv hk))

theorem savesWhenDue_query (sql parameters : Value) (h : Settled r ds w)
    (hsave : Deed.AsksImage ⟨w, .query sql parameters⟩ r → Deed.Returned ⟨w, .query sql parameters⟩ r) :
    SavesWhenDue r ds ⟨w, .query sql parameters⟩ := by
  have hends : Deed.after ⟨w, .query sql parameters⟩ r = (ends (query r sql parameters >>= fun _ => pure ()) w).2 := rfl
  have hstanding : SameStanding w (Deed.after ⟨w, .query sql parameters⟩ r) := by
    rw [hends]
    exact ((moves_query r sql parameters).bind fun _ => .pure _).along w
  obtain ⟨x, hq, hx⟩ := Deed.queries (r := r) w sql parameters
  -- Whatever is due, is due because this statement has written.
  have hdue : DueAfter r ds ⟨w, .query sql parameters⟩ →
      w.activeAt r = false ∧ modifies sql = true ∧ Deed.Returned ⟨w, .query sql parameters⟩ r := by
    rintro (⟨hinactive, _, _, hcall, hmodifies, hreturned⟩ | ⟨hcall, -⟩)
    · cases hcall
      exact ⟨hinactive, hmodifies, hreturned⟩
    · cases hcall
  have hspares (hv : Spares r w (Deed.after ⟨w, .query sql parameters⟩ r))
      (hwrote : ¬ Deed.Wrote ⟨w, .query sql parameters⟩ r) : SavesWhenDue r ds ⟨w, .query sql parameters⟩ := by
    refine .of_not_due h (h.of_spares hv hstanding fun _ => hwrote) hv.toUnsaved fun h => hwrote ?_
    obtain ⟨-, hmodifies, hreturned⟩ := hdue h
    exact ⟨sql, parameters, rfl, hmodifies, hreturned⟩
  rcases marks_queries h.keeps.dialect hq with ⟨hv, f, rfl⟩ | hmarks
  · refine hspares hv ?_
    rintro ⟨_, _, -, -, hreturned⟩
    exact nomatch hx.symm.trans hreturned
  · rw [← hx] at hmarks
    generalize hresult : Deed.answer ⟨w, .query sql parameters⟩ r = y at hmarks
    cases hmarks with
    | spared hreads hv =>
      refine hspares hv ?_
      rintro ⟨_, _, hcall, hmodifies, -⟩
      cases hcall
      rw [hreads] at hmodifies
      cases hmodifies
    | marked hmodifies hactive hv hdirty =>
      have hwrote : Deed.Wrote ⟨w, .query sql parameters⟩ r := ⟨sql, parameters, rfl, hmodifies, hresult⟩
      refine .of_not_due h (h.of_unsaved hv (fun ha => ?_) ?_) hv fun hd => ?_
      · exact (hstanding.endable_iff r).mpr (h.endable hactive)
      · rw [hdirty, hstanding.activeAt r]
        simp [hactive, hwrote]
      · exact Bool.false_ne_true ((hdue hd).1.symm.trans hactive)
    | handed hor hinactive hv =>
      obtain rfl := result_of_hands h.keeps hsave hresult hv
      have hmodifies : modifies sql = true := hor.resolve_right (by simp [h.inactive_clean hinactive])
      exact .of_due h hv (.inl ⟨hinactive, sql, parameters, rfl, hmodifies, hresult⟩)

theorem savesWhenDue_start (isolation : Value) (h : Settled r ds w) : SavesWhenDue r ds ⟨w, .start isolation⟩ := by
  have hwrote : ¬ Deed.Wrote ⟨w, .start isolation⟩ r := by rintro ⟨_, _, hcall, -⟩; cases hcall
  have hdue : ¬ DueAfter r ds ⟨w, .start isolation⟩ := by
    rintro (⟨-, hw⟩ | ⟨hcall, -⟩)
    · exact hwrote hw
    · cases hcall
  have hv : Spares r w (Deed.after ⟨w, .start isolation⟩ r) := spares_start (Deed.starts w isolation)
  have hends : Deed.after ⟨w, .start isolation⟩ r = (ends (startTransaction r isolation) w).2 := rfl
  refine .of_not_due h ?_ hv.toUnsaved hdue
  rcases startTransaction_cases r isolation w with ⟨hb, c, u, x, -, hx, he⟩ | ⟨-, f, x, hx, he⟩
  all_goals
    rw [he] at hends
    rw [hends] at hv ⊢
  · have hinactive : w.activeAt r = false := inactive_of_begins hb
    have hendable : x.endable r := by
      rw [hx.standing.endable_iff, World.endable, activeAt_changeRunner, changeRunner_get_self]
      simp [Runner.begun]
    refine h.of_unsaved (d := ⟨w, .start isolation⟩) hv.toUnsaved (fun _ => hendable) ?_
    rw [hv.dirty, h.inactive_clean hinactive]
    simp [hinactive]
  · exact h.of_spares (d := ⟨w, .start isolation⟩) hv hx fun _ => hwrote

theorem savesWhenDue_commit (h : Settled r ds w) (hhook : w.refusal? .afterCommit = none)
    (hsave : Deed.AsksImage ⟨w, .commit⟩ r → Deed.Returned ⟨w, .commit⟩ r) : SavesWhenDue r ds ⟨w, .commit⟩ := by
  have hwrote : ¬ Deed.Wrote ⟨w, .commit⟩ r := by rintro ⟨_, _, hcall, -⟩; cases hcall
  have hdue : DueAfter r ds ⟨w, .commit⟩ → Deed.Returned ⟨w, .commit⟩ r ∧ (w.runners.get r).dirty = true := by
    rintro (⟨-, hw⟩ | ⟨-, hreturned, hsince⟩)
    · exact absurd hw hwrote
    · exact ⟨hreturned, h.marked.mpr hsince⟩
  rcases marks_commits h.keeps (Deed.commits w) with ⟨hv, hclean⟩ | ⟨hdirty, y, hanswer, hv⟩
  · -- Either the commit does not pass, or nothing was written.
    rcases commitTransaction_cases r w with ⟨hl, hinactive⟩ | ⟨-, f, x, hx, he⟩
    · have hclean := hclean hl hhook
      refine .of_not_due h (h.of_over hv.toUnsaved hinactive (hv.dirty.trans hclean)) hv.toUnsaved fun hd => ?_
      exact Bool.false_ne_true (hclean.symm.trans (hdue hd).2)
    · have hanswer : Deed.answer ⟨w, .commit⟩ r = .error f := (congrArg Prod.fst he :)
      have hafter : Deed.after ⟨w, .commit⟩ r = x := (congrArg Prod.snd he :)
      refine .of_not_due h (h.of_spares hv (hafter ▸ hx) fun _ => hwrote) hv.toUnsaved fun hd => ?_
      exact nomatch hanswer.symm.trans (hdue hd).1
  · have hreturned : Deed.Returned ⟨w, .commit⟩ r := hsave (Hands.asks hv h.keeps)
    -- A commit that returns has not lost the lock, so it ends as the save does.
    obtain rfl : y = .ok () := ok_of_outlived (hanswer.symm.trans hreturned)
    exact .of_due h hv (.inr ⟨rfl, hreturned, h.marked.mp hdirty⟩)

theorem savesWhenDue_rollback (h : Settled r ds w) (hhook : w.refusal? .beforeRollback = none) :
    SavesWhenDue r ds ⟨w, .rollback⟩ := by
  have hwrote : ¬ Deed.Wrote ⟨w, .rollback⟩ r := by rintro ⟨_, _, hcall, -⟩; cases hcall
  have hdue : ¬ DueAfter r ds ⟨w, .rollback⟩ := by
    rintro (⟨-, hw⟩ | ⟨hcall, -⟩)
    · exact hwrote hw
    · cases hcall
  obtain ⟨u, hu, hafter⟩ := Deed.rollbacks (r := r) w
  obtain ⟨hv, hclean⟩ := marks_rollbacks h.keeps hu hafter
  refine .of_not_due h ?_ hv hdue
  -- No hook stops the rollback, so the transaction is over when there was one.
  have hinactive : (Deed.after ⟨w, .rollback⟩ r).activeAt r = false := by
    rw [Bool.eq_false_iff]
    intro hactive
    have hstill : w.activeAt r = true ∧ ¬ w.letsRollback r := (activeAt_rollbackTransaction r w).mp hactive
    exact hstill.2 ⟨h.endable hstill.1, hhook⟩
  exact h.of_over hv hinactive hclean

theorem savesWhenDue_release (h : Settled r ds w) :
    SavesWhenDue r ds ⟨w, .release⟩ := by
  have hwrote : ¬ Deed.Wrote ⟨w, .release⟩ r := by rintro ⟨_, _, hcall, -⟩; cases hcall
  have hdue : ¬ DueAfter r ds ⟨w, .release⟩ := by
    rintro (⟨-, hw⟩ | ⟨hcall, -⟩)
    · exact hwrote hw
    · cases hcall
  rcases marks_release r w with hv | ⟨hdirty, hinactive, -⟩
  · exact .of_not_due h (h.of_spares hv (standing_release h.keeps.dialect r) fun _ => hwrote) hv.toUnsaved hdue
  · rw [h.inactive_clean hinactive] at hdirty
    cases hdirty

theorem savesWhenDue_call (d : Deed) (h : Settled r ds d.before) (hclose : d.call ≠ .close) (hpass : d.PassesHooks)
    (hsave : d.AsksImage r → d.Returned r) : SavesWhenDue r ds d := by
  obtain ⟨w, call⟩ := d
  cases call with
  | query sql parameters => exact savesWhenDue_query sql parameters h hsave
  | start isolation => exact savesWhenDue_start isolation h
  | commit => exact savesWhenDue_commit h hpass hsave
  | rollback => exact savesWhenDue_rollback h hpass
  | close => exact absurd rfl hclose
  | release => exact savesWhenDue_release h

end

/-! ## Whole histories -/

section
variable {r : Nat} {ds : List Deed} {v w : World}

theorem settled_of_history (h : History r w ds v) (hw : Settled r [] w) (hclose : ∀ d ∈ ds, d.call ≠ .close)
    (hpass : ∀ d ∈ ds, d.PassesHooks) (hsaves : ∀ d ∈ ds, d.AsksImage r → d.Returned r) :
    Settled r ds v ∧ ∀ before d later, ds = before ++ d :: later → SavesWhenDue r before d := by
  induction h with
  | start => exact ⟨hw, by simp⟩
  | pause _ hv ih =>
    obtain ⟨hsettled, hall⟩ := ih hclose hpass hsaves
    exact ⟨hsettled.of_calm hv, hall⟩
  | @call ds u _ c ih =>
    rw [List.forall_mem_append, List.forall_mem_singleton] at hclose hpass hsaves
    obtain ⟨hsettled, hall⟩ := ih hclose.1 hpass.1 hsaves.1
    have hlast : SavesWhenDue r ds ⟨u, c⟩ := savesWhenDue_call ⟨u, c⟩ hsettled hclose.2 hpass.2 hsaves.2
    refine ⟨hlast.settled, fun before d later hds => ?_⟩
    rcases List.eq_nil_or_concat later with rfl | ⟨later, e, rfl⟩
    · obtain ⟨rfl, hd⟩ := List.append_inj' hds rfl
      cases hd
      exact hlast
    · rw [List.concat_eq_append, ← List.cons_append, ← List.append_assoc] at hds
      exact hall before d later (List.append_inj' hds rfl).1

end

/-- A data source that hands its image to a callback. -/
def World.keepingImage : World :=
  { settings := { values := [("auto_save", .bool true), ("auto_save_callback", .receiver none)] }
    dialect := .sqljs
    initialized := true
    live := some 1
    engine := some 0 }

/-- A transaction in which something is written. -/
def writingTransaction : List RunnerCall := [.start .null, .query (.text "DELETE") .null]

end SqlWeave
