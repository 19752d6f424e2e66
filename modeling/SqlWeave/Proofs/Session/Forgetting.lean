import SqlWeave.Proofs.Session.Durability
import SqlWeave.Proofs.Session.Marking
import SqlWeave.Proofs.Session.Visits

/-!
# Which changes the automatic save forgets

A change that was committed is marked until it is saved, but for two kinds of calls that drop the mark without a
save: a rollback drops it also when there is nothing to roll back, and a save that fails does not put it back. What
carries this is that the mark is there already while the transaction of the change is active.
-/

namespace SqlWeave

open Session World

/-- Of every duration it can be told whether it is longer than allowed. -/
def World.LimitsTime (w : World) : Prop :=
  ∀ duration f, (w.settings.get "max_query_execution_time").isNull = false →
    exceeds duration (w.settings.get "max_query_execution_time") ≠ .error f

namespace Deed

/-- The call has made the automatic save, which passed. -/
def Saves (r : Nat) (d : Deed) : Prop := d.AsksImage r ∧ d.Returned r

/-- The call has dropped the mark without a save: it is a rollback, or its automatic save has failed. -/
def Forgets (r : Nat) (d : Deed) : Prop := d.call = .rollback ∨ (d.AsksImage r ∧ ¬ d.Returned r)

end Deed

/-- A call from number `i` on is of a kind. -/
def SomeSince (P : Deed → Prop) (ds : List Deed) (i : Nat) : Prop := ∃ k d, i ≤ k ∧ ds[k]? = some d ∧ P d

/-- Call `i` is a statement that may have changed something. -/
def ModifiesAt (ds : List Deed) (i : Nat) : Prop :=
  ∃ d sql parameters, ds[i]? = some d ∧ d.call = .query sql parameters ∧ modifies sql = true

section
variable {r i : Nat} {P : Deed → Prop} {ds : List Deed} {d : Deed} {l : Ledger} {u v w : World}

theorem someSince_snoc : SomeSince P (ds ++ [d]) i ↔ SomeSince P ds i ∨ (i ≤ ds.length ∧ P d) := by
  unfold SomeSince
  constructor
  · rintro ⟨k, e, hk, he, hP⟩
    rcases Nat.lt_or_ge k ds.length with hlt | hge
    · rw [List.getElem?_append_left hlt] at he
      exact .inl ⟨k, e, hk, he, hP⟩
    · have hlast := (List.getElem?_eq_some_iff.mp he).1
      rw [List.length_append, List.length_singleton] at hlast
      obtain rfl : k = ds.length := by omega
      obtain rfl : d = e := by simpa using he
      exact .inr ⟨hk, hP⟩
  · rintro (⟨k, e, hk, he, hP⟩ | ⟨hi, hP⟩)
    · exact ⟨k, e, hk, by rwa [List.getElem?_append_left (List.getElem?_eq_some_iff.mp he).1], hP⟩
    · exact ⟨ds.length, d, hi, by simp, hP⟩

theorem SomeSince.snoc (h : SomeSince P ds i) : SomeSince P (ds ++ [d]) i := someSince_snoc.mpr (.inl h)

theorem SomeSince.last (hi : i ≤ ds.length) (hP : P d) : SomeSince P (ds ++ [d]) i := someSince_snoc.mpr (.inr ⟨hi, hP⟩)

theorem modifiesAt_snoc_of_lt (hi : i < ds.length) : ModifiesAt (ds ++ [d]) i ↔ ModifiesAt ds i := by
  rw [ModifiesAt, ModifiesAt, List.getElem?_append_left hi]

theorem modifiesAt_snoc_last : ModifiesAt (ds ++ [d]) ds.length ↔
    ∃ sql parameters, d.call = .query sql parameters ∧ modifies sql = true := by
  simp [ModifiesAt]

/-! ## What a call keeps -/

theorem Deed.saves_or_forgets (hasks : d.AsksImage r) : d.Saves r ∨ d.Forgets r := by
  by_cases hreturned : d.Returned r
  · exact .inl ⟨hasks, hreturned⟩
  · exact .inr (.inr ⟨hasks, hreturned⟩)

namespace Deed.Treats

theorem keepsImage (h : d.Treats r) (hk : d.before.KeepsImage) : (d.after r).KeepsImage := by
  cases h with
  | spares hv => exact hk.of_unsaved hv.toUnsaved
  | marks hv => exact hk.of_unsaved hv
  | drops _ hv => exact hk.of_unsaved hv
  | hands hv => exact hv.keepsImage hk

theorem settings (h : d.Treats r) : (d.after r).settings = d.before.settings := by
  cases h with
  | spares hv => exact hv.toUnsaved.settings
  | marks hv => exact hv.settings
  | drops _ hv => exact hv.settings
  | hands hv =>
    obtain ⟨u, p, hu, -, -, hp, hv⟩ := hv.stores
    have hstored : p.settings = u.settings := (congrArg World.settings hp.rest :)
    rw [hv.settings, hstored, hu.settings]

/-- A mark is kept, saved, or forgotten. -/
theorem of_marked (h : d.Treats r) (hk : d.before.KeepsImage) (hdirty : (d.before.runners.get r).dirty = true) :
    ((d.after r).runners.get r).dirty = true ∨ d.Saves r ∨ d.Forgets r := by
  cases h with
  | spares hv => exact .inl (hv.dirty.trans hdirty)
  | marks _ hdirty => exact .inl hdirty
  | drops hcall => exact .inr (.inr (.inl hcall))
  | hands hv => exact .inr (Deed.saves_or_forgets (Hands.asks hv hk))

/-- What is forgotten is not marked any more. -/
theorem clean_of_forgets (h : d.Treats r) (hk : d.before.KeepsImage) (hforgets : d.Forgets r) :
    ((d.after r).runners.get r).dirty = false := by
  rcases hforgets with hcall | ⟨hasks, -⟩
  · obtain ⟨w, _⟩ := d
    obtain rfl := hcall
    obtain ⟨u, hu, hafter⟩ := Deed.rollbacks (r := r) w
    exact (marks_rollbacks hk hu hafter).2
  · cases h with
    | spares hv => exact absurd hasks (Unsaved.not_asks hv.toUnsaved)
    | marks hv => exact absurd hasks (Unsaved.not_asks hv)
    | drops _ _ hclean => exact hclean
    | hands hv => exact hv.leaves.1

end Deed.Treats

/-! ## A statement that is executed -/

/-- A statement has left something when its reply is good. -/
def leftByReply (reply : Reply) : Bool := reply.failure.isNone

namespace Ledger

theorem executed_replay {leaves : Reply → Bool} {b : Backend} {events : List Event} {k : Nat}
    (h : k ∈ (l.replay leaves i b events).executed) : k ∈ l.executed ∨ k = i := by
  induction events generalizing b l with
  | nil => exact .inl h
  | cons e rest ih =>
    rcases ih h with hread | rfl
    · cases e
      case exec =>
        rcases mem_executed_enter.mp hread with hl | ⟨rfl, -⟩
        · exact .inl hl
        · exact .inr rfl
      case commit | txCommit | rollback | txRollback | close =>
        unfold read at hread
        dsimp only at hread
        split at hread <;> exact .inl hread
      all_goals exact .inl hread
    · exact .inr rfl

/-- What an executed statement does to the mark, when an active transaction keeps it, or its own commit passes. -/
theorem marks_of_executed {sql parameters : Value} (hk : w.KeepsImage) (hlimit : w.LimitsTime)
    (hrolls : w.backend.RollsBack) (hnew : i ∉ l.executed)
    (h : i ∈ (l.replay leftByReply i w.backend (Deed.events ⟨w, .query sql parameters⟩ r)).executed)
    (hkept : w.activeAt r = true ∨ Deed.CommitsItself ⟨w, .query sql parameters⟩ r) :
    Marks r sql w (Deed.answer ⟨w, .query sql parameters⟩ r) (Deed.after ⟨w, .query sql parameters⟩ r) := by
  obtain ⟨x, hq, hx⟩ := Deed.queries (r := r) w sql parameters
  rw [hx]
  unfold Deed.events at h
  generalize Deed.after ⟨w, .query sql parameters⟩ r = v at hq h
  have hexecuted {l' : Ledger} (hreads : Reads leftByReply i l w l' v) : i ∈ l'.executed := by
    rw [← hreads.replay_eq]
    exact h
  have hfinishes {s : World} (hs : Spares r w s) (hactive : s.activeAt r = w.activeAt r) (hv : Finishes r sql s x v) :
      Marks r sql w (x.map fun _ => ()) v := by
    rcases marks_finishes (hs.toUnsaved.dialect.trans hk.dialect) hv with ⟨-, f, duration, -, hlongest, hslow⟩ | hv
    · rw [hs.toUnsaved.settings] at hlongest hslow
      exact absurd hslow (hlimit duration f hlongest)
    · exact hv.of_spares hs hactive
  cases hq with
  | unsent hv => exact absurd (hexecuted (.of_calm hv l)) hnew
  | @refused f c s _ hs hreply hv =>
    have hleft : leftByReply w.backend.reply = false := by
      rw [leftByReply, Option.isNone_eq_false_iff, Option.isSome_iff_ne_none]
      exact hreply
    have hsent : Passes leftByReply r i l w (l.enter (leftByReply w.backend.reply) c i) s := (passes_sends hs l).1
    have hundone := passes_undoes leftByReply i hv (hsent.2.rollsBack hrolls)
      (l.enter (leftByReply w.backend.reply) c i)
    have hmem := hexecuted (hsent.trans hundone).2
    rw [hleft] at hmem
    refine absurd ?_ hnew
    split at hmem <;> exact hmem
  | kept hactive hs hreply hv => exact hfinishes (.of_sends hs) hs.activeAt hv
  | committed hactive hs hreply hfault ht hv =>
    exact hfinishes ((Spares.of_sends hs).trans (.of_answered rfl ht)) ((ht.activeAt r).trans hs.activeAt) hv
  | turnedDown hinactive hs hreply hfault ht hv =>
    rcases hkept with hactive | ⟨-, -, hpasses⟩
    · exact absurd (hinactive.symm.trans hactive) Bool.false_ne_true
    · exact absurd hpasses hfault

end Ledger

/-! ## What holds of the mark -/

/-- What holds of the mark after the calls of a history, by what its ledger says. -/
structure Remembers (r : Nat) (ds : List Deed) (l : Ledger) (w : World) : Prop where
  keeps : w.KeepsImage
  limits : w.LimitsTime
  held : ∀ i ∈ l.executed, ModifiesAt ds i → OpenSince r ds w i →
    (w.runners.get r).dirty = true ∨ SomeSince (Deed.Forgets r) ds i
  durable : ∀ i j, (i, j) ∈ l.durable → ModifiesAt ds i →
    (w.runners.get r).dirty = true ∨ SomeSince (Deed.Saves r) ds j ∨ SomeSince (Deed.Forgets r) ds i

namespace Remembers

open Ledger (Fits)

/-- The statement of a call has set the mark, unless it committed itself: then it is handed over at once. -/
theorem marked_of_modifies (h : Remembers r ds l d.before) (hfits : Fits r ds l d.before)
    (hrolls : d.before.backend.RollsBack) (hmodifies : ModifiesAt (ds ++ [d]) ds.length)
    (hi : ds.length ∈ (l.replay leftByReply ds.length d.before.backend (d.events r)).executed)
    (hkept : d.before.activeAt r = true ∨ d.CommitsItself r) :
    ((d.after r).runners.get r).dirty = true ∨ d.before.activeAt r = false ∧ (d.Saves r ∨ d.Forgets r) := by
  have hnew : ds.length ∉ l.executed := fun hmem => absurd (hfits.executed _ hmem) (Nat.lt_irrefl _)
  obtain ⟨sql, parameters, hcall, hwrites⟩ := modifiesAt_snoc_last.mp hmodifies
  obtain ⟨w, _⟩ := d
  obtain rfl := hcall
  have hmarks := Ledger.marks_of_executed h.keeps h.limits hrolls hnew hi hkept
  generalize hy : Deed.answer ⟨w, .query sql parameters⟩ r = y at hmarks
  cases hmarks with
  | spared hreads => exact absurd (hreads.symm.trans hwrites) Bool.false_ne_true
  | marked _ _ _ hdirty => exact .inl hdirty
  | handed _ hinactive hv => exact .inr ⟨hinactive, Deed.saves_or_forgets (Hands.asks hv h.keeps)⟩

/-- A change of the active transaction is marked, or was forgotten. -/
theorem held_snoc (h : Remembers r ds l d.before) (hfits : Fits r ds l d.before) (hrolls : d.before.backend.RollsBack)
    (hi : i ∈ (l.replay leftByReply ds.length d.before.backend (d.events r)).executed)
    (hmodifies : ModifiesAt (ds ++ [d]) i) (hopen : OpenSince r (ds ++ [d]) (d.after r) i) :
    ((d.after r).runners.get r).dirty = true ∨ SomeSince (Deed.Forgets r) (ds ++ [d]) i := by
  obtain ⟨hstill, hactive, rfl | hopen⟩ := openSince_snoc.mp hopen
  · rcases h.marked_of_modifies hfits hrolls hmodifies hi (.inl hactive) with hdirty | ⟨hinactive, -⟩
    · exact .inl hdirty
    · exact absurd (hinactive.symm.trans hactive) Bool.false_ne_true
  · have hlt := hopen.2.1
    have hold : i ∈ l.executed := (Ledger.executed_replay hi).resolve_right (Nat.ne_of_lt hlt)
    rcases h.held i hold ((modifiesAt_snoc_of_lt hlt).mp hmodifies) hopen with hdirty | hforgotten
    · cases d.treats r h.keeps with
      | spares hv => exact .inl (hv.dirty.trans hdirty)
      | marks _ hdirty => exact .inl hdirty
      | drops hcall => exact .inr (.last (Nat.le_of_lt hlt) (.inl hcall))
      | hands hv => exact absurd (hv.leaves.2.symm.trans hstill) Bool.false_ne_true
    · exact .inr hforgotten.snoc

/-- A change that call `j` has made durable is marked, or was saved since, or was forgotten. -/
theorem durable_snoc (h : Remembers r ds l d.before) (hfits : Fits r ds l d.before)
    (hrolls : d.before.backend.RollsBack) {j : Nat}
    (hi : i ∈ (l.replay leftByReply ds.length d.before.backend (d.events r)).executed)
    (hmade : MadeDurable r (ds ++ [d]) i j) (hmodifies : ModifiesAt (ds ++ [d]) i) :
    ((d.after r).runners.get r).dirty = true ∨ SomeSince (Deed.Saves r) (ds ++ [d]) j ∨
      SomeSince (Deed.Forgets r) (ds ++ [d]) i := by
  -- What the call itself does to the mark counts for every change that was made up to it.
  have hlast (hi : i ≤ ds.length) (hj : j ≤ ds.length)
      (hd : ((d.after r).runners.get r).dirty = true ∨ d.Saves r ∨ d.Forgets r) :
      ((d.after r).runners.get r).dirty = true ∨ SomeSince (Deed.Saves r) (ds ++ [d]) j ∨
        SomeSince (Deed.Forgets r) (ds ++ [d]) i :=
    hd.imp_right (Or.imp (.last hj) (.last hi))
  have hmarked := (d.treats r h.keeps).of_marked h.keeps
  have hold (hlt : i < ds.length) : i ∈ l.executed := (Ledger.executed_replay hi).resolve_right (Nat.ne_of_lt hlt)
  rcases madeDurable_snoc.mp hmade with hmade | ⟨rfl, ⟨rfl, hself⟩ | ⟨hopen, -⟩⟩
  · obtain ⟨hle, hj⟩ := Ledger.bounds_of_madeDurable hmade
    have hlt : i < ds.length := Nat.lt_of_le_of_lt hle hj
    have hbefore := (hfits.durable i j).mpr ⟨hold hlt, hmade⟩
    rcases h.durable i j hbefore ((modifiesAt_snoc_of_lt hlt).mp hmodifies) with hdirty | hsaved | hforgotten
    · exact hlast (Nat.le_of_lt hlt) (Nat.le_of_lt hj) (hmarked hdirty)
    · exact .inr (.inl hsaved.snoc)
    · exact .inr (.inr hforgotten.snoc)
  · have hstatement := h.marked_of_modifies hfits hrolls hmodifies hi (.inr hself)
    exact hlast (Nat.le_refl _) (Nat.le_refl _) (hstatement.imp_right And.right)
  · have hlt := hopen.2.1
    rcases h.held i (hold hlt) ((modifiesAt_snoc_of_lt hlt).mp hmodifies) hopen with hdirty | hforgotten
    · exact hlast (Nat.le_of_lt hlt) (Nat.le_refl _) (hmarked hdirty)
    · exact .inr (.inr hforgotten.snoc)

theorem snoc (h : Remembers r ds l d.before) (hfits : Fits r ds l d.before) (hrolls : d.before.backend.RollsBack)
    (hafter : Fits r (ds ++ [d]) (l.replay leftByReply ds.length d.before.backend (d.events r)) (d.after r)) :
    Remembers r (ds ++ [d]) (l.replay leftByReply ds.length d.before.backend (d.events r)) (d.after r) := by
  have htreats := d.treats r h.keeps
  refine ⟨htreats.keepsImage h.keeps, ?_, fun i hi hmodifies => h.held_snoc hfits hrolls hi hmodifies,
    fun i j hij hmodifies => ?_⟩
  · have hlimits := h.limits
    unfold LimitsTime at hlimits ⊢
    rwa [htreats.settings]
  · obtain ⟨hi, hmade⟩ := (hafter.durable i j).mp hij
    exact h.durable_snoc hfits hrolls hi hmade hmodifies

/-- Between the calls nothing changes. -/
theorem of_calm (h : Remembers r ds l w) (hv : Calm r w v) : Remembers r ds l v := by
  have hspares : Spares r w v := .of_calm hv
  refine ⟨h.keeps.of_unsaved hspares.toUnsaved, ?_, fun i hi hmodifies hopen => ?_, fun i j hij hmodifies => ?_⟩
  · have hlimits := h.limits
    unfold LimitsTime at hlimits ⊢
    rwa [hv.settings]
  · rw [hv.dirty]
    exact h.held i hi hmodifies ⟨hv.activeAt.symm.trans hopen.1, hopen.2⟩
  · rw [hv.dirty]
    exact h.durable i j hij hmodifies

end Remembers

/-! ## Whole histories -/

theorem remembers_of_history (h : History r w ds v) (hkeeps : w.KeepsImage) (hlimits : w.LimitsTime)
    (hinactive : w.activeAt r = false)
    (hknown : ∀ c, (w.runners.get r).connection = some c → c < w.backend.connections.next)
    (hrolls : w.backend.RollsBack) :
    Remembers r ds (Ledger.ofDeeds leftByReply r ds) v ∧
      ∀ d ∈ ds, d.Forgets r → ((d.after r).runners.get r).dirty = false := by
  induction h with
  | start => exact ⟨⟨hkeeps, hlimits, by simp [Ledger.ofDeeds], by simp [Ledger.ofDeeds]⟩, by simp⟩
  | pause _ hv ih => exact ⟨ih.1.of_calm hv, ih.2⟩
  | @call ds u hu c ih =>
    obtain ⟨hremembers, hall⟩ := ih
    have hbefore := Ledger.fits_of_history leftByReply hu hinactive hknown hrolls
    have hafter := (Ledger.fits_of_history leftByReply (.call hu c) hinactive hknown hrolls).1
    rw [Ledger.ofDeeds_snoc] at hafter ⊢
    refine ⟨hremembers.snoc (d := ⟨u, c⟩) hbefore.1 hbefore.2 hafter, ?_⟩
    rw [List.forall_mem_append, List.forall_mem_singleton]
    exact ⟨hall, fun hforgets => (Deed.treats ⟨u, c⟩ r hremembers.keeps).clean_of_forgets hremembers.keeps hforgets⟩

/-- The worlds between the calls of a caller are reached by calls on the runner. -/
theorem reaches_of_visits (h : Visits r w v) (hk : w.KeepsImage) : Reaches r w v ∧ v.KeepsImage := by
  have hkept {u x : World} (hx : Reaches r u x) (hk : u.KeepsImage) : x.KeepsImage := by
    obtain ⟨ds, hds⟩ := hx
    induction hds with
    | start => exact hk
    | pause _ hv ih => exact ih.of_unsaved (Spares.of_calm hv).toUnsaved
    | call _ c ih => exact (Deed.treats ⟨_, c⟩ r ih).keepsImage ih
  induction h with
  | start => exact ⟨refl_of (Reaches r) w, hk⟩
  | @call u _ c ih =>
    have hcall : Reaches r u (Deed.after ⟨u, c⟩ r) := ⟨_, .call .start c⟩
    exact ⟨trans_of (Reaches r) ih.1 hcall, hkept hcall ih.2⟩
  | @execute u _ b given hgiven ih =>
    have hrun : Reaches r u (ends (execute b given) u).2 := reaches_execute b (by rw [ih.2.dialect]; rfl) hgiven
    exact ⟨trans_of (Reaches r) ih.1 hrun, hkept hrun ih.2⟩

/-- What the mark of an embedded data source's runner says, between any calls on it and executions of builders, in
which hooks, saves and statements may fail. What they do is a history of the runner; and in each such history,
a statement that may have changed something and was made durable is still marked, unless it was saved since, or a
call since the statement has forgotten it. Such a call, a rollback or a save that fails, leaves no mark. -/
theorem dirty_of_durable (h : Visits r w v) (hkeeps : w.KeepsImage) (hlimits : w.LimitsTime)
    (hinactive : w.activeAt r = false)
    (hknown : ∀ c, (w.runners.get r).connection = some c → c < w.backend.connections.next)
    (hrolls : w.backend.RollsBack) :
    (∃ ds, History r w ds v) ∧ ∀ ds, History r w ds v →
      (∀ i j, (i, j) ∈ (Ledger.ofDeeds leftByReply r ds).durable → ModifiesAt ds i →
        (v.runners.get r).dirty = true ∨ SomeSince (Deed.Saves r) ds j ∨ SomeSince (Deed.Forgets r) ds i) ∧
      ∀ d ∈ ds, d.Forgets r → ((d.after r).runners.get r).dirty = false := by
  refine ⟨(reaches_of_visits h hkeeps).1, fun ds hds => ?_⟩
  obtain ⟨hremembers, hforgets⟩ := remembers_of_history hds hkeeps hlimits hinactive hknown hrolls
  exact ⟨hremembers.durable, hforgets⟩

end

/-- A data source that hands its image to a callback that fails. -/
def World.refusingImages : World :=
  { settings := { values :=
      [("auto_save", .bool true), ("auto_save_callback", .receiver (some ("RuntimeError", "disk full")))] }
    dialect := .sqljs
    initialized := true
    live := some 1
    engine := some 0 }

/-- The statement is durable, and not marked any more. -/
theorem dirty_refusingImages :
    (0, 0) ∈ (Ledger.ofDeeds leftByReply 0 (deedsFrom 0 .refusingImages [.query (.text "DELETE") .null])).durable ∧
      ((worldAfter 0 .refusingImages [.query (.text "DELETE") .null]).runners.get 0).dirty = false := by
  refine ⟨by decide, ((dirty_of_durable (v := worldAfter 0 .refusingImages [.query (.text "DELETE") .null])
    (.call .start _) ⟨rfl, rfl, .inr rfl, rfl⟩ ?_ rfl ?_ ?_).2 _ (.of_calls ..)).2 _ (.head _) (.inr ⟨?_, ?_⟩)⟩
  · intro _ _ hlongest
    cases hlongest
  · intro c hc
    cases hc
  · exact ⟨by simp [World.refusingImages], by simp [World.refusingImages]⟩
  · exact ⟨1, [.engineConnect, .exec 1 (.text "DELETE") [], .commit 1], [.callback []], rfl⟩
  · intro hreturned
    cases hreturned

end SqlWeave
