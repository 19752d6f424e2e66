import SqlWeave.Proofs.Session.Ledger

/-!
# What each call does to the ledger

Each call on a runner is one of a few turns: it keeps the runner's transaction and what its connection holds,
or begins the one, or ends both in one of three ways. The turns are told without the course of the calls, so
what holds from call to call is proved of the turns alone.
-/

namespace SqlWeave

open Session World

/-- No failure waits at the rollbacks of the backend. -/
def Backend.RollsBack (b : Backend) : Prop :=
  (∀ f ∈ b.faults .rollback, f = none) ∧ ∀ f ∈ b.faults .txRollback, f = none

namespace Deed

/-- The statement of the call runs with no transaction active, and the commit of the same call passes. -/
def CommitsItself (d : Deed) (r : Nat) : Prop :=
  d.before.activeAt r = false ∧ d.before.backend.reply.failure = none ∧ d.before.fault? .commit = none

/-- The call is a commit of the active transaction, and the backend commits it. -/
def CommitsTransaction (d : Deed) (r : Nat) : Prop := d.call = .commit ∧ d.before.letsCommit r

end Deed

/-! ## The connection of the runner -/

/-- The runner keeps its connection, or takes a new one when it has none. -/
structure World.Connects (r : Nat) (w v : World) : Prop where
  next_le : w.backend.connections.next ≤ v.backend.connections.next
  connection : (v.runners.get r).connection = (w.runners.get r).connection ∨
    (w.runners.get r).connection = none ∧ ∃ c, (v.runners.get r).connection = some c ∧
      w.backend.connections.next ≤ c ∧ c < v.backend.connections.next

/-- The runner keeps its connection, as told, and its transaction. -/
structure World.Stays (r : Nat) (w v : World) : Prop extends Connects r w v where
  active : v.activeAt r = w.activeAt r
  transaction : (v.runners.get r).transaction = (w.runners.get r).transaction

namespace World

variable {r : Nat} {u v w : World}

namespace Connects

theorem trans (h : Connects r u v) (h' : Connects r v w) : Connects r u w where
  next_le := Nat.le_trans h.next_le h'.next_le
  connection := by
    rcases h.connection with hv | ⟨hnone, c, hv, hlow, hhigh⟩
    · rcases h'.connection with hw | ⟨hnone, c, hw, hlow, hhigh⟩
      · exact .inl (hw.trans hv)
      · exact .inr ⟨hv.symm.trans hnone, c, hw, Nat.le_trans h.next_le hlow, hhigh⟩
    · rcases h'.connection with hw | ⟨hnone', -⟩
      · exact .inr ⟨hnone, c, hw.trans hv, hlow, Nat.lt_of_lt_of_le hhigh h'.next_le⟩
      · rw [hv] at hnone'
        cases hnone'

/-- A runner that has a connection keeps it. -/
theorem keeps {c : Nat} (h : Connects r w v) (hc : (w.runners.get r).connection = some c) :
    (v.runners.get r).connection = some c := by
  rcases h.connection with hv | ⟨hnone, -⟩
  · rw [hv, hc]
  · rw [hc] at hnone
    cases hnone

end Connects

namespace Stays

theorem of_calm (h : Calm r w v) : Stays r w v where
  next_le := h.answers.next_le
  connection := by
    rcases h.runner with hr | ⟨c, hnone, hr, hlow, hhigh⟩
    · exact .inl (by rw [hr])
    · exact .inr ⟨hnone, c, by rw [hr], hlow, hhigh⟩
  active := h.activeAt
  transaction := h.transaction

theorem of_answered {e : Event} (h : Answered e w v) : Stays r w v where
  next_le := Nat.le_of_eq h.next.symm
  connection := .inl (by rw [h.runners])
  active := h.activeAt r
  transaction := by rw [h.runners]

theorem of_unread (h : Unread r w v) : Stays r w v where
  next_le := h.next_le
  connection := by
    obtain ⟨dirty, hr⟩ := h.runner
    exact .inl (by rw [hr])
  active := by
    obtain ⟨dirty, hr⟩ := h.runner
    rw [World.activeAt, hr]
    rfl
  transaction := by
    obtain ⟨dirty, hr⟩ := h.runner
    rw [hr]

theorem trans (h : Stays r u v) (h' : Stays r v w) : Stays r u w where
  toConnects := h.toConnects.trans h'.toConnects
  active := h'.active.trans h.active
  transaction := h'.transaction.trans h.transaction

end Stays

end World

/-! ## Turns -/

namespace Ledger

variable {leaves : Reply → Bool} {r i : Nat} {l : Ledger} {u v w : World}

/-- The ways in which call `i` of a runner can change the ledger, and its transaction. -/
inductive Turn (r i : Nat) (l : Ledger) (d : Deed) : Ledger → World → Prop
  | stays {v : World} (hcall : ¬ d.CommitsTransaction r) (hv : Stays r d.before v) : Turn r i l d l v
  | began {c : Nat} {v : World} (hinactive : d.before.activeAt r = false) (hv : Connects r d.before v)
      (hactive : v.activeAt r = true) (hc : (v.runners.get r).connection = some c)
      (ht : (v.runners.get r).transaction = some c) : Turn r i l d l v
  | ran {c : Nat} {kept : Bool} {v : World} (hcall : ¬ d.CommitsTransaction r) (hactive : d.before.activeAt r = true)
      (hc : (v.runners.get r).connection = some c) (hv : Stays r d.before v) : Turn r i l d (l.enter kept c i) v
  | undone {c : Nat} {kept : Bool} {v : World} (hinactive : d.before.activeAt r = false) (hself : ¬ d.CommitsItself r)
      (hc : (v.runners.get r).connection = some c) (hv : Stays r d.before v) :
      Turn r i l d ((l.enter kept c i).discard c) v
  | committed {c : Nat} {kept : Bool} {v : World} (hself : d.CommitsItself r)
      (hc : (v.runners.get r).connection = some c) (hv : Stays r d.before v) :
      Turn r i l d ((l.enter kept c i).settle c i) v
  | ended {c : Nat} {v : World} (hcall : d.CommitsTransaction r) (hc : (d.before.runners.get r).transaction = some c)
      (hinactive : v.activeAt r = false) (hv : Connects r d.before v) : Turn r i l d (l.settle c i) v
  | rolledBack {c : Nat} {v : World} (hcall : ¬ d.CommitsTransaction r)
      (hc : (d.before.runners.get r).transaction = some c) (hactive : d.before.activeAt r = true)
      (hinactive : v.activeAt r = false) (hv : Connects r d.before v) : Turn r i l d (l.discard c) v
  | detached {l' : Ledger} {v : World} (hcall : ¬ d.CommitsTransaction r) (hinactive : v.activeAt r = false)
      (hnone : (v.runners.get r).connection = none)
      (hnext : d.before.backend.connections.next ≤ v.backend.connections.next)
      (hl : l' = l ∨ ∃ c, l' = l.discard c) : Turn r i l d l' v

/-! ### Each call is a turn -/

theorem Reads.rollsBack {l' : Ledger} (h : Reads leaves i l w l' v) (hw : w.backend.RollsBack) :
    v.backend.RollsBack := by
  obtain ⟨events, -, hevents⟩ := h
  have hscript := (hevents w.backend (.refl _)).2
  have hafter (events : List Event) (b : Backend) (hb : b.RollsBack) : (events.foldl Backend.after b).RollsBack := by
    induction events generalizing b with
    | nil => exact hb
    | cons e rest ih =>
      have htail (site : Site) (hsite : ∀ f ∈ b.faults site, f = none) : ∀ f ∈ b.faultsAfter e site, f = none := by
        unfold Backend.faultsAfter
        split
        · exact fun f hf => hsite f (List.mem_of_mem_tail hf)
        · exact hsite
      exact ih (b.after e) ⟨htail .rollback hb.1, htail .txRollback hb.2⟩
  have hb := hafter events w.backend hw
  have hrollback := hscript.faults (.rollback 0) .rollback rfl
  have htxRollback := hscript.faults (.txRollback 0) .txRollback rfl
  exact ⟨by rw [← hrollback]; exact hb.1, by rw [← htxRollback]; exact hb.2⟩

/-- A rollback is never turned down. -/
theorem passes_rollback {b : Backend} (h : b.RollsBack) (c : Nat) :
    b.passes (.rollback c) = true ∧ b.passes (.txRollback c) = true := by
  have hjoin (fs : List (Option Failure)) (hfs : ∀ f ∈ fs, f = none) : fs.head?.join.isNone = true := by
    cases fs with
    | nil => rfl
    | cons f rest =>
      rw [hfs f List.mem_cons_self]
      rfl
  exact ⟨hjoin _ h.1, hjoin _ h.2⟩

/-- Between the worlds the runner stays as it is, and the first ledger becomes the second. -/
def Passes (leaves : Reply → Bool) (r i : Nat) (l : Ledger) (w : World) (l' : Ledger) (v : World) : Prop :=
  Stays r w v ∧ Reads leaves i l w l' v

theorem Passes.trans {l' l'' : Ledger} (h : Passes leaves r i l u l' v) (h' : Passes leaves r i l' v l'' w) :
    Passes leaves r i l u l'' w :=
  ⟨h.1.trans h'.1, h.2.trans h'.2⟩

theorem passes_calm (h : Calm r w v) (l : Ledger) : Passes leaves r i l w l v := ⟨.of_calm h, .of_calm h l⟩

theorem passes_unread (h : Unread r w v) (l : Ledger) : Passes leaves r i l w l v := ⟨.of_unread h, h.reads l⟩

theorem passes_answered {e : Event} (h : Answered e w v) (l : Ledger) :
    Passes leaves r i l w (l.read leaves i w.backend e) v :=
  ⟨.of_answered h, .of_answered h l⟩

theorem passes_sends {sql : Value} {c : Nat} (h : Sends r sql c w v) (l : Ledger) :
    Passes leaves r i l w (l.enter (leaves w.backend.reply) c i) v ∧ (v.runners.get r).connection = some c := by
  obtain ⟨u, values, hu, hc, hv⟩ := h
  have hsent : Passes leaves r i l w (l.read leaves i u.backend (.exec c sql values)) v :=
    (passes_calm hu l).trans (passes_answered hv l)
  rw [read, hu.reply] at hsent
  exact ⟨hsent, by rw [hv.runners]; exact hc⟩

variable (leaves i) in
theorem passes_finishes {sql : Value} {x : Result QueryOutcome} (h : Finishes r sql w x v) (l : Ledger) :
    Passes leaves r i l w l v := by
  cases h with
  | slow hv => exact passes_calm hv l
  | @told u p _ _ outcome hu hx hv =>
    have hafter : Unread r u p := (moves_afterQuery_of r sql (Unread.mark r)).of_ends hx
    exact ((passes_calm hu l).trans (passes_unread hafter l)).trans (passes_calm hv l)

variable (leaves i) in
theorem passes_undoes {c : Nat} (h : Undoes r c w v) (hw : w.backend.RollsBack) (l : Ledger) :
    Passes leaves r i l w (if w.activeAt r = true then l else l.discard c) v := by
  rcases h with ⟨ha, hv⟩ | ⟨ha, p, q, hp, hq, hv⟩
  · rw [if_pos ha]
    exact passes_calm hv l
  · have hreads : Reads leaves i l w l p := .of_calm hp l
    have hrolls : p.backend.RollsBack := hreads.rollsBack hw
    have hread : l.read leaves i p.backend (.rollback c) = l.discard c := if_pos (passes_rollback hrolls c).1
    rw [if_neg (by rw [ha]; exact Bool.false_ne_true), ← hread]
    exact ((passes_calm hp l).trans (passes_answered hq l)).trans (passes_calm hv _)

variable (leaves i) in
/-- After a statement its connection is committed, unless the commit is turned down. -/
theorem passes_commit {sql : Value} {c : Nat} {s t : World} (hs : Sends r sql c w s) (ht : Answered (.commit c) s t)
    (l : Ledger) : Passes leaves r i l s (if w.fault? .commit = none then l.settle c i else l) t := by
  have hpasses : s.backend.passes (.commit c) = (w.fault? .commit).isNone := by
    obtain ⟨u, values, hu, -, hs⟩ := hs
    have hsite : (Event.exec c sql values).endSite? ≠ some .commit := by simp [Event.endSite?]
    rw [← hu.fault? rfl, ← hs.fault? hsite]
    rfl
  have hread : l.read leaves i s.backend (.commit c) = if w.fault? .commit = none then l.settle c i else l := by
    show (if s.backend.passes (.commit c) = true then l.settle c i else l) = _
    rw [hpasses]
    cases w.fault? .commit <;> rfl
  rw [← hread]
  exact passes_answered ht _

theorem turn_query (sql parameters : Value) (hw : w.backend.RollsBack) (l : Ledger) :
    ∃ l', Reads leaves i l w l' (Deed.after ⟨w, .query sql parameters⟩ r) ∧
      Turn r i l ⟨w, .query sql parameters⟩ l' (Deed.after ⟨w, .query sql parameters⟩ r) := by
  have hcall : ¬ Deed.CommitsTransaction ⟨w, .query sql parameters⟩ r := fun h => by cases h.1
  obtain ⟨x, hq, -⟩ := Deed.queries (r := r) w sql parameters
  generalize Deed.after ⟨w, .query sql parameters⟩ r = v at hq
  -- Until the statement is answered, its course is one; what the connection holds then is told by `sent`.
  let sent (c : Nat) : Ledger := l.enter (leaves w.backend.reply) c i
  have hsends {c : Nat} {s : World} (hs : Sends r sql c w s) :
      Passes leaves r i l w (sent c) s ∧ (s.runners.get r).connection = some c := passes_sends hs l
  cases hq with
  | unsent hv => exact ⟨l, .of_calm hv l, .stays hcall (.of_calm hv)⟩
  | @refused f c s _ hs hreply hv =>
    obtain ⟨hsent, hc⟩ := hsends hs
    have hundone := passes_undoes leaves i hv (hsent.2.rollsBack hw) (sent c)
    have hpasses := hsent.trans hundone
    rw [hs.activeAt] at hpasses
    cases hactive : w.activeAt r with
    | true =>
      rw [hactive, if_pos rfl] at hpasses
      exact ⟨_, hpasses.2, .ran hcall hactive (hundone.1.keeps hc) hpasses.1⟩
    | false =>
      rw [hactive, if_neg Bool.false_ne_true] at hpasses
      exact ⟨_, hpasses.2, .undone hactive (fun h => hreply h.2.1) (hundone.1.keeps hc) hpasses.1⟩
  | @kept x c s _ hactive hs hreply hv =>
    obtain ⟨hsent, hc⟩ := hsends hs
    have hfinished := passes_finishes leaves i hv (sent c)
    exact ⟨_, (hsent.trans hfinished).2, .ran hcall hactive (hfinished.1.keeps hc) (hsent.trans hfinished).1⟩
  | @committed x c s t _ hactive hs hreply hfault ht hv =>
    obtain ⟨hsent, hc⟩ := hsends hs
    have hcommit := passes_commit leaves i hs ht (sent c)
    rw [if_pos hfault] at hcommit
    have hfinished := passes_finishes leaves i hv ((sent c).settle c i)
    have hpasses := hsent.trans (hcommit.trans hfinished)
    exact ⟨_, hpasses.2, .committed ⟨hactive, hreply, hfault⟩ ((hcommit.trans hfinished).1.keeps hc) hpasses.1⟩
  | @turnedDown f c s t _ hactive hs hreply hfault ht hv =>
    obtain ⟨hsent, hc⟩ := hsends hs
    have hcommit := passes_commit leaves i hs ht (sent c)
    rw [if_neg hfault] at hcommit
    have ht : t.activeAt r = false := (ht.activeAt r).trans (hs.activeAt.trans hactive)
    have hundone := passes_undoes leaves i hv ((hsent.trans hcommit).2.rollsBack hw) (sent c)
    rw [ht, if_neg Bool.false_ne_true] at hundone
    have hpasses := hsent.trans (hcommit.trans hundone)
    exact ⟨_, hpasses.2, .undone hactive (fun h => hfault h.2.2) ((hcommit.trans hundone).1.keeps hc) hpasses.1⟩

/-- A commit of a connection that holds nothing. -/
theorem settle_of_not_pending {c : Nat} (h : ∀ k, (c, k) ∉ l.pending) (j : Nat) : l.settle c j = l := by
  have hne (p : Nat × Nat) (hp : p ∈ l.pending) : p.1 ≠ c := by
    rintro rfl
    exact h p.2 hp
  have hnone : l.pending.filter (·.1 = c) = [] := List.filter_eq_nil_iff.mpr fun p hp => by simpa using hne p hp
  have hall : l.pending.filter (·.1 ≠ c) = l.pending := List.filter_eq_self.mpr fun p hp => by simpa using hne p hp
  rw [settle, hnone, hall]
  rfl

/-- The connection of a runner without an active transaction holds nothing, also when it takes it only now. -/
def Free (r : Nat) (l : Ledger) (w : World) : Prop :=
  w.activeAt r = false → ∀ v, Connects r w v → ∀ c, (v.runners.get r).connection = some c → ∀ k, (c, k) ∉ l.pending

theorem passes_prepares (h : Prepares r w v) (hfree : l.Free r w) : Passes leaves r i l w l v := by
  rcases h with hv | ⟨hinactive, c, p, q, hp, hc, hq, hv⟩
  · exact passes_calm hv l
  · -- What is committed before a transaction begins is nothing.
    have hnone := hfree hinactive p (Stays.of_calm hp).toConnects c hc
    have hread : l.read leaves i p.backend (.commit c) = l := by
      show (if p.backend.passes (.commit c) = true then l.settle c i else l) = l
      rw [settle_of_not_pending hnone, ite_self]
    have hcommit : Passes leaves r i l p l q := by
      have hpasses : Passes leaves r i l p _ q := passes_answered hq l
      rwa [hread] at hpasses
    exact ((passes_calm hp l).trans hcommit).trans (passes_calm hv l)

theorem reads_changeRunner (l : Ledger) (w : World) (r : Nat) (f : Runner → Runner) :
    Reads leaves i l w l (w.changeRunner r f) :=
  .of_silent (List.append_nil _).symm (by simp) (.refl _) l

/-- A change of the runner that keeps its connection. -/
theorem connects_changeRunner (w : World) (r : Nat) {f : Runner → Runner} (h : ∀ x, (f x).connection = x.connection) :
    Connects r w (w.changeRunner r f) where
  next_le := Nat.le_refl _
  connection := .inl (by rw [changeRunner_get_self, h])

theorem turn_start (isolation : Value) (hfree : l.Free r w) :
    Reads leaves i l w l (Deed.after ⟨w, .start isolation⟩ r) ∧
      Turn r i l ⟨w, .start isolation⟩ l (Deed.after ⟨w, .start isolation⟩ r) := by
  have hcall : ¬ Deed.CommitsTransaction ⟨w, .start isolation⟩ r := fun h => by cases h.1
  have hs := Deed.starts (r := r) w isolation
  generalize Deed.after ⟨w, .start isolation⟩ r = v at hs
  generalize Deed.answer ⟨w, .start isolation⟩ r = x at hs
  cases hs with
  | refused hv =>
    have hpasses : Passes leaves r i l w l v := passes_prepares hv hfree
    exact ⟨hpasses.2, .stays hcall hpasses.1⟩
  | @begun c u _ hinactive hu hc hv =>
    have hpasses : Passes leaves r i l w l u := passes_prepares hu hfree
    have hcell : (u.changeRunner r (.begun c)).runners.get r = (u.runners.get r).begun c := changeRunner_get_self ..
    have hbegun : Connects r u (u.changeRunner r (.begun c)) := connects_changeRunner u r fun _ => rfl
    have hconnects : Connects r w v := (hpasses.1.toConnects.trans hbegun).trans (Stays.of_calm hv).toConnects
    refine ⟨hpasses.2.trans ((reads_changeRunner l u r _).trans (.of_calm hv l)), .began hinactive hconnects ?_
      (hv.connection (by rw [hcell]; exact hc)) ?_⟩
    · rw [hv.activeAt, activeAt, hcell]
      rfl
    · rw [hv.transaction, hcell]
      rfl

variable (leaves i) in
/-- Where a transaction is over. -/
theorem endsBy_ledger {c : Nat} {e : Event} (h : EndsBy r c e w v) (l : Ledger) : ∃ p, Calm r w p ∧
    Reads leaves i l w (l.read leaves i p.backend e) v ∧ Connects r w v ∧ v.activeAt r = false := by
  obtain ⟨-, p, q, hp, hq, hv⟩ := h
  have hpasses : Passes leaves r i l w _ q := (passes_calm hp l).trans (passes_answered hq l)
  refine ⟨p, hp, hpasses.2.trans ((reads_changeRunner _ q r _).trans (.of_calm hv _)), ?_, ?_⟩
  · have hended : Connects r q (q.changeRunner r .ended) := connects_changeRunner q r fun _ => rfl
    exact (hpasses.1.toConnects.trans hended).trans (Stays.of_calm hv).toConnects
  · rw [hv.activeAt, activeAt_changeRunner]
    rfl

theorem turn_commit (l : Ledger) : ∃ l', Reads leaves i l w l' (Deed.after ⟨w, .commit⟩ r) ∧
    Turn r i l ⟨w, .commit⟩ l' (Deed.after ⟨w, .commit⟩ r) := by
  have hc := Deed.commits (r := r) w
  generalize Deed.after ⟨w, .commit⟩ r = v at hc
  generalize Deed.answer ⟨w, .commit⟩ r = x at hc
  -- Up to where the transaction is over, the ways in which the commit passes are one.
  have ended {c : Nat} {u : World} (hl : w.letsCommit r) (hu : EndsBy r c (.txCommit c) w u) :
      Reads leaves i l w (l.settle c i) u ∧ Connects r w u ∧ u.activeAt r = false := by
    obtain ⟨p, hp, hreads, hconnects, hinactive⟩ := endsBy_ledger leaves i hu l
    have hpasses : p.backend.passes (.txCommit c) = true := by
      have hfault : p.fault? .txCommit = none := (hp.fault? rfl).trans hl.2.2
      exact (congrArg Option.isNone hfault :)
    have hread : l.read leaves i p.backend (.txCommit c) = l.settle c i := if_pos hpasses
    rw [hread] at hreads
    exact ⟨hreads, hconnects, hinactive⟩
  cases hc with
  | stopped hl hv => exact ⟨l, .of_calm hv l, .stays (fun h => hl h.2) (.of_calm hv)⟩
  | @turnedDown f c u p _ hactive hc hfault hu hp hv =>
    have hread : l.read leaves i u.backend (.txCommit c) = l := by
      have hpasses : u.backend.passes (.txCommit c) = false := by
        have hfault : u.fault? .txCommit ≠ none := by rwa [hu.fault? rfl]
        exact Option.isNone_eq_false_iff.mpr (Option.isSome_iff_ne_none.mpr hfault)
      exact if_neg (by rw [hpasses]; exact Bool.false_ne_true)
    have hanswered : Passes leaves r i l w _ p := (passes_calm hu l).trans (passes_answered hp l)
    rw [hread] at hanswered
    have hpasses : Passes leaves r i l w l v := hanswered.trans (passes_calm hv l)
    exact ⟨l, hpasses.2, .stays (fun h => hfault h.2.2.2) hpasses.1⟩
  | @hooked f c _ hl hv hhook =>
    obtain ⟨hreads, hconnects, hinactive⟩ := ended hl hv
    exact ⟨_, hreads, .ended ⟨rfl, hl⟩ hv.1 hinactive hconnects⟩
  | @ended c u hl hu hhook x p _ hp hv =>
    obtain ⟨hreads, hconnects, hinactive⟩ := ended hl hu
    have hflush : Unread r u p := by
      have hmoves : Moves (Unread r) (if w.dialect = .sqljs then flush r else pure ()) :=
        .ite (moves_flush_of r (Unread.mark r false)) (.pure _)
      exact hmoves.of_ends hp
    have hstays : Stays r u v := (Stays.of_unread hflush).trans (.of_calm hv)
    exact ⟨_, hreads.trans ((hflush.reads _).trans (.of_calm hv _)), .ended ⟨rfl, hl⟩ hu.1
      (hstays.active.trans hinactive) (hconnects.trans hstays.toConnects)⟩

theorem turn_rollback (hw : w.backend.RollsBack) (l : Ledger) :
    ∃ l', Reads leaves i l w l' (Deed.after ⟨w, .rollback⟩ r) ∧
      Turn r i l ⟨w, .rollback⟩ l' (Deed.after ⟨w, .rollback⟩ r) := by
  have hcall : ¬ Deed.CommitsTransaction ⟨w, .rollback⟩ r := fun h => by cases h.1
  obtain ⟨u, hu, hafter⟩ := Deed.rollbacks (r := r) w
  generalize Deed.after ⟨w, .rollback⟩ r = v at hafter
  have hstays : Stays r u v ∧ ∀ l, Reads leaves i l u l v := by
    split at hafter
    · have hmark : Unread r u (u.changeRunner r fun x => { x with dirty := false }) := (Unread.mark r false).along u
      exact ⟨(Stays.of_unread hmark).trans (.of_calm hafter), fun l => (hmark.reads l).trans (.of_calm hafter l)⟩
    · exact ⟨.of_calm hafter, .of_calm hafter⟩
  obtain ⟨hstays, hmark⟩ := hstays
  cases hu with
  | stopped hl hu =>
    exact ⟨l, (Reads.of_calm hu l).trans (hmark l), .stays hcall ((Stays.of_calm hu).trans hstays)⟩
  | @ended c _ hl hu =>
    obtain ⟨p, hp, hreads, hconnects, hinactive⟩ := endsBy_ledger leaves i hu l
    have hbefore : Reads leaves i l w l p := .of_calm hp l
    have hread : l.read leaves i p.backend (.txRollback c) = l.discard c :=
      if_pos (passes_rollback (hbefore.rollsBack hw) c).2
    rw [hread] at hreads
    exact ⟨_, hreads.trans (hmark _), .rolledBack hcall hu.1 hl.1.1 (hstays.active.trans hinactive)
      (hconnects.trans hstays.toConnects)⟩

variable (leaves i) in
/-- Letting go of the connection. -/
theorem detaches_ledger (h : Detaches r w v) (l : Ledger) : ∃ l', Reads leaves i l w l' v ∧
    (l' = l ∨ ∃ c, l' = l.discard c) ∧ v.activeAt r = false ∧ (v.runners.get r).connection = none ∧
    w.backend.connections.next ≤ v.backend.connections.next := by
  have hcell : (w.changeRunner r .detached).runners.get r = (w.runners.get r).detached := changeRunner_get_self ..
  unfold Detaches at h
  split at h
  case h_1 c hc =>
    refine ⟨_, (reads_changeRunner l w r .detached).trans (.of_answered h l), ?_, ?_, ?_, Nat.le_of_eq h.next.symm⟩
    · have hread : l.read leaves i (w.changeRunner r .detached).backend (.close c) =
          if w.backend.passes (.close c) = true then l.discard c else l := rfl
      rw [hread]
      split
      · exact .inr ⟨c, rfl⟩
      · exact .inl rfl
    · rw [h.activeAt, activeAt, hcell]
      rfl
    · rw [h.runners, hcell]
      rfl
  case h_2 =>
    subst h
    exact ⟨l, reads_changeRunner .., .inl rfl, by rw [activeAt, hcell]; rfl, by rw [hcell]; rfl, Nat.le_refl _⟩

theorem turn_close (l : Ledger) : ∃ l', Reads leaves i l w l' (Deed.after ⟨w, .close⟩ r) ∧
    Turn r i l ⟨w, .close⟩ l' (Deed.after ⟨w, .close⟩ r) := by
  obtain ⟨l', hreads, hl, hinactive, hnone, hnext⟩ := detaches_ledger leaves i (Deed.detaches w) l
  exact ⟨l', hreads, .detached (fun h => by cases h.1) hinactive hnone hnext hl⟩

theorem turn_release (l : Ledger) : ∃ l', Reads leaves i l w l' (Deed.after ⟨w, .release⟩ r) ∧
    Turn r i l ⟨w, .release⟩ l' (Deed.after ⟨w, .release⟩ r) := by
  have hcall : ¬ Deed.CommitsTransaction ⟨w, .release⟩ r := fun h => by cases h.1
  have hafter : Deed.after ⟨w, .release⟩ r = (ends (release r) w).2 := rfl
  rcases release_cases r w with hsame | ⟨-, -, hflush⟩ | hdetaches
  · rw [hafter, hsame]
    have hstays : Stays r w w := .of_unread (refl_of (Unread r) w)
    exact ⟨l, .of_silent (List.append_nil _).symm (by simp) (.refl _) l, .stays hcall hstays⟩
  · have hmark : Unread r w (ends (flush r) w).2 := (moves_flush_of r (Unread.mark r false)).along w
    rw [hafter, hflush]
    exact ⟨l, hmark.reads l, .stays hcall (.of_unread hmark)⟩
  · obtain ⟨l', hreads, hl, hinactive, hnone, hnext⟩ := detaches_ledger leaves i hdetaches l
    exact ⟨l', (reads_changeRunner l w r _).trans hreads, .detached hcall hinactive hnone hnext hl⟩

/-- Each call is a turn. -/
theorem turn_of_call (d : Deed) (hw : d.before.backend.RollsBack) (hfree : l.Free r d.before) :
    ∃ l', Reads leaves i l d.before l' (d.after r) ∧ Turn r i l d l' (d.after r) := by
  obtain ⟨w, call⟩ := d
  cases call with
  | query sql parameters => exact turn_query sql parameters hw l
  | start isolation => exact ⟨l, turn_start isolation hfree⟩
  | commit => exact turn_commit l
  | rollback => exact turn_rollback hw l
  | close => exact turn_close l
  | release => exact turn_release l

end Ledger

end SqlWeave
