import SqlWeave.Proofs.Session.History

/-!
# The ledger of a database

What becomes of statements is read off the calls at the backend: a connection holds what was executed on it
until a commit makes it durable, or a rollback or a close discards it. The ledger of a history says which
call executed a statement, and which call made it durable.
-/

namespace SqlWeave

open Session World

namespace Backend

/-- The answers that are in store when event `e` has taken its answer. -/
def after (b : Backend) (e : Event) : Backend := { b with faults := b.faultsAfter e, replies := b.repliesAfter e }

/-- Does the backend let a call pass that ends what a connection holds? -/
def passes (b : Backend) (e : Event) : Bool :=
  match e.endSite? with
  | some site => (b.faults site).head?.join.isNone
  | none => true

/-- The backends have the same answers in store for statements and for the ends of what they did. -/
structure SameScript (b b' : Backend) : Prop where
  faults : ∀ (e : Event) (site : Site), e.endSite? = some site → b'.faults site = b.faults site
  replies : b'.replies = b.replies

end Backend

/-- What a database remembers of the statements of a history. They go by the numbers of the calls that made
them. -/
structure Ledger where
  executed : List Nat := []
  /-- The statements that are held, each with the connection that holds it. -/
  pending : List (Nat × Nat) := []
  /-- The statements that are durable, each with the call that made it so. -/
  durable : List (Nat × Nat) := []

namespace Ledger

/-- Call `i` has executed a statement on connection `c`, which is `kept` or leaves nothing. -/
def enter (l : Ledger) (kept : Bool) (c i : Nat) : Ledger :=
  if kept then { l with executed := i :: l.executed, pending := (c, i) :: l.pending } else l

/-- Call `j` makes durable what connection `c` holds. -/
def settle (l : Ledger) (c j : Nat) : Ledger :=
  { l with
    pending := l.pending.filter (·.1 ≠ c)
    durable := (l.pending.filter (·.1 = c)).map (fun p => (p.2, j)) ++ l.durable }

/-- What connection `c` holds is discarded. -/
def discard (l : Ledger) (c : Nat) : Ledger := { l with pending := l.pending.filter (·.1 ≠ c) }

variable (leaves : Reply → Bool) (i : Nat)

/-- The ledger after an event of call `i` at a backend. Which replies tell that a statement has left something,
although what it gave could not be fetched, is told by `leaves`. -/
def read (b : Backend) (l : Ledger) (e : Event) : Ledger :=
  match e with
  | .exec c .. => l.enter (leaves b.reply) c i
  | .commit c | .txCommit c => if b.passes e then l.settle c i else l
  | .rollback c | .txRollback c | .close c => if b.passes e then l.discard c else l
  | _ => l

/-- The ledger after the events of call `i`, which began at a backend. -/
def replay : Backend → Ledger → List Event → Ledger
  | _, l, [] => l
  | b, l, e :: rest => replay (b.after e) (l.read leaves i b e) rest

/-- The ledger of a history. -/
def ofDeeds (r : Nat) (ds : List Deed) : Ledger :=
  ds.zipIdx.foldl (fun l p => l.replay leaves p.2 p.1.before.backend (p.1.events r)) {}

end Ledger

/-! ## Reading the ledger along the way -/

namespace Backend

variable {b b' : Backend}

theorem SameAnswers.script (h : b.SameAnswers b') : b.SameScript b' where
  faults e site he := h.faults site (by cases e <;> first | cases he; rfl | cases he)
  replies := h.replies

theorem SameScript.reply (h : b.SameScript b') : b'.reply = b.reply := by
  rw [Backend.reply, Backend.reply, h.replies]

theorem SameScript.passes (h : b.SameScript b') (e : Event) : b'.passes e = b.passes e := by
  unfold Backend.passes
  split
  case h_1 site he => rw [h.faults e site he]
  case h_2 => rfl

end Backend

namespace Ledger

variable {leaves : Reply → Bool} {i : Nat} {l l' l'' : Ledger} {b b' : Backend} {u v w : World} {r : Nat}

theorem read_congr (h : b.SameScript b') (l : Ledger) (e : Event) : l.read leaves i b' e = l.read leaves i b e := by
  unfold read
  rw [h.reply, h.passes]

theorem replay_append (b : Backend) (l : Ledger) (xs ys : List Event) : l.replay leaves i b (xs ++ ys) =
    (l.replay leaves i b xs).replay leaves i (xs.foldl Backend.after b) ys := by
  induction xs generalizing b l with
  | nil => rfl
  | cons e rest ih => exact ih (b.after e) (l.read leaves i b e)

/-- Along the events between the worlds, which call `i` has made, the first ledger becomes the second. -/
def Reads (leaves : Reply → Bool) (i : Nat) (l : Ledger) (w : World) (l' : Ledger) (v : World) : Prop :=
  ∃ events, v.trace = w.trace ++ events ∧ ∀ b, w.backend.SameScript b →
    l.replay leaves i b events = l' ∧ v.backend.SameScript (events.foldl Backend.after b)

theorem Reads.trans (h : Reads leaves i l u l' v) (h' : Reads leaves i l' v l'' w) : Reads leaves i l u l'' w := by
  obtain ⟨xs, hxs, hl⟩ := h
  obtain ⟨ys, hys, hl'⟩ := h'
  refine ⟨xs ++ ys, by rw [hys, hxs, List.append_assoc], fun b hb => ?_⟩
  obtain ⟨hfirst, hscript⟩ := hl b hb
  rw [replay_append, hfirst, List.foldl_append]
  exact hl' _ hscript

/-- What the ledger does not tell. -/
def IsSilent (e : Event) : Prop := e.isIdle = true ∨ e.isImage = true

theorem replay_silent {events : List Event} (h : ∀ e ∈ events, IsSilent e) (b : Backend) (l : Ledger) :
    l.replay leaves i b events = l ∧ events.foldl Backend.after b = b := by
  induction events generalizing b l with
  | nil => exact ⟨rfl, rfl⟩
  | cons e rest ih =>
    rw [List.forall_mem_cons] at h
    have hread : l.read leaves i b e = l := by
      cases e <;> first | rfl | simp [IsSilent, Event.isIdle, Event.isImage] at h
    have hafter : b.after e = b := by
      cases e <;> first | rfl | simp [IsSilent, Event.isIdle, Event.isImage] at h
    rw [replay, List.foldl_cons, hread, hafter]
    exact ih h.2 b l

theorem Reads.of_silent {events : List Event} (htrace : v.trace = w.trace ++ events)
    (hsilent : ∀ e ∈ events, IsSilent e) (hscript : w.backend.SameScript v.backend) (l : Ledger) :
    Reads leaves i l w l v := by
  refine ⟨events, htrace, fun b hb => ?_⟩
  have hread : l.replay leaves i b events = l ∧ events.foldl Backend.after b = b := replay_silent hsilent b l
  rw [hread.1, hread.2]
  exact ⟨rfl, ⟨fun e site he => (hb.faults e site he).trans (hscript.faults e site he).symm,
    hb.replies.trans hscript.replies.symm⟩⟩

theorem Reads.of_calm (h : Calm r w v) (l : Ledger) : Reads leaves i l w l v := by
  obtain ⟨events, htrace, hidle⟩ := h.trace
  exact .of_silent htrace (fun e he => .inl (hidle e he)) h.answers.script l

theorem Reads.of_answered {e : Event} (h : Answered e w v) (l : Ledger) :
    Reads leaves i l w (l.read leaves i w.backend e) v := by
  refine ⟨[e], h.trace, fun b hb => ⟨read_congr hb l e, ?_, ?_⟩⟩
  · intro f site hf
    show b.faultsAfter e site = _
    rw [h.faults, Backend.faultsAfter, Backend.faultsAfter, hb.faults f site hf]
  · show b.repliesAfter e = _
    rw [h.replies]
    cases e <;> first | exact hb.replies | exact congrArg List.tail hb.replies

end Ledger

/-! ## What the ledger does not tell -/

/-- Between the worlds nothing happens that the ledger tells, and of runner `r` no more than its mark for the
automatic save changes. -/
structure World.Unread (r : Nat) (w v : World) : Prop where
  trace : ∃ events, v.trace = w.trace ++ events ∧ ∀ e ∈ events, Ledger.IsSilent e
  script : w.backend.SameScript v.backend
  next_le : w.backend.connections.next ≤ v.backend.connections.next
  runner : ∃ dirty, v.runners.get r = { w.runners.get r with dirty }

namespace Backend

theorem SameScript.refl (b : Backend) : b.SameScript b := ⟨fun _ _ _ => rfl, rfl⟩

theorem SameScript.trans {a b c : Backend} (h : a.SameScript b) (h' : b.SameScript c) : a.SameScript c where
  faults e site he := (h'.faults e site he).trans (h.faults e site he)
  replies := h'.replies.trans h.replies

end Backend

namespace World

variable {r : Nat} {u v w : World}

namespace Unread

/-- A step that leaves the runners alone. -/
theorem of_notes (events : List Event) (hsilent : ∀ e ∈ events, Ledger.IsSilent e)
    (htrace : v.trace = w.trace ++ events) (hscript : w.backend.SameScript v.backend)
    (hnext : w.backend.connections.next ≤ v.backend.connections.next) (hrunners : v.runners = w.runners) :
    Unread r w v :=
  ⟨⟨events, htrace, hsilent⟩, hscript, hnext, ⟨_, by rw [hrunners]⟩⟩

instance : IsPreorder World (Unread r) where
  refl w := of_notes [] (by simp) (by simp) (.refl _) (Nat.le_refl _) rfl
  trans u v w h h' := by
    obtain ⟨_, hv⟩ := h.runner
    obtain ⟨dirty, hw⟩ := h'.runner
    exact ⟨told_trans h.trace h'.trace, h.script.trans h'.script, Nat.le_trans h.next_le h'.next_le, dirty,
      by rw [hw, hv]⟩

instance : Images (Unread r) where
  logged _ _ := of_notes [] (by simp) (by simp) (.refl _) (Nat.le_refl _) rfl
  idled _ e he := of_notes [e] (by simpa using .inl he) rfl (.refl _) (Nat.le_refl _) rfl
  changed _ _ hf := of_notes [] (by simp) (by simp [changeBackend]) hf.script hf.next_le rfl
  imaged _ e he := of_notes [e] (by simpa using .inr he) rfl (.refl _) (Nat.le_refl _) rfl
  asked w rest := by
    refine of_notes [] (by simp) (by simp [changeBackend]) ⟨fun e site he => ?_, rfl⟩ (Nat.le_refl _) rfl
    have hsite : site ≠ .nativeSerialize := by
      rintro rfl
      cases e <;> cases he
    exact if_neg hsite
  stored _ _ := of_notes [] (by simp) (by simp) (.refl _) (Nat.le_refl _) rfl

theorem mark (r : Nat) (dirty : Bool) : Moves (Unread r) (Session.changeRunner r fun x => { x with dirty }) :=
  .modify fun w =>
    ⟨⟨[], by simp [World.changeRunner], by simp⟩, .refl _, Nat.le_refl _, ⟨dirty, changeRunner_get_self ..⟩⟩

end Unread

theorem Unread.reads {leaves : Reply → Bool} {i : Nat} (h : Unread r w v) (l : Ledger) : l.Reads leaves i w l v := by
  obtain ⟨events, htrace, hsilent⟩ := h.trace
  exact .of_silent htrace hsilent h.script l

end World

end SqlWeave
