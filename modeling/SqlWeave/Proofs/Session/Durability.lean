import SqlWeave.Proofs.Session.Turn

/-!
# Which statements become durable

On one runner whose rollbacks pass, a statement becomes durable by the commit of its own call, when no
transaction is active, or by the commit of the transaction that it ran in, and in no other way. What carries
this is that the runner's connection holds exactly the statements of its active transaction whenever no call
is under way.
-/

namespace SqlWeave

open Session World

/-- Call `i` was made in a transaction that has been active ever since, up to its commit, which is call `j`. -/
def CommittedBy (r : Nat) (ds : List Deed) (i j : Nat) : Prop :=
  i < j ∧ (∀ m d, i ≤ m → m ≤ j → ds[m]? = some d → d.before.activeAt r = true) ∧
    ∃ d, ds[j]? = some d ∧ d.CommitsTransaction r

/-- Call `j` makes the statement of call `i` durable: it is the same call, or the commit of its transaction. -/
def MadeDurable (r : Nat) (ds : List Deed) (i j : Nat) : Prop :=
  (j = i ∧ ∃ d, ds[i]? = some d ∧ d.CommitsItself r) ∨ CommittedBy r ds i j

section
variable {r : Nat} {ds : List Deed} {d : Deed}

theorem committedBy_snoc {i j : Nat} : CommittedBy r (ds ++ [d]) i j ↔
    CommittedBy r ds i j ∨ (j = ds.length ∧ OpenSince r ds d.before i ∧ d.CommitsTransaction r) := by
  unfold CommittedBy
  constructor
  · rintro ⟨hij, hall, e, he, hcommit⟩
    have hj := (List.getElem?_eq_some_iff.mp he).1
    rw [List.length_append, List.length_singleton] at hj
    by_cases hlast : j = ds.length
    · subst hlast
      rw [List.getElem?_append_right (Nat.le_refl _), Nat.sub_self] at he
      cases he
      refine .inr ⟨rfl, ⟨hall ds.length d (by omega) (Nat.le_refl _) (by simp), hij, fun m e hm he => ?_⟩, hcommit⟩
      have hlt := (List.getElem?_eq_some_iff.mp he).1
      exact hall m e hm (by omega) (by rwa [List.getElem?_append_left hlt])
    · rw [List.getElem?_append_left (by omega)] at he
      refine .inl ⟨hij, fun m e' hm hmj he' => hall m e' hm hmj ?_, e, he, hcommit⟩
      rwa [List.getElem?_append_left (by omega)]
  · rintro (⟨hij, hall, e, he, hcommit⟩ | ⟨rfl, ⟨hactive, hi, hall⟩, hcommit⟩)
    · have hj := (List.getElem?_eq_some_iff.mp he).1
      refine ⟨hij, fun m e' hm hmj he' => hall m e' hm hmj ?_, e, ?_, hcommit⟩
      · rwa [List.getElem?_append_left (by omega)] at he'
      · rwa [List.getElem?_append_left hj]
    · refine ⟨hi, fun m e hm hmj he => ?_, d, by simp, hcommit⟩
      by_cases hlast : m = ds.length
      · subst hlast
        rw [List.getElem?_append_right (Nat.le_refl _), Nat.sub_self] at he
        cases he
        exact hactive
      · rw [List.getElem?_append_left (by omega)] at he
        exact hall m e hm he

theorem madeDurable_snoc {i j : Nat} : MadeDurable r (ds ++ [d]) i j ↔ MadeDurable r ds i j ∨
    (j = ds.length ∧ (i = j ∧ d.CommitsItself r ∨ OpenSince r ds d.before i ∧ d.CommitsTransaction r)) := by
  unfold MadeDurable
  rw [committedBy_snoc]
  have hself : (∃ e, (ds ++ [d])[i]? = some e ∧ e.CommitsItself r) ↔
      (∃ e, ds[i]? = some e ∧ e.CommitsItself r) ∨ (i = ds.length ∧ d.CommitsItself r) := by
    rcases Nat.lt_trichotomy i ds.length with hlt | rfl | hgt
    · rw [List.getElem?_append_left hlt]
      simp [Nat.ne_of_lt hlt]
    · simp
    · rw [List.getElem?_eq_none (by simp; omega), List.getElem?_eq_none (by omega)]
      simp [Nat.ne_of_gt hgt]
  rw [hself]
  constructor
  · rintro (⟨rfl, h | ⟨rfl, h⟩⟩ | h | ⟨rfl, h⟩)
    · exact .inl (.inl ⟨rfl, h⟩)
    · exact .inr ⟨rfl, .inl ⟨rfl, h⟩⟩
    · exact .inl (.inr h)
    · exact .inr ⟨rfl, .inr h⟩
  · rintro ((⟨rfl, h⟩ | h) | ⟨rfl, ⟨rfl, h⟩ | h⟩)
    · exact .inl ⟨rfl, .inl h⟩
    · exact .inr (.inl h)
    · exact .inl ⟨rfl, .inr ⟨rfl, h⟩⟩
    · exact .inr (.inr ⟨rfl, h⟩)

end

/-! ## What holds of the ledger -/

namespace Ledger

variable {leaves : Reply → Bool} {r i : Nat} {l : Ledger} {u v w : World}

/-- What holds of the ledger of a history and of the world in which it ends. -/
structure Fits (r : Nat) (ds : List Deed) (l : Ledger) (w : World) : Prop where
  known : ∀ c, (w.runners.get r).connection = some c → c < w.backend.connections.next
  below : ∀ c k, (c, k) ∈ l.pending → c < w.backend.connections.next
  attached : w.activeAt r = true → ∃ c, (w.runners.get r).connection = some c ∧
    (w.runners.get r).transaction = some c
  held : ∀ c, (w.runners.get r).connection = some c → ∀ k, (c, k) ∈ l.pending ↔ k ∈ l.executed ∧ OpenSince r ds w k
  executed : ∀ k ∈ l.executed, k < ds.length
  durable : ∀ i j, (i, j) ∈ l.durable ↔ i ∈ l.executed ∧ MadeDurable r ds i j

theorem mem_executed_enter {kept : Bool} {c k : Nat} :
    k ∈ (l.enter kept c i).executed ↔ k ∈ l.executed ∨ (k = i ∧ kept = true) := by
  cases kept <;> simp [enter, or_comm]

theorem mem_pending_enter {kept : Bool} {c c' k : Nat} :
    (c', k) ∈ (l.enter kept c i).pending ↔ (c', k) ∈ l.pending ∨ (c' = c ∧ k = i ∧ kept = true) := by
  cases kept <;> simp [enter, or_comm]

theorem durable_enter {kept : Bool} {c : Nat} : (l.enter kept c i).durable = l.durable := by
  cases kept <;> rfl

theorem mem_pending_settle {c c' j k : Nat} : (c', k) ∈ (l.settle c j).pending ↔ (c', k) ∈ l.pending ∧ c' ≠ c := by
  simp [settle]

theorem mem_durable_settle {c j j' k : Nat} :
    (k, j') ∈ (l.settle c j).durable ↔ (k, j') ∈ l.durable ∨ (j' = j ∧ (c, k) ∈ l.pending) := by
  simp only [settle, List.mem_append, List.mem_map, List.mem_filter, decide_eq_true_eq, Prod.mk.injEq, Prod.exists]
  constructor
  · rintro (⟨c', k', ⟨hp, rfl⟩, rfl, rfl⟩ | h)
    · exact .inr ⟨rfl, hp⟩
    · exact .inl h
  · rintro (h | ⟨rfl, hp⟩)
    · exact .inr h
    · exact .inl ⟨c, k, ⟨hp, rfl⟩, rfl, rfl⟩

theorem mem_pending_discard {c c' k : Nat} : (c', k) ∈ (l.discard c).pending ↔ (c', k) ∈ l.pending ∧ c' ≠ c := by
  simp [discard]

/-- However a connection is emptied after a statement on it, what waits on the others is all that is left. -/
theorem mem_pending_enter_discard {kept : Bool} {c c' k : Nat} :
    (c', k) ∈ ((l.enter kept c i).discard c).pending ↔ (c', k) ∈ l.pending ∧ c' ≠ c := by
  rw [mem_pending_discard, mem_pending_enter]
  exact ⟨fun ⟨hp, hne⟩ => ⟨hp.resolve_right fun h => hne h.1, hne⟩, fun ⟨hp, hne⟩ => ⟨.inl hp, hne⟩⟩

theorem mem_pending_enter_settle {kept : Bool} {c c' j k : Nat} :
    (c', k) ∈ ((l.enter kept c i).settle c j).pending ↔ (c', k) ∈ l.pending ∧ c' ≠ c :=
  mem_pending_enter_discard

/-! ### Each turn keeps what holds of the ledger -/

section
variable {ds : List Deed} {d : Deed} {l' : Ledger}

theorem bounds_of_madeDurable {j k : Nat} (h : MadeDurable r ds k j) : k ≤ j ∧ j < ds.length := by
  rcases h with ⟨rfl, e, he, -⟩ | ⟨hkj, -, e, he, -⟩
  · exact ⟨Nat.le_refl _, (List.getElem?_eq_some_iff.mp he).1⟩
  · exact ⟨Nat.le_of_lt hkj, (List.getElem?_eq_some_iff.mp he).1⟩

theorem not_openSince_snoc {k : Nat} (h : v.activeAt r = false ∨ d.before.activeAt r = false) :
    ¬ OpenSince r (ds ++ [d]) v k := by
  rw [openSince_snoc]
  rintro ⟨hv, hd, -⟩
  rcases h with h | h
  · exact Bool.false_ne_true (h.symm.trans hv)
  · exact Bool.false_ne_true (h.symm.trans hd)

theorem active_of_commitsTransaction (h : d.CommitsTransaction r) : d.before.activeAt r = true := h.2.1.1

theorem not_commitsTransaction (hinactive : d.before.activeAt r = false) : ¬ d.CommitsTransaction r :=
  fun h => Bool.false_ne_true (hinactive.symm.trans (active_of_commitsTransaction h))

namespace Fits

theorem known_of_connects (h : Fits r ds l w) (hv : Connects r w v) {c : Nat}
    (hc : (v.runners.get r).connection = some c) : c < v.backend.connections.next := by
  rcases hv.connection with hsame | ⟨-, c', hc', -, hhigh⟩
  · exact Nat.lt_of_lt_of_le (h.known c (hsame.symm.trans hc)) hv.next_le
  · rw [hc'] at hc
    cases hc
    exact hhigh

/-- While no transaction is active, the runner's connection holds nothing. -/
theorem not_pending (h : Fits r ds l w) (hinactive : w.activeAt r = false) (hv : Connects r w v) {c : Nat}
    (hc : (v.runners.get r).connection = some c) (k : Nat) : (c, k) ∉ l.pending := by
  rcases hv.connection with hsame | ⟨-, c', hc', hlow, -⟩
  · rw [h.held c (hsame.symm.trans hc) k]
    rintro ⟨-, hopen, -⟩
    exact Bool.false_ne_true (hinactive.symm.trans hopen)
  · rw [hc'] at hc
    cases hc
    exact fun hp => Nat.not_lt_of_le hlow (h.below _ k hp)

theorem below_of_le (h : Fits r ds l w) (hnext : w.backend.connections.next ≤ v.backend.connections.next) {c k : Nat}
    (hp : (c, k) ∈ l.pending) : c < v.backend.connections.next :=
  Nat.lt_of_lt_of_le (h.below c k hp) hnext

/-- An active transaction is that of the runner's connection. -/
theorem connection_of_transaction (h : Fits r ds l w) (hactive : w.activeAt r = true) {c : Nat}
    (hc : (w.runners.get r).transaction = some c) : (w.runners.get r).connection = some c := by
  obtain ⟨c', hconnection, htransaction⟩ := h.attached hactive
  rwa [← htransaction.symm.trans hc]

/-- The durable statements after a turn, from those that the turn has made durable. -/
theorem durable_snoc (h : Fits r ds l d.before) (kept : Bool)
    (hexecuted : ∀ k, k ∈ l'.executed ↔ k ∈ l.executed ∨ (k = ds.length ∧ kept = true))
    (hdurable : ∀ k j, (k, j) ∈ l'.durable ↔ (k, j) ∈ l.durable ∨ (j = ds.length ∧
      (k = j ∧ kept = true ∧ d.CommitsItself r ∨
        k ∈ l.executed ∧ OpenSince r ds d.before k ∧ d.CommitsTransaction r))) (k j : Nat) :
    (k, j) ∈ l'.durable ↔ k ∈ l'.executed ∧ MadeDurable r (ds ++ [d]) k j := by
  rw [hdurable, hexecuted, madeDurable_snoc, h.durable]
  constructor
  · rintro (⟨hk, hm⟩ | ⟨rfl, ⟨rfl, hkept, hself⟩ | ⟨hk, hopen, hcommit⟩⟩)
    · exact ⟨.inl hk, .inl hm⟩
    · exact ⟨.inr ⟨rfl, hkept⟩, .inr ⟨rfl, .inl ⟨rfl, hself⟩⟩⟩
    · exact ⟨.inl hk, .inr ⟨rfl, .inr ⟨hopen, hcommit⟩⟩⟩
  · rintro ⟨hk | ⟨rfl, hkept⟩, hm | ⟨rfl, ⟨hlast, hself⟩ | ⟨hopen, hcommit⟩⟩⟩
    · exact .inl ⟨hk, hm⟩
    · exact absurd (h.executed k hk) (by omega)
    · exact .inr ⟨rfl, .inr ⟨hk, hopen, hcommit⟩⟩
    · exact absurd (bounds_of_madeDurable hm) (by omega)
    · exact .inr ⟨rfl, .inl ⟨rfl, hkept, hself⟩⟩
    · exact absurd hopen.2.1 (by omega)

end Fits

/-- A turn after which no transaction is active. -/
theorem fits_of_inactive (kept : Bool) (h : Fits r ds l d.before) (hinactive : v.activeAt r = false)
    (hknown : ∀ c, (v.runners.get r).connection = some c →
      c < v.backend.connections.next ∧ ∀ k, (c, k) ∉ l'.pending)
    (hbelow : ∀ c k, (c, k) ∈ l'.pending → c < v.backend.connections.next)
    (hexecuted : ∀ k, k ∈ l'.executed ↔ k ∈ l.executed ∨ (k = ds.length ∧ kept = true))
    (hdurable : ∀ k j, (k, j) ∈ l'.durable ↔ (k, j) ∈ l.durable ∨ (j = ds.length ∧
      (k = j ∧ kept = true ∧ d.CommitsItself r ∨
        k ∈ l.executed ∧ OpenSince r ds d.before k ∧ d.CommitsTransaction r))) :
    Fits r (ds ++ [d]) l' v where
  known c hc := (hknown c hc).1
  below := hbelow
  attached hactive := absurd (hinactive.symm.trans hactive) Bool.false_ne_true
  held c hc k := iff_of_false ((hknown c hc).2 k) fun hk => not_openSince_snoc (.inl hinactive) hk.2
  executed k hk := by
    rw [List.length_append, List.length_singleton]
    rcases (hexecuted k).mp hk with hk | ⟨rfl, -⟩
    · exact Nat.lt_succ_of_lt (h.executed k hk)
    · exact Nat.lt_succ_self _
  durable := h.durable_snoc kept hexecuted hdurable

/-- A turn after which no transaction is active, and nothing waits on the runner's connection any more. -/
theorem fits_of_emptied (kept : Bool) {c : Nat} (h : Fits r ds l d.before) (hv : Connects r d.before v)
    (hinactive : v.activeAt r = false) (hc : (v.runners.get r).connection = some c)
    (hpending : ∀ x k, (x, k) ∈ l'.pending ↔ (x, k) ∈ l.pending ∧ x ≠ c)
    (hexecuted : ∀ k, k ∈ l'.executed ↔ k ∈ l.executed ∨ (k = ds.length ∧ kept = true))
    (hdurable : ∀ k j, (k, j) ∈ l'.durable ↔ (k, j) ∈ l.durable ∨ (j = ds.length ∧
      (k = j ∧ kept = true ∧ d.CommitsItself r ∨
        k ∈ l.executed ∧ OpenSince r ds d.before k ∧ d.CommitsTransaction r))) :
    Fits r (ds ++ [d]) l' v := by
  refine fits_of_inactive kept h hinactive (fun x hx => ?_) (fun x k hp => ?_) hexecuted hdurable
  · obtain rfl : c = x := Option.some.inj (hc.symm.trans hx)
    exact ⟨h.known_of_connects hv hx, fun k hp => ((hpending c k).mp hp).2 rfl⟩
  · exact h.below_of_le hv.next_le ((hpending x k).mp hp).1

/-- A turn in an active transaction, which stays active. -/
theorem fits_of_active (kept : Bool) {c : Nat} (h : Fits r ds l d.before) (hactive : d.before.activeAt r = true)
    (hv : Stays r d.before v) (hc : (v.runners.get r).connection = some c)
    (hcall : ¬ d.CommitsTransaction r) : Fits r (ds ++ [d]) (l.enter kept c ds.length) v := by
  obtain ⟨c', hconnection, htransaction⟩ := h.attached hactive
  obtain rfl : c' = c := Option.some.inj ((hv.keeps hconnection).symm.trans hc)
  have hopen (k : Nat) : OpenSince r (ds ++ [d]) v k ↔ k = ds.length ∨ OpenSince r ds d.before k := by
    rw [openSince_snoc, hv.active]
    simp [hactive]
  refine ⟨?_, ?_, fun _ => ⟨c', hc, hv.transaction.trans htransaction⟩, ?_, ?_, ?_⟩
  · exact fun x hx => h.known_of_connects hv.toConnects hx
  · intro x k hp
    rcases mem_pending_enter.mp hp with hp | ⟨rfl, -, -⟩
    · exact h.below_of_le hv.next_le hp
    · exact h.known_of_connects hv.toConnects hc
  · intro x hx k
    obtain rfl : c' = x := Option.some.inj (hc.symm.trans hx)
    rw [mem_pending_enter, mem_executed_enter, h.held c' hconnection, hopen]
    constructor
    · rintro (⟨hk, ho⟩ | ⟨-, rfl, hkept⟩)
      · exact ⟨.inl hk, .inr ho⟩
      · exact ⟨.inr ⟨rfl, hkept⟩, .inl rfl⟩
    · rintro ⟨hk | ⟨rfl, hkept⟩, ho⟩
      · rcases ho with rfl | ho
        · exact absurd (h.executed _ hk) (Nat.lt_irrefl _)
        · exact .inl ⟨hk, ho⟩
      · exact .inr ⟨rfl, rfl, hkept⟩
  · intro k hk
    rw [List.length_append, List.length_singleton]
    rcases mem_executed_enter.mp hk with hk | ⟨rfl, -⟩
    · exact Nat.lt_succ_of_lt (h.executed k hk)
    · exact Nat.lt_succ_self _
  · refine h.durable_snoc kept (fun k => mem_executed_enter) fun k j => ?_
    have hself : ¬ d.CommitsItself r := fun hs => Bool.false_ne_true (hs.1.symm.trans hactive)
    rw [durable_enter]
    simp [hcall, hself]

/-- What is durable after a statement that has committed itself: the runner's connection held nothing before it. -/
theorem durable_of_committed (kept : Bool) {c : Nat} (h : Fits r ds l d.before) (hself : d.CommitsItself r)
    (hv : Connects r d.before v) (hc : (v.runners.get r).connection = some c) (k j : Nat) :
    (k, j) ∈ ((l.enter kept c ds.length).settle c ds.length).durable ↔ (k, j) ∈ l.durable ∨ (j = ds.length ∧
      (k = j ∧ kept = true ∧ d.CommitsItself r ∨
        k ∈ l.executed ∧ OpenSince r ds d.before k ∧ d.CommitsTransaction r)) := by
  have hcall : ¬ d.CommitsTransaction r := not_commitsTransaction hself.1
  rw [mem_durable_settle, durable_enter, mem_pending_enter]
  simp only [h.not_pending hself.1 hv hc k, hself, hcall, true_and, and_true, false_or, and_false, or_false]
  constructor
  · rintro (hd | ⟨rfl, rfl, hkept⟩)
    · exact .inl hd
    · exact .inr ⟨rfl, rfl, hkept⟩
  · rintro (hd | ⟨rfl, rfl, hkept⟩)
    · exact .inl hd
    · exact .inr ⟨rfl, rfl, hkept⟩

/-- A turn that begins a transaction. -/
theorem fits_of_began {c : Nat} (h : Fits r ds l d.before) (hinactive : d.before.activeAt r = false)
    (hv : Connects r d.before v) (hc : (v.runners.get r).connection = some c)
    (ht : (v.runners.get r).transaction = some c) : Fits r (ds ++ [d]) l v := by
  have hcall : ¬ d.CommitsTransaction r := not_commitsTransaction hinactive
  refine ⟨fun x hx => h.known_of_connects hv hx, fun x k => h.below_of_le hv.next_le, fun _ => ⟨c, hc, ht⟩,
    fun x hx k => ?_, fun k hk => ?_, h.durable_snoc false (by simp) (by simp [hcall])⟩
  · exact iff_of_false (h.not_pending hinactive hv hx k) fun hk => not_openSince_snoc (.inr hinactive) hk.2
  · rw [List.length_append, List.length_singleton]
    exact Nat.lt_succ_of_lt (h.executed k hk)

/-- Each turn keeps what holds of the ledger. -/
theorem Fits.snoc (h : Fits r ds l d.before) (ht : Turn r ds.length l d l' v) : Fits r (ds ++ [d]) l' v := by
  cases ht with
  | @stays v hcall hv =>
    cases hactive : d.before.activeAt r with
    | true =>
      obtain ⟨c, hc, -⟩ := h.attached hactive
      exact fits_of_active false h hactive hv (hv.keeps hc) hcall
    | false =>
      refine fits_of_inactive false h (hv.active.trans hactive) (fun c hc => ?_) (fun c k => ?_) (by simp) ?_
      · exact ⟨h.known_of_connects hv.toConnects hc, h.not_pending hactive hv.toConnects hc⟩
      · exact h.below_of_le hv.next_le
      · simp [hcall]
  | @began c v hinactive hv hactive hc ht => exact fits_of_began h hinactive hv hc ht
  | @ran c kept v hcall hactive hc hv => exact fits_of_active kept h hactive hv hc hcall
  | @undone c kept v hinactive hself hc hv =>
    refine fits_of_emptied kept h hv.toConnects (hv.active.trans hinactive) hc
      (fun x k => mem_pending_enter_discard) (fun k => mem_executed_enter) ?_
    show ∀ k j, (k, j) ∈ (l.enter kept c ds.length).durable ↔ _
    simp [durable_enter, hself, not_commitsTransaction hinactive]
  | @committed c kept v hself hc hv =>
    exact fits_of_emptied kept h hv.toConnects (hv.active.trans hself.1) hc (fun x k => mem_pending_enter_settle)
      (fun k => mem_executed_enter) (durable_of_committed kept h hself hv.toConnects hc)
  | @ended c v hcall hc hinactive hv =>
    have hconnection := h.connection_of_transaction (active_of_commitsTransaction hcall) hc
    refine fits_of_emptied false h hv hinactive (hv.keeps hconnection) (fun x k => mem_pending_settle)
      (by simp [settle]) fun k j => ?_
    rw [mem_durable_settle, h.held c hconnection]
    simp [hcall]
  | @rolledBack c v hcall hc hactive hinactive hv =>
    have hconnection := h.connection_of_transaction hactive hc
    exact fits_of_emptied false h hv hinactive (hv.keeps hconnection) (fun x k => mem_pending_discard)
      (by simp [discard]) (by simp [discard, hcall])
  | @detached l' v hcall hinactive hnone hnext hl =>
    have hsame : l'.executed = l.executed ∧ l'.durable = l.durable ∧
        ∀ c k, (c, k) ∈ l'.pending → (c, k) ∈ l.pending := by
      rcases hl with rfl | ⟨c, rfl⟩
      · exact ⟨rfl, rfl, fun _ _ => id⟩
      · exact ⟨rfl, rfl, fun _ _ hp => (mem_pending_discard.mp hp).1⟩
    refine fits_of_inactive false h hinactive (fun c hc => ?_) (fun c k hp => ?_) ?_ ?_
    · rw [hnone] at hc
      cases hc
    · exact h.below_of_le hnext (hsame.2.2 c k hp)
    · simp [hsame.1]
    · simp [hsame.2.1, hcall]

/-- Between the calls nothing changes. -/
theorem Fits.of_stays (h : Fits r ds l w) (hv : Stays r w v) : Fits r ds l v := by
  have hopen (k : Nat) : OpenSince r ds v k ↔ OpenSince r ds w k := by rw [OpenSince, OpenSince, hv.active]
  refine ⟨fun c hc => h.known_of_connects hv.toConnects hc,
    fun c k => h.below_of_le hv.next_le, fun hactive => ?_, fun c hc k => ?_, h.executed, h.durable⟩
  · rw [hv.active] at hactive
    obtain ⟨c, hc, ht⟩ := h.attached hactive
    exact ⟨c, hv.keeps hc, hv.transaction.trans ht⟩
  · rw [hopen]
    cases hactive : w.activeAt r with
    | true =>
      obtain ⟨c', hc', -⟩ := h.attached hactive
      obtain rfl : c' = c := Option.some.inj ((hv.keeps hc').symm.trans hc)
      exact h.held c' hc' k
    | false =>
      refine iff_of_false (h.not_pending hactive hv.toConnects hc k) ?_
      rintro ⟨-, hopen, -⟩
      exact Bool.false_ne_true (hactive.symm.trans hopen)

end

/-! ## Whole histories -/

theorem Reads.replay_eq {l' : Ledger} (h : Reads leaves i l w l' v) :
    l.replay leaves i w.backend (v.trace.drop w.trace.length) = l' := by
  obtain ⟨events, htrace, hevents⟩ := h
  rw [htrace, List.drop_left]
  exact (hevents w.backend (.refl _)).1

theorem ofDeeds_snoc (ds : List Deed) (d : Deed) : ofDeeds leaves r (ds ++ [d]) =
    (ofDeeds leaves r ds).replay leaves ds.length d.before.backend (d.events r) := by
  simp [ofDeeds, List.zipIdx_append]

theorem fits_of_history (leaves : Reply → Bool) {ds : List Deed} (h : History r w ds v)
    (hinactive : w.activeAt r = false)
    (hknown : ∀ c, (w.runners.get r).connection = some c → c < w.backend.connections.next)
    (hrolls : w.backend.RollsBack) : Fits r ds (ofDeeds leaves r ds) v ∧ v.backend.RollsBack := by
  induction h with
  | start =>
    refine ⟨⟨hknown, by simp [ofDeeds], fun hactive => ?_, fun c _ k => ?_, by simp [ofDeeds], by simp [ofDeeds]⟩,
      hrolls⟩
    · exact absurd (hinactive.symm.trans hactive) Bool.false_ne_true
    · simp [ofDeeds]
  | pause _ hv ih =>
    have hreads : Reads leaves 0 {} _ {} _ := .of_calm hv {}
    exact ⟨ih.1.of_stays (.of_calm hv), hreads.rollsBack ih.2⟩
  | @call ds u _ c ih =>
    obtain ⟨hfits, hrolls⟩ := ih
    have hfree : Free r (ofDeeds leaves r ds) u := fun hinactive v hv c hc => hfits.not_pending hinactive hv hc
    obtain ⟨l', hreads, hturn⟩ : ∃ l', Reads leaves ds.length (ofDeeds leaves r ds) u l' (Deed.after ⟨u, c⟩ r) ∧
        Turn r ds.length (ofDeeds leaves r ds) ⟨u, c⟩ l' (Deed.after ⟨u, c⟩ r) := turn_of_call ⟨u, c⟩ hrolls hfree
    have hl : ofDeeds leaves r (ds ++ [⟨u, c⟩]) = l' := (ofDeeds_snoc ds ⟨u, c⟩).trans hreads.replay_eq
    rw [hl]
    exact ⟨hfits.snoc (d := ⟨u, c⟩) hturn, hreads.rollsBack hrolls⟩

/-- Which statements become durable, and by which call, in every history of a runner that begins without an
active transaction, and whose rollbacks pass. A statement that was executed becomes durable exactly when no
transaction was active and the commit of its own call has passed, or when the transaction that it ran in was
committed. -/
theorem mem_durable_iff {ds : List Deed} (leaves : Reply → Bool) (h : History r w ds v)
    (hinactive : w.activeAt r = false)
    (hknown : ∀ c, (w.runners.get r).connection = some c → c < w.backend.connections.next)
    (hrolls : w.backend.RollsBack) (i j : Nat) :
    (i, j) ∈ (ofDeeds leaves r ds).durable ↔ i ∈ (ofDeeds leaves r ds).executed ∧ MadeDurable r ds i j :=
  (fits_of_history leaves h hinactive hknown hrolls).1.durable i j

end Ledger

/-- A data source whose backend turns the first commit of a transaction down. -/
def World.refusingFirstCommit : World :=
  { initialized := true
    live := some 1
    engine := some 0
    backend := { faults := fun site =>
      if site = .txCommit then [some (.fault "OperationalError" "disk full"), none] else [] } }

/-- A statement on its own, and a statement in a transaction whose commit is tried twice. -/
def retriedCommit : List Deed :=
  deedsFrom 0 .refusingFirstCommit
    [.query .null .null, .start .null, .query .null .null, .commit, .commit]

/-- The second commit makes the statement of the transaction durable. -/
theorem mem_durable_retriedCommit : (2, 4) ∈ (Ledger.ofDeeds (fun _ => true) 0 retriedCommit).durable := by
  refine (Ledger.mem_durable_iff (fun _ => true) (History.of_calls 0 .refusingFirstCommit
    [.query .null .null, .start .null, .query .null .null, .commit, .commit]) rfl ?_ ?_ 2 4).mpr ⟨?_, .inr ?_⟩
  · intro c hc
    cases hc
  · exact ⟨by simp [World.refusingFirstCommit], by simp [World.refusingFirstCommit]⟩
  · show 2 ∈ (Ledger.ofDeeds (fun _ => true) 0 retriedCommit).executed
    decide
  · refine ⟨by decide, ?_, _, rfl, rfl, ⟨rfl, rfl⟩, rfl, rfl⟩
    intro m d hm hm' hd
    obtain rfl | rfl | rfl : m = 2 ∨ m = 3 ∨ m = 4 := by omega
    all_goals
      cases hd
      rfl

end SqlWeave
