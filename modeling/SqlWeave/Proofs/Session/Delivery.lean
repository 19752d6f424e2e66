import Mathlib.Logic.Basic
import SqlWeave.Proofs.Session.Ending
import SqlWeave.Session.Broadcast

/-!
# Which hooks are called

Telling subscribers of an event is two loops, over the subscribers and over the payloads, and a hook that fails leaves
both. A hook may fail at some of its calls and pass at others. The calls that are planned are told apart from the calls
that are made. Main result: of the planned calls those up to the first that fails are made, in order and each once, and
its failure leaves the broadcast as it is.
-/

namespace SqlWeave

/-! ## Who is told -/

namespace Subscriber

/-- There is something to call: a hook of its own, or one that does nothing. -/
def Has (s : Subscriber) (h : Hook) : Prop := h.word ∈ s.hooks ∨ s.plain = false

/-- The subscriber listens to every entity, to the target of this one, or to its name. -/
inductive Hears (s : Subscriber) (e? : Option Entity) : Prop where
  | every (h : s.target.isNull)
  | target {e : Entity} (he : e? = some e) (h : s.target.sameObject e.target (s.sharesTarget e.id))
  | name {e : Entity} (he : e? = some e) (h : s.target.equals e.name)

/-- The subscriber is told about an event; of what happens around a transaction all are told. -/
def IsTold (s : Subscriber) (h : Hook) (e? : Option Entity) : Prop := s.Has h ∧ (h.isEntityHook → s.Hears e?)

variable {s : Subscriber} {h : Hook} {e? : Option Entity}

instance : Decidable (s.Has h) := inferInstanceAs (Decidable (_ ∨ _))

theorem hears_iff : s.Hears e? ↔ s.target.isNull ∨
    e?.any fun e => s.target.sameObject e.target (s.sharesTarget e.id) || s.target.equals e.name := by
  constructor
  · rintro (hnull | ⟨rfl, hsame⟩ | ⟨rfl, hname⟩)
    · exact .inl hnull
    · exact .inr (by simp [hsame])
    · exact .inr (by simp [hname])
  · rintro (hnull | hany)
    · exact .every hnull
    · obtain ⟨e, rfl, he⟩ := (Option.any_eq_true _ _).mp hany
      rcases Bool.or_eq_true_iff.mp he with hsame | hname
      · exact .target rfl hsame
      · exact .name rfl hname

instance : Decidable (s.Hears e?) := decidable_of_iff _ hears_iff.symm

instance : Decidable (s.IsTold h e?) := inferInstanceAs (Decidable (_ ∧ _))

theorem listensTo_eq (s : Subscriber) (e? : Option Entity) :
    s.listensTo (e?.map .entity) = .ok (decide (s.Hears e?)) := by
  have hdecide : decide (s.Hears e?) =
      (s.target.isNull || e?.any fun e => s.target.sameObject e.target (s.sharesTarget e.id) || s.target.equals e.name) := by
    rw [Bool.eq_iff_iff, decide_eq_true_iff, hears_iff, Bool.or_eq_true_iff]
  rw [hdecide]
  unfold listensTo
  cases s.target.isNull with
  | true => rfl
  | false => cases e? <;> rfl

theorem receives_eq (s : Subscriber) (h : Hook) (e? : Option Entity) :
    s.receives h (e?.map .entity) = .ok (decide (s.IsTold h e?)) := by
  have hresponds : s.responds h = decide (s.Has h) := by
    rw [Bool.eq_iff_iff, decide_eq_true_iff, responds, Has, Bool.or_eq_true_iff, List.contains_iff_mem,
      Bool.not_eq_true']
  have hdecide : decide (s.IsTold h e?) = ((!h.isEntityHook || decide (s.Hears e?)) && decide (s.Has h)) := by
    rw [Bool.eq_iff_iff, decide_eq_true_iff, IsTold, and_comm]
    simp [imp_iff_not_or]
  rw [hdecide]
  unfold receives
  rw [listensTo_eq, hresponds]
  cases h.isEntityHook <;> rfl

end Subscriber

/-! ## Calls of hooks -/

/-- A call of a hook: on which subscriber, with its number, and with which payload, in which place. -/
structure HookCall where
  number : Nat
  subscriber : Subscriber
  payload : Value
  place : Nat

namespace HookCall

/-- The calls that are planned: subscriber by subscriber and payload by payload, or once with none. -/
def planned (h : Hook) (e? : Option Entity) (payloads : List Value) (subscribers : List Subscriber) : List HookCall :=
  (subscribers.zipIdx.filter fun s => s.1.IsTold h e?).flatMap fun s =>
    (if payloads = [] then [.null] else payloads).zipIdx.map fun p => ⟨s.2, s.1, p.1, p.2⟩

/-- Does the call come to a hook of the subscriber's own? Any other hook does nothing. -/
def IsOwn (h : Hook) (c : HookCall) : Prop := h.word ∈ c.subscriber.hooks

instance (h : Hook) (c : HookCall) : Decidable (c.IsOwn h) := inferInstanceAs (Decidable (_ ∈ _))

/-- The failure that the call ends with, when a broadcast begins in world `w`: the calls for its payloads take what
waits at the hook one after the other. -/
def refusal? (w : World) (h : Hook) (c : HookCall) : Option Failure :=
  if c.IsOwn h then (w.hookFaults c.number h)[c.place]?.getD (c.subscriber.refusals.get? h.word) else none

/-- The log record of the call. -/
def entry (h : Hook) (c : HookCall) : LogEntry where
  level := .debug
  logger := "quarry.subscriber.broadcaster"
  message := "Broadcasting subscriber event"
  extras := [("event", .text h.word), ("subscriber", .text ("Subscriber" ++ toString c.number))]

/-- What a hook of the subscriber's own tells of the call. -/
def event? (h : Hook) (e? : Option Entity) (c : HookCall) : Option Event :=
  if c.IsOwn h then some (.notify c.number h.word ((e?.map (·.name)).getD .null) c.payload) else none

/-- How often the calls have come to the hook of subscriber number `i`. -/
def timesOn (h : Hook) (i : Nat) (calls : List HookCall) : Nat := calls.countP fun c => c.number = i ∧ c.IsOwn h

/-- Of the calls that are planned in world `w`, those up to the first that fails are made. -/
structure UpToFailure (w : World) (h : Hook) (plan made : List HookCall) (failure : Option Failure) : Prop where
  inOrder : made <+: plan
  /-- Nothing failed, and all calls are made. -/
  passed : failure = none → made = plan ∧ ∀ c ∈ made, c.refusal? w h = none
  /-- The last call that is made failed, and no call before it. -/
  failed : ∀ f, failure = some f → ∃ earlier last, made = earlier ++ [last] ∧ last.refusal? w h = some f ∧
    ∀ c ∈ earlier, c.refusal? w h = none

namespace UpToFailure

variable {w : World} {h : Hook} {plan made plan' made' : List HookCall} {failure : Option Failure}

theorem nil : UpToFailure w h [] [] none := ⟨List.prefix_refl [], fun _ => ⟨rfl, nofun⟩, nofun⟩

theorem single (w : World) (h : Hook) (c : HookCall) : UpToFailure w h [c] [c] (c.refusal? w h) where
  inOrder := List.prefix_refl [c]
  passed hnone := ⟨rfl, by simpa using hnone⟩
  failed f hf := ⟨[], c, rfl, hf, nofun⟩

theorem append (hfirst : UpToFailure w h plan made none) (hrest : UpToFailure w h plan' made' failure) :
    UpToFailure w h (plan ++ plan') (made ++ made') failure := by
  obtain ⟨rfl, hnone⟩ := hfirst.passed rfl
  refine ⟨(List.prefix_append_right_inj _).mpr hrest.inOrder, fun hfailure => ?_, fun f hf => ?_⟩
  · obtain ⟨rfl, hnone'⟩ := hrest.passed hfailure
    exact ⟨rfl, List.forall_mem_append.mpr ⟨hnone, hnone'⟩⟩
  · obtain ⟨earlier, last, rfl, hlast, hearlier⟩ := hrest.failed f hf
    exact ⟨made ++ earlier, last, (List.append_assoc ..).symm, hlast, List.forall_mem_append.mpr ⟨hnone, hearlier⟩⟩

theorem append_failed {f : Failure} (hfirst : UpToFailure w h plan made (some f)) (plan' : List HookCall) :
    UpToFailure w h (plan ++ plan') made (some f) :=
  ⟨hfirst.inOrder.trans (List.prefix_append _ _), nofun, hfirst.failed⟩

/-- The failure is that of the first planned call that fails. -/
theorem failure_eq (hmade : UpToFailure w h plan made failure) : failure = plan.findSome? (·.refusal? w h) := by
  cases failure with
  | none =>
    obtain ⟨rfl, hnone⟩ := hmade.passed rfl
    exact (List.findSome?_eq_none_iff.mpr hnone).symm
  | some f =>
    obtain ⟨earlier, last, rfl, hlast, hearlier⟩ := hmade.failed f rfl
    obtain ⟨later, rfl⟩ := hmade.inOrder
    rw [List.append_assoc, List.findSome?_append, List.findSome?_eq_none_iff.mpr hearlier, List.singleton_append,
      List.findSome?_cons, hlast]
    rfl

end UpToFailure

end HookCall

/-- The world after calls of hooks: each is logged, the hooks have told of it, and what waited at them is taken. -/
def World.told (w : World) (h : Hook) (e? : Option Entity) (calls : List HookCall) : World :=
  { w with
    hookFaults := fun i g => if g = h then (w.hookFaults i h).drop (HookCall.timesOn h i calls) else w.hookFaults i g
    trace := w.trace ++ calls.filterMap (·.event? h e?)
    logs := w.logs ++ calls.map (·.entry h) }

namespace World

variable {h : Hook} {e? : Option Entity}

/-- One more call of a hook of the subscriber's own. -/
theorem told_snoc_own (w : World) (done : List HookCall) {c : HookCall} (hown : c.IsOwn h) :
    w.told h e? (done ++ [c]) = { (w.told h e? done).afterHook c.number h with
      trace := (w.told h e? done).trace ++ [.notify c.number h.word ((e?.map (·.name)).getD .null) c.payload]
      logs := (w.told h e? done).logs ++ [c.entry h] } := by
  have hfaults : (w.told h e? (done ++ [c])).hookFaults = ((w.told h e? done).afterHook c.number h).hookFaults := by
    funext i g
    unfold told afterHook
    dsimp only
    by_cases hg : g = h
    · by_cases hi : i = c.number
      · simp [HookCall.timesOn, hg, hi, hown, List.tail_drop]
      · simp [HookCall.timesOn, hg, hi, Ne.symm hi]
    · simp [hg]
  have hevent : c.event? h e? = some (.notify c.number h.word ((e?.map (·.name)).getD .null) c.payload) := if_pos hown
  have hrest : w.told h e? (done ++ [c]) = { w with
      hookFaults := (w.told h e? (done ++ [c])).hookFaults
      trace := w.trace ++ (done ++ [c]).filterMap (·.event? h e?)
      logs := w.logs ++ (done ++ [c]).map (·.entry h) } := rfl
  rw [hrest, hfaults]
  simp [told, afterHook, hevent]

/-- One more call of a hook that does nothing. -/
theorem told_snoc_not_own (w : World) (done : List HookCall) {c : HookCall} (hown : ¬ c.IsOwn h) :
    w.told h e? (done ++ [c]) = { w.told h e? done with logs := (w.told h e? done).logs ++ [c.entry h] } := by
  have hevent : c.event? h e? = none := if_neg hown
  simp [told, HookCall.timesOn, hevent, hown]

theorem told_nil (w : World) : w.told h e? [] = w := by
  have hsame : (fun i g => if g = h then w.hookFaults i h else w.hookFaults i g) = w.hookFaults := by
    funext i g
    split
    · next hg => rw [hg]
    · rfl
  simp [told, HookCall.timesOn, hsame]

end World

/-! ## The broadcast -/

namespace Session

open HookCall (IsOwn UpToFailure planned timesOn)

variable {h : Hook} {e? : Option Entity}

/-- After calls of which `P` holds were made in a broadcast, the call makes the planned calls up to the first that
fails, and nothing else. -/
def Delivers (h : Hook) (e? : Option Entity) (P : List HookCall → Prop) (plan : List HookCall) (s : Session Unit) :
    Prop :=
  ∀ w done, P done → ∃ made failure, UpToFailure w h plan made failure ∧
    ends s (w.told h e? done) = (passes failure, w.told h e? (done ++ made))

variable {P Q : List HookCall → Prop}

theorem delivers_nothing : Delivers h e? P [] (pure ()) :=
  fun w done _ => ⟨[], none, .nil, by rw [List.append_nil]; rfl⟩

theorem Delivers.bind {plan plan' : List HookCall} {s : Session Unit} {k : Unit → Session Unit}
    (hs : Delivers h e? P plan s) (hdone : ∀ done, P done → Q (done ++ plan)) (hk : Delivers h e? Q plan' (k ())) :
    Delivers h e? P (plan ++ plan') (s >>= k) := by
  intro w done hP
  obtain ⟨made, failure, hmade, hends⟩ := hs w done hP
  cases failure with
  | some f => exact ⟨made, some f, hmade.append_failed plan', ends_bind_error hends⟩
  | none =>
    obtain ⟨rfl, -⟩ := hmade.passed rfl
    obtain ⟨made', failure, hmade', hends'⟩ := hk w (done ++ made) (hdone done hP)
    refine ⟨made ++ made', failure, hmade.append hmade', ?_⟩
    rw [ends_bind_ok hends, hends', List.append_assoc]

/-- Calling a hook of the subscriber's own: what waits at the hook is taken, and decides. -/
theorem ends_callHook_own {i : Nat} {s : Subscriber} (hown : h.word ∈ s.hooks) (payload : Value) (w : World) :
    ends (callHook i s h (e?.map .entity) payload) w = (passes (w.hookFault? i s h),
      { w.afterHook i h with
        trace := w.trace ++ [.notify i h.word ((e?.map (·.name)).getD .null) payload]
        logs := w.logs ++ [HookCall.entry h ⟨i, s, payload, 0⟩] }) := by
  have hname : subjectName (e?.map .entity) = .ok ((e?.map (·.name)).getD .null) := by cases e? <;> rfl
  unfold callHook
  rw [ends_bind_ok (ends_log ..), if_pos (List.contains_iff_mem.mpr hown), hname,
    ends_bind_ok (ends_ofResult_ok ..), ends_bind_ok (ends_emit ..), ends_bind_ok (ends_get _)]
  have hsame (logs : List LogEntry) (trace : List Event) :
      World.hookFault? { w with logs, trace } i s h = w.hookFault? i s h := rfl
  rw [hsame]
  cases w.hookFault? i s h <;> rfl

theorem delivers_callHook (s : Subscriber) (h : Hook) (e? : Option Entity) (payload : Value) {i k : Nat} :
    Delivers h e? (fun done => h.word ∈ s.hooks → timesOn h i done = k) [⟨i, s, payload, k⟩]
      (callHook i s h (e?.map .entity) payload) := by
  intro w done hdone
  refine ⟨_, _, .single w h ⟨i, s, payload, k⟩, ?_⟩
  unfold HookCall.refusal?
  by_cases hown : h.word ∈ s.hooks
  · have hIsOwn : IsOwn h ⟨i, s, payload, k⟩ := hown
    have hfault : (w.told h e? done).hookFault? i s h =
        (w.hookFaults i h)[k]?.getD (s.refusals.get? h.word) := by
      unfold World.hookFault? World.told
      dsimp only
      rw [if_pos rfl, List.head?_drop, hdone hown]
    rw [if_pos hIsOwn, ends_callHook_own hown, hfault, World.told_snoc_own w done hIsOwn]
    rfl
  · have hIsOwn : ¬ IsOwn h ⟨i, s, payload, k⟩ := hown
    rw [if_neg hIsOwn, World.told_snoc_not_own w done hIsOwn]
    unfold callHook
    rw [ends_bind_ok (ends_log ..), if_neg (List.contains_iff_mem.not.mpr hown)]
    rfl

theorem delivers_callEach (s : Subscriber) (h : Hook) (e? : Option Entity) (payloads : List Value) {i k : Nat} :
    Delivers h e? (fun done => h.word ∈ s.hooks → timesOn h i done = k)
      ((payloads.zipIdx k).map fun p => ⟨i, s, p.1, p.2⟩) (callEach i s h (e?.map .entity) payloads) := by
  induction payloads generalizing k with
  | nil => exact delivers_nothing
  | cons payload rest ih =>
    refine (delivers_callHook s h e? payload).bind (fun done hdone hown => ?_) (ih (k := k + 1))
    have hone : timesOn h i [⟨i, s, payload, k⟩] = 1 := by simp [timesOn, IsOwn, hown]
    exact List.countP_append.trans (congrArg₂ (· + ·) (hdone hown) hone)

/-- From subscriber `i` on, the payloads go to each that is told. -/
theorem delivers_tellFrom (h : Hook) (e? : Option Entity) (payloads : List Value) (i : Nat)
    (subscribers : List Subscriber) :
    Delivers h e? (fun done => ∀ c ∈ done, c.number < i)
      (((subscribers.zipIdx i).filter fun s => s.1.IsTold h e?).flatMap fun s =>
        payloads.zipIdx.map fun p => ⟨s.2, s.1, p.1, p.2⟩) (tellFrom i h (e?.map .entity) payloads subscribers) := by
  induction subscribers generalizing i with
  | nil => exact delivers_nothing
  | cons s rest ih =>
    have hlater (done : List HookCall) (hdone : ∀ c ∈ done, c.number < i) : ∀ c ∈ done, c.number < i + 1 :=
      fun c hc => Nat.lt_succ_of_lt (hdone c hc)
    unfold tellFrom
    rw [List.zipIdx_cons, List.filter_cons, Subscriber.receives_eq]
    by_cases htold : s.IsTold h e?
    · simp only [htold, decide_true, if_true]
      have hfirst : Delivers h e? (fun done => ∀ c ∈ done, c.number < i)
          (payloads.zipIdx.map fun p => ⟨i, s, p.1, p.2⟩) (callEach i s h (e?.map .entity) payloads) := by
        refine fun w done hdone => delivers_callEach s h e? payloads w done fun _ => ?_
        -- No call so far came to this subscriber.
        exact List.countP_eq_zero.mpr fun c hc => by simp [Nat.ne_of_lt (hdone c hc)]
      refine hfirst.bind (fun done hdone => List.forall_mem_append.mpr ⟨hlater done hdone, ?_⟩) (ih (i + 1))
      intro c hc
      obtain ⟨p, -, rfl⟩ := List.mem_map.mp hc
      exact Nat.lt_succ_self i
    · simp only [htold, decide_false]
      exact fun w done hdone => ih (i + 1) w done (hlater done hdone)

theorem delivers_broadcast (h : Hook) (e? : Option Entity) (payloads : List Value) (w : World) :
    ∃ made failure, UpToFailure w h (planned h e? payloads w.subscribers) made failure ∧
      ends (broadcast h (e?.map .entity) payloads) w = (passes failure, w.told h e? made) := by
  have hpayloads : (if payloads.isEmpty then [.null] else payloads) = if payloads = [] then [.null] else payloads := by
    cases payloads <;> rfl
  have hdelivers := delivers_tellFrom h e? (if payloads = [] then [.null] else payloads) 0 w.subscribers w [] nofun
  simp only [World.told_nil, List.nil_append] at hdelivers
  unfold broadcast planned
  rw [ends_bind_ok (ends_get w), hpayloads]
  exact hdelivers

/-- Telling subscribers of an event about an entity, or of one around a transaction: of the planned calls those up to
the first that fails are made, one after the other. The broadcast ends with that failure, and apart from the calls
nothing happens. -/
theorem broadcast_delivers (h : Hook) (e? : Option Entity) (payloads : List Value) (w : World) :
    ∃ made failure, UpToFailure w h (planned h e? payloads w.subscribers) made failure ∧
      ends (broadcast h (e?.map .entity) payloads) w = (passes failure, w.told h e? made) :=
  delivers_broadcast h e? payloads w

end Session

end SqlWeave
