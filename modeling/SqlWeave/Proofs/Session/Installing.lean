import SqlWeave.Proofs.Session.Course

/-!
# The course of installing a native database

A native database is prepared, and only then made the live one, with a new engine and in the place of another that
is closed. Either of these steps may be turned down, and where that happens is told by the world in which the whole
begins. `World.Holds` says what an embedded driver holds after a step.
-/

namespace SqlWeave

open Session World

namespace World

/-! ## What the steps depend on -/

/-- The connection of the runner that all callers share, if there is one. -/
def sharedConnection (w : World) : Option Nat := w.shared.bind fun r => (w.runners.get r).connection

/-- How a native database is prepared: it may refuse, or the connection to the one before it may not be closed. -/
def preparing (w : World) : Result Unit := do
  passes (w.fault? .nativeExecute)
  if w.sharedConnection.isSome then passes (w.fault? .close) else .ok ()

/-! ## What a driver holds -/

/-- After the step the driver holds these: the live native database and the engine, among all native databases and
all engines that were made. Nothing else has changed but runners, answers and notes. -/
structure Holds (live engine : Option Nat) (natives : Store Native) (engines : Store Engine) (w v : World) : Prop where
  rest : v = { w with runners := v.runners, live, engine, backend := v.backend, trace := v.trace, logs := v.logs }
  natives : v.backend.natives = natives
  engines : v.backend.engines = engines
  trace : w.trace <+: v.trace

/-- The driver holds what it held. -/
def Upholds (w v : World) : Prop := Holds w.live w.engine w.backend.natives w.backend.engines w v

/-- Only failures that wait at these kinds of calls are taken. -/
def TakesAt (sites : List Site) (w v : World) : Prop := ∀ site ∉ sites, v.backend.faults site = w.backend.faults site

variable {u v w : World} {live engine : Option Nat} {natives : Store Native} {engines : Store Engine}

theorem TakesAt.fault? {sites : List Site} (h : TakesAt sites w v) {site : Site} (hs : site ∉ sites) :
    v.fault? site = w.fault? site := by
  rw [World.fault?, World.fault?, h site hs]

theorem TakesAt.trans {xs ys : List Site} (h : TakesAt xs u v) (h' : TakesAt ys v w) : TakesAt (xs ++ ys) u w := by
  intro site hs
  rw [List.mem_append, not_or] at hs
  exact (h' site hs.2).trans (h site hs.1)

namespace Holds

theorem trans {live' engine' : Option Nat} {natives' : Store Native} {engines' : Store Engine}
    (h : Holds live engine natives engines u v) (h' : Holds live' engine' natives' engines' v w) :
    Holds live' engine' natives' engines' u w :=
  ⟨by rw [h'.rest, h.rest], h'.natives, h'.engines, h.trace.trans h'.trace⟩

theorem live_eq (h : Holds live engine natives engines w v) : v.live = live := (congrArg World.live h.rest :)

theorem engine_eq (h : Holds live engine natives engines w v) : v.engine = engine := (congrArg World.engine h.rest :)

theorem shared_eq (h : Holds live engine natives engines w v) : v.shared = w.shared := (congrArg World.shared h.rest :)

theorem dialect_eq (h : Holds live engine natives engines w v) : v.dialect = w.dialect :=
  (congrArg World.dialect h.rest :)

theorem initialized_eq (h : Holds live engine natives engines w v) : v.initialized = w.initialized :=
  (congrArg World.initialized h.rest :)

/-- What is upheld after a step is what the step has come to. -/
theorem then_upholds (h : Holds live engine natives engines u v) (h' : Upholds v w) :
    Holds live engine natives engines u w := by
  have := h.trans h'
  rwa [h.live_eq, h.engine_eq, h.natives, h.engines] at this

end Holds

namespace Upholds

instance : IsPreorder World Upholds where
  refl _ := ⟨rfl, rfl, rfl, List.prefix_refl _⟩
  trans _ _ _ huv hvw := Holds.then_upholds huv hvw

instance : Reports Upholds where
  logged _ _ := ⟨rfl, rfl, rfl, List.prefix_refl _⟩
  reported _ _ _ := ⟨rfl, rfl, rfl, List.prefix_append _ _⟩

end Upholds

end World

namespace Session

variable {r : Nat} {u v w : World}

/-! ## Single steps -/

/-- A call that is noted and may fail. -/
theorem upholds_notedCall (e : Event) (site : Site) (w : World) :
    ∃ v, Upholds w v ∧ TakesAt [site] w v ∧ v.runners = w.runners ∧ v.trace = w.trace ++ [e] ∧
      ends (do emit e; fault site) w = (passes (w.fault? site), v) := by
  have hnoted : World.fault? { w with trace := w.trace ++ [e] } site = w.fault? site := rfl
  rw [ends_bind_ok (ends_emit ..), ends_fault, hnoted]
  refine ⟨_, ?_, ?_, ?_, ?_, rfl⟩
  · exact ⟨rfl, rfl, rfl, List.prefix_append _ _⟩
  · exact fun s hs => if_neg (by simpa using hs)
  · rfl
  · rfl

theorem upholds_close (c : Nat) (w : World) : ∃ v, Upholds w v ∧ TakesAt [.close] w v ∧ v.runners = w.runners ∧
    ends (close c) w = (passes (w.fault? .close), v) := by
  have hnoted : World.fault? { w with trace := w.trace ++ [.close c] } .close = w.fault? .close := rfl
  unfold close
  rw [ends_bind_ok (ends_emit ..), ends_bind, ends_fault, hnoted]
  cases w.fault? .close
  all_goals
    refine ⟨_, ?_, ?_, ?_, rfl⟩
    · exact ⟨rfl, rfl, rfl, List.prefix_append _ _⟩
    · exact fun s hs => if_neg (by simpa using hs)
    · rfl

/-- The runner lets go of its connection, and fails as closing it does. -/
theorem upholds_closeConnection (r : Nat) (w : World) :
    ∃ v, Upholds w v ∧ TakesAt [.close] w v ∧ (v.runners.get r).connection = none ∧
      ends (closeConnection r) w =
        (if (w.runners.get r).connection.isSome then passes (w.fault? .close) else .ok (), v) := by
  have hdetached : Upholds w (w.changeRunner r .detached) := ⟨rfl, rfl, rfl, List.prefix_refl _⟩
  have hget : ((w.changeRunner r .detached).runners.get r).connection = none := by
    rw [World.changeRunner_get_self]
    rfl
  unfold closeConnection
  rw [ends_bind_ok (ends_runner r w), ends_bind_ok (ends_changeRunner ..)]
  cases (w.runners.get r).connection with
  | none => exact ⟨_, hdetached, fun _ _ => rfl, hget, rfl⟩
  | some c =>
    obtain ⟨v, hv, htakes, hrunners, he⟩ := upholds_close c (w.changeRunner r .detached)
    exact ⟨v, trans_of Upholds hdetached hv, fun s hs => htakes s hs, by rw [hrunners, hget], he⟩

/-! ## Installing, part by part -/

/-- Lets the shared runner go, if there is one. -/
def closeShared : Option Nat → Session Unit
  | some r => closeConnection r
  | none => pure ()

/-- Makes native database `n` live, with an engine of its own. -/
def goLive (n : Nat) : Session Unit := do
  modify fun w => { w with live := some n }
  let e ← createEngine (.text "sqlite://") [] (some n)
  modify fun w => { w with engine := some e }

/-- Drops an engine and closes a native database in whose place native database `n` came. -/
def letOldGo (engine live : Option Nat) (n : Nat) : Session Unit := do
  match engine with
  | some old => disposeEngine old
  | none => pure ()
  match live with
  | some old => if old = n then pure () else nativeClose old
  | none => pure ()

theorem goLive_bind (n : Nat) (k : PUnit → Session Unit) : goLive n >>= k =
    (modify (fun w => { w with live := some n }) >>= fun _ => createEngine (.text "sqlite://") [] (some n) >>= fun e =>
      modify (fun w => { w with engine := some e }) >>= k) := by
  unfold goLive
  exact (bind_assoc ..).trans (congrArg _ (funext fun _ => bind_assoc ..))

theorem install_eq (n : Nat) : install n = (nativeExecute n "PRAGMA foreign_keys = ON" >>= fun _ => get >>= fun w =>
    closeShared w.shared >>= fun _ => goLive n >>= fun _ => letOldGo w.engine w.live n) := by
  refine congrArg _ (funext fun _ => congrArg _ (funext fun w => ?_))
  unfold closeShared
  cases w.shared with
  | none => exact (goLive_bind n _).symm
  | some r => exact congrArg (closeConnection r >>= ·) (funext fun _ => (goLive_bind n _).symm)

/-- The shared runner lets go of its connection, if there is such a runner. -/
theorem upholds_closeShared (w : World) :
    ∃ v, Upholds w v ∧ TakesAt [.close] w v ∧ v.sharedConnection = none ∧
      ends (closeShared w.shared) w = (if w.sharedConnection.isSome then passes (w.fault? .close) else .ok (), v) := by
  unfold World.sharedConnection
  cases hshared : w.shared with
  | none => exact ⟨w, refl_of Upholds w, fun _ _ => rfl, by rw [hshared]; rfl, rfl⟩
  | some r =>
    obtain ⟨v, hv, htakes, hnone, hclose⟩ := upholds_closeConnection r w
    refine ⟨v, hv, htakes, ?_, hclose⟩
    rw [hv.shared_eq, hshared]
    exact hnone

/-! ## Installing -/

/-- An engine is made, or none is. -/
theorem createEngine_cases (url : Url) (options : Record) (native : Option Nat) (w : World) :
    (∃ f v, w.fault? .createEngine = some f ∧ Upholds w v ∧ v.sharedConnection = w.sharedConnection ∧
      ends (createEngine url options native) w = (.error f, v)) ∨
    (∃ v, w.fault? .createEngine = none ∧ v.sharedConnection = w.sharedConnection ∧
      Holds w.live w.engine w.backend.natives (w.backend.engines.add { native }).2 w v ∧
      ends (createEngine url options native) w = (.ok w.backend.engines.next, v)) := by
  have hnoted : World.fault? { w with trace := w.trace ++ [.createEngine url options] } .createEngine =
      w.fault? .createEngine := rfl
  unfold createEngine
  rw [ends_bind_ok (ends_emit ..), ends_bind, ends_fault, hnoted]
  cases hf : w.fault? .createEngine with
  | some f =>
    refine .inl ⟨f, _, rfl, ?_, ?_, rfl⟩
    · exact ⟨rfl, rfl, rfl, List.prefix_append _ _⟩
    · rfl
  | none =>
    refine .inr ⟨_, rfl, ?_, ?_, rfl⟩
    · rfl
    · exact ⟨rfl, rfl, rfl, List.prefix_append _ _⟩

end Session

namespace World

/-- The engines when one of them, if any, was dropped. -/
def dropping (engine : Option Nat) (engines : Store Engine) : Store Engine :=
  match engine with
  | some e => engines.update e fun x => { x with disposed := true }
  | none => engines

/-- The native databases when one of them, if any, was closed. -/
def closing (live : Option Nat) (natives : Store Native) : Store Native :=
  match live with
  | some n => natives.update n fun x => { x with closed := true }
  | none => natives

theorem dropping_next (engine : Option Nat) (engines : Store Engine) :
    (dropping engine engines).next = engines.next := by
  cases engine <;> rfl

theorem closing_next (live : Option Nat) (natives : Store Native) : (closing live natives).next = natives.next := by
  cases live <;> rfl

theorem closed_closing (live : Option Nat) (natives : Store Native) (n : Nat) :
    ((closing live natives).get n).closed = (decide (live = some n) || (natives.get n).closed) := by
  cases live with
  | none => rfl
  | some m =>
    show ((natives.update m _).get n).closed = _
    rw [Store.get_update]
    by_cases hm : m = n
    · rw [if_pos hm, hm, decide_eq_true rfl]
      rfl
    · rw [if_neg hm, decide_eq_false (by simpa using hm)]
      rfl

/-- Closing a native database leaves its image. -/
theorem image_closing (live : Option Nat) (natives : Store Native) (n : Nat) :
    ((closing live natives).get n).image = (natives.get n).image := by
  cases live with
  | none => rfl
  | some m =>
    show ((natives.update m _).get n).image = _
    rw [Store.get_update]
    split
    · rfl
    · rfl

/-- How installing native database `n` ends: it is refused before anything is replaced, or it is live without an
engine of its own, or it has taken the place of the one before it. -/
inductive Installs (n : Nat) (w : World) : Result Unit → World → Prop
  | refused {f : Failure} {v : World} (hprepare : w.preparing = .error f) (hv : Upholds w v) : Installs n w (.error f) v
  | unbound {f : Failure} {v : World} (hprepare : w.preparing = .ok ()) (hfault : w.fault? .createEngine = some f)
      (hv : Holds (some n) w.engine w.backend.natives w.backend.engines w v) : Installs n w (.error f) v
  | installed {v : World} (hprepare : w.preparing = .ok ()) (hfault : w.fault? .createEngine = none)
      (hfree : v.sharedConnection = none)
      (hv : Holds (some n) (some w.backend.engines.next) (closing (w.live.filter (· ≠ n)) w.backend.natives)
        (dropping w.engine (w.backend.engines.add { native := some n }).2) w v) : Installs n w (.ok ()) v

end World

namespace Session

variable {r : Nat} {u v w : World}

theorem ends_disposeEngine (e : Nat) (w : World) : ∃ v, ends (disposeEngine e) w = (.ok ⟨⟩, v) ∧
    v.sharedConnection = w.sharedConnection ∧
    Holds w.live w.engine w.backend.natives (dropping (some e) w.backend.engines) w v := by
  refine ⟨_, rfl, ?_, ?_⟩
  · rfl
  · exact ⟨rfl, rfl, rfl, List.prefix_append _ _⟩

theorem ends_nativeClose (n : Nat) (w : World) : ∃ v, ends (nativeClose n) w = (.ok ⟨⟩, v) ∧
    v.sharedConnection = w.sharedConnection ∧
    Holds w.live w.engine (closing (some n) w.backend.natives) w.backend.engines w v := by
  refine ⟨_, rfl, ?_, ?_⟩
  · rfl
  · exact ⟨rfl, rfl, rfl, List.prefix_append _ _⟩

theorem ends_letOldGo (engine live : Option Nat) (n : Nat) (w : World) : ∃ v,
    ends (letOldGo engine live n) w = (.ok ⟨⟩, v) ∧ v.sharedConnection = w.sharedConnection ∧
    Holds w.live w.engine (closing (live.filter (· ≠ n)) w.backend.natives) (dropping engine w.backend.engines)
      w v := by
  have hlive (u : World) : ∃ v, ends (match live with
      | some old => if old = n then pure () else nativeClose old
      | none => pure ()) u = (.ok ⟨⟩, v) ∧ v.sharedConnection = u.sharedConnection ∧
      Holds u.live u.engine (closing (live.filter (· ≠ n)) u.backend.natives) u.backend.engines u v := by
    cases live with
    | none => exact ⟨u, rfl, rfl, refl_of Upholds u⟩
    | some old =>
      by_cases hold : old = n
      · rw [Option.filter_some_neg (by simpa using hold)]
        dsimp only
        rw [if_pos hold]
        exact ⟨u, rfl, rfl, refl_of Upholds u⟩
      · rw [Option.filter_some_pos (by simpa using hold)]
        dsimp only
        rw [if_neg hold]
        exact ends_nativeClose old u
  cases engine with
  | none => exact hlive w
  | some old =>
    obtain ⟨u, he, hshared, hu⟩ := ends_disposeEngine old w
    obtain ⟨v, he', hshared', hv⟩ := hlive u
    rw [hu.live_eq, hu.engine_eq, hu.natives, hu.engines] at hv
    exact ⟨v, (ends_bind_ok he).trans he', hshared'.trans hshared, hu.trans hv⟩

/-- How a native database goes live: it does so without an engine, or with a new one. -/
theorem goLive_cases (n : Nat) (w : World) :
    (∃ f v, w.fault? .createEngine = some f ∧ ends (goLive n) w = (.error f, v) ∧
      Holds (some n) w.engine w.backend.natives w.backend.engines w v) ∨
    (∃ v, w.fault? .createEngine = none ∧ ends (goLive n) w = (.ok (), v) ∧
      v.sharedConnection = w.sharedConnection ∧
      Holds (some n) (some w.backend.engines.next) w.backend.natives
        (w.backend.engines.add { native := some n }).2 w v) := by
  have hlive : ends (modify fun w => { w with live := some n } : Session PUnit) w =
      (.ok ⟨⟩, { w with live := some n }) := rfl
  have hnow : Holds (some n) w.engine w.backend.natives w.backend.engines w { w with live := some n } :=
    ⟨rfl, rfl, rfl, List.prefix_refl _⟩
  unfold goLive
  rw [ends_bind_ok hlive]
  rcases createEngine_cases (.text "sqlite://") [] (some n) { w with live := some n } with
    ⟨f, v, hfault, hv, hshared, he⟩ | ⟨v, hfault, hshared, hv, he⟩
  · exact .inl ⟨f, v, hfault, ends_bind_error he, hnow.trans hv⟩
  · refine .inr ⟨_, hfault, ends_bind_ok he, hshared, ?_⟩
    have := hnow.trans hv
    exact ⟨by rw [this.rest], this.natives, this.engines, this.trace⟩

theorem installs_install (n : Nat) (w : World) : Installs n w (ends (install n) w).1 (ends (install n) w).2 := by
  obtain ⟨u, hu, htakes, hrunners, -, he⟩ :=
    upholds_notedCall (.nativeExecute n "PRAGMA foreign_keys = ON") .nativeExecute w
  have he : ends (nativeExecute n "PRAGMA foreign_keys = ON") w = (passes (w.fault? .nativeExecute), u) := he
  rw [install_eq]
  cases hexecute : w.fault? .nativeExecute with
  | some f =>
    rw [hexecute] at he
    rw [ends_bind_error he]
    exact .refused (by rw [World.preparing, hexecute]; rfl) hu
  | none =>
    rw [hexecute] at he
    obtain ⟨p, hp, htakes', hfree, hclose⟩ := upholds_closeShared u
    have hsharedConnection : u.sharedConnection = w.sharedConnection := by
      rw [World.sharedConnection, hu.shared_eq, hrunners, World.sharedConnection]
    have hpreparing : w.preparing = if u.sharedConnection.isSome then passes (u.fault? .close) else .ok () := by
      rw [World.preparing, hexecute, htakes.fault? (by decide), hsharedConnection]
      rfl
    have hwp : Upholds w p := trans_of Upholds hu hp
    have hfault : p.fault? .createEngine = w.fault? .createEngine := (htakes.trans htakes').fault? (by decide)
    rw [← hpreparing] at hclose
    rw [ends_bind_ok he, ends_bind_ok (ends_get u)]
    cases hprepare : w.preparing with
    | error f =>
      rw [hprepare] at hclose
      rw [ends_bind_error hclose]
      exact .refused hprepare hwp
    | ok a =>
      rw [hprepare] at hclose
      rw [ends_bind_ok hclose]
      rcases goLive_cases n p with ⟨f, q, hf, hlive, hq⟩ | ⟨q, hf, hlive, hshared, hq⟩
      all_goals rw [hfault] at hf
      · rw [hwp.engine_eq, hwp.natives, hwp.engines] at hq
        rw [ends_bind_error hlive]
        exact .unbound hprepare hf (hwp.trans hq)
      · rw [hwp.natives, hwp.engines] at hq
        obtain ⟨v, hold, hshared', hv⟩ := ends_letOldGo u.engine u.live n q
        rw [ends_bind_ok hlive, hold]
        rw [hq.live_eq, hq.engine_eq, hq.natives, hq.engines, hu.engine_eq, hu.live_eq] at hv
        exact .installed hprepare hf (hshared'.trans (hshared.trans hfree)) (hwp.trans (hq.trans hv))

end Session

end SqlWeave
