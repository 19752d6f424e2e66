import SqlWeave.Proofs.Session.Replacing

/-!
# What a failure to connect leaves behind

Connecting a data source is all or nothing, but for two ways to fail. A server's engine is kept when trying it fails
with anything but an operational error, and an embedded database stays live when no engine is made for it. In every
other way what connecting has made is let go again. `World.leavesBehind` tells beforehand which of these it will be; a
driver that holds something before it connects keeps it where connecting fails early.
-/

namespace SqlWeave

open Session World

namespace World

/-! ## What is held -/

/-- The worlds have in common what a driver holds, and the engines. -/
structure SameHoldings (w v : World) : Prop where
  dialect : v.dialect = w.dialect
  initialized : v.initialized = w.initialized
  engine : v.engine = w.engine
  live : v.live = w.live
  engines : v.backend.engines = w.backend.engines

/-- The driver holds neither an engine nor, when it is embedded, a native database, and every engine is disposed of
that was made between the worlds. -/
structure LeavesNothing (w v : World) : Prop where
  engine : v.engine = none
  live : w.dialect.isNetwork = false → v.live = none
  disposed : ∀ e, w.backend.engines.next ≤ e → e < v.backend.engines.next → (v.backend.engines.get e).disposed = true

/-- A native database can be opened, filled from an image and prepared. -/
def readies (w : World) (image : Value) : Prop :=
  w.opening = .ok () ∧ (∃ content, w.filling image = .ok content) ∧ w.preparing = .ok ()

/-- Connecting an embedded data source comes as far as to make a new native database live. -/
def goesLive (w : World) : Prop := ∃ image, w.connecting? = some image ∧ w.readies image

/-- An embedded database stays when no engine is made for it, or when connecting comes to nothing before. -/
def leavesNative (w : World) : Prop :=
  w.goesLive ∧ w.fault? .createEngine ≠ none ∨ ¬ w.goesLive ∧ (w.engine ≠ none ∨ w.live ≠ none)

/-- The engine of a server stays when trying it fails with anything but an operational error; the one before it, when
there is no new one. -/
def leavesEngine (w : World) : Prop :=
  match ends createServerEngine w with
  | (.error _, _) => w.engine ≠ none
  | (.ok e, u) => ∃ f, (ends tryServer { u with engine := some e }).1 = .error f ∧ f.isA "OperationalError" = false

/-- A failure to connect leaves an engine or a native database behind. -/
def leavesBehind (w : World) : Prop := if w.dialect.isNetwork then w.leavesEngine else w.leavesNative

/-- The driver is connected, with an engine that was made between the worlds. -/
structure Engages (w u : World) : Prop where
  dialect : u.dialect = w.dialect
  engine : u.engine = some w.backend.engines.next
  next : u.backend.engines.next = w.backend.engines.next + 1
  free : w.dialect.isNetwork = false → u.sharedConnection = none

variable {u v w : World}

namespace SameHoldings

theorem of_holds {natives : Store Native} (h : Holds w.live w.engine natives w.backend.engines w v) :
    SameHoldings w v :=
  ⟨h.dialect_eq, h.initialized_eq, h.engine_eq, h.live_eq, h.engines⟩

theorem of_unmoved (h : Unmoved w v) : SameHoldings w v :=
  ⟨(congrArg World.dialect h :), (congrArg World.initialized h :), (congrArg World.engine h :),
    (congrArg World.live h :), (congrArg (·.backend.engines) h :)⟩

theorem of_noted (h : Noted w v) : SameHoldings w v :=
  ⟨(congrArg World.dialect h :), (congrArg World.initialized h :), (congrArg World.engine h :),
    (congrArg World.live h :), (congrArg (·.backend.engines) h :)⟩

instance : IsPreorder World SameHoldings where
  refl _ := ⟨rfl, rfl, rfl, rfl, rfl⟩
  trans _ _ _ huv hvw := ⟨hvw.dialect.trans huv.dialect, hvw.initialized.trans huv.initialized,
    hvw.engine.trans huv.engine, hvw.live.trans huv.live, hvw.engines.trans huv.engines⟩

instance : Notes SameHoldings where
  logged _ _ := ⟨rfl, rfl, rfl, rfl, rfl⟩
  emitted _ _ _ := ⟨rfl, rfl, rfl, rfl, rfl⟩

instance : Works SameHoldings where
  noted _ _ _ _ := ⟨rfl, rfl, rfl, rfl, rfl⟩
  worked _ _ _ hs := ⟨rfl, rfl, rfl, rfl, hs.engines⟩

/-- Where nothing was made, nothing is left exactly when nothing was held before. -/
theorem leavesNothing_iff (h : SameHoldings w v) :
    LeavesNothing w v ↔ w.engine = none ∧ (w.dialect.isNetwork = false → w.live = none) := by
  rw [← h.engine, ← h.live]
  refine ⟨fun hn => ⟨hn.engine, hn.live⟩, fun ⟨hengine, hlive⟩ => ⟨hengine, hlive, fun e hle hlt => ?_⟩⟩
  rw [h.engines] at hlt
  exact absurd hlt (Nat.not_lt.mpr hle)

end SameHoldings

/-- Where the one engine that was made is disposed of, and nothing is held, nothing is left. -/
theorem LeavesNothing.of_dropping {engines : Store Engine} (hengine : v.engine = none)
    (hlive : w.dialect.isNetwork = false → v.live = none) (hnext : engines.next = w.backend.engines.next + 1)
    (hengines : v.backend.engines = dropping (some w.backend.engines.next) engines) : LeavesNothing w v := by
  refine ⟨hengine, hlive, fun e hle hlt => ?_⟩
  have hlast : e = w.backend.engines.next := by
    rw [hengines, dropping_next, hnext] at hlt
    omega
  rw [hengines, hlast]
  exact congrArg Engine.disposed (Store.get_update_self ..)

/-! ## Embedded databases -/

/-- How replacing the live native database ends: what was held is held, or the new one is live without an engine, or
the driver is connected. -/
theorem Replaces.holdings {database image : Value} {x : Result Nat} (h : Replaces database image w x v) :
    (∃ f, x = .error f ∧ ¬ w.readies image ∧ SameHoldings w v) ∨
    (∃ f, x = .error f ∧ w.readies image ∧ w.fault? .createEngine ≠ none ∧ v.live.isSome ∧
      v.initialized = w.initialized) ∨
    (∃ n, x = .ok n ∧ w.readies image ∧ w.fault? .createEngine = none ∧ Engages w v) := by
  cases h with
  | unopened hopening hv =>
    refine .inl ⟨_, rfl, fun hreadies => ?_, .of_holds hv⟩
    cases hopening.symm.trans hreadies.1
  | unfilled hopening hfilling hv =>
    refine .inl ⟨_, rfl, fun ⟨_, ⟨content, hcontent⟩, _⟩ => ?_, .of_holds hv.holds⟩
    cases hfilling.symm.trans hcontent
  | @filled y content u _ hopening hfilling hu hv =>
    have hwu := SameHoldings.of_holds hu.holds
    have hfault : u.fault? .createEngine = w.fault? .createEngine := hu.fault? (by decide)
    rw [← hfault]
    cases hv with
    | refused hprepare hv =>
      refine .inl ⟨_, rfl, fun ⟨_, _, hpreparing⟩ => ?_, trans_of SameHoldings hwu (.of_holds hv)⟩
      cases (hu.preparing ▸ hprepare).symm.trans hpreparing
    | unbound hprepare hf hv =>
      refine .inr (.inl ⟨_, rfl, ⟨hopening, ⟨content, hfilling⟩, hu.preparing ▸ hprepare⟩, ?_, ?_, ?_⟩)
      · rw [hf]
        exact Option.some_ne_none _
      · rw [hv.live_eq]
        rfl
      · exact hv.initialized_eq.trans hwu.initialized
    | installed hprepare hf hfree hv =>
      refine .inr (.inr ⟨_, rfl, ⟨hopening, ⟨content, hfilling⟩, hu.preparing ▸ hprepare⟩, hf, ?_⟩)
      refine ⟨hv.dialect_eq.trans hwu.dialect, ?_, ?_, fun _ => hfree⟩
      · rw [hv.engine_eq, hwu.engines]
      · rw [hv.engines, dropping_next, hwu.engines]
        rfl

theorem Engages.of_noted (h : Engages w u) (hv : Noted u v) : Engages w v := by
  have hsame := SameHoldings.of_noted hv
  refine ⟨hsame.dialect.trans h.dialect, hsame.engine.trans h.engine, ?_, fun hembedded => ?_⟩
  · rw [hsame.engines, h.next]
  · exact (congrArg World.sharedConnection hv).trans (h.free hembedded)

/-- Before a new native database goes live, what is held stays as it was. -/
theorem leavesNothing_iff_of_not_goesLive (hembedded : w.dialect.isNetwork = false) (hlive : ¬ w.goesLive)
    (h : SameHoldings w v) : LeavesNothing w v ↔ ¬ w.leavesNative := by
  rw [h.leavesNothing_iff, leavesNative]
  simp [hembedded, hlive]

/-- How connecting an embedded data source ends: it fails and leaves behind what was foretold, or the driver is
connected. -/
theorem Attaches.leaves {y : Result Unit} (hembedded : w.dialect.isNetwork = false) (h : Attaches w y v) :
    (∃ f, y = .error f ∧ v.initialized = w.initialized ∧ (LeavesNothing w v ↔ ¬ w.leavesNative)) ∨
    (y = .ok () ∧ Engages w v ∧ ¬ w.leavesNative) := by
  cases h with
  | unfound himage hv =>
    have hsame := SameHoldings.of_unmoved hv
    have hlive : ¬ w.goesLive := fun ⟨image, hsome, _⟩ => by cases himage.symm.trans hsome
    exact .inl ⟨_, rfl, hsame.initialized, leavesNothing_iff_of_not_goesLive hembedded hlive hsame⟩
  | @replaces database image storage x u _ himage hu hv =>
    have hgoes : w.goesLive ↔ w.readies image :=
      ⟨fun ⟨_, hsome, hreadies⟩ => Option.some.inj (himage.symm.trans hsome) ▸ hreadies, fun h => ⟨image, himage, h⟩⟩
    have hnoted := SameHoldings.of_noted hv
    rcases hu.holdings with ⟨f, rfl, hnot, hu⟩ | ⟨f, rfl, hreadies, hfault, hlive, hinitialized⟩ |
      ⟨n, rfl, hreadies, hfault, hu⟩
    · have hstored : SameHoldings w { w with storage } := ⟨rfl, rfl, rfl, rfl, rfl⟩
      have hsame := trans_of SameHoldings hstored (trans_of SameHoldings hu hnoted)
      exact .inl ⟨f, rfl, hsame.initialized, leavesNothing_iff_of_not_goesLive hembedded (hgoes.not.mpr hnot) hsame⟩
    · have hleaves : w.leavesNative := .inl ⟨hgoes.mpr hreadies, hfault⟩
      refine .inl ⟨f, rfl, hnoted.initialized.trans hinitialized, iff_of_false (fun hnothing => ?_) ?_⟩
      · rw [← hnoted.live, hnothing.live hembedded] at hlive
        cases hlive
      · exact not_not.mpr hleaves
    · have hengages : Engages w u := ⟨hu.dialect, hu.engine, hu.next, hu.free⟩
      refine .inr ⟨rfl, hengages.of_noted hv, ?_⟩
      rintro (⟨-, hleft⟩ | ⟨hnot, -⟩)
      · exact hleft hfault
      · exact hnot (hgoes.mpr hreadies)

end World

/-! ## Servers -/

namespace Session

variable {u v w : World}

/-- An engine is made for a server, or none is. -/
theorem createServerEngine_cases (w : World) :
    (∃ f v, SameHoldings w v ∧ ends createServerEngine w = (.error f, v)) ∨
    (∃ v, Holds w.live w.engine w.backend.natives (w.backend.engines.add { native := none }).2 w v ∧
      ends createServerEngine w = (.ok w.backend.engines.next, v)) := by
  have raised (f : Failure) {u : World} (hu : SameHoldings w u) :
      ∃ v, SameHoldings w v ∧ ends (raise f : Session Nat) u = (.error f, v) := by
    obtain ⟨v, hv⟩ := ends_raise (α := Nat) f u
    exact ⟨v, trans_of SameHoldings hu ((moves_raise f).of_ends hv), hv⟩
  unfold createServerEngine
  rw [ends_bind_ok (ends_get w)]
  dsimp only
  split
  case isTrue =>
    obtain ⟨v, hv⟩ := raised _ (refl_of SameHoldings w)
    exact .inl ⟨_, v, hv⟩
  case isFalse =>
    cases w.settings.serverUrl w.dialect with
    | error f =>
      obtain ⟨v, hv⟩ := ends_raise (α := Url) f w
      exact .inl ⟨f, v, (moves_raise f).of_ends hv, ends_bind_error hv⟩
    | ok url =>
      rw [ends_bind_ok (ends_ofResult_ok ..), ends_bind_ok (ends_attempt ..)]
      rcases createEngine_cases url (("pool_pre_ping", .bool true) ::
          ["pool_size", "max_overflow", "pool_timeout"].map fun name => (name, w.settings.get name)) none w with
        ⟨f, u, -, hu, -, he⟩ | ⟨u, -, -, hu, he⟩
      · rw [he]
        dsimp only
        split
        · obtain ⟨v, hv⟩ := raised _ (.of_holds hu)
          exact .inl ⟨_, v, hv⟩
        · exact .inl ⟨f, u, .of_holds hu, rfl⟩
      · rw [he]
        have hlogged : Upholds u { u with logs := u.logs ++ [⟨.info, "quarry.driver.network",
          "Created " ++ w.dialect.word ++ " engine",
          [("data_source", w.sourceName), ("db.system", .text w.dialect.word)], false⟩] } :=
          ⟨rfl, rfl, rfl, List.prefix_refl _⟩
        exact .inr ⟨_, hu.then_upholds hlogged, rfl⟩

/-- Trying an action again and again moves the world as the action does, and as what is done around it does. -/
theorem moves_tryFrom {α δ : Type} {R : World → World → Prop} [IsPreorder World R] (b : Backoff δ)
    {hooks : Backoff.Hooks δ (ExceptT Failure (StateM World))} {action : Session α}
    (hagain : ∀ n f delay, Moves R (hooks.again n f delay)) (hexhausted : ∀ n, Moves R (hooks.exhausted n))
    (hsleep : ∀ delay, Moves R (hooks.sleep delay)) (haction : Moves R action) (n : Nat) (delay : δ) (left : Nat) :
    Moves R (b.tryFrom hooks action n delay left) := by
  induction left generalizing n delay with
  | zero => exact haction.tryCatch fun f => (hexhausted _).bind fun _ => .throw f
  | succ left ih =>
    unfold Backoff.tryFrom
    refine .bind (.tryCatch (haction.bind fun _ => .pure _) fun f => .pure _) fun tried => ?_
    split
    · exact .pure _
    · refine .ite ((hagain ..).bind fun _ => (hsleep _).bind fun _ => ?_) (.throw _)
      split
      · exact ih ..
      · exact .throw _

/-- Trying an engine takes connections and gives them back, and logs what fails. -/
theorem sameHoldings_tryServer : Moves SameHoldings tryServer := by
  have hping : Moves SameHoldings ping := by
    refine Moves.get.bind fun w => ?_
    split
    · exact (moves_connectEngine_of _ fun w => ⟨rfl, rfl, rfl, rfl, rfl⟩).bind fun c => moves_close c
    · exact .throw _
  refine Moves.get.bind fun w => ?_
  unfold RetryPolicy.run
  split
  · exact .throw _
  · refine .ite (.throw _) (moves_tryFrom _ (fun _ _ _ => ?_) (fun _ => ?_) (fun _ => ?_) hping ..)
    · exact moves_log ..
    · exact moves_log ..
    · exact moves_emit _ rfl

/-- How connecting a server ends: it fails and leaves behind what was foretold, or the driver is connected. -/
theorem connectServer_cases (hnetwork : w.dialect.isNetwork = true) :
    (∃ f v, ends connectServer w = (.error f, v) ∧ v.initialized = w.initialized ∧
      (LeavesNothing w v ↔ ¬ w.leavesEngine)) ∨
    (∃ v, ends connectServer w = (.ok (), v) ∧ Engages w v ∧ ¬ w.leavesEngine) := by
  have hserver {P : Prop} (hembedded : w.dialect.isNetwork = false) : P :=
    Bool.noConfusion (hnetwork.symm.trans hembedded)
  unfold connectServer World.leavesEngine
  rcases createServerEngine_cases w with ⟨f, v, hv, he⟩ | ⟨u, hu, he⟩
  · refine .inl ⟨f, v, ends_bind_error he, hv.initialized, ?_⟩
    rw [he, hv.leavesNothing_iff]
    simp [hnetwork]
  let e := w.backend.engines.next
  have hset : ends (modify fun w => { w with engine := some e } : Session PUnit) u =
    (.ok ⟨⟩, { u with engine := some e }) := rfl
  have hengine : Holds w.live (some e) w.backend.natives (w.backend.engines.add { native := none }).2 w
      { u with engine := some e } := ⟨by rw [hu.rest], hu.natives, hu.engines, hu.trace⟩
  have htried := sameHoldings_tryServer.along { u with engine := some e }
  rw [he, ends_bind_ok he, ends_bind_ok hset, ends_bind_ok (ends_attempt ..)]
  dsimp only
  rcases htry : ends tryServer { u with engine := some e } with ⟨f | a, p⟩
  all_goals rw [htry] at htried
  all_goals
    have hinitialized := htried.initialized.trans hengine.initialized_eq
    have hengines := htried.engines.trans hengine.engines
    have hkept := htried.engine.trans hengine.engine_eq
  · dsimp only
    split
    case isTrue hoperational =>
      obtain ⟨q, hdispose, -, hq⟩ := ends_disposeEngine e p
      have hclear : ends (modify fun w => { w with engine := none } : Session PUnit) q =
        (.ok ⟨⟩, { q with engine := none }) := rfl
      rw [ends_bind_ok hdispose, ends_bind_ok hclear, ends_bind_ok (ends_get _)]
      dsimp only
      obtain ⟨v, hv⟩ := ends_raise (α := Unit) _ { q with engine := none }
      have hnoted := SameHoldings.of_noted ((moves_raise _).of_ends hv : Noted _ v)
      refine .inl ⟨_, v, hv, hnoted.initialized.trans (hq.initialized_eq.trans hinitialized), iff_of_true ?_ ?_⟩
      · refine .of_dropping hnoted.engine hserver ?_ (hnoted.engines.trans hq.engines)
        rw [hengines]
        rfl
      · rintro ⟨g, hg, hnot⟩
        cases hg
        exact Bool.noConfusion (hoperational.symm.trans hnot)
    case isFalse hoperational =>
      refine .inl ⟨f, p, rfl, hinitialized, iff_of_false (fun hnothing => ?_) (not_not.mpr ?_)⟩
      · cases hnothing.engine.symm.trans hkept
      · exact ⟨f, rfl, Bool.eq_false_iff.mpr hoperational⟩
  · refine .inr ⟨p, rfl, ⟨htried.dialect.trans hengine.dialect_eq, hkept, ?_, hserver⟩, nofun⟩
    rw [hengines]
    rfl

/-! ## All drivers -/

/-- How connecting a driver ends: it fails and leaves behind what was foretold, or the driver is connected. -/
theorem connectDriver_cases (w : World) :
    (∃ f v, ends connectDriver w = (.error f, v) ∧ v.initialized = w.initialized ∧
      (LeavesNothing w v ↔ ¬ w.leavesBehind)) ∨
    (∃ v, ends connectDriver w = (.ok (), v) ∧ Engages w v ∧ ¬ w.leavesBehind) := by
  unfold World.leavesBehind
  cases hdialect : w.dialect.isNetwork with
  | true =>
    have hdriver : ends connectDriver w = ends connectServer w := by
      unfold connectDriver
      rw [ends_bind_ok (ends_get w)]
      cases hserver : w.dialect with
      | sqlite | sqljs =>
        rw [hserver] at hdialect
        cases hdialect
      | _ => rfl
    rw [hdriver]
    exact connectServer_cases hdialect
  | false =>
    have hattaches := attaches_connectDriver hdialect
    rcases hends : ends connectDriver w with ⟨y, v⟩
    rw [hends] at hattaches
    rcases hattaches.leaves hdialect with ⟨f, rfl, hleaves⟩ | ⟨rfl, hleaves⟩
    · exact .inl ⟨f, v, rfl, hleaves⟩
    · exact .inr ⟨v, rfl, hleaves⟩

/-- Disconnecting a data source that has the engine of a server. -/
theorem destroy_server {e : Nat} (hnetwork : w.dialect.isNetwork = true) (hinitialized : w.initialized = true)
    (hengine : w.engine = some e) : ∃ v, ends destroy w = (.ok (), v) ∧ v.engine = none ∧ v.initialized = false ∧
      v.backend.engines = dropping (some e) w.backend.engines := by
  obtain ⟨u, hdispose, -, hu⟩ := ends_disposeEngine e w
  have hserver : ends disconnectDriver w = (.ok (), { u with engine := none }) := by
    unfold disconnectDriver disconnectServer
    rw [ends_bind_ok (ends_get _), hnetwork, if_pos rfl, ends_bind_ok (ends_get _), hengine]
    exact ends_bind_ok hdispose
  unfold destroy
  rw [ends_bind_ok (ends_get _), hinitialized]
  simp only [Bool.not_true, Bool.false_eq_true, if_false]
  rw [ends_bind_ok hserver]
  exact ⟨_, rfl, rfl, rfl, hu.engines⟩

/-- A driver that was connected is disconnected again where the hook after that fails, and nothing is left. -/
theorem leavesNothing_destroy (h : Engages w u) :
    (ends destroy { u with initialized := true }).2.initialized = false ∧
      LeavesNothing w (ends destroy { u with initialized := true }).2 := by
  cases hdialect : w.dialect.isNetwork with
  | true =>
    obtain ⟨v, he, hengine, hinitialized, hengines⟩ := destroy_server (w := { u with initialized := true })
      (h.dialect ▸ hdialect) rfl h.engine
    rw [he]
    refine ⟨hinitialized, .of_dropping hengine (fun hembedded => ?_) h.next hengines⟩
    cases hdialect.symm.trans hembedded
  | false =>
    rcases destroy_cases (w := { u with initialized := true }) (h.dialect ▸ hdialect) with
      ⟨f, v, hshared, -, he⟩ | ⟨v, hv, hinitialized, he⟩
    · have hfree : World.sharedConnection { u with initialized := true } = none := h.free hdialect
      rw [hfree] at hshared
      cases hshared rfl
    · rw [he]
      refine ⟨hinitialized, .of_dropping hv.engine (fun _ => hv.live) h.next ?_⟩
      rw [← h.engine]
      exact hv.engines

/-- What is left of a data source that could not be connected: it is not connected, and the driver holds nothing and
has disposed of each engine that was made, but for what was foretold to be left behind. -/
theorem leavesNothing_of_connectSource_error {f : Failure} (hinitialized : w.initialized = false)
    (h : ends connectSource w = (.error f, v)) :
    v.initialized = false ∧ (LeavesNothing w v ↔ ¬ w.leavesBehind) := by
  rcases connectSource_cases hinitialized with ⟨g, u, hdriver, he⟩ | ⟨u, hdriver, ⟨g, he⟩ | ⟨u', -, he⟩⟩
  all_goals cases h.symm.trans he
  all_goals
    rcases connectDriver_cases w with ⟨_, _, hends, hkept, hiff⟩ | ⟨_, hends, hengages, hnot⟩
    all_goals cases hdriver.symm.trans hends
  · exact ⟨hkept.trans hinitialized, hiff⟩
  · obtain ⟨hdown, hnothing⟩ := leavesNothing_destroy hengages
    exact ⟨hdown, iff_of_true hnothing hnot⟩

end Session

/-- A server whose first connection fails in a way that is not operational. -/
def World.refusingConnection : World :=
  { dialect := .postgres
    settings := { values := [("url", .secret "postgresql://db"), ("connect_retries", .int 3)] }
    backend := { faults := fun s => if s = .connect then [some (.fault "RuntimeError" "boom")] else [] } }

/-- Its engine is made and stays, though the data source is not connected. -/
theorem leavesNothing_refusingConnection : ∃ v,
    ends connectSource .refusingConnection = (.error (.fault "RuntimeError" "boom"), v) ∧ v.initialized = false ∧
    v.engine = some 0 ∧ ¬ World.LeavesNothing .refusingConnection v := by
  obtain ⟨v, hv⟩ : ∃ v, ends connectSource .refusingConnection = (.error (.fault "RuntimeError" "boom"), v) :=
    ⟨_, ends_eq_of_result rfl⟩
  obtain ⟨hinitialized, hiff⟩ := leavesNothing_of_connectSource_error (w := .refusingConnection) rfl hv
  have hbehind : World.leavesBehind .refusingConnection := ⟨_, rfl, rfl⟩
  have hengine : (ends connectSource .refusingConnection).2.engine = some 0 := rfl
  rw [hv] at hengine
  exact ⟨v, hv, hinitialized, hengine, fun hnothing => hiff.mp hnothing hbehind⟩

end SqlWeave
