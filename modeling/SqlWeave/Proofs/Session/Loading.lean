import SqlWeave.Proofs.Session.Stranding
import SqlWeave.Proofs.Session.Visits

/-!
# A load that comes to nothing

Before a load touches the live native database it finds an image, opens a new native database, fills that from the
image and prepares it. `World.TurnsDown` says why one of these steps fails. Whatever the reason, no more has happened
then than that the new native database was called: `World.UsesOnly` is the preorder of such steps. In the worlds that
a data source comes to, the number of a new native database is never that of the live one.
-/

namespace SqlWeave

open Session World

/-- The native database that the event is a call on. -/
def Event.native? : Event → Option Nat
  | .nativeConnect n _ | .nativeExecute n _ | .nativeSerialize n | .nativeDeserialize n _ | .nativeClose n => some n
  | _ => none

namespace World

/-! ## Why a load is turned down -/

/-- Why a load fails before it touches the live native database; the steps before the one that fails have passed. -/
inductive TurnsDown (w : World) (source : Value) (mustExist : Bool) : Failure → Prop
  | missing {s : String} (hsource : source.text? = some s) (hholds : w.storage.holds source = .ok false)
      (hmust : mustExist = true) : TurnsDown w source mustExist (.problem (.storageMissing source) none)
  | lookup {s : String} {f : Failure} (hsource : source.text? = some s) (hholds : w.storage.holds source = .error f) :
    TurnsDown w source mustExist f
  | read {s : String} {f : Failure} (hsource : source.text? = some s) (hholds : w.storage.holds source = .ok true)
      (hread : w.storage.read source = .error f) : TurnsDown w source mustExist f
  | connect {image : Value} {f : Failure} (himage : w.loading? source mustExist = some image)
      (hopening : w.opening = .error f) : TurnsDown w source mustExist f
  | convert {image : Value} {f : Failure} (himage : w.loading? source mustExist = some image)
      (hopening : w.opening = .ok ()) (hgiven : image.isNull = false) (hbytes : Image.bytesOf image = .error f) :
    TurnsDown w source mustExist f
  | deserialize {image : Value} {content : List UInt8} {f : Failure}
      (himage : w.loading? source mustExist = some image) (hopening : w.opening = .ok ())
      (hgiven : image.isNull = false) (hbytes : Image.bytesOf image = .ok content)
      (hfault : w.fault? .nativeDeserialize = some f) : TurnsDown w source mustExist f
  | pragma {image : Value} {content : List UInt8} {f : Failure} (himage : w.loading? source mustExist = some image)
      (hopening : w.opening = .ok ()) (hfilling : w.filling image = .ok content)
      (hfault : w.fault? .nativeExecute = some f) : TurnsDown w source mustExist f

/-- The image that a load takes, or why there is none. -/
def found (w : World) (source : Value) (mustExist : Bool) : Result Value :=
  match source.text? with
  | none => .ok source
  | some _ => do
    if ← w.storage.holds source then return .bytes (← w.storage.read source)
    else if mustExist then .error (.problem (.storageMissing source) none)
    else return .null

/-- How a new native database is opened, filled from an image and prepared. -/
def readying (w : World) (image : Value) : Result Unit := do
  w.opening
  let _ ← w.filling image
  passes (w.fault? .nativeExecute)

variable {w : World} {source image : Value} {mustExist : Bool} {f : Failure}

theorem found_eq_ok_iff : w.found source mustExist = .ok image ↔ w.loading? source mustExist = some image := by
  unfold found loading?
  cases source.text? with
  | none => simp
  | some s =>
    rcases w.storage.holds source with f | found
    · exact iff_of_false nofun nofun
    cases found with
    | true => cases w.storage.read source <;> simp [bind, Except.bind, pure, Except.pure]
    | false => cases mustExist <;> simp [bind, Except.bind, pure, Except.pure]

theorem turnsDown_of_found (h : w.found source mustExist = .error f) : TurnsDown w source mustExist f := by
  unfold found at h
  cases hsource : source.text? with
  | none =>
    rw [hsource] at h
    cases h
  | some s =>
    rw [hsource] at h
    rcases hholds : w.storage.holds source with g | found
    all_goals rw [hholds] at h
    · cases h
      exact .lookup hsource hholds
    cases found with
    | true =>
      rcases hread : w.storage.read source with g | content
      all_goals
        rw [hread] at h
        cases h
      exact .read hsource hholds hread
    | false =>
      cases hmust : mustExist with
      | true =>
        rw [hmust] at h
        cases h
        exact .missing hsource hholds rfl
      | false =>
        rw [hmust] at h
        cases h

theorem filling_of_given {content : List UInt8} (hgiven : image.isNull = false)
    (hbytes : Image.bytesOf image = .ok content) :
    w.filling image = (passes (w.fault? .nativeDeserialize)).map fun _ => content := by
  unfold filling
  rw [hgiven, if_neg Bool.false_ne_true, hbytes]
  cases w.fault? .nativeDeserialize <;> rfl

theorem turnsDown_of_readying (himage : w.loading? source mustExist = some image) (h : w.readying image = .error f) :
    TurnsDown w source mustExist f := by
  unfold readying at h
  rcases hopening : w.opening with g | a
  all_goals rw [hopening] at h
  · cases h
    exact .connect himage hopening
  rcases hfilling : w.filling image with g | content
  all_goals rw [hfilling] at h
  · cases h
    cases hgiven : image.isNull with
    | true =>
      rw [filling, if_pos hgiven] at hfilling
      cases hfilling
    | false =>
      rcases hbytes : Image.bytesOf image with g | content
      · rw [filling, hgiven, if_neg Bool.false_ne_true, hbytes] at hfilling
        cases hfilling
        exact .convert himage hopening hgiven hbytes
      · rw [filling_of_given hgiven hbytes] at hfilling
        cases hfault : w.fault? .nativeDeserialize with
        | none =>
          rw [hfault] at hfilling
          cases hfilling
        | some g =>
          rw [hfault] at hfilling
          cases hfilling
          exact .deserialize himage hopening hgiven hbytes hfault
  · cases hfault : w.fault? .nativeExecute with
    | none =>
      rw [hfault] at h
      cases h
    | some g =>
      rw [hfault] at h
      cases h
      exact .pragma himage hopening hfilling hfault

/-- A load is turned down exactly when there is no image for it, or the new native database is not readied. -/
theorem turnsDown_iff : TurnsDown w source mustExist f ↔ w.found source mustExist >>= w.readying = .error f := by
  constructor
  · intro h
    cases h with
    | missing hsource hholds hmust =>
      rw [found, hsource, hholds, hmust]
      rfl
    | lookup hsource hholds =>
      rw [found, hsource, hholds]
      rfl
    | read hsource hholds hread =>
      rw [found, hsource, hholds, hread]
      rfl
    | connect himage hopening =>
      rw [found_eq_ok_iff.mpr himage]
      show w.readying _ = _
      rw [readying, hopening]
      rfl
    | convert himage hopening hgiven hbytes =>
      rw [found_eq_ok_iff.mpr himage]
      show w.readying _ = _
      rw [readying, hopening, filling, hgiven, if_neg Bool.false_ne_true, hbytes]
      rfl
    | deserialize himage hopening hgiven hbytes hfault =>
      rw [found_eq_ok_iff.mpr himage]
      show w.readying _ = _
      rw [readying, hopening, filling_of_given hgiven hbytes, hfault]
      rfl
    | pragma himage hopening hfilling hfault =>
      rw [found_eq_ok_iff.mpr himage]
      show w.readying _ = _
      rw [readying, hopening, hfilling, hfault]
      rfl
  · intro h
    rcases hfound : w.found source mustExist with g | image
    all_goals rw [hfound] at h
    · cases h
      exact turnsDown_of_found hfound
    · exact turnsDown_of_readying (found_eq_ok_iff.mp hfound) h

/-! ## What is left alone -/

/-- Between the worlds no more has happened than that native database `n` was called. The data source, its driver and
its runners hold what they held, and connections, engines and the other native databases are what they were. -/
structure UsesOnly (n : Nat) (w v : World) : Prop where
  core : SameCore w v
  connections : v.backend.connections = w.backend.connections
  engines : v.backend.engines = w.backend.engines
  others : ∀ m, m ≠ n → v.backend.natives.get m = w.backend.natives.get m
  called : ∃ events, v.trace = w.trace ++ events ∧ ∀ e ∈ events, e.native? = some n

namespace UsesOnly

variable {n : Nat} {v : World}

/-- A step that is told nothing of, and changes neither connections nor engines nor native databases. -/
theorem of_untold (hcore : SameCore w v) (hconnections : v.backend.connections = w.backend.connections)
    (hengines : v.backend.engines = w.backend.engines) (hnatives : v.backend.natives = w.backend.natives)
    (htrace : v.trace = w.trace) : UsesOnly n w v where
  core := hcore
  connections := hconnections
  engines := hengines
  others _ _ := by rw [hnatives]
  called := ⟨[], by rw [htrace, List.append_nil], by simp⟩

instance : IsPreorder World (UsesOnly n) where
  refl _ := of_untold rfl rfl rfl rfl rfl
  trans u v w huv hvw := by
    refine ⟨trans_of SameCore huv.core hvw.core, ?_, ?_, ?_, told_trans huv.called hvw.called⟩
    · rw [hvw.connections, huv.connections]
    · rw [hvw.engines, huv.engines]
    · intro m hm
      rw [hvw.others m hm, huv.others m hm]

end UsesOnly

end World

namespace Session

variable {α : Type} {n : Nat} {u v w : World} {source image : Value} {mustExist : Bool} {f : Failure}

theorem usesOnly_emit {e : Event} (he : e.native? = some n) : Moves (UsesOnly n) (emit e) :=
  .modify fun _ => ⟨rfl, rfl, rfl, fun _ _ => rfl, [e], rfl, by simpa using he⟩

theorem usesOnly_fault (site : Site) : Moves (UsesOnly n) (fault site) :=
  moves_fault_of fun _ _ => .of_untold rfl rfl rfl rfl rfl

theorem usesOnly_raise (f : Failure) : Moves (UsesOnly n) (raise f : Session α) := by
  have hnote : Moves (UsesOnly n) (noteProblem f) := by
    unfold noteProblem
    split
    · exact .modify fun _ => .of_untold rfl rfl rfl rfl rfl
    · exact .pure _
  exact hnote.bind fun _ => .throw f

theorem usesOnly_nativeExecute (sql : String) : Moves (UsesOnly n) (nativeExecute n sql) :=
  (usesOnly_emit rfl).bind fun _ => usesOnly_fault _

theorem usesOnly_nativeDeserialize (content : List UInt8) : Moves (UsesOnly n) (nativeDeserialize n content) := by
  refine (usesOnly_emit rfl).bind fun _ => (usesOnly_fault _).bind fun _ => .modify fun w => ?_
  refine ⟨rfl, rfl, rfl, fun m hm => ?_, [], (List.append_nil _).symm, by simp⟩
  exact (Store.get_update ..).trans (if_neg hm.symm)

theorem usesOnly_fill (image : Value) : Moves (UsesOnly n) (fill n image) := by
  refine .ite (.bind ?_ fun content => usesOnly_nativeDeserialize content) (.pure _)
  cases Image.bytesOf image with
  | ok content => exact .pure content
  | error f => exact usesOnly_raise f

/-- A native database that is opened gets the next number. -/
theorem usesOnly_openNative (database : Value) (w : World) :
    UsesOnly w.backend.natives.next w (ends (openNative database) w).2 := by
  unfold openNative
  rw [ends_bind_ok (ends_get w)]
  dsimp only
  split
  case isFalse => exact refl_of (UsesOnly _) w
  case isTrue =>
    unfold nativeConnect
    rw [ends_bind, ends_fault]
    cases w.fault? .nativeConnect with
    | some f => exact .of_untold rfl rfl rfl rfl rfl
    | none =>
      refine ⟨rfl, rfl, rfl, ?_, [.nativeConnect w.backend.natives.next database], rfl, ?_⟩
      · intro m hm
        exact (Store.get_add w.backend.natives {} m).trans (if_neg hm.symm)
      · intro e he
        rw [List.mem_singleton.mp he]
        rfl

/-! ## The steps of a load -/

theorem load_of_found_error (h : w.found source mustExist = .error f) :
    ∃ v, ends (load source mustExist) w = (.error f, v) ∧ UsesOnly n w v := by
  have hraise (α : Type) (g : Failure) : ∃ v, ends (raise g : Session α) w = (.error g, v) ∧ UsesOnly n w v := by
    obtain ⟨v, hv⟩ := ends_raise (α := α) g w
    exact ⟨v, hv, (usesOnly_raise g).of_ends hv⟩
  unfold found at h
  unfold load
  cases hsource : source.text? with
  | none =>
    rw [hsource] at h
    cases h
  | some s =>
    rw [hsource] at h
    dsimp only
    rw [ends_bind_ok (ends_get w)]
    rcases hholds : w.storage.holds source with g | holds
    all_goals rw [hholds] at h
    · cases h
      obtain ⟨v, hv, honly⟩ := hraise Bool f
      exact ⟨v, ends_bind_error hv, honly⟩
    rw [ends_bind_ok (ends_ofResult_ok ..)]
    cases holds with
    | true =>
      rcases hread : w.storage.read source with g | content
      all_goals
        rw [hread] at h
        cases h
      obtain ⟨v, hv, honly⟩ := hraise (List UInt8) f
      exact ⟨v, ends_bind_error hv, honly⟩
    | false =>
      cases mustExist with
      | true =>
        cases h
        exact hraise Nat _
      | false => cases h

theorem load_of_found (h : w.found source mustExist = .ok image) :
    ends (load source mustExist) w = ends (replace (.text ":memory:") image) w := by
  have himage := found_eq_ok_iff.mp h
  rcases load_cases source mustExist w with ⟨g, v, hnone, -, -⟩ | ⟨other, hother, he⟩
  · cases hnone.symm.trans himage
  · rw [he, Option.some.inj (hother.symm.trans himage)]

/-- Preparing a native database asks it first, and goes no further when it refuses. -/
theorem install_of_fault (h : w.fault? .nativeExecute = some f) :
    ∃ v, ends (install n) w = (.error f, v) ∧ UsesOnly n w v := by
  have hmoves := (usesOnly_nativeExecute (n := n) "PRAGMA foreign_keys = ON").along w
  obtain ⟨v, -, -, -, -, he⟩ := upholds_notedCall (.nativeExecute n "PRAGMA foreign_keys = ON") .nativeExecute w
  rw [h] at he
  have he : ends (nativeExecute n "PRAGMA foreign_keys = ON") w = (.error f, v) := he
  rw [he] at hmoves
  rw [install_eq]
  exact ⟨v, ends_bind_error he, hmoves⟩

/-- Where the new native database is not readied, nothing else was called. -/
theorem replace_of_readying (database : Value) (h : w.readying image = .error f) :
    ∃ v, ends (replace database image) w = (.error f, v) ∧ UsesOnly w.backend.natives.next w v := by
  have hopen := usesOnly_openNative database w
  unfold readying at h
  unfold replace
  rcases openNative_cases database w with ⟨g, u, hopening, -, he⟩ | ⟨u, hopening, hu, htakes, he⟩
  all_goals rw [he] at hopen
  · rw [hopening] at h
    cases h
    exact ⟨u, ends_bind_error he, hopen⟩
  have hfill := (usesOnly_fill (n := w.backend.natives.next) image).along u
  rw [hopening] at h
  rw [ends_bind_ok he]
  rcases fill_cases image hu htakes with ⟨g, events, p, hfilling, -, he⟩ | ⟨content, p, hfilling, hp, he⟩
  all_goals rw [he] at hfill
  · rw [hfilling] at h
    cases h
    exact ⟨p, ends_bind_error he, trans_of (UsesOnly _) hopen hfill⟩
  -- The new native database is filled, so it is preparing it that fails.
  have hfault : w.fault? .nativeExecute = some f := by
    rw [hfilling] at h
    cases hf : w.fault? .nativeExecute with
    | none =>
      rw [hf] at h
      cases h
    | some g =>
      rw [hf] at h
      cases h
      rfl
  obtain ⟨v, hv, hinstall⟩ := install_of_fault (n := w.backend.natives.next) ((hp.fault? (by decide)).trans hfault)
  rw [ends_bind_ok he]
  exact ⟨v, ends_bind_error hv, trans_of (UsesOnly _) hopen (trans_of (UsesOnly _) hfill hinstall)⟩

end Session

/-! ## The worlds that are reached -/

theorem sameNatives_call (r : Nat) (c : RunnerCall) : Moves SameNatives (c.run r) := by
  have hend {e : Event} {site : Site} (c : Nat) (f : Connection → Connection) :
      Moves SameNatives (do emit e; fault site; changeConnection c f) :=
    moves_connectionCall (.modify fun _ => .of_backend_natives rfl rfl rfl)
      (moves_fault_of fun _ _ => .of_backend_natives rfl rfl rfl) c f
  exact moves_call_of (fun c => hend c _) (fun c => hend c _) r c

theorem sameNatives_execute (b : Builder Nat) (given : Value) : Moves SameNatives (execute b given) :=
  moves_execute_of sameNatives_call given (moves_obtainRunner given) b

namespace World

/-- The worlds that an embedded data source comes to which holds no native database at first: by its own calls, by
those on its runners and of builders, and by whatever else leaves its native databases alone. -/
inductive Reached : World → Prop
  | new {w : World} (hembedded : w.dialect.isNetwork = false) (hlive : w.live = none) : Reached w
  | source {w : World} (h : Reached w) (call : SourceCall) : Reached (call.after w)
  | runner {w : World} (h : Reached w) (mode : Value) : Reached (ends (createRunner mode) w).2
  | call {w : World} (h : Reached w) (r : Nat) (c : RunnerCall) : Reached (ends (c.run r) w).2
  | statement {w : World} (h : Reached w) (b : Builder Nat) (given : Value) : Reached (ends (execute b given) w).2
  | save {w : World} (h : Reached w) (location : Value) : Reached (ends (Session.save location) w).2
  | meanwhile {w v : World} (h : Reached w) (hdialect : v.dialect = w.dialect) (hlive : v.live = w.live)
      (hnatives : v.backend.natives = w.backend.natives) : Reached v

variable {w : World} {source : Value} {mustExist : Bool} {f : Failure}

/-- Of the native databases in a world that is reached, those are accounted for that were opened since the first. -/
theorem Reached.accounts (h : Reached w) : ∃ first stranded, Accounts first stranded w := by
  induction h with
  | @new w hembedded hlive =>
    refine ⟨w.backend.natives.next, [], hembedded, Nat.le_refl _, ?_, ?_, by simp⟩
    · intro n hn
      rw [hlive]
      refine iff_of_false ?_ (by simp)
      rintro ⟨hlt, -⟩
      omega
    · intro n hn
      cases hlive.symm.trans hn
  | source _ call ih =>
    obtain ⟨first, stranded, haccounts⟩ := ih
    exact ⟨first, _, haccounts.of_call call⟩
  | runner _ mode ih =>
    obtain ⟨first, stranded, haccounts⟩ := ih
    exact ⟨first, stranded, haccounts.of_sameNatives ((moves_createRunner mode).along _)⟩
  | call _ r c ih =>
    obtain ⟨first, stranded, haccounts⟩ := ih
    exact ⟨first, stranded, haccounts.of_sameNatives ((sameNatives_call r c).along _)⟩
  | statement _ b given ih =>
    obtain ⟨first, stranded, haccounts⟩ := ih
    exact ⟨first, stranded, haccounts.of_sameNatives ((sameNatives_execute b given).along _)⟩
  | save _ location ih =>
    obtain ⟨first, stranded, haccounts⟩ := ih
    exact ⟨first, stranded, haccounts.of_sameNatives ((moves_save location).along _)⟩
  | meanwhile _ hdialect hlive hnatives ih =>
    obtain ⟨first, stranded, haccounts⟩ := ih
    exact ⟨first, stranded, haccounts.of_sameNatives (.of_backend_natives hdialect hlive hnatives)⟩

theorem Reached.live_ne_next (h : Reached w) : w.live ≠ some w.backend.natives.next := by
  intro hlive
  obtain ⟨first, stranded, haccounts⟩ := h.accounts
  exact Nat.lt_irrefl _ (haccounts.live_lt _ hlive)

/-- A load fails for no other reason but that the connection of the shared runner cannot be closed, or no engine is
made. -/
theorem turnsDown_or_of_load_error {v : World} (h : ends (load source mustExist) w = (.error f, v)) :
    TurnsDown w source mustExist f ∨ w.fault? .close = some f ∨ w.fault? .createEngine = some f := by
  have hpasses {x : Option Failure} (hx : passes x = .error f) : x = some f := by
    cases x <;> cases hx
    rfl
  rw [turnsDown_iff]
  rcases hfound : w.found source mustExist with g | image
  · obtain ⟨u, hu, -⟩ := load_of_found_error (n := 0) hfound
    cases h.symm.trans hu
    exact .inl rfl
  have hreplaces := replaces_replace (.text ":memory:") image w
  rw [← load_of_found hfound, h] at hreplaces
  show w.readying image = _ ∨ _
  unfold readying
  generalize hx : (Except.error f : Result Nat) = x at hreplaces
  cases hreplaces with
  | unopened hopening hv =>
    cases hx
    exact .inl (by rw [hopening]; rfl)
  | unfilled hopening hfilling hv =>
    cases hx
    exact .inl (by rw [hopening, hfilling]; rfl)
  | filled hopening hfilling hu hv =>
    rw [hopening, hfilling]
    cases hv with
    | refused hprepare hv =>
      cases hx
      rw [hu.preparing, preparing] at hprepare
      cases hexecute : w.fault? .nativeExecute with
      | some g =>
        rw [hexecute] at hprepare
        exact .inl hprepare
      | none =>
        rw [hexecute] at hprepare
        have hclose : (if w.sharedConnection.isSome then passes (w.fault? .close) else .ok ()) = .error f := hprepare
        split at hclose
        · exact .inr (.inl (hpasses hclose))
        · cases hclose
    | unbound hprepare hfault hv =>
      cases hx
      rw [hu.fault? (by decide)] at hfault
      exact .inr (.inr hfault)
    | installed hprepare hfault hfree hv => cases hx

/-- A load that is turned down fails with the reason, and leaves the live database alone: the driver holds what it
held, so do the runners, and nothing was called but a native database that is not the live one. -/
theorem load_of_turnsDown (h : Reached w) (hdown : TurnsDown w source mustExist f) :
    ∃ n v, ends (load source mustExist) w = (.error f, v) ∧ w.live ≠ some n ∧ UsesOnly n w v := by
  refine ⟨w.backend.natives.next, ?_⟩
  rw [turnsDown_iff] at hdown
  rcases hfound : w.found source mustExist with g | image
  all_goals rw [hfound] at hdown
  · cases hdown
    obtain ⟨v, hv, honly⟩ := load_of_found_error (n := w.backend.natives.next) hfound
    exact ⟨v, hv, h.live_ne_next, honly⟩
  · obtain ⟨v, hv, honly⟩ := replace_of_readying (.text ":memory:") hdown
    rw [load_of_found hfound]
    exact ⟨v, hv, h.live_ne_next, honly⟩

/-- An embedded data source that is connected. The first image for its database is not taken. -/
def refusingOneImage : World := SourceCall.connect.after
  { dialect := .sqljs
    backend := { faults := fun s =>
      if s = .nativeDeserialize then [some (.fault "DatabaseError" "file is not a database")] else [] } }

/-- Its runner has changed the database in a transaction that is active. -/
def changedWithin : World :=
  let opened := (ends ((RunnerCall.start .null).run 0) (ends createRunner refusingOneImage).2).2
  (ends ((RunnerCall.query (.text "DELETE FROM t") (.list [])).run 0) opened).2

theorem load_changedWithin :
    let w := changedWithin
    w.live = some 1 ∧ w.shared = some 0 ∧ (w.runners.get 0).active = true ∧ (w.runners.get 0).dirty = true ∧
    ∃ n v, ends (load (.bytes [1, 2]) true) w = (.error (.fault "DatabaseError" "file is not a database"), v) ∧
      w.live ≠ some n ∧ UsesOnly n w v := by
  intro w
  have hreached : Reached w :=
    .call (.call (.runner (.source (.new rfl rfl) .connect) usualMode) 0 (.start .null)) 0 (.query _ _)
  have himage : w.loading? (.bytes [1, 2]) true = some (.bytes [1, 2]) := rfl
  have hdown : TurnsDown w (.bytes [1, 2]) true (.fault "DatabaseError" "file is not a database") :=
    .deserialize himage rfl rfl rfl rfl
  exact ⟨rfl, rfl, rfl, rfl, load_of_turnsDown hreached hdown⟩

end World

end SqlWeave
