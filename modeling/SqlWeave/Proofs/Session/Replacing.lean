import SqlWeave.Proofs.Session.Installing
import SqlWeave.Session.Source

/-!
# How an embedded database is replaced, connected and disconnected

A new native database is opened, filled from an image if there is one, and installed. Where that is turned down is
told by the world in which the whole begins: `World.opening`, `World.filling` and `World.preparing` are the results of
the steps, and no step changes what a later one asks. Loading and connecting first look for the image to take, and
`World.loading?` and `World.connecting?` say which it is. Disconnecting lets everything go, unless a connection cannot
be closed.
-/

namespace SqlWeave

open Session World

namespace World

/-! ## Opening and filling -/

/-- How opening a native database ends: a module that opens none may be given, or the backend may fail. -/
def opening (w : World) : Result Unit :=
  if (w.settings.get "driver").isNull || (w.settings.get "driver").sameObject module then
    passes (w.fault? .nativeConnect)
  else .error .noMember

/-- The image that a native database is filled from, or why it is not. Nothing is filled in from nothing. -/
def filling (w : World) (image : Value) : Result (List UInt8) :=
  if image.isNull then .ok []
  else do
    let content ← Image.bytesOf image
    passes (w.fault? .nativeDeserialize)
    return content

/-- The native database of the next number was opened, and its image is `content`. The driver holds what it held. -/
structure Opened (content : List UInt8) (events : List Event) (w v : World) : Prop where
  holds : Holds w.live w.engine v.backend.natives w.backend.engines w v
  next : v.backend.natives.next = w.backend.natives.next + 1
  opened : v.backend.natives.get w.backend.natives.next = { image := content }
  others : ∀ n, n ≠ w.backend.natives.next → v.backend.natives.get n = w.backend.natives.get n
  takes : TakesAt [.nativeConnect, .nativeDeserialize] w v
  runners : v.runners = w.runners
  told : v.trace = w.trace ++ events

/-- What is told of filling native database `n` with an image. -/
def fillEvents (n : Nat) (image : Value) (content : List UInt8) : List Event :=
  if image.isNull then [] else [.nativeDeserialize n content]

/-- How a new native database takes the place of another, perhaps filled from an image: none is opened, or it is
opened but not filled, or it is filled and installing it decides. -/
inductive Replaces (database image : Value) (w : World) : Result Nat → World → Prop
  | unopened {f : Failure} {v : World} (hopening : w.opening = .error f) (hv : Upholds w v) :
    Replaces database image w (.error f) v
  | unfilled {f : Failure} {events : List Event} {v : World} (hopening : w.opening = .ok ())
      (hfilling : w.filling image = .error f) (hv : Opened [] events w v) : Replaces database image w (.error f) v
  | filled {x : Result Unit} {content : List UInt8} {u v : World} (hopening : w.opening = .ok ())
      (hfilling : w.filling image = .ok content)
      (hu : Opened content (.nativeConnect w.backend.natives.next database ::
        fillEvents w.backend.natives.next image content) w u)
      (hv : Installs w.backend.natives.next u x v) :
      Replaces database image w (x.map fun _ => w.backend.natives.next) v

variable {content : List UInt8} {events : List Event} {u v w : World}

namespace Opened

theorem fault? (h : Opened content events w v) {site : Site} (hs : site ∉ [.nativeConnect, .nativeDeserialize]) :
    v.fault? site = w.fault? site :=
  h.takes.fault? hs

/-- Preparing depends on nothing that opening changes. -/
theorem preparing (h : Opened content events w v) : v.preparing = w.preparing := by
  rw [World.preparing, h.fault? (by decide), h.fault? (by decide), sharedConnection, h.holds.shared_eq, h.runners]
  rfl

/-- A failure that is noted changes nothing of what was opened. -/
theorem of_raised (h : Opened content events w u) {f : Failure}
    (hv : ends (raise f : Session (List UInt8)) u = (.error f, v)) :
    ∃ events, Opened content events w v := by
  have hnoted : Noted u v := (moves_raise f).of_ends hv
  have hupholds : Upholds u v := (moves_raise f).of_ends hv
  obtain ⟨rest, hrest⟩ := hupholds.trace
  have hrunners : v.runners = u.runners := (congrArg World.runners hnoted :)
  refine ⟨events ++ rest, ?_, ?_, ?_, ?_, ?_, hrunners.trans h.runners, ?_⟩
  · have := h.holds.then_upholds hupholds
    rwa [← hupholds.natives] at this
  · rw [hupholds.natives, h.next]
  · rw [hupholds.natives, h.opened]
  · exact fun n hn => by rw [hupholds.natives, h.others n hn]
  · exact fun s hs => by rw [hnoted.backend, h.takes s hs]
  · rw [← hrest, h.told, List.append_assoc]

end Opened

end World

namespace Session

variable {n : Nat} {u v w : World}

/-- A native database is opened, or there is none. -/
theorem openNative_cases (database : Value) (w : World) :
    (∃ f v, w.opening = .error f ∧ Upholds w v ∧ ends (openNative database) w = (.error f, v)) ∨
    (∃ v, w.opening = .ok () ∧ Opened [] [.nativeConnect w.backend.natives.next database] w v ∧
      TakesAt [.nativeConnect] w v ∧ ends (openNative database) w = (.ok w.backend.natives.next, v)) := by
  unfold openNative World.opening
  rw [ends_bind_ok (ends_get w)]
  dsimp only
  split
  case isFalse => exact .inl ⟨_, w, rfl, refl_of Upholds w, rfl⟩
  case isTrue =>
    unfold nativeConnect
    rw [ends_bind, ends_fault]
    cases w.fault? .nativeConnect with
    | some f =>
      refine .inl ⟨f, _, rfl, ?_, rfl⟩
      exact ⟨rfl, rfl, rfl, List.prefix_refl _⟩
    | none =>
      refine .inr ⟨_, rfl, ⟨?_, ?_, ?_, ?_, ?_, ?_, ?_⟩, ?_, rfl⟩
      · exact ⟨rfl, rfl, rfl, List.prefix_append _ _⟩
      · rfl
      · exact (Store.get_add w.backend.natives {} _).trans (if_pos rfl)
      · exact fun m hm => (Store.get_add w.backend.natives {} m).trans (if_neg hm.symm)
      · exact fun s hs => if_neg (by simp_all)
      · rfl
      · rfl
      · exact fun s hs => if_neg (by simpa using hs)

/-- Fills native database `n` from an image, if there is one. -/
def fill (n : Nat) (image : Value) : Session Unit := do
  if !image.isNull then nativeDeserialize n (← ofResult (Image.bytesOf image))

/-- Opens a native database, fills it and makes it the live one. -/
def replace (database image : Value) : Session Nat := do
  let n ← openNative database
  fill n image
  install n
  return n

/-- A native database that was opened takes an image, or it refuses it. -/
theorem nativeDeserialize_cases {events : List Event} (content : List UInt8) (hu : Opened [] events w u)
    (htakes : TakesAt [.nativeConnect] w u) :
    (∃ f v, w.fault? .nativeDeserialize = some f ∧
      Opened [] (events ++ [.nativeDeserialize w.backend.natives.next content]) w v ∧
      ends (nativeDeserialize w.backend.natives.next content) u = (.error f, v)) ∨
    (∃ v, w.fault? .nativeDeserialize = none ∧
      Opened content (events ++ [.nativeDeserialize w.backend.natives.next content]) w v ∧
      ends (nativeDeserialize w.backend.natives.next content) u = (.ok (), v)) := by
  have hnoted (e : Event) : World.fault? { u with trace := u.trace ++ [e] } .nativeDeserialize =
      w.fault? .nativeDeserialize := htakes.fault? (by decide)
  have hrest (natives : Store Native) : Holds w.live w.engine natives w.backend.engines w { u with
      trace := u.trace ++ [.nativeDeserialize w.backend.natives.next content]
      backend := { u.backend with
        natives
        faults := fun s => if s = .nativeDeserialize then (u.backend.faults .nativeDeserialize).tail
          else u.backend.faults s } } :=
    ⟨by rw [hu.holds.rest], rfl, hu.holds.engines, hu.holds.trace.trans (List.prefix_append _ _)⟩
  have hspared (s : Site) (hs : s ∉ [.nativeConnect, .nativeDeserialize]) :
      (if s = .nativeDeserialize then (u.backend.faults .nativeDeserialize).tail else u.backend.faults s) =
        w.backend.faults s := by
    rw [if_neg (by simp_all), htakes s (by simp_all)]
  have htold : u.trace ++ [.nativeDeserialize w.backend.natives.next content] =
      w.trace ++ (events ++ [.nativeDeserialize w.backend.natives.next content]) := by
    rw [hu.told, List.append_assoc]
  unfold nativeDeserialize
  rw [ends_bind_ok (ends_emit ..), ends_bind, ends_fault, hnoted]
  cases w.fault? .nativeDeserialize with
  | some f =>
    refine .inl ⟨f, _, rfl, ⟨?_, ?_, ?_, ?_, ?_, ?_, ?_⟩, rfl⟩
    · exact hrest u.backend.natives
    · exact hu.next
    · exact hu.opened
    · exact hu.others
    · exact hspared
    · exact hu.runners
    · exact htold
  | none =>
    refine .inr ⟨_, rfl, ⟨?_, ?_, ?_, ?_, ?_, ?_, ?_⟩, rfl⟩
    · exact hrest _
    · exact hu.next
    · exact (Store.get_update_self ..).trans
        (congrArg (fun x : Native => { x with image := content }) hu.opened)
    · exact fun n hn => (Store.get_update ..).trans ((if_neg hn.symm).trans (hu.others n hn))
    · exact hspared
    · exact hu.runners
    · exact htold

/-- How a native database that was opened is filled. -/
theorem fill_cases {events : List Event} (image : Value) (hu : Opened [] events w u)
    (htakes : TakesAt [.nativeConnect] w u) :
    (∃ f events v, w.filling image = .error f ∧ Opened [] events w v ∧
      ends (fill w.backend.natives.next image) u = (.error f, v)) ∨
    (∃ content v, w.filling image = .ok content ∧
      Opened content (events ++ fillEvents w.backend.natives.next image content) w v ∧
      ends (fill w.backend.natives.next image) u = (.ok (), v)) := by
  unfold fill World.filling fillEvents
  cases image.isNull with
  | true => exact .inr ⟨[], u, rfl, by simpa using hu, rfl⟩
  | false =>
    simp only [Bool.not_false, if_true, Bool.false_eq_true, if_false]
    cases Image.bytesOf image with
    | error f =>
      obtain ⟨v, hv⟩ := ends_raise (α := List UInt8) f u
      obtain ⟨events, hopened⟩ := hu.of_raised hv
      exact .inl ⟨f, events, v, rfl, hopened, ends_bind_error hv⟩
    | ok content =>
      rw [ends_bind_ok (ends_ofResult_ok ..)]
      rcases nativeDeserialize_cases content hu htakes with ⟨f, v, hf, hv, he⟩ | ⟨v, hf, hv, he⟩
      · refine .inl ⟨f, _, v, ?_, hv, he⟩
        rw [hf]
        rfl
      · refine .inr ⟨content, v, ?_, hv, he⟩
        rw [hf]
        rfl

theorem replace_null (database : Value) :
    replace database .null = (openNative database >>= fun n => install n >>= fun _ => pure n) := rfl

theorem replaces_replace (database image : Value) (w : World) :
    Replaces database image w (ends (replace database image) w).1 (ends (replace database image) w).2 := by
  unfold replace
  rcases openNative_cases database w with ⟨f, v, hopening, hv, he⟩ | ⟨u, hopening, hu, htakes, he⟩
  · rw [ends_bind_error he]
    exact .unopened hopening hv
  rw [ends_bind_ok he]
  rcases fill_cases image hu htakes with ⟨f, events, v, hfilling, hv, he⟩ | ⟨content, p, hfilling, hp, he⟩
  · rw [ends_bind_error he]
    exact .unfilled hopening hfilling hv
  rw [ends_bind_ok he]
  have hinstalls := installs_install w.backend.natives.next p
  rcases hx : ends (install w.backend.natives.next) p with ⟨f | a, v⟩
  all_goals rw [hx] at hinstalls
  · rw [ends_bind_error hx]
    exact .filled hopening hfilling hp hinstalls
  · rw [ends_bind_ok hx]
    exact .filled hopening hfilling hp hinstalls

theorem importImage_eq (image : Value) : importImage image = replace (.text ":memory:") image := by
  unfold importImage replace fill
  cases image.isNull with
  | true => rfl
  | false => simp only [Bool.not_false, if_true, bind_assoc]

end Session

/-! ## Loading -/

namespace World

/-- The image that a load takes, when it finds what it is asked for; the empty database has none. -/
def loading? (w : World) (source : Value) (mustExist : Bool) : Option Value :=
  match source.text? with
  | none => some source
  | some _ =>
    match w.storage.holds source, w.storage.read source with
    | .ok true, .ok image => some (.bytes image)
    | .ok false, _ => if mustExist then none else some .null
    | _, _ => none

/-- Nothing has changed but the storage and notes. -/
def Unmoved (w v : World) : Prop := v = { w with storage := v.storage, trace := v.trace, logs := v.logs }

instance : IsPreorder World Unmoved where
  refl _ := rfl
  trans u v w huv hvw := by
    unfold Unmoved at huv hvw ⊢
    rw [hvw, huv]

instance : Reports Unmoved where
  logged _ _ := rfl
  reported _ _ _ := rfl

end World

namespace Session

variable {u v w : World}

/-- A load takes an image, or it fails before it opens a native database. -/
theorem load_cases (source : Value) (mustExist : Bool) (w : World) :
    (∃ f v, w.loading? source mustExist = none ∧ Unmoved w v ∧ ends (load source mustExist) w = (.error f, v)) ∨
    (∃ image, w.loading? source mustExist = some image ∧
      ends (load source mustExist) w = ends (replace (.text ":memory:") image) w) := by
  unfold load World.loading?
  cases source.text? with
  | none => exact .inr ⟨source, rfl, by rw [← importImage_eq]⟩
  | some s =>
    dsimp only
    rw [ends_bind_ok (ends_get w)]
    cases w.storage.holds source with
    | error f =>
      obtain ⟨v, hv⟩ := ends_raise (α := Bool) f w
      exact .inl ⟨f, v, rfl, (moves_raise f).of_ends hv, ends_bind_error hv⟩
    | ok found =>
      rw [ends_bind_ok (ends_ofResult_ok ..)]
      cases found with
      | true =>
        cases w.storage.read source with
        | error f =>
          obtain ⟨v, hv⟩ := ends_raise (α := List UInt8) f w
          exact .inl ⟨f, v, rfl, (moves_raise f).of_ends hv, ends_bind_error hv⟩
        | ok image => exact .inr ⟨.bytes image, rfl, by rw [← importImage_eq]; rfl⟩
      | false =>
        cases mustExist with
        | true =>
          obtain ⟨v, hv⟩ := ends_raise (α := Nat) (.problem (.storageMissing source) none) w
          exact .inl ⟨_, v, rfl, (moves_raise _).of_ends hv, hv⟩
        | false => exact .inr ⟨.null, rfl, by rw [← importImage_eq]; rfl⟩

/-! ## Connecting -/

/-- A directory is made, or that fails; either way the storage may have changed. -/
theorem makeDatabaseDirectory_cases (database : Value) (w : World) :
    (∃ f v, Unmoved w v ∧ ends (makeDatabaseDirectory database) w = (.error f, v)) ∨
    (∃ storage, ends (makeDatabaseDirectory database) w = (.ok (), { w with storage })) := by
  unfold makeDatabaseDirectory
  cases database.text? with
  | none => exact .inl ⟨_, w, refl_of Unmoved w, rfl⟩
  | some s =>
    dsimp only
    cases databasePath s with
    | error f =>
      obtain ⟨v, hv⟩ := ends_raise (α := FilePath) f w
      exact .inl ⟨f, v, (moves_raise f).of_ends hv, ends_bind_error hv⟩
    | ok path =>
      rw [ends_bind_ok (ends_ofResult_ok ..), ends_bind_ok (ends_get w)]
      rcases w.storage.files.makeAll path.dropLast with ⟨f | a, files⟩
      · have hmade : Unmoved w { w with storage := { w.storage with files } } := rfl
        obtain ⟨v, hv⟩ := ends_raise (α := Unit) f { w with storage := { w.storage with files } }
        exact .inl ⟨f, v, trans_of Unmoved hmade ((moves_raise f).of_ends hv), hv⟩
      · exact .inr ⟨_, rfl⟩

/-- What is noted after a native database has taken the place of another is noted only when it has. -/
theorem replaces_noted (database image : Value) {note : Nat → Session Unit}
    (hnote : ∀ n w, ∃ v, Noted w v ∧ ends (note n) w = (.ok (), v)) (w : World) :
    ∃ x u v, Replaces database image w x u ∧ Noted u v ∧
      ends (replace database image >>= note) w = (x.map fun _ => (), v) := by
  have hreplaces := replaces_replace database image w
  rcases hx : ends (replace database image) w with ⟨f | n, u⟩
  all_goals rw [hx] at hreplaces
  · exact ⟨.error f, u, u, hreplaces, refl_of Noted u, ends_bind_error hx⟩
  · obtain ⟨v, hv, he⟩ := hnote n u
    exact ⟨.ok n, u, v, hreplaces, hv, (ends_bind_ok hx).trans he⟩

end Session

namespace World

/-- The image that connecting an embedded data source takes, when it comes to that. A database file is opened as it
is. -/
def connecting? (w : World) : Option Value :=
  if w.dialect = .sqlite then
    if w.settings.database.text? = some ":memory:" then some .null
    else match (ends (makeDatabaseDirectory w.settings.database) w).1 with
      | .ok _ => some .null
      | .error _ => none
  else if w.settings.location.truth then w.loading? w.settings.location false
  else some (w.settings.get "database_content")

/-- How connecting an embedded data source ends: nothing has come of it, or a new native database was to take the
place of another. -/
inductive Attaches (w : World) : Result Unit → World → Prop
  | unfound {f : Failure} {v : World} (himage : w.connecting? = none) (hv : Unmoved w v) : Attaches w (.error f) v
  | replaces {database image : Value} {storage : Storage} {x : Result Nat} {u v : World}
      (himage : w.connecting? = some image) (hu : Replaces database image { w with storage } x u) (hv : Noted u v) :
      Attaches w (x.map fun _ => ()) v

end World

namespace Session

variable {u v w : World}

theorem attaches_connectFile (hdialect : w.dialect = .sqlite) :
    Attaches w (ends connectFile w).1 (ends connectFile w).2 := by
  let P (p : Result Unit × World) : Prop := Attaches w p.1 p.2
  have hconnecting : w.connecting? = if w.settings.database.text? = some ":memory:" then some .null
    else match (ends (makeDatabaseDirectory w.settings.database) w).1 with
      | .ok _ => some .null
      | .error _ => none := if_pos hdialect
  have hreplaces (storage : Storage) (himage : w.connecting? = some .null) : P (ends (do
      let n ← openNative w.settings.database
      install n
      log .info "quarry.driver.sqlite.driver" "Opened SQLite database"
        [← sourceField, ("db.name", w.settings.database)]) { w with storage }) := by
    have hnoted (p : World) : Noted p { p with logs := p.logs ++ [⟨.info, "quarry.driver.sqlite.driver",
      "Opened SQLite database", [("data_source", p.sourceName), ("db.name", w.settings.database)], false⟩] } := rfl
    obtain ⟨x, u, v, hu, hv, he⟩ := replaces_noted w.settings.database .null
      (fun _ p => ⟨_, hnoted p, rfl⟩) { w with storage }
    simp only [replace_null, bind_assoc, pure_bind] at he
    have hx : P (x.map fun _ => (), v) := .replaces himage hu hv
    rw [← he] at hx
    exact hx
  unfold connectFile
  rw [ends_bind_ok (ends_get w)]
  refine guarded_elim (P := P) (fun hfile => ?_) fun hmemory => ?_
  · rw [if_neg hfile] at hconnecting
    rcases makeDatabaseDirectory_cases w.settings.database w with ⟨f, v, hv, he⟩ | ⟨storage, he⟩
    all_goals rw [he] at hconnecting
    · rw [ends_bind_error he]
      exact .unfound hconnecting hv
    · rw [ends_bind_ok he]
      exact hreplaces storage hconnecting
  · rw [if_pos (not_not.mp hmemory)] at hconnecting
    exact hreplaces w.storage hconnecting

theorem attaches_connectImage (hdialect : w.dialect ≠ .sqlite) :
    Attaches w (ends connectImage w).1 (ends connectImage w).2 := by
  let P (p : Result Unit × World) : Prop := Attaches w p.1 p.2
  have hnoted (p : World) : Noted p { p with logs := p.logs ++ [⟨.info, "quarry.driver.sqljs.driver",
    "Embedded database ready", [("data_source", p.sourceName), ("location", w.settings.location)], false⟩] } := rfl
  have hreplaces {image : Value} (himage : w.connecting? = some image) : P (ends (do
      let _ ← replace (.text ":memory:") image
      log .info "quarry.driver.sqljs.driver" "Embedded database ready"
        [← sourceField, ("location", w.settings.location)]) w) := by
    obtain ⟨x, u, v, hu, hv, he⟩ := replaces_noted (.text ":memory:") image (fun _ p => ⟨_, hnoted p, rfl⟩) w
    have hu : Replaces (.text ":memory:") image { w with storage := w.storage } x u := hu
    have hx : P (x.map fun _ => (), v) := .replaces himage hu hv
    rw [← he] at hx
    exact hx
  unfold connectImage
  rw [ends_bind_ok (ends_get w)]
  dsimp only
  have hconnecting : w.connecting? = if w.settings.location.truth then w.loading? w.settings.location false
    else some (w.settings.get "database_content") := if_neg hdialect
  split
  case isTrue hlocation =>
    rw [if_pos hlocation] at hconnecting
    rcases load_cases w.settings.location false w with ⟨f, v, hnone, hv, he⟩ | ⟨image, himage, he⟩
    · rw [ends_bind_error he]
      exact .unfound (hconnecting.trans hnone) hv
    · have := hreplaces (hconnecting.trans himage)
      rw [ends_bind] at this ⊢
      rwa [he]
  case isFalse hlocation =>
    rw [if_neg hlocation] at hconnecting
    rw [importImage_eq]
    exact hreplaces hconnecting

theorem attaches_connectDriver (hembedded : w.dialect.isNetwork = false) :
    Attaches w (ends connectDriver w).1 (ends connectDriver w).2 := by
  unfold connectDriver
  rw [ends_bind_ok (ends_get w)]
  cases hdialect : w.dialect with
  | sqlite => exact attaches_connectFile hdialect
  | sqljs => exact attaches_connectImage (by rw [hdialect]; decide)
  | _ =>
    rw [hdialect] at hembedded
    cases hembedded

/-- How connecting a data source ends that may be connected: connecting the driver fails, or it is connected, and the
hook after that decides whether it stays so. -/
theorem connectSource_cases (hinitialized : w.initialized = false) :
    (∃ f v, ends connectDriver w = (.error f, v) ∧ ends connectSource w = (.error f, v)) ∨
    (∃ u, ends connectDriver w = (.ok (), u) ∧
      ((∃ f, ends connectSource w = (.error f, (ends destroy { u with initialized := true }).2)) ∨
      ∃ v, Noted { u with initialized := true } v ∧ ends connectSource w = (.ok (), v))) := by
  unfold connectSource
  rw [ends_bind_ok (ends_get w), hinitialized]
  simp only [Bool.false_eq_true, if_false]
  rcases hconnect : ends connectDriver w with ⟨f | a, u⟩
  · exact .inl ⟨f, u, rfl, ends_bind_error hconnect⟩
  · refine .inr ⟨u, rfl, ?_⟩
    have hmark : ends (modify fun w => { w with initialized := true } : Session PUnit) u =
        (.ok ⟨⟩, { u with initialized := true }) := rfl
    rw [ends_bind_ok hconnect, ends_bind_ok hmark, ends_bind_ok (ends_get _)]
    split
    case h_1 f hhook =>
      refine .inl ?_
      rcases hdestroy : ends destroy { u with initialized := true } with ⟨g | b, v⟩
      · exact ⟨g, ends_bind_error hdestroy⟩
      · exact ⟨f, ends_bind_ok hdestroy⟩
    case h_2 =>
      refine .inr ⟨_, ?_, rfl⟩
      rfl

theorem connectSource_of_initialized (hinitialized : w.initialized = true) :
    ∃ f v, Noted w v ∧ ends connectSource w = (.error f, v) := by
  unfold connectSource
  rw [ends_bind_ok (ends_get w), if_pos hinitialized]
  obtain ⟨v, hv⟩ := ends_raise (α := PUnit) _ w
  exact ⟨_, v, (moves_raise _).of_ends hv, ends_bind_error hv⟩

end Session

/-! ## Disconnecting -/

namespace World

/-- An embedded driver has let everything go that it held. -/
structure Releases (w v : World) : Prop where
  dialect : v.dialect = w.dialect
  live : v.live = none
  engine : v.engine = none
  natives : v.backend.natives = closing w.live w.backend.natives
  engines : v.backend.engines = dropping w.engine w.backend.engines

end World

namespace Session

variable {u v w : World}

/-- Lets the shared runner and its connection go. -/
def releaseShared : Session Unit := do
  match (← get).shared with
  | some r =>
    closeConnection r
    modify fun w => { w with shared := none }
  | none => pure ()

def releaseEngine : Session Unit := do
  match (← get).engine with
  | some e =>
    disposeEngine e
    modify fun w => { w with engine := none }
  | none => pure ()

def releaseLive : Session Unit := do
  match (← get).live with
  | some n =>
    nativeClose n
    modify fun w => { w with live := none }
  | none => pure ()

theorem disconnectEmbedded_eq :
    disconnectEmbedded = (releaseShared >>= fun _ => releaseEngine >>= fun _ => releaseLive) := by
  have hengine : releaseEngine >>= (fun _ => releaseLive) = (get >>= fun w => match w.engine with
      | some e => disposeEngine e >>= fun _ => modify (fun w => { w with engine := none }) >>= fun _ => releaseLive
      | none => releaseLive) := by
    unfold releaseEngine
    rw [bind_assoc]
    refine congrArg _ (funext fun w => ?_)
    cases w.engine with
    | none => rfl
    | some e => exact bind_assoc ..
  unfold disconnectEmbedded
  rw [hengine]
  unfold releaseShared
  rw [bind_assoc]
  refine congrArg _ (funext fun w => ?_)
  cases w.shared with
  | none => rfl
  | some r => exact (bind_assoc ..).symm

theorem releaseShared_cases (w : World) :
    (∃ f v, w.sharedConnection.isSome ∧ Upholds w v ∧ ends releaseShared w = (.error f, v)) ∨
    (∃ v, Upholds w v ∧ ends releaseShared w = (.ok (), { v with shared := none })) := by
  unfold releaseShared World.sharedConnection
  rw [ends_bind_ok (ends_get w)]
  cases hshared : w.shared with
  | none =>
    have hsame : w = { w with shared := none } := by rw [← hshared]
    exact .inr ⟨w, refl_of Upholds w, congrArg (Prod.mk _) hsame⟩
  | some r =>
    dsimp only
    obtain ⟨v, hv, -, -, hclose⟩ := upholds_closeConnection r w
    cases hconnection : (w.runners.get r).connection with
    | none =>
      rw [hconnection] at hclose
      exact .inr ⟨v, hv, ends_bind_ok hclose⟩
    | some c =>
      rw [hconnection] at hclose
      cases hf : w.fault? .close with
      | some f =>
        rw [hf] at hclose
        exact .inl ⟨f, v, by rw [Option.bind_some, hconnection]; rfl, hv, ends_bind_error hclose⟩
      | none =>
        rw [hf] at hclose
        exact .inr ⟨v, hv, ends_bind_ok hclose⟩

theorem ends_releaseEngine (w : World) : ∃ v, ends releaseEngine w = (.ok (), v) ∧
    Holds w.live none w.backend.natives (dropping w.engine w.backend.engines) w v := by
  unfold releaseEngine
  rw [ends_bind_ok (ends_get w)]
  cases hengine : w.engine with
  | none => exact ⟨w, rfl, by rw [← hengine], rfl, rfl, List.prefix_refl _⟩
  | some e =>
    refine ⟨_, rfl, ?_⟩
    exact ⟨rfl, rfl, rfl, List.prefix_append _ _⟩

theorem ends_releaseLive (w : World) : ∃ v, ends releaseLive w = (.ok (), v) ∧
    Holds none w.engine (closing w.live w.backend.natives) w.backend.engines w v := by
  unfold releaseLive
  rw [ends_bind_ok (ends_get w)]
  cases hlive : w.live with
  | none => exact ⟨w, rfl, by rw [← hlive], rfl, rfl, List.prefix_refl _⟩
  | some n =>
    refine ⟨_, rfl, ?_⟩
    exact ⟨rfl, rfl, rfl, List.prefix_append _ _⟩

/-- Disconnecting lets everything go, unless the connection that callers share cannot be closed. -/
theorem disconnectEmbedded_cases (w : World) :
    (∃ f v, w.sharedConnection.isSome ∧ Upholds w v ∧ ends disconnectEmbedded w = (.error f, v)) ∨
    (∃ v, Releases w v ∧ ends disconnectEmbedded w = (.ok (), v)) := by
  rw [disconnectEmbedded_eq]
  rcases releaseShared_cases w with ⟨f, v, hshared, hv, he⟩ | ⟨u, hu, he⟩
  · exact .inl ⟨f, v, hshared, hv, ends_bind_error he⟩
  · obtain ⟨p, hengine, hp⟩ := ends_releaseEngine { u with shared := none }
    obtain ⟨v, hlive, hv⟩ := ends_releaseLive p
    refine .inr ⟨v, ?_, (ends_bind_ok he).trans ((ends_bind_ok hengine).trans hlive)⟩
    have hreleased := hp.trans hv
    rw [hp.live_eq, hp.engine_eq, hp.natives, hp.engines] at hreleased
    have hkept : closing u.live u.backend.natives = closing w.live w.backend.natives ∧
        dropping u.engine u.backend.engines = dropping w.engine w.backend.engines := by
      rw [hu.live_eq, hu.natives, hu.engine_eq, hu.engines]
      exact ⟨rfl, rfl⟩
    exact ⟨hreleased.dialect_eq.trans hu.dialect_eq, hreleased.live_eq, hreleased.engine_eq,
      hreleased.natives.trans hkept.1, hreleased.engines.trans hkept.2⟩

/-- Disconnecting an embedded data source, if it is connected. -/
theorem destroy_cases (hembedded : w.dialect.isNetwork = false) :
    (∃ f v, (w.initialized → w.sharedConnection.isSome) ∧ Upholds w v ∧ ends destroy w = (.error f, v)) ∨
    (∃ v, Releases w v ∧ v.initialized = false ∧ ends destroy w = (.ok (), v)) := by
  unfold destroy
  rw [ends_bind_ok (ends_get w)]
  cases hinitialized : w.initialized with
  | false =>
    obtain ⟨v, hv⟩ := ends_raise (α := PUnit) (Failure.notConnected w.sourceName) w
    exact .inl ⟨_, v, nofun, (moves_raise _).of_ends hv, ends_bind_error hv⟩
  | true =>
    have hdriver : ends disconnectDriver w = ends disconnectEmbedded w := by
      unfold disconnectDriver
      rw [ends_bind_ok (ends_get w), hembedded]
      rfl
    simp only [Bool.not_true, Bool.false_eq_true, if_false]
    rcases disconnectEmbedded_cases w with ⟨f, v, hshared, hv, he⟩ | ⟨u, hu, he⟩
    · exact .inl ⟨f, v, fun _ => hshared, hv, ends_bind_error (hdriver.trans he)⟩
    · rw [ends_bind_ok (hdriver.trans he)]
      refine .inr ⟨_, ?_, ?_, rfl⟩
      · exact ⟨hu.dialect, hu.live, hu.engine, hu.natives, hu.engines⟩
      · rfl

end Session

end SqlWeave
