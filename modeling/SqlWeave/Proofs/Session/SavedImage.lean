import SqlWeave.Proofs.Session.Replacing
import SqlWeave.Proofs.Storage.Keeping

/-!
# Saved images are loaded again

What the live database exports is found at the location that it was saved at, byte for byte, and a database that is
loaded from there is filled with it before it goes live, also with an image of no bytes.
-/

namespace SqlWeave

open Session World

namespace World

/-- How a load ends that has found an image: the new native database was filled with the image and is the live one,
or one of the steps to it was turned down. -/
def Hydrates (image : List UInt8) (w : World) : Result Nat × World → Prop
  | (.ok n, v) => n = w.backend.natives.next ∧ v.live = some n ∧ (v.backend.natives.get n).image = image ∧
      ∃ events, v.trace = w.trace ++ .nativeConnect n (.text ":memory:") :: .nativeDeserialize n image :: events
  | (.error f, _) => w.opening = .error f ∨ w.fault? .nativeDeserialize = some f ∨ w.preparing = .error f ∨
      w.fault? .createEngine = some f

end World

namespace Session

variable {location : Value} {name : String} {image : List UInt8} {u v w : World}

/-! ## Saving -/

theorem storage_of_exportImage (w : World) : (ends exportImage w).2.storage = w.storage := by
  unfold exportImage
  rw [ends_bind_ok (ends_get w)]
  cases w.live with
  | none => rfl
  | some n =>
    have hnoted : World.fault? { w with trace := w.trace ++ [.nativeSerialize n] } .nativeSerialize =
        w.fault? .nativeSerialize := rfl
    dsimp only
    unfold nativeSerialize
    rw [ends_bind_ok (ends_emit ..), ends_bind, ends_fault, hnoted]
    cases w.fault? .nativeSerialize with
    | none => rfl
    | some f => rfl

/-- An image that was stored was written to the storage. -/
theorem of_store_ok (h : ends (store location image) w = (.ok (), v)) :
    w.storage.write location (.bytes image) = (.ok (), v.storage) := by
  unfold store at h
  rw [ends_bind_ok (ends_get w)] at h
  rcases hwrite : w.storage.write location (.bytes image) with ⟨f | a, storage⟩
  all_goals
    rw [hwrite] at h
    cases h
  rfl

/-- A save that ended well has exported the image and written it to the location that was named. -/
theorem of_save_ok (hlocation : location.truth = true) (h : ends (save location) w = (.ok (), v)) :
    ∃ image, (ends exportImage w).1 = .ok image ∧ w.storage.write location (.bytes image) = (.ok (), v.storage) := by
  have hpath (other : Value) : location.orElse other = location := if_pos hlocation
  unfold save at h
  rw [ends_bind_ok (ends_get w)] at h
  dsimp only at h
  rw [hpath] at h
  obtain ⟨-, h⟩ := of_ends_unless_ok h
  obtain ⟨image, u, hexport, h⟩ := of_ends_bind_ok h
  have hstorage := storage_of_exportImage w
  rw [hexport] at hstorage
  refine ⟨image, by rw [hexport], ?_⟩
  rw [← hstorage]
  rw [ends_bind_ok (ends_attempt ..)] at h
  rcases hstore : ends (store location image) u with ⟨f | a, x⟩
  all_goals rw [hstore] at h
  · -- A failure to store is told in one way or another.
    dsimp only at h
    split at h
    · obtain ⟨y, hy⟩ := ends_raise (α := Unit) _ x
      cases hy.symm.trans h
    · cases h
  · cases h
    exact of_store_ok hstore

/-! ## Loading -/

/-- A location at which an image is found is loaded from it, whether or not it has to exist. -/
theorem ends_load_found (hlocation : location.text? = some name) (hholds : w.storage.holds location = .ok true)
    (hread : w.storage.read location = .ok image) (mustExist : Bool) :
    ends (load location mustExist) w = ends (importImage (.bytes image)) w := by
  have himage : w.loading? location mustExist = some (.bytes image) := by
    unfold World.loading?
    rw [hlocation, hholds, hread]
  rcases load_cases location mustExist w with ⟨f, v, hnone, -⟩ | ⟨found, hfound, he⟩
  · cases himage.symm.trans hnone
  · rw [himage] at hfound
    cases hfound
    rw [he, importImage_eq]

/-- An import from bytes fills the new native database with them. -/
theorem hydrates_importImage (image : List UInt8) (w : World) :
    Hydrates image w (ends (importImage (.bytes image)) w) := by
  have hreplaces := replaces_replace (.text ":memory:") (.bytes image) w
  rw [← importImage_eq] at hreplaces
  have hfilling : w.filling (.bytes image) = (passes (w.fault? .nativeDeserialize)).map fun _ => image := by
    show (passes (w.fault? .nativeDeserialize) >>= fun _ => Except.ok image) = _
    cases passes (w.fault? .nativeDeserialize) <;> rfl
  rcases hx : ends (importImage (.bytes image)) w with ⟨x, v⟩
  rw [hx] at hreplaces
  cases hreplaces with
  | unopened hopening => exact .inl hopening
  | unfilled hopening hfault =>
    rw [hfilling] at hfault
    cases hf : w.fault? .nativeDeserialize with
    | none => rw [hf] at hfault; cases hfault
    | some g => rw [hf] at hfault; cases hfault; exact .inr (.inl hf)
  | @filled y content u _ hopening hfilled hu hv =>
    have hcontent : content = image := by
      rw [hfilling] at hfilled
      cases hf : w.fault? .nativeDeserialize with
      | none => rw [hf] at hfilled; exact (Except.ok.inj hfilled).symm
      | some g => rw [hf] at hfilled; cases hfilled
    subst hcontent
    cases hv with
    | refused hprepare => exact .inr (.inr (.inl (hu.preparing ▸ hprepare)))
    | unbound hprepare hfault => exact .inr (.inr (.inr ((hu.fault? (by decide)).symm.trans hfault)))
    | installed hprepare hfault hfree hv =>
      obtain ⟨rest, hrest⟩ := hv.trace
      refine ⟨rfl, hv.live_eq, ?_, rest, ?_⟩
      · rw [hv.natives, image_closing, hu.opened]
      · rw [← hrest, hu.told, List.append_assoc]
        rfl

/-! ## Loading what was saved -/

/-- After a save to a location that ended well, a load from there finds the exported image, byte for byte, and fills
the new native database with it. A storage under keys keeps it as an array of its bytes, and its other keys as they
were. -/
theorem load_of_saved (hlocation : location.text? = some name) (hname : name ≠ "")
    (hsave : ends (save location) w = (.ok (), v)) (mustExist : Bool) :
    ∃ image, (ends exportImage w).1 = .ok image ∧
      v.storage.holds location = .ok true ∧ v.storage.read location = .ok image ∧
      (w.storage.kind = .keyValue → Storage.KeepsUnder location image w.storage v.storage) ∧
      ∀ u : World, u.storage = v.storage →
        ends (load location mustExist) u = ends (importImage (.bytes image)) u ∧
        Hydrates image u (ends (load location mustExist) u) := by
  obtain ⟨image, hexport, hwrite⟩ := of_save_ok (Value.truth_of_text? hlocation hname) hsave
  obtain ⟨hholds, hread⟩ := Storage.found_of_write_ok hlocation hwrite
  refine ⟨image, hexport, hholds, hread, fun hkind => Storage.keepsUnder_of_write_ok hlocation hkind hwrite, ?_⟩
  intro u hu
  have hload := ends_load_found hlocation (hu ▸ hholds) (hu ▸ hread) mustExist
  exact ⟨hload, hload ▸ hydrates_importImage image u⟩

end Session

/-- An embedded data source whose live native database has an image of three bytes, and whose storage keeps a text
under another key. -/
def World.withImage : World :=
  { dialect := .sqljs
    initialized := true
    live := some 1
    storage := { kind := .keyValue, keeping := .mapping [(.text "other", .text "kept")] }
    backend := { natives := ⟨2, [(1, { image := [7, 0, 255] })]⟩ } }

/-- The three bytes are found again under the key, beside the text under the other one. -/
theorem load_withImage : ∃ v entries, ends (save (.text "db")) .withImage = (.ok (), v) ∧
    v.storage.read (.text "db") = .ok [7, 0, 255] ∧ v.storage.keeping = .mapping entries ∧
    entries.get? (.text "other") = some (.text "kept") ∧
    Hydrates [7, 0, 255] v (ends (load (.text "db") true) v) := by
  have hsave : ends (save (.text "db")) .withImage = (.ok (), (ends (save (.text "db")) .withImage).2) :=
    ends_eq_of_result rfl
  have hexported : (ends exportImage .withImage).1 = .ok [7, 0, 255] := rfl
  generalize (ends (save (.text "db")) .withImage).2 = v at hsave
  have htext : Value.text? (.text "db") = some "db" := rfl
  obtain ⟨image, hexport, -, hread, hkeeps, hload⟩ := load_of_saved htext (by decide) hsave true
  rw [hexported] at hexport
  obtain rfl := Except.ok.inj hexport
  obtain ⟨entries, entries', text, hentries, hkept, -, -, hothers⟩ := hkeeps rfl
  obtain rfl : [(.text "other", .text "kept")] = entries := Keeping.mapping.inj hentries
  exact ⟨v, entries', hsave, hread, hkept, (hothers _ (by decide)).trans rfl, (hload v rfl).2⟩

end SqlWeave
