import SqlWeave.Proofs.Storage.Encoding

/-!
# What is kept is found again

A file that was written is found on the path that it was written on, with its bytes: the path leads
through directories only, and what is put at its end is none of them. A text that is kept under a key is
found under it, and what other texts are keys of stays as it was.
-/

namespace SqlWeave

/-! ## Files -/

namespace FileTree

theorem node?_put_of_ne (t : FileTree) {p q : FilePath} (n : FileNode) (h : p ≠ q) :
    (t.put p n).node? q = t.node? q := by
  have hmap (l : FileTree) : (l.map fun e => if e.1 = p then (p, n) else e).find? (·.1 = q) = l.find? (·.1 = q) := by
    induction l with
    | nil => rfl
    | cons e rest ih =>
      by_cases he : e.1 = p
      · rw [List.map_cons, if_pos he, List.find?_cons_of_neg (by simpa using h),
          List.find?_cons_of_neg (by simpa [he] using h), ih]
      · rw [List.map_cons, if_neg he, List.find?_cons, List.find?_cons, ih]
  have hfind : (t.put p n).find? (·.1 = q) = t.find? (·.1 = q) := by
    unfold put
    split
    · exact hmap t
    · rw [List.find?_append, List.find?_cons_of_neg (by simpa using h), List.find?_nil, Option.or_none]
  unfold node?
  rw [hfind]

theorem node?_put_self (t : FileTree) {p : FilePath} (n : FileNode) (hp : p.isKnown = false) :
    (t.put p n).node? p = some n := by
  have hmap (l : FileTree) (hl : l.any (·.1 = p) = true) :
      (l.map fun e => if e.1 = p then (p, n) else e).find? (·.1 = p) = some (p, n) := by
    induction l with
    | nil => cases hl
    | cons e rest ih =>
      by_cases he : e.1 = p
      · rw [List.map_cons, if_pos he, List.find?_cons_of_pos (by simp)]
      · rw [List.any_cons, decide_eq_false he, Bool.false_or] at hl
        rw [List.map_cons, if_neg he, List.find?_cons_of_neg (by simpa using he), ih hl]
  have hfind : (t.put p n).find? (·.1 = p) = some (p, n) := by
    unfold put
    split
    case isTrue hany => exact hmap t hany
    case isFalse hany =>
      have hnone : t.find? (·.1 = p) = none :=
        List.find?_eq_none.mpr fun e he hp => hany (List.any_eq_true.mpr ⟨e, he, hp⟩)
      rw [List.find?_append, hnone, Option.none_or, List.find?_cons_of_pos (by simp)]
  unfold node?
  rw [hfind, hp]
  rfl

/-- What stands at a place that is no directory is on no way but those that end there. -/
theorem walk_put {t : FileTree} {place : FilePath} (h : t.node? place ≠ some .directory) (n : FileNode)
    {path start dest : FilePath} (hwalk : t.walk start path = .ok dest) :
    (t.put place n).walk start path = .ok dest := by
  induction path generalizing start with
  | nil => exact hwalk
  | cons name rest ih =>
    rw [walk] at hwalk ⊢
    cases hnode : t.node? start with
    | none => rw [hnode] at hwalk; cases hwalk
    | some node =>
      cases node with
      | file content => rw [hnode] at hwalk; cases hwalk
      | directory =>
        have hne : place ≠ start := by
          rintro rfl
          exact h hnode
        rw [hnode] at hwalk
        rw [node?_put_of_ne t n hne, hnode]
        dsimp only at hwalk ⊢
        split at hwalk
        case isTrue hup => rw [if_pos hup]; exact ih hwalk
        case isFalse hup =>
          rw [if_neg hup]
          split at hwalk
          case isTrue => cases hwalk
          case isFalse hlong => rw [if_neg hlong]; exact ih hwalk

/-- What a path leads to is what stands at the end of its way. -/
theorem find_eq_ok {t : FileTree} {path place : FilePath} {node : Option FileNode} :
    t.find path = .ok (place, node) ↔ path.error? = none ∧ t.walk [] path = .ok place ∧ t.node? place = node := by
  unfold find
  cases path.error? with
  | some e => simp
  | none =>
    cases hwalk : t.walk [] path with
    | error e => simp [bind, Except.bind]
    | ok dest =>
      simp only [bind, Except.bind, Except.ok.injEq, Prod.mk.injEq, true_and]
      exact ⟨fun ⟨h, hn⟩ => ⟨h, h ▸ hn⟩, fun ⟨h, hn⟩ => ⟨h, h ▸ hn⟩⟩

/-- A file that was written is found on its path. -/
theorem find_writeFile {t t' : FileTree} {path : FilePath} {content : List UInt8}
    (h : t.writeFile path content = .ok t') : ∃ place, t'.find path = .ok (place, some (.file content)) := by
  have hput {place : FilePath} {node : Option FileNode} (hfind : t.find path = .ok (place, node))
      (hnode : node ≠ some .directory) (ht : t.put place (.file content) = t') :
      ∃ place, t'.find path = .ok (place, some (.file content)) := by
    obtain ⟨herror, hwalk, rfl⟩ := find_eq_ok.mp hfind
    have hplace : place.isKnown = false := by
      rw [← Bool.not_eq_true]
      exact fun hknown => hnode (if_pos hknown)
    rw [← ht]
    exact ⟨place, find_eq_ok.mpr ⟨herror, walk_put hnode _ hwalk, node?_put_self t _ hplace⟩⟩
  unfold writeFile at h
  split at h
  case h_1 => cases h
  case h_2 => cases h
  case h_3 place node hnode hfind =>
    exact hput hfind hnode (Except.ok.inj h)

/-- A file that was written, with the directories above it, is there with its bytes. -/
theorem of_write_ok {t t' : FileTree} {path : FilePath} {content : List UInt8}
    (h : t.write path (.ok content) = (.ok (), t')) : t'.isFile path = .ok true ∧ t'.read path = .ok content := by
  unfold write at h
  split at h
  case h_1 => cases h
  case h_2 made hmade =>
    split at h
    case h_1 written hwritten =>
      obtain ⟨-, rfl⟩ := Prod.mk.inj h
      obtain ⟨place, hfind⟩ := find_writeFile hwritten
      unfold isFile read
      rw [hfind]
      exact ⟨rfl, rfl⟩
    case h_2 => cases h

end FileTree

/-! ## Keys -/

namespace Value

theorem truth_of_text? {v : Value} {s : String} (h : v.text? = some s) (hs : s ≠ "") : v.truth = true := by
  cases v with
  | text | keyword =>
    obtain rfl := Option.some.inj h
    exact decide_eq_true hs
  | _ => cases h

theorem isKey_of_text? {v : Value} {s : String} (h : v.text? = some s) : v.isKey = true := by
  cases v with
  | text | keyword => rfl
  | _ => cases h

/-- Only a text is one object with a text, and only the same one. -/
theorem text?_eq_of_sameObject {v w : Value} (h : v.sameObject w = true) : v.text? = w.text? := by
  unfold sameObject at h
  split at h
  all_goals first | rfl | cases h | simp_all [text?]

/-- Only a text is equal to a text, and only the same one. -/
theorem equals_iff_of_text? {v w : Value} (h : v.text?.isSome ∨ w.text?.isSome) :
    v.equals w = true ↔ v.text? = w.text? := by
  have hequals : v.equals w = (decide (v.text? = w.text?) || v.sameObject w) := by
    rcases h with hv | hw
    · cases v with
      | text | keyword => cases w <;> simp [equals, sameNumber, text?, int?]
      | _ => cases hv
    · cases w with
      | text | keyword => cases v <;> simp [equals, sameNumber, text?, int?]
      | _ => cases hw
  rw [hequals, Bool.or_eq_true, decide_eq_true_eq]
  exact ⟨fun h => h.elim id text?_eq_of_sameObject, .inl⟩

end Value

namespace Keyed

variable {α : Type}

/-- Under other texts than the one that was written under is found what was there before. -/
theorem get?_put_of_text? {location key : Value} {s : String} (h : location.text? = some s) (hkey : key.text? ≠ some s)
    (m : Keyed α) (a : α) : (m.put location a).get? key = m.get? key := by
  -- A key that is found under the text is that text, and no other key is equal to it.
  have hother {k : Value} (hk : k.equals location = true) : ¬ k.equals key = true := by
    have hk : k.text? = some s := ((Value.equals_iff_of_text? (.inr (h ▸ rfl))).mp hk).trans h
    rw [Value.equals_iff_of_text? (.inl (hk ▸ rfl)), hk]
    exact hkey.symm
  induction m with
  | nil => exact if_neg (hother ((Value.equals_iff_of_text? (.inl (h ▸ rfl))).mpr rfl))
  | cons p rest ih =>
    obtain ⟨k, b⟩ := p
    rw [put]
    split
    case isTrue hk => rw [get?, get?, if_neg (hother hk), if_neg (hother hk)]
    case isFalse hk => rw [get?, get?, ih]

end Keyed

/-! ## Storages -/

/-- Under the location the storages keep the image as a text, an array of its bytes, and under other texts they
keep the same. -/
def Storage.KeepsUnder (location : Value) (image : List UInt8) (s s' : Storage) : Prop :=
  ∃ entries entries' text, s.keeping = .mapping entries ∧ s'.keeping = .mapping entries' ∧
    entries'.get? location = some (.text text) ∧ Json.read text = .ok (Image.numbers image) ∧
    ∀ key : Value, key.text? ≠ location.text? → entries'.get? key = entries.get? key

namespace Storage

variable {s s' : Storage} {location : Value} {name : String} {image : List UInt8}

/-- An image is kept in a file with the directories above it, or under a key of a mapping. -/
theorem write_ok_cases (hlocation : location.text? = some name)
    (h : s.write location (.bytes image) = (.ok (), s')) :
    (s.kind = .file ∧ ∃ files, s.files.write (FilePath.names name) (.ok image) = (.ok (), files) ∧
      s' = { s with files }) ∨
    (s.kind = .keyValue ∧ ∃ entries, s.keeping = .mapping entries ∧
      s' = { s with keeping := .mapping (entries.put location (.text (Image.encode image))) }) := by
  have hpath : path location = .ok (FilePath.names name) := by rw [path, hlocation]
  unfold write at h
  cases hkind : s.kind with
  | file =>
    rw [hkind, hpath] at h
    obtain ⟨hresult, rfl⟩ := Prod.mk.inj h
    exact .inl ⟨rfl, _, Prod.ext hresult rfl, rfl⟩
  | keyValue =>
    have hkey : location.isKey = true := Value.isKey_of_text? hlocation
    rw [hkind] at h
    cases hkeeping : s.keeping with
    | other v => rw [hkeeping] at h; cases h
    | mapping entries =>
      have hwrite : Keeping.write (.mapping entries) location (.bytes image) =
          .ok (.mapping (entries.put location (.text (Image.encode image)))) := if_pos hkey
      rw [hkeeping, hwrite] at h
      exact .inr ⟨rfl, entries, rfl, (Prod.mk.inj h).2.symm⟩

theorem get?_put_location (hlocation : location.text? = some name) (entries : Keyed Value) (v : Value) :
    (entries.put location v).get? location = some v :=
  entries.get?_put_self location v ((Value.equals_iff_of_text? (.inl (hlocation ▸ rfl))).mpr rfl)

/-- An image that was kept at a location is found there. -/
theorem found_of_write_ok (hlocation : location.text? = some name)
    (h : s.write location (.bytes image) = (.ok (), s')) :
    s'.holds location = .ok true ∧ s'.read location = .ok image := by
  unfold holds read
  rcases write_ok_cases hlocation h with ⟨hkind, files, hwrite, rfl⟩ | ⟨hkind, entries, -, rfl⟩
  · have hpath : path location = .ok (FilePath.names name) := by rw [path, hlocation]
    dsimp only
    rw [hkind, hpath]
    exact FileTree.of_write_ok hwrite
  · have hkey : location.isKey = true := Value.isKey_of_text? hlocation
    dsimp only
    rw [hkind]
    unfold Keeping.holds Keeping.read
    dsimp only
    rw [get?_put_location hlocation, if_pos hkey, if_pos hkey]
    exact ⟨rfl, Image.decode_encode image⟩

theorem keepsUnder_of_write_ok (hlocation : location.text? = some name) (hkind : s.kind = .keyValue)
    (h : s.write location (.bytes image) = (.ok (), s')) : KeepsUnder location image s s' := by
  rcases write_ok_cases hlocation h with ⟨hfile, -⟩ | ⟨-, entries, hentries, rfl⟩
  · cases hkind.symm.trans hfile
  · refine ⟨entries, _, _, hentries, rfl, get?_put_location hlocation entries _, Image.read_encode image, ?_⟩
    intro key hother
    rw [hlocation] at hother
    exact Keyed.get?_put_of_text? hlocation hother entries _

end Storage

end SqlWeave
