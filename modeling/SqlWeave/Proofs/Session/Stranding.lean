import SqlWeave.Proofs.Session.Replacing

/-!
# Which native databases are open

The native databases that an embedded data source has opened are shared out: one is live, some are closed, and the
others are stranded, open with nobody to close them. `World.leaves?` tells before a native database is replaced which
one that will strand: the new one when it is filled or prepared in vain, and the one before it when no engine is made
for the new one. A run of calls leaves open what is live and what they have stranded, and nothing else.
-/

namespace SqlWeave

open Session World

/-! ## Calls on an embedded data source -/

inductive SourceCall where
  | connect
  | load (source : Value) (mustExist : Bool)
  | query (sql parameters given : Value)
  | destroy

namespace World

/-- The native database that is left open without being live, when another takes its place or is to be filled from an
image. -/
def leaves? (w : World) (image : Value) : Option Nat :=
  match w.opening, w.filling image, w.preparing with
  | .error _, _, _ => none
  | .ok _, .error _, _ | .ok _, .ok _, .error _ => some w.backend.natives.next
  | .ok _, .ok _, .ok _ => if (w.fault? .createEngine).isSome then w.live else none

end World

namespace SourceCall

/-- Makes the call. A database file is not loaded from anywhere else. -/
def run : SourceCall → Session Unit
  | .connect => connectSource
  | .load source mustExist => do
    if (← get).dialect = .sqljs then discard (Session.load source mustExist) else throw .noMember
  | .query sql parameters given => discard (runRaw sql parameters given)
  | .destroy => Session.destroy

/-- The world that the call leaves, however it ends. -/
def after (call : SourceCall) (w : World) : World := (ends call.run w).2

/-- The image that the call takes for a new native database, when it comes to open one. -/
def taking? (w : World) : SourceCall → Option Value
  | .connect => if w.initialized then none else w.connecting?
  | .load source mustExist => if w.dialect = .sqljs then w.loading? source mustExist else none
  | .query .. | .destroy => none

/-- The native database that the call strands. -/
def strands? (w : World) (call : SourceCall) : Option Nat := (call.taking? w).bind w.leaves?

end SourceCall

namespace World

def afterCalls (calls : List SourceCall) (w : World) : World := calls.foldl (fun w call => call.after w) w

/-- The native databases that the calls of a run strand. -/
def strandedBy : List SourceCall → World → List Nat
  | [], _ => []
  | call :: rest, w => (call.strands? w).toList ++ strandedBy rest (call.after w)

/-! ## What is open -/

def isOpen (w : World) (n : Nat) : Prop :=
  n < w.backend.natives.next ∧ (w.backend.natives.get n).closed = false

/-- Of the native databases from number `first` on those are open that are live or stranded, and none is both. -/
structure Accounts (first : Nat) (stranded : List Nat) (w : World) : Prop where
  embedded : w.dialect.isNetwork = false
  first_le : first ≤ w.backend.natives.next
  isOpen_iff : ∀ n, first ≤ n → (w.isOpen n ↔ w.live = some n ∨ n ∈ stranded)
  live_lt : ∀ n, w.live = some n → n < w.backend.natives.next
  apart : ∀ n ∈ stranded, w.live ≠ some n

/-- Between the worlds native databases may be opened, and one may be closed or stranded. What was live and what is
new is live, closed or stranded afterwards, and nothing is two of these. -/
structure SharesOut (shut stranded : Option Nat) (w v : World) : Prop where
  dialect : v.dialect = w.dialect
  next_le : w.backend.natives.next ≤ v.backend.natives.next
  isOpen_iff : ∀ n, v.isOpen n ↔
    (w.isOpen n ∨ w.backend.natives.next ≤ n ∧ n < v.backend.natives.next) ∧ shut ≠ some n
  held_iff : ∀ n, (w.live = some n ∨ w.backend.natives.next ≤ n ∧ n < v.backend.natives.next) ↔
    v.live = some n ∨ shut = some n ∨ stranded = some n
  apart : ∀ n, v.live = some n → shut ≠ some n ∧ stranded ≠ some n
  one : shut = none ∨ stranded = none

/-- The worlds have the live native database in common, and the same native databases are open. -/
structure SameNatives (w v : World) : Prop where
  dialect : v.dialect = w.dialect
  live : v.live = w.live
  next : v.backend.natives.next = w.backend.natives.next
  closed : ∀ n, (v.backend.natives.get n).closed = (w.backend.natives.get n).closed

variable {first : Nat} {stranded : List Nat} {shut left : Option Nat} {u v w : World}

namespace SharesOut

/-- What was live or is new is open afterwards if it is live or stranded. -/
theorem held_and_not_shut_iff (h : SharesOut shut left w v) (n : Nat) :
    (w.live = some n ∨ w.backend.natives.next ≤ n ∧ n < v.backend.natives.next) ∧ shut ≠ some n ↔
      v.live = some n ∨ left = some n := by
  rw [h.held_iff]
  constructor
  · rintro ⟨hlive | hshut | hleft, hnot⟩
    · exact .inl hlive
    · exact absurd hshut hnot
    · exact .inr hleft
  · rintro (hlive | hleft)
    · exact ⟨.inl hlive, (h.apart n hlive).1⟩
    · refine ⟨.inr (.inr hleft), fun hshut => ?_⟩
      rcases h.one with hnone | hnone
      · cases hnone.symm.trans hshut
      · cases hnone.symm.trans hleft

end SharesOut

namespace Accounts

theorem lt_of_mem (h : Accounts first stranded w) {n : Nat} (hn : first ≤ n) (hmem : n ∈ stranded) :
    n < w.backend.natives.next :=
  ((h.isOpen_iff n hn).mpr (.inr hmem)).1

/-- What is stranded is not held any more, and so it is neither shut nor live later on. -/
theorem not_held_of_mem (h : Accounts first stranded w) {n : Nat} (hmem : n ∈ stranded) :
    ¬ (w.live = some n ∨ w.backend.natives.next ≤ n ∧ n < v.backend.natives.next) := by
  rintro (hlive | ⟨hle, -⟩)
  · exact h.apart n hmem hlive
  · exact absurd (h.lt_of_mem (Nat.le_trans h.first_le hle) hmem) (Nat.not_lt.mpr hle)

/-- What is shared out once more stays accounted for. -/
theorem of_sharesOut (h : Accounts first stranded w) (hs : SharesOut shut left w v) :
    Accounts first (stranded ++ left.toList) v where
  embedded := by rw [hs.dialect, h.embedded]
  first_le := Nat.le_trans h.first_le hs.next_le
  isOpen_iff n hn := by
    rw [hs.isOpen_iff, h.isOpen_iff n hn, List.mem_append, Option.mem_toList]
    by_cases hmem : n ∈ stranded
    · have hshut : shut ≠ some n := fun hshut =>
        h.not_held_of_mem hmem ((hs.held_iff n).mpr (.inr (.inl hshut)))
      exact iff_of_true ⟨.inl (.inr hmem), hshut⟩ (.inr (.inl hmem))
    · rw [or_iff_left hmem, or_iff_right (b := _ = _) hmem]
      exact hs.held_and_not_shut_iff n
  live_lt n hlive := by
    rcases (hs.held_iff n).mpr (.inl hlive) with hold | hnew
    · exact Nat.lt_of_lt_of_le (h.live_lt n hold) hs.next_le
    · exact hnew.2
  apart n hmem hlive := by
    rcases List.mem_append.mp hmem with hold | hleft
    · exact h.not_held_of_mem hold ((hs.held_iff n).mpr (.inl hlive))
    · exact (hs.apart n hlive).2 (Option.mem_toList.mp hleft)

end Accounts

/-! ## What is shared out -/

namespace SameNatives

theorem isOpen_iff (h : SameNatives w v) (n : Nat) : v.isOpen n ↔ w.isOpen n := by
  rw [isOpen, isOpen, h.next, h.closed]

theorem sharesOut (h : SameNatives w v) : SharesOut none none w v where
  dialect := h.dialect
  next_le := Nat.le_of_eq h.next.symm
  isOpen_iff n := by
    rw [h.isOpen_iff, h.next, or_iff_left (by omega)]
    exact (and_iff_left nofun).symm
  held_iff n := by
    rw [h.next, h.live, or_iff_left (by omega)]
    exact (or_iff_left (by simp)).symm
  apart _ _ := ⟨nofun, nofun⟩
  one := .inl rfl

instance : IsPreorder World SameNatives where
  refl _ := ⟨rfl, rfl, rfl, fun _ => rfl⟩
  trans _ _ _ huv hvw := ⟨hvw.dialect.trans huv.dialect, hvw.live.trans huv.live, hvw.next.trans huv.next,
    fun n => (hvw.closed n).trans (huv.closed n)⟩

theorem of_backend_natives (hdialect : v.dialect = w.dialect) (hlive : v.live = w.live)
    (hnatives : v.backend.natives = w.backend.natives) : SameNatives w v :=
  ⟨hdialect, hlive, by rw [hnatives], fun _ => by rw [hnatives]⟩

theorem of_upholds (h : Upholds w v) : SameNatives w v :=
  .of_backend_natives h.dialect_eq h.live_eq h.natives

theorem of_unmoved (h : Unmoved w v) : SameNatives w v :=
  .of_backend_natives (congrArg World.dialect h :) (congrArg World.live h :) (congrArg (·.backend.natives) h :)

theorem of_noted (h : Noted w v) : SameNatives w v :=
  .of_backend_natives (congrArg World.dialect h :) (congrArg World.live h :) (congrArg (·.backend.natives) h :)

instance : Asides SameNatives where
  locked _ _ _ := .of_backend_natives rfl rfl rfl
  asked _ _ _ := .of_backend_natives rfl rfl rfl

instance : Serves SameNatives where
  logged _ _ := .of_backend_natives rfl rfl rfl
  emitted _ _ _ := .of_backend_natives rfl rfl rfl
  idled _ _ _ := .of_backend_natives rfl rfl rfl
  noted _ _ _ _ := .of_backend_natives rfl rfl rfl
  worked _ _ _ hs := ⟨rfl, rfl, hs.natives, hs.closed⟩
  steadied _ _ _ hs := ⟨rfl, rfl, hs.natives, hs.closed⟩
  imaged _ _ _ := .of_backend_natives rfl rfl rfl
  asked _ _ := .of_backend_natives rfl rfl rfl
  stored _ _ := .of_backend_natives rfl rfl rfl
  served _ _ _ := .of_backend_natives rfl rfl rfl
  connected _ _ := .of_backend_natives rfl rfl rfl

end SameNatives

/-- What an opened native database adds to those that are open. -/
theorem Opened.isOpen_iff {content : List UInt8} {events : List Event} (h : Opened content events w u) (n : Nat) :
    u.isOpen n ↔ w.isOpen n ∨ w.backend.natives.next ≤ n ∧ n < u.backend.natives.next := by
  unfold isOpen
  rw [h.next]
  by_cases hn : n = w.backend.natives.next
  · subst hn
    rw [h.opened]
    simp
  · rw [h.others n hn, or_iff_left (by omega)]
    refine and_congr_left fun _ => ?_
    omega

/-- What a closed native database takes from those that are open. -/
theorem isOpen_iff_of_closing (h : v.backend.natives = closing shut u.backend.natives) (n : Nat) :
    v.isOpen n ↔ u.isOpen n ∧ shut ≠ some n := by
  unfold isOpen
  rw [h, closing_next, closed_closing, Bool.or_eq_false_iff, decide_eq_false_iff_not, and_assoc, and_comm (a := ¬ _)]

/-- One more native database is opened, and one of those that are held may be closed. -/
theorem Opened.sharesOut {content : List UInt8} {events : List Event} (hu : Opened content events w u)
    (hdialect : v.dialect = u.dialect) (hnatives : v.backend.natives = closing shut u.backend.natives)
    (hheld : ∀ n, w.live = some n ∨ n = w.backend.natives.next ↔ v.live = some n ∨ shut = some n ∨ left = some n)
    (hapart : ∀ n, v.live = some n → shut ≠ some n ∧ left ≠ some n) (hone : shut = none ∨ left = none) :
    SharesOut shut left w v := by
  have hnext : v.backend.natives.next = u.backend.natives.next := by rw [hnatives, closing_next]
  refine ⟨hdialect.trans hu.holds.dialect_eq, ?_, fun n => ?_, fun n => ?_, hapart, hone⟩
  · rw [hnext, hu.next]
    exact Nat.le_succ _
  · rw [isOpen_iff_of_closing hnatives, hu.isOpen_iff, hnext]
  · rw [← hheld n, hnext, hu.next]
    exact or_congr_right ⟨fun h => Nat.le_antisymm (Nat.le_of_lt_succ h.2) h.1, fun h => by omega⟩

variable {image database : Value} {x : Result Nat} {content : List UInt8} {events : List Event}

namespace Accounts

theorem of_sameNatives (h : Accounts first stranded w) (hs : SameNatives w v) : Accounts first stranded v := by
  have := h.of_sharesOut hs.sharesOut
  rwa [Option.toList_none, List.append_nil] at this

/-- A native database that was opened and does not go live is stranded. -/
theorem of_opened (h : Accounts first stranded w) (hu : Opened content events w u) :
    Accounts first (stranded ++ [w.backend.natives.next]) u := by
  have hlive := hu.holds.live_eq
  have hshares : SharesOut none (some w.backend.natives.next) w u := by
    refine hu.sharesOut rfl rfl (fun n => ?_) (fun n hn => ⟨nofun, fun heq => ?_⟩) (.inl rfl)
    · rw [hlive]
      simp [eq_comm]
    · cases heq
      exact Nat.lt_irrefl _ (h.live_lt _ (hlive ▸ hn))
  exact h.of_sharesOut hshares

/-- A native database that was opened and goes live has its place for itself, or the one before it is stranded. -/
theorem of_live (h : Accounts first stranded w) (hu : Opened content events w u) (hdialect : v.dialect = u.dialect)
    (hlive : v.live = some w.backend.natives.next) (hnatives : v.backend.natives = closing shut u.backend.natives)
    (hold : shut = w.live ∧ left = none ∨ shut = none ∧ left = w.live) :
    Accounts first (stranded ++ left.toList) v := by
  have hheld (n : Nat) : w.live = some n ↔ shut = some n ∨ left = some n := by
    rcases hold with ⟨rfl, rfl⟩ | ⟨rfl, rfl⟩ <;> simp
  refine h.of_sharesOut (hu.sharesOut hdialect hnatives ?_ ?_ ?_)
  · intro n
    rw [hlive, ← hheld n, or_comm, Option.some.injEq, eq_comm (a := n)]
  · intro n hn
    rw [hlive] at hn
    cases hn
    refine not_or.mp fun hor => ?_
    exact Nat.lt_irrefl _ (h.live_lt _ ((hheld _).mpr hor))
  · rcases hold with ⟨-, hleft⟩ | ⟨hshut, -⟩
    · exact .inr hleft
    · exact .inl hshut

/-- Replacing the live native database strands what is foretold, and nothing else. -/
theorem of_replaces (h : Accounts first stranded w) (hr : Replaces database image w x v) :
    Accounts first (stranded ++ (w.leaves? image).toList) v := by
  unfold leaves?
  cases hr with
  | unopened hopening hv =>
    rw [hopening, Option.toList_none, List.append_nil]
    exact h.of_sameNatives (.of_upholds hv)
  | unfilled hopening hfilling hv =>
    rw [hopening, hfilling]
    exact h.of_opened hv
  | @filled y content u _ hopening hfilling hu hv =>
    rw [hopening, hfilling, ← hu.preparing, ← hu.fault? (by decide)]
    cases hv with
    | refused hprepare hv =>
      rw [hprepare]
      exact (h.of_opened hu).of_sameNatives (.of_upholds hv)
    | unbound hprepare hfault hv =>
      rw [hprepare, hfault]
      have hnatives : v.backend.natives = closing none u.backend.natives := hv.natives
      exact h.of_live hu hv.dialect_eq hv.live_eq hnatives (.inr ⟨rfl, rfl⟩)
    | installed hprepare hfault hfree hv =>
      have hold : u.live.filter (· ≠ w.backend.natives.next) = w.live := by
        rw [hu.holds.live_eq]
        cases hlive : w.live with
        | none => rfl
        | some n => exact Option.filter_some_pos (by simpa using Nat.ne_of_lt (h.live_lt n hlive))
      rw [hprepare, hfault]
      exact h.of_live hu hv.dialect_eq hv.live_eq hv.natives (.inl ⟨hold, rfl⟩)

/-- Letting everything go shuts the live native database. -/
theorem of_releases (h : Accounts first stranded w) (hr : Releases w v) : Accounts first stranded v := by
  have hnext : v.backend.natives.next = w.backend.natives.next := by rw [hr.natives, closing_next]
  have hnew (n : Nat) : ¬ (w.backend.natives.next ≤ n ∧ n < v.backend.natives.next) := by omega
  have hshares : SharesOut w.live none w v := by
    refine ⟨hr.dialect, Nat.le_of_eq hnext.symm, fun n => ?_, fun n => ?_, fun n hn => ?_, .inr rfl⟩
    · rw [or_iff_left (hnew n)]
      exact isOpen_iff_of_closing hr.natives n
    · rw [or_iff_left (hnew n), hr.live]
      simp
    · rw [hr.live] at hn
      cases hn
  have := h.of_sharesOut hshares
  rwa [Option.toList_none, List.append_nil] at this

theorem of_destroy (h : Accounts first stranded w) : Accounts first stranded (ends Session.destroy w).2 := by
  rcases destroy_cases h.embedded with ⟨f, v, -, hv, he⟩ | ⟨v, hv, -, he⟩
  · rw [he]
    exact h.of_sameNatives (.of_upholds hv)
  · rw [he]
    exact h.of_releases hv

theorem of_attaches {y : Result Unit} (h : Accounts first stranded w) (hc : Attaches w y v) :
    Accounts first (stranded ++ (w.connecting?.bind w.leaves?).toList) v := by
  cases hc with
  | unfound himage hv =>
    rw [himage, Option.bind_none, Option.toList_none, List.append_nil]
    exact h.of_sameNatives (.of_unmoved hv)
  | @replaces database image storage x u _ himage hu hv =>
    have hstored : Accounts first stranded { w with storage } := h.of_sameNatives (.of_backend_natives rfl rfl rfl)
    rw [himage]
    exact (hstored.of_replaces hu).of_sameNatives (.of_noted hv)

theorem of_connectSource (h : Accounts first stranded w) :
    Accounts first (stranded ++ (SourceCall.connect.strands? w).toList) (ends connectSource w).2 := by
  unfold SourceCall.strands? SourceCall.taking?
  cases hinitialized : w.initialized with
  | true =>
    obtain ⟨f, v, hv, he⟩ := connectSource_of_initialized hinitialized
    rw [he]
    exact h.of_sharesOut (SameNatives.of_noted hv).sharesOut
  | false =>
    have hattaches (y : Result Unit) {u : World} (hu : ends connectDriver w = (y, u)) :
        Accounts first (stranded ++ (w.connecting?.bind w.leaves?).toList) u := by
      have := attaches_connectDriver h.embedded
      rw [hu] at this
      exact h.of_attaches this
    have hmarked {u : World} : SameNatives u { u with initialized := true } := .of_backend_natives rfl rfl rfl
    rcases connectSource_cases hinitialized with ⟨f, v, hdriver, he⟩ | ⟨u, hdriver, ⟨f, he⟩ | ⟨v, hv, he⟩⟩
    all_goals rw [he]
    · exact hattaches _ hdriver
    · exact ((hattaches _ hdriver).of_sameNatives hmarked).of_destroy
    · exact ((hattaches _ hdriver).of_sameNatives hmarked).of_sameNatives (.of_noted hv)

theorem of_load (h : Accounts first stranded w) (source : Value) (mustExist : Bool) :
    Accounts first (stranded ++ ((w.loading? source mustExist).bind w.leaves?).toList)
      (ends (Session.load source mustExist) w).2 := by
  rcases load_cases source mustExist w with ⟨f, v, hnone, hv, he⟩ | ⟨image, himage, he⟩
  · rw [hnone, he]
    exact h.of_sharesOut (SameNatives.of_unmoved hv).sharesOut
  · rw [himage, he]
    exact h.of_replaces (replaces_replace ..)

/-- Each call strands what is foretold, and what was accounted for stays so. -/
theorem of_call (h : Accounts first stranded w) (call : SourceCall) :
    Accounts first (stranded ++ (call.strands? w).toList) (call.after w) := by
  cases call with
  | connect => exact h.of_connectSource
  | load source mustExist =>
    show Accounts first (stranded ++ ((if w.dialect = .sqljs then w.loading? source mustExist else none).bind
      w.leaves?).toList) (ends (SourceCall.load source mustExist).run w).2
    unfold SourceCall.run
    rw [ends_bind_ok (ends_get w)]
    split
    case isTrue =>
      rw [world_discard]
      exact h.of_load source mustExist
    case isFalse => exact h.of_sharesOut (SameNatives.sharesOut (refl_of SameNatives w))
  | query sql parameters given =>
    have hsame : SameNatives w (ends (SourceCall.query sql parameters given).run w).2 :=
      ((moves_runRaw sql parameters given).bind fun _ => .pure _).along w
    exact h.of_sharesOut hsame.sharesOut
  | destroy =>
    show Accounts first (stranded ++ []) (ends Session.destroy w).2
    rw [List.append_nil]
    exact h.of_destroy

/-- What a run of calls strands is foretold, and what was accounted for stays so. -/
theorem of_calls (h : Accounts first stranded w) (calls : List SourceCall) :
    Accounts first (stranded ++ strandedBy calls w) (afterCalls calls w) := by
  induction calls generalizing stranded w with
  | nil => rwa [strandedBy, List.append_nil]
  | cons call rest ih =>
    have := ih (h.of_call call)
    rwa [List.append_assoc] at this

end Accounts

/-- Of the native databases that an embedded data source opens in any run of calls, those are open afterwards that are
live or that one of the calls has stranded; after it was destroyed they are those that were stranded. -/
theorem isOpen_afterCalls_iff (hembedded : w.dialect.isNetwork = false) (hlive : w.live = none)
    (calls : List SourceCall) :
    (∀ n, w.backend.natives.next ≤ n →
      ((afterCalls calls w).isOpen n ↔ (afterCalls calls w).live = some n ∨ n ∈ strandedBy calls w)) ∧
    ∀ v, ends destroy (afterCalls calls w) = (.ok (), v) → v.live = none ∧
      ∀ n, w.backend.natives.next ≤ n → (v.isOpen n ↔ n ∈ strandedBy calls w) := by
  have hstart : Accounts w.backend.natives.next [] w := by
    refine ⟨hembedded, Nat.le_refl _, fun n hn => ?_, fun n hn => ?_, nofun⟩
    · rw [hlive]
      exact iff_of_false (fun hopen => Nat.not_lt.mpr hn hopen.1) (by simp)
    · cases hlive.symm.trans hn
  have hcalls := hstart.of_calls calls
  rw [List.nil_append] at hcalls
  refine ⟨hcalls.isOpen_iff, fun v hv => ?_⟩
  have hdestroyed := hcalls.of_destroy
  rw [hv] at hdestroyed
  have hnone : v.live = none := by
    rcases destroy_cases hcalls.embedded with ⟨f, u, -, -, he⟩ | ⟨u, hu, -, he⟩
    · cases hv.symm.trans he
    · cases hv.symm.trans he
      exact hu.live
  refine ⟨hnone, fun n hn => ?_⟩
  rw [hdestroyed.isOpen_iff n hn, hnone, or_iff_right (by simp)]

/-- An embedded data source with an image of its own, which is refused once. -/
def refusingImage : World :=
  { dialect := .sqljs
    settings := { values := [("database_content", .bytes [1, 2])] }
    backend := { faults := fun s => if s = .nativeDeserialize then [some (.badValue "bad image")] else [] } }

/-- The first native database is refused its image and stays open, also when the one after it is closed. -/
theorem isOpen_refusingImage : (afterCalls [.connect] refusingImage).isOpen 1 ∧
    (afterCalls [.connect] refusingImage).live = none ∧
    ∃ v, ends destroy (afterCalls [.connect, .connect] refusingImage) = (.ok (), v) ∧ v.isOpen 1 ∧ ¬ v.isOpen 2 := by
  obtain ⟨hfirst, -⟩ := isOpen_afterCalls_iff (w := refusingImage) rfl rfl [.connect]
  obtain ⟨-, hsecond⟩ := isOpen_afterCalls_iff (w := refusingImage) rfl rfl [.connect, .connect]
  have hstranded : strandedBy [.connect] refusingImage = [1] := rfl
  have hstranded' : strandedBy [.connect, .connect] refusingImage = [1] := rfl
  have hdestroy : ∃ v, ends destroy (afterCalls [.connect, .connect] refusingImage) = (.ok (), v) := ⟨_, rfl⟩
  obtain ⟨v, hv⟩ := hdestroy
  refine ⟨(hfirst 1 (by decide)).mpr ?_, rfl, v, hv, ?_, ?_⟩
  · rw [hstranded]
    exact .inr (by decide)
  · rw [(hsecond v hv).2 1 (by decide), hstranded']
    decide
  · rw [(hsecond v hv).2 2 (by decide), hstranded']
    decide

end World

end SqlWeave
