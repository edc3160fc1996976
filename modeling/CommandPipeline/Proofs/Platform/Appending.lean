import CommandPipeline.Platform.Files
import Mathlib.Tactic.SplitIfs

/-! Files that grow at their end. Paths lead through directories and links only, so that what a file holds
does not matter to where a path leads, and a file that was opened for a log is found again behind
everything that was added to it. -/
namespace CommandPipeline.Platform

theorem bind_eq_ok_iff {ε α β : Type} {x : Except ε α} {f : α → Except ε β} {b : β} :
    x >>= f = .ok b ↔ ∃ a, x = .ok a ∧ f a = .ok b := by
  cases x <;> simp [bind, Except.bind]

namespace Files

variable {files : Files} {here place : Path} {path : Text.Octets} {bytes : List UInt8} {executable : Bool}

/-! ### One node -/

/-- The entries with keys that pass a test answer for a key that passes it as all entries do. -/
theorem lookup_filter {α β : Type} [BEq α] [LawfulBEq α] (keep : α → Bool) {key : α}
    (h : keep key = true) (entries : List (α × β)) :
    (entries.filter fun e => keep e.1).lookup key = entries.lookup key := by
  induction entries with
  | nil => rfl
  | cons e rest ih =>
    by_cases hkey : key = e.1
    · rw [List.filter_cons_of_pos (hkey ▸ h), List.lookup_cons, List.lookup_cons, hkey, beq_self_eq_true]
    · have hne : (key == e.1) = false := beq_eq_false_iff_ne.2 hkey
      rw [List.filter_cons, List.lookup_cons, hne]
      split
      · rw [List.lookup_cons, hne, ih]
      · exact ih

theorem node?_put (files : Files) {place : Path} (hplace : place ≠ []) (node : Node) (path : Path) :
    (files.put place node).node? path = if path = place then some node else files.node? path := by
  cases path with
  | nil => simp [node?, hplace.symm]
  | cons name names =>
    simp only [node?, put, List.lookup_cons]
    by_cases hpath : name :: names = place
    · simp [hpath]
    · rw [beq_eq_false_iff_ne.2 hpath, if_neg hpath]
      exact lookup_filter (fun key => decide (key ≠ place)) (by simpa using hpath) files.nodes

/-- No path leads on from a place: no directory and no link stands there. -/
structure Leaf (files : Files) (place : Path) : Prop where
  directory : files.node? place ≠ some .directory
  link : ∀ target, files.node? place ≠ some (.link target)

theorem Leaf.ne_nil (h : files.Leaf place) : place ≠ [] := by
  rintro rfl
  exact h.directory rfl

theorem leaf_of_none (h : files.node? place = none) : files.Leaf place := by
  constructor <;> simp [h]

theorem leaf_of_file (h : files.node? place = some (.file bytes executable)) : files.Leaf place := by
  constructor <;> simp [h]

/-! ### Paths -/

theorem Leaf.follow_put (h : files.Leaf place) (path : Path) :
    (files.put place (.file bytes executable)).follow path = files.follow path := by
  unfold follow
  rw [node?_put files h.ne_nil]
  by_cases hpath : path = place
  · subst hpath
    rw [if_pos rfl]
    cases hn : files.node? path with
    | none => rfl
    | some node =>
      cases node with
      | link target => exact absurd hn (h.link target)
      | _ => rfl
  · rw [if_neg hpath]

/-- A path that leads somewhere leads there still when a file is put where no path leads on. -/
theorem Leaf.walk_put (h : files.Leaf place) {names : List Text.Octets} {path : Path}
    (hwalk : files.walk here names = .ok path) :
    (files.put place (.file bytes executable)).walk here names = .ok path := by
  induction names generalizing here with
  | nil => exact hwalk
  | cons name rest ih =>
    simp only [walk] at hwalk ⊢
    rw [h.follow_put]
    cases hn : files.node? (files.follow here) with
    | none => simp [hn] at hwalk
    | some node =>
      cases node with
      | directory =>
        -- only directories are entered, and none stands at the place
        have hne : files.follow here ≠ place := fun he => h.directory (he ▸ hn)
        rw [node?_put files h.ne_nil, if_neg hne, hn]
        simp only [hn] at hwalk ⊢
        split_ifs at hwalk ⊢ <;> exact ih hwalk
      | file _ _ => simp [hn] at hwalk
      | link _ => simp [hn] at hwalk
      | device _ => simp [hn] at hwalk

theorem Leaf.resolve_put (h : files.Leaf place) {found : Path}
    (hresolve : files.resolve here path = .ok found) :
    (files.put place (.file bytes executable)).resolve here path = .ok found := by
  unfold resolve locate at *
  by_cases hempty : path = ""
  · simp [hempty, Except.map] at hresolve
  by_cases hlong : 4095 < path.length
  · simp [hempty, hlong, Except.map] at hresolve
  rw [if_neg hempty, if_neg hlong] at hresolve ⊢
  cases hwalk : files.walk (if path.startsWith "/" then [] else here) (path.splitOn "/") with
  | error e =>
    rw [hwalk] at hresolve
    contradiction
  | ok located =>
    rw [h.walk_put hwalk]
    rw [hwalk] at hresolve
    simp only [Except.map, h.follow_put] at hresolve ⊢
    exact hresolve

theorem writable_eq_ok_iff :
    files.writable here path = .ok place ↔
      files.resolve here (if withoutSlashes path = "" then path else withoutSlashes path) = .ok place ∧
        path.length ≤ (withoutSlashes path).length ∧ files.node? place ≠ some .directory := by
  rw [writable, bind_eq_ok_iff]
  constructor
  · rintro ⟨found, hfound, hplace⟩
    split_ifs at hplace with hslash
    split at hplace
    · cases hplace
    · rename_i hdirectory
      obtain rfl := Except.ok.inj hplace
      exact ⟨hfound, Nat.le_of_not_lt hslash, hdirectory⟩
  · rintro ⟨hfound, hslash, hdirectory⟩
    refine ⟨place, hfound, ?_⟩
    rw [if_neg (Nat.not_lt.2 hslash)]
    split
    · rename_i h
      exact absurd h hdirectory
    · rfl

/-- A file is put where a path that can be written leads, and the path leads there still. -/
theorem Leaf.writable_put (h : files.Leaf place) (hwritable : files.writable here path = .ok place) :
    (files.put place (.file bytes executable)).writable here path = .ok place := by
  obtain ⟨hresolve, hlength, -⟩ := writable_eq_ok_iff.1 hwritable
  refine writable_eq_ok_iff.2 ⟨h.resolve_put hresolve, hlength, ?_⟩
  simp [node?_put files h.ne_nil]

theorem openAppend_of_file (hwritable : files.writable here path = .ok place)
    (hfile : files.node? place = some (.file bytes executable)) :
    files.openAppend here path = .ok (place, files) := by
  simp [openAppend, hwritable, hfile, bind, Except.bind]

/-- What is opened for appending can be written, and nothing changes if something stands there already. -/
theorem openAppend_cases {opened : Files} (h : files.openAppend here path = .ok (place, opened)) :
    files.writable here path = .ok place ∧
      ((files.node? place = none ∧ opened = files.put place (.file [] false)) ∨ opened = files) := by
  obtain ⟨found, hw, hfound⟩ := bind_eq_ok_iff.1 h
  cases hn : files.node? found with
  | none =>
    simp only [hn] at hfound
    obtain ⟨rfl, rfl⟩ := Prod.mk.inj (Except.ok.inj hfound)
    exact ⟨hw, .inl ⟨hn, rfl⟩⟩
  | some node =>
    simp only [hn] at hfound
    obtain ⟨rfl, rfl⟩ := Prod.mk.inj (Except.ok.inj hfound)
    exact ⟨hw, .inr rfl⟩

theorem writable_of_openAppend {opened : Files} (h : files.openAppend here path = .ok (place, opened)) :
    opened.writable here path = .ok place := by
  obtain ⟨hw, ⟨hn, rfl⟩ | rfl⟩ := openAppend_cases h
  · exact (leaf_of_none hn).writable_put hw
  · exact hw

end Files

/-! ### Log files -/

variable {files opened : Files} {here place : Path} {path : String} {bytes : List UInt8}

/-- A log that was opened at `path` stands at `place` and holds the bytes, and it is found there if it is
opened once more. -/
structure Growing (files : Files) (here : Path) (path : String) (place : Path) (bytes : List UInt8) :
    Prop where
  opens : openLog files here path = .ok (place, files)
  holds : ∃ executable, files.node? place = some (.file bytes executable)

theorem openLog_eq_ok_iff :
    openLog files here path = .ok (place, opened) ↔
      ∃ octets, pathOctets path = .ok octets ∧ files.openAppend here octets = .ok (place, opened) := by
  rw [openLog, bind_eq_ok_iff]
  refine exists_congr fun octets => and_congr_right fun _ => ?_
  cases files.openAppend here octets <;> simp [Except.mapError]

/-- A log that is opened at `path` stands at `place` and goes on behind the bytes. -/
def LogHolds (files : Files) (here : Path) (path : String) (place : Path) (bytes : List UInt8) : Prop :=
  ∃ opened, openLog files here path = .ok (place, opened) ∧
    ∃ executable, opened.node? place = some (.file bytes executable)

theorem Growing.logHolds (h : Growing files here path place bytes) :
    LogHolds files here path place bytes :=
  ⟨files, h.opens, h.holds⟩

/-- A log that can be opened can be opened again, and holds the same. -/
theorem LogHolds.growing (h : LogHolds files here path place bytes) :
    ∃ opened, openLog files here path = .ok (place, opened) ∧ Growing opened here path place bytes := by
  obtain ⟨opened, hlog, executable, hfile⟩ := h
  obtain ⟨octets, hoctets, hopen⟩ := openLog_eq_ok_iff.1 hlog
  exact ⟨opened, hlog, openLog_eq_ok_iff.2 ⟨octets, hoctets,
    Files.openAppend_of_file (Files.writable_of_openAppend hopen) hfile⟩, executable, hfile⟩

/-- What is appended to a log stands behind what it held. -/
theorem Growing.append (h : Growing files here path place bytes) (more : List UInt8) :
    Growing (files.append place more) here path place (bytes ++ more) := by
  obtain ⟨octets, hoctets, hopen⟩ := openLog_eq_ok_iff.1 h.opens
  obtain ⟨executable, hfile⟩ := h.holds
  have hleaf : files.Leaf place := Files.leaf_of_file hfile
  have happend : files.append place more = files.put place (.file (bytes ++ more) executable) := by
    simp [Files.append, hfile]
  have hput : (files.append place more).node? place = some (.file (bytes ++ more) executable) := by
    simp [happend, Files.node?_put files hleaf.ne_nil]
  have hwritable : (files.append place more).writable here octets = .ok place :=
    happend ▸ hleaf.writable_put (Files.writable_of_openAppend hopen)
  exact ⟨openLog_eq_ok_iff.2 ⟨octets, hoctets, Files.openAppend_of_file hwritable hput⟩, executable, hput⟩

/-! ### Other places -/

theorem node?_append (files : Files) {place other : Path} (h : other ≠ place) (more : List UInt8) :
    (files.append place more).node? other = files.node? other := by
  unfold Files.append
  split
  · rename_i old executable hfile
    rw [Files.node?_put files (Files.leaf_of_file hfile).ne_nil, if_neg h]
  · rfl

theorem node?_openLog (h : openLog files here path = .ok (place, opened)) {other : Path}
    (hother : other ≠ place) : opened.node? other = files.node? other := by
  obtain ⟨octets, -, hopen⟩ := openLog_eq_ok_iff.1 h
  obtain ⟨-, ⟨hn, rfl⟩ | rfl⟩ := Files.openAppend_cases hopen
  · rw [Files.node?_put files (Files.leaf_of_none hn).ne_nil, if_neg hother]
  · rfl

end CommandPipeline.Platform
