import CommandPipeline.Command.Subprocess
import CommandPipeline.Platform.Launch
import CommandPipeline.Proofs.Platform.Appending

/-! Starting programs. Whatever a program does to its descriptors, its working directory or its environment is
lost for the one that has started it, and a program that cannot be started has changed nothing at all. A name
is looked for along a search path: the first file that may be started is, and what is said of a name that is
nowhere depends on the files that were there. -/
namespace CommandPipeline.Platform

open Text (Octets)

/-! ### The starting process -/

/-- What belongs to the running process is the same in both worlds. -/
structure World.SameProcess (w later : World) : Prop where
  descriptors : later.descriptors = w.descriptors
  here : later.here = w.here
  environment : later.environment = w.environment
  mask : later.mask = w.mask
  ignored : later.ignored = w.ignored
  lineage : later.lineage = w.lineage

namespace World.SameProcess

theorem refl (w : World) : w.SameProcess w := ⟨rfl, rfl, rfl, rfl, rfl, rfl⟩

theorem trans {v w x : World} (h : v.SameProcess w) (h' : w.SameProcess x) : v.SameProcess x where
  descriptors := h'.descriptors.trans h.descriptors
  here := h'.here.trans h.here
  environment := h'.environment.trans h.environment
  mask := h'.mask.trans h.mask
  ignored := h'.ignored.trans h.ignored
  lineage := h'.lineage.trans h.lineage

theorem resume (w later : World) : w.SameProcess (w.resume later) := ⟨rfl, rfl, rfl, rfl, rfl, rfl⟩

end World.SameProcess

namespace Start

/-- Programs are started apart from the process that starts them: nothing of it is lost, and nothing at all
has changed if no program was started. -/
structure Apart (start : Start) : Prop where
  own : ∀ file name args w, World.SameProcess w (start file name args w).2
  failed : ∀ file name args w e, (start file name args w).1 = .error e → (start file name args w).2 = w

/-- The file cannot be started for the error `e`, which does not end a search. -/
structure Skipped (start : Start) (name : Octets) (args : List Octets) (w : World) (file : Octets)
    (e : OsError) : Prop where
  error : (start file name args w).1 = .error e
  kind : e = .noEntry ∨ e = .notDirectory ∨ e = .accessDenied

variable {start : Start} {name : Octets} {args : List Octets} {w : World}

/-! ### Searches -/

theorem tryAll_nil (start : Start) (name : Octets) (args : List Octets) (denied : Bool) (latest : OsError)
    (w : World) :
    tryAll start name args denied latest [] w = (.error (if denied then .accessDenied else latest), w) := rfl

/-- A search goes on behind a file that it skips. -/
theorem tryAll_skipped (hstart : Apart start) {file : Octets} {e : OsError}
    (h : Skipped start name args w file e) (denied : Bool) (latest : OsError) (rest : List Octets) :
    tryAll start name args denied latest (file :: rest) w =
      tryAll start name args (denied || e == .accessDenied) e rest w := by
  have hresult : start file name args w = (.error e, w) :=
    Prod.ext h.error (hstart.failed file name args w e h.error)
  show (start file name args >>= _) w = _
  simp only [bind, StateT.bind, hresult, if_pos h.kind]

/-- A search ends with a file that it does not skip. -/
theorem tryAll_tried {file : Octets} (h : ∀ e, ¬ Skipped start name args w file e) (denied : Bool)
    (latest : OsError) (rest : List Octets) :
    tryAll start name args denied latest (file :: rest) w = start file name args w := by
  show (start file name args >>= _) w = _
  cases hresult : start file name args w with
  | mk result later =>
    simp only [bind, StateT.bind, hresult]
    cases result with
    | ok ending => rfl
    | error e =>
      have hkind : ¬ (e = .noEntry ∨ e = .notDirectory ∨ e = .accessDenied) := fun hkind =>
        h e ⟨by rw [hresult], hkind⟩
      simp only [if_neg hkind]
      rfl

/-- The first file that is not skipped is the one that is started. -/
theorem tryAll_append (hstart : Apart start) {before : List Octets} {file : Octets}
    (hbefore : ∀ f ∈ before, ∃ e, Skipped start name args w f e)
    (hfile : ∀ e, ¬ Skipped start name args w file e) (denied : Bool) (latest : OsError) (after : List Octets) :
    tryAll start name args denied latest (before ++ file :: after) w = start file name args w := by
  induction before generalizing denied latest with
  | nil => exact tryAll_tried hfile denied latest after
  | cons f rest ih =>
    obtain ⟨e, hskipped⟩ := hbefore f List.mem_cons_self
    rw [List.cons_append, tryAll_skipped hstart hskipped]
    exact ih (fun g hg => hbefore g (List.mem_cons_of_mem f hg)) _ _

/-- If all files are skipped, nothing has changed. The search fails for a file that may not be started if there
is one, and for one of the other errors if there is none. -/
theorem tryAll_failed (hstart : Apart start) {files : List Octets}
    (hfiles : ∀ f ∈ files, ∃ e, Skipped start name args w f e) (denied : Bool) (latest : OsError) :
    ∃ e, tryAll start name args denied latest files w = (.error e, w) ∧
      (denied = true ∨ (∃ f ∈ files, Skipped start name args w f .accessDenied) → e = .accessDenied) ∧
      (denied = false → (∀ f ∈ files, ¬ Skipped start name args w f .accessDenied) →
        files = [] ∧ e = latest ∨ ∃ f ∈ files, Skipped start name args w f e) := by
  induction files generalizing denied latest with
  | nil =>
    refine ⟨_, tryAll_nil start name args denied latest w, ?_, fun hdenied _ => ?_⟩
    · rintro (hdenied | ⟨f, hf, -⟩)
      · exact if_pos hdenied
      · contradiction
    · exact .inl ⟨rfl, if_neg (by simp [hdenied])⟩
  | cons f rest ih =>
    obtain ⟨e, hskipped⟩ := hfiles f List.mem_cons_self
    rw [tryAll_skipped hstart hskipped]
    obtain ⟨e', hsearch, hdenied', hother⟩ :=
      ih (fun g hg => hfiles g (List.mem_cons_of_mem f hg)) (denied || e == .accessDenied) e
    -- a file that is skipped is skipped for one error only
    have honly : ∀ e', Skipped start name args w f e' → e' = e := fun e' h =>
      Except.error.inj (h.error.symm.trans hskipped.error)
    refine ⟨e', hsearch, fun h => hdenied' ?_, fun hdenied hnone => ?_⟩
    · rcases h with hdenied | ⟨g, hg, hskip⟩
      · exact .inl (by simp [hdenied])
      · rcases List.mem_cons.1 hg with rfl | hg
        · exact .inl (by simp [← honly _ hskip])
        · exact .inr ⟨g, hg, hskip⟩
    · have he : e ≠ .accessDenied := by
        rintro rfl
        exact hnone f List.mem_cons_self hskipped
      have hrest := hother (by simp [hdenied, he]) fun g hg => hnone g (List.mem_cons_of_mem f hg)
      rcases hrest with ⟨-, rfl⟩ | ⟨g, hg, hskip⟩
      · exact .inr ⟨f, List.mem_cons_self, hskipped⟩
      · exact .inr ⟨g, List.mem_cons_of_mem f hg, hskip⟩

/-- A search either leads to a file or fails without a change. -/
theorem tryAll_cases (hstart : Apart start) (files : List Octets) (denied : Bool) (latest : OsError) :
    (∃ file ∈ files, tryAll start name args denied latest files w = start file name args w) ∨
      ∃ e, tryAll start name args denied latest files w = (.error e, w) := by
  by_cases hfiles : ∀ f ∈ files, ∃ e, Skipped start name args w f e
  · obtain ⟨e, hsearch, -⟩ := tryAll_failed hstart hfiles denied latest
    exact .inr ⟨e, hsearch⟩
  · refine .inl ?_
    induction files generalizing denied latest with
    | nil => exact absurd (fun f hf => absurd hf List.not_mem_nil) hfiles
    | cons f rest ih =>
      by_cases hf : ∃ e, Skipped start name args w f e
      · obtain ⟨e, hskipped⟩ := hf
        have hrest : ¬ ∀ g ∈ rest, ∃ e, Skipped start name args w g e := fun h =>
          hfiles (List.forall_mem_cons.2 ⟨⟨e, hskipped⟩, h⟩)
        obtain ⟨file, hfile, hsearch⟩ := ih (denied || e == .accessDenied) e hrest
        exact ⟨file, List.mem_cons_of_mem f hfile, (tryAll_skipped hstart hskipped denied latest rest).trans hsearch⟩
      · exact ⟨f, List.mem_cons_self, tryAll_tried (not_exists.1 hf) denied latest rest⟩

/-! ### Names -/

/-- A name that is looked for along the search path. -/
structure IsSearched (program : Octets) : Prop where
  ne_empty : program ≠ ""
  slash : '/' ∉ program.toList
  length : program.length ≤ 255

/-- Where a name is looked for. -/
def places (w : World) (program : Octets) : List Octets :=
  (searchPath ((w.valueOf? "PATH").getD "/bin:/usr/bin")).map fun d => inDirectory d program

theorem byName_of_isSearched {program : Octets} (h : IsSearched program) (start : Start) (args : List Octets)
    (w : World) : start.byName program args w = tryAll start program args false .noEntry (places w program) w := by
  unfold byName
  rw [if_neg h.ne_empty, if_neg (by simpa using h.slash), if_neg (Nat.not_lt.2 h.length)]
  rfl

/-- A start by name is the start of a file, or it fails without a change. -/
theorem byName_cases (hstart : Apart start) (program : Octets) (args : List Octets) (w : World) :
    (∃ file, (file = program ∨ file ∈ places w program) ∧ start.byName program args w = start file program args w) ∨
      ∃ e, start.byName program args w = (.error e, w) := by
  unfold byName
  split_ifs
  · exact .inr ⟨_, rfl⟩
  · exact .inl ⟨program, .inl rfl, rfl⟩
  · exact .inr ⟨_, rfl⟩
  · exact (tryAll_cases hstart (places w program) false .noEntry).imp_left fun ⟨file, hfile, hsearch⟩ =>
      ⟨file, .inr hfile, hsearch⟩

/-- A start by name that fails has changed nothing. -/
theorem byName_failed (hstart : Apart start) {program : Octets} {e : OsError}
    (h : (start.byName program args w).1 = .error e) : (start.byName program args w).2 = w := by
  rcases byName_cases hstart program args w with ⟨file, -, hfile⟩ | ⟨e', hfailed⟩
  · rw [hfile] at h ⊢
    exact hstart.failed file program args w e h
  · rw [hfailed]

/-- A start by name leaves the process that starts the program as it was. -/
theorem sameProcess_byName (hstart : Apart start) (program : Octets) (args : List Octets) (w : World) :
    World.SameProcess w (start.byName program args w).2 := by
  rcases byName_cases hstart program args w with ⟨file, -, hfile⟩ | ⟨e, hfailed⟩
  · rw [hfile]
    exact hstart.own file program args w
  · rw [hfailed]
    exact .refl w

end Start

/-! ### Programs among files -/

open Start (Apart Skipped)

/-- A file is started, and the process that starts it goes on as it was, or nothing happens. -/
theorem startWithin_cases (depth : Nat) (file name : Octets) (args : List Octets) (w : World) :
    (∃ ending later, startWithin depth file name args w = (.ok ending, w.resume later)) ∨
      ∃ e, startWithin depth file name args w = (.error e, w) := by
  cases depth with
  | zero => exact .inr ⟨_, rfl⟩
  | succ depth =>
    unfold startWithin
    split
    · exact .inr ⟨_, rfl⟩
    · split
      case h_6 =>
        split_ifs
        · exact .inr ⟨_, rfl⟩
        · dsimp only
          split
          · exact .inl ⟨_, _, rfl⟩
          · exact .inr ⟨_, rfl⟩
      all_goals exact .inr ⟨_, rfl⟩

theorem startWithin_apart (depth : Nat) : Apart (startWithin depth) := by
  constructor
  · intro file name args w
    rcases startWithin_cases depth file name args w with ⟨ending, later, h⟩ | ⟨e, h⟩
    · rw [h]
      exact .resume w later
    · rw [h]
      exact .refl w
  · intro file name args w e he
    rcases startWithin_cases depth file name args w with ⟨ending, later, h⟩ | ⟨e', h⟩
    · rw [h] at he
      contradiction
    · rw [h]

theorem files_apply {o : LaunchOptions} {w later : World} (h : o.apply w = .ok later) :
    later.files = w.files := by
  unfold LaunchOptions.apply at h
  cases hdirectory : o.directory with
  | none =>
    simp only [hdirectory] at h
    obtain rfl := Except.ok.inj h
    split_ifs <;> rfl
  | some path =>
    simp only [hdirectory] at h
    obtain ⟨place, -, h⟩ := bind_eq_ok_iff.1 h
    split at h
    · obtain rfl := Except.ok.inj h
      split_ifs <;> rfl
    · contradiction
    · contradiction

theorem any_contains_iff {words : List String} {c : Char} :
    (words.any fun a => a.toList.contains c) = true ↔ ¬ ∀ a ∈ words, c ∉ a.toList := by
  simp

section Launcher

variable {o : LaunchOptions} {w own later : World} {program : String} {args : List String} {files : Files}

theorem launcher_of_ok {ending : Command.Ending}
    (hnul : ∀ a ∈ program :: args ++ o.directory.toList, Char.ofNat 0 ∉ a.toList)
    (hown : o.apply { w with files } = .ok own)
    (hstart : (startWithin programDepth).byName (Octets.ofText program) (args.map Octets.ofText) own.withPipes =
      (.ok ending, later)) :
    launcher o w program args files =
      (.ok {
        ending
        stdout := Octets.toBytes (later.pipes[0]?.getD "")
        stderr := Octets.toBytes (later.pipes[1]?.getD "") }, later.files) := by
  unfold launcher
  rw [if_neg fun hany => any_contains_iff.1 hany hnul]
  simp only [hown, hstart]

theorem launcher_of_error {e : OsError}
    (hnul : ∀ a ∈ program :: args ++ o.directory.toList, Char.ofNat 0 ∉ a.toList)
    (hown : o.apply { w with files } = .ok own)
    (hstart : (startWithin programDepth).byName (Octets.ofText program) (args.map Octets.ofText) own.withPipes =
      (.error e, later)) :
    launcher o w program args files = (.error (.os e), later.files) := by
  unfold launcher
  rw [if_neg fun hany => any_contains_iff.1 hany hnul]
  simp only [hown, hstart]

/-- Nothing is started, or a program is started by its name and the files are as it leaves them. -/
theorem launcher_cases (o : LaunchOptions) (w : World) (program : String) (args : List String) (files : Files) :
    (∃ fault, launcher o w program args files = (.error fault, files)) ∨
      ∃ own result later, o.apply { w with files } = .ok own ∧
        (startWithin programDepth).byName (Octets.ofText program) (args.map Octets.ofText) own.withPipes =
          (result, later) ∧
        (launcher o w program args files).2 = later.files ∧
        ∀ fault, (launcher o w program args files).1 = .error fault → ∃ e, result = .error e := by
  by_cases hnul : ∀ a ∈ program :: args ++ o.directory.toList, Char.ofNat 0 ∉ a.toList
  · cases hown : o.apply { w with files } with
    | error e =>
      refine .inl ⟨.os e, ?_⟩
      unfold launcher
      rw [if_neg fun hany => any_contains_iff.1 hany hnul]
      simp only [hown]
    | ok own =>
      cases hstart : (startWithin programDepth).byName (Octets.ofText program) (args.map Octets.ofText)
        own.withPipes with
      | mk result later =>
        refine .inr ⟨own, result, later, rfl, hstart, ?_⟩
        cases result with
        | ok ending =>
          rw [launcher_of_ok hnul hown hstart]
          exact ⟨rfl, fun fault h => by contradiction⟩
        | error e =>
          rw [launcher_of_error hnul hown hstart]
          exact ⟨rfl, fun _ _ => ⟨e, rfl⟩⟩
  · refine .inl ⟨.nulInWord, ?_⟩
    unfold launcher
    rw [if_pos (any_contains_iff.2 hnul)]

/-- The launcher changes no file if it does not start the program. -/
theorem launcher_failed {fault : Command.StartFault} (h : (launcher o w program args files).1 = .error fault) :
    (launcher o w program args files).2 = files := by
  rcases launcher_cases o w program args files with
    ⟨fault', hfault⟩ | ⟨own, result, later, hown, hstart, hfiles, hfailed⟩
  · rw [hfault]
  · obtain ⟨e, rfl⟩ := hfailed fault h
    have hlater := Start.byName_failed (startWithin_apart programDepth) (congrArg Prod.fst hstart)
    rw [hstart] at hlater
    rw [hfiles]
    exact (congrArg World.files hlater).trans (files_apply hown)

end Launcher

/-- No program is found at a written path: nothing leads there, or nothing stands there. -/
inductive Missing (files : Files) (here : Path) (file : Octets) : OsError → Prop where
  | unresolved {e : OsError} : files.resolve here file = .error e → e = .noEntry ∨ e = .notDirectory →
      Missing files here file e
  | empty {path : Path} : files.resolve here file = .ok path → files.node? path = none →
      Missing files here file .noEntry

theorem Missing.skipped {w : World} {file : Octets} {e : OsError} (h : Missing w.files w.here file e)
    (depth : Nat) (name : Octets) (args : List Octets) :
    Skipped (startWithin (depth + 1)) name args w file e ∧ e ≠ .accessDenied := by
  cases h with
  | unresolved hresolve he =>
    refine ⟨⟨?_, ?_⟩, ?_⟩
    · simp only [startWithin, hresolve]
    · exact he.imp_right .inl
    · rintro rfl
      rcases he with he | he <;> contradiction
  | empty hresolve hnode =>
    refine ⟨⟨?_, .inl rfl⟩, by decide⟩
    simp only [startWithin, hresolve, hnode]

/-- A name that is nowhere on the search path is not started, and the error says that something is not there. -/
theorem launcher_missing {w : World} {program : String} {args : List String} {files : Files}
    (hnul : ∀ a ∈ program :: args, Char.ofNat 0 ∉ a.toList) (hname : Start.IsSearched (Octets.ofText program))
    (hmissing : ∀ f ∈ Start.places w (Octets.ofText program), ∃ e, Missing files w.here f e) :
    ∃ e, launcher {} w program args files = (.error (.os e), files) ∧ (e = .noEntry ∨ e = .notDirectory) := by
  let own : World := { w with files }
  let name := Octets.ofText program
  let words := args.map Octets.ofText
  have hskipped : ∀ f ∈ Start.places w name, ∃ e,
      Skipped (startWithin programDepth) name words own.withPipes f e ∧ e ≠ .accessDenied := by
    intro f hf
    obtain ⟨e, he⟩ := hmissing f hf
    have he : Missing own.withPipes.files own.withPipes.here f e := he
    exact ⟨e, he.skipped 999 name words⟩
  have hnone : ∀ f ∈ Start.places w name,
      ¬ Skipped (startWithin programDepth) name words own.withPipes f .accessDenied := by
    intro f hf hdenied
    obtain ⟨e, he, hne⟩ := hskipped f hf
    exact hne (Except.error.inj (he.error.symm.trans hdenied.error))
  obtain ⟨e, hsearch, -, hother⟩ := Start.tryAll_failed (startWithin_apart programDepth)
    (fun f hf => (hskipped f hf).imp fun _ h => h.1) false .noEntry
  have hbyName : (startWithin programDepth).byName name words own.withPipes = (.error e, own.withPipes) :=
    (Start.byName_of_isSearched hname _ words own.withPipes).trans hsearch
  have happly : ({} : LaunchOptions).apply { w with files } = .ok own := rfl
  refine ⟨e, launcher_of_error (by simpa using hnul) happly hbyName, ?_⟩
  rcases hother rfl hnone with ⟨-, rfl⟩ | ⟨f, hf, hother⟩
  · exact .inl rfl
  · rcases hother.kind with he | he | rfl
    · exact .inl he
    · exact .inr he
    · exact absurd hother (hnone f hf)

/-- The first file on the search path that a name leads to is the program at `path`. -/
structure Locates (w : World) (program : Octets) (path : Path) : Prop where
  isSearched : Start.IsSearched program
  first : ∃ before file after, Start.places w program = before ++ file :: after ∧
    (∀ f ∈ before, ∃ e, Missing w.files w.here f e) ∧ w.files.resolve w.here file = .ok path
  executable : ∃ bytes, w.files.node? path = some (.file bytes true)

/-- A program that is located is run, and the process that starts it goes on as it was. -/
theorem byName_of_locates {w : World} {name : Octets} {path : Path} (h : Locates w name path) {depth : Nat}
    {program : Program} {args : List Octets} (hshort : tooLong (name :: args) w.environment = false)
    (hprogram : (programs (startWithin depth)).lookup (path.getLast?.getD "") = some program) :
    (startWithin (depth + 1)).byName name args w =
      (.ok (program name args w).1, w.resume (program name args w).2) := by
  obtain ⟨before, file, after, hplaces, hbefore, hresolve⟩ := h.first
  obtain ⟨bytes, hnode⟩ := h.executable
  have hfile : startWithin (depth + 1) file name args w =
      (.ok (program name args w).1, w.resume (program name args w).2) := by
    have hlookup : (programs fun file name args => startWithin depth file name args).lookup
        (path.getLast?.getD "") = some program := hprogram
    simp only [startWithin, hresolve, hnode, hshort, hlookup]
    rfl
  rw [Start.byName_of_isSearched h.isSearched, hplaces]
  refine (Start.tryAll_append (startWithin_apart (depth + 1)) (fun f hf => ?_) ?_ false .noEntry after).trans hfile
  · obtain ⟨e, he⟩ := hbefore f hf
    exact ⟨e, (he.skipped depth name args).1⟩
  · intro e hskipped
    have herror := hskipped.error
    rw [hfile] at herror
    contradiction

end CommandPipeline.Platform
