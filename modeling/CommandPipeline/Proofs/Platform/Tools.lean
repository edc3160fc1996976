import CommandPipeline.Proofs.Platform.Starting

/-! Programs that change no file. A launcher gives a program pipes for all that it writes, so that nothing which
can be written to is a file. A program that reads, writes and ends then leaves the files as they are, whatever
its arguments are and whatever it finds. Only shells, and programs that start other ones, can do more. -/
namespace CommandPipeline.Platform

open Text (Octets)

/-! ### Acts that change no file -/

/-- Nothing that can be written to is a file. -/
def World.Piped (w : World) : Prop :=
  ∀ s ∈ w.streams, s.writable = true → ∀ path position appending, s.channel ≠ .file path position appending

/-- No file has changed, and still nothing that can be written to is one. -/
structure World.SameFiles (w later : World) : Prop where
  files : later.files = w.files
  piped : later.Piped

/-- An act that changes no file, where nothing that can be written to is one. -/
def Act.Spares {α : Type} (act : Act α) : Prop := ∀ w : World, w.Piped → w.SameFiles (act w).2

namespace Act.Spares

variable {α β : Type}

theorem pure (a : α) : Act.Spares (Pure.pure a) := fun _ hw => ⟨rfl, hw⟩

theorem get : Act.Spares (MonadState.get : Act World) := fun _ hw => ⟨rfl, hw⟩

theorem bind {act : Act α} {f : α → Act β} (hact : Act.Spares act) (hf : ∀ a, Act.Spares (f a)) :
    Act.Spares (act >>= f) := by
  intro w hw
  have hfirst := hact w hw
  have hsecond := hf (act w).1 (act w).2 hfirst.piped
  exact ⟨hsecond.files.trans hfirst.files, hsecond.piped⟩

end Act.Spares

open Act (Spares)

/-! ### Streams -/

namespace World

theorem getElem?_of_stream? {w : World} {descriptor number : Nat} {s : Stream}
    (h : w.stream? descriptor = some (number, s)) : w.streams[number]? = some s := by
  simp only [stream?, Option.bind_eq_bind, Option.bind_eq_some_iff, Option.pure_def, Option.some.injEq,
    Prod.mk.injEq] at h
  obtain ⟨n, -, t, ht, rfl, rfl⟩ := h
  exact ht

theorem Piped.not_file {w : World} (hw : w.Piped) {descriptor number : Nat} {s : Stream}
    (h : w.stream? descriptor = some (number, s)) (hs : s.writable = true) (path : Path) (position : Nat)
    (appending : Bool) : s.channel ≠ .file path position appending :=
  hw s (Array.mem_of_getElem? (getElem?_of_stream? h)) hs path position appending

theorem spares_write (descriptor : Nat) (text : Octets) : Spares (write descriptor text) := by
  intro w hw
  unfold write
  split_ifs
  · exact ⟨rfl, hw⟩
  · cases hstream : w.stream? descriptor with
    | none => exact ⟨rfl, hw⟩
    | some e =>
      obtain ⟨number, s⟩ := e
      dsimp only
      split_ifs with hs
      · exact ⟨rfl, hw⟩
      · have hfile := hw.not_file hstream (by simpa using hs)
        split
        · next hchannel => exact absurd hchannel (hfile _ _ _)
        · next hchannel => exact absurd hchannel (hfile _ _ _)
        all_goals exact ⟨rfl, hw⟩

theorem spares_readAll (descriptor : Nat) : Spares (readAll descriptor) := by
  intro w hw
  unfold readAll
  cases w.unread descriptor with
  | error e => exact ⟨rfl, hw⟩
  | ok text =>
    dsimp only
    unfold advance
    cases hstream : w.stream? descriptor with
    | none => exact ⟨rfl, hw⟩
    | some e =>
      obtain ⟨number, s⟩ := e
      dsimp only
      split
      · next path position appending hchannel =>
        refine ⟨rfl, fun t ht hwritable => ?_⟩
        -- a file goes on at another position, but it was not to be written to
        rcases Array.mem_or_eq_of_mem_setIfInBounds ht with ht | rfl
        · exact hw t ht hwritable
        · exact absurd hchannel (hw.not_file hstream hwritable _ _ _)
      all_goals exact ⟨rfl, hw⟩

/-- A file that is opened for reading is there already. -/
theorem channelTo_read {w later : World} {path : Path} {channel : Channel}
    (h : w.channelTo .read path = .ok (channel, later)) : later = w := by
  unfold channelTo at h
  split at h
  · contradiction
  · cases h
    rfl
  · cases h
    rfl
  · contradiction
  · contradiction
  · split at h
    · contradiction
    · split at h <;> cases h <;> rfl
  · cases h
    rfl

theorem spares_openFile (path : Octets) : Spares (openFile .read path) := by
  intro w hw
  unfold openFile
  dsimp only
  split
  · exact ⟨rfl, hw⟩
  · next channel later hopened =>
    obtain ⟨place, -, hchannel⟩ := bind_eq_ok_iff.1 hopened
    obtain rfl := channelTo_read hchannel
    refine ⟨rfl, fun s hs hwritable => ?_⟩
    rcases Array.mem_push.1 hs with hs | rfl
    · exact hw s hs hwritable
    · contradiction

end World

theorem Printout.spares_deliver (failureCode : Nat) (self : Octets) (p : Printout) :
    Spares (p.deliver failureCode self) := by
  refine .bind (World.spares_write 2 p.err) fun _ => .bind (World.spares_write 1 p.out) fun failure => ?_
  cases failure with
  | none => exact .pure _
  | some e => exact .bind (World.spares_write 2 _) fun _ => .pure _

/-! ### Programs that change no file -/

/-- A program that changes no file under any name and with any arguments. -/
def Program.Spares (p : Program) : Prop := ∀ self args, Act.Spares (p self args)

theorem spares_withOptions (code : Nat) (o : OptionSet) {act : (self : Octets) → Parsed → Act Command.Ending}
    (hact : ∀ self p, Spares (act self p)) : Program.Spares (withOptions code o act) := by
  intro self args
  refine .bind .get fun w => ?_
  dsimp only
  split_ifs
  · exact .pure _
  · split
    · exact Printout.spares_deliver _ _ _
    · exact hact self _

theorem spares_ends (code : Nat) : Program.Spares (ends code) := fun _ _ => .pure _

namespace Tool

theorem spares_echo : Program.Spares echo := fun _ _ =>
  .bind .get fun _ => Printout.spares_deliver _ _ _

theorem spares_printf : Program.Spares printf := by
  intro self args
  unfold printf
  split
  · exact Printout.spares_deliver _ _ _
  · exact .bind .get fun _ => Printout.spares_deliver _ _ _

theorem spares_printenv : Program.Spares printenv :=
  spares_withOptions _ _ fun _ _ => .bind .get fun _ => Printout.spares_deliver _ _ _

theorem spares_seq : Program.Spares seq :=
  spares_withOptions _ _ fun _ _ => .bind .get fun _ => Printout.spares_deliver _ _ _

theorem spares_basename : Program.Spares basename :=
  spares_withOptions _ _ fun _ _ => .bind .get fun _ => Printout.spares_deliver _ _ _

theorem spares_dirname : Program.Spares dirname :=
  spares_withOptions _ _ fun _ _ => Printout.spares_deliver _ _ _

theorem spares_pwd : Program.Spares pwd :=
  spares_withOptions _ _ fun _ _ => .bind .get fun _ => Printout.spares_deliver _ _ _

theorem spares_expr : Program.Spares expr := by
  intro self args
  refine .bind .get fun w => ?_
  split
  · exact Printout.spares_deliver _ _ _
  · dsimp only
    split <;> exact Printout.spares_deliver _ _ _

theorem spares_judge (behind : Option Octets) : Program.Spares (judge behind) := by
  intro self words
  refine .bind .get fun w => ?_
  split
  · exact .pure _
  · exact Printout.spares_deliver _ _ _

theorem spares_bracket : Program.Spares bracket := by
  intro self words
  unfold bracket
  split_ifs
  · exact .pure _
  · split
    · exact spares_judge _ _ _
    · exact .bind .get fun _ => Printout.spares_deliver _ _ _

theorem spares_ls : Program.Spares ls := by
  intro self args
  refine .bind .get fun w => ?_
  dsimp only
  split
  · split_ifs <;> exact Printout.spares_deliver _ _ _
  · split
    · exact .pure _
    · split <;> exact Printout.spares_deliver _ _ _

/-! ### The program `cat` -/

theorem spares_catDescriptor (o : CatOptions) (descriptor : Nat) (st : CatState) :
    Spares (catDescriptor o descriptor st) := by
  refine .bind .get fun w => ?_
  split
  · exact .pure _
  · refine .bind (World.spares_readAll descriptor) fun read => ?_
    cases read with
    | error e => exact .pure _
    | ok text =>
      refine .bind (World.spares_write 1 _) fun failure => ?_
      cases failure <;> exact .pure _

theorem spares_catOperand (o : CatOptions) (path : Octets) (st : CatState) : Spares (catOperand o path st) := by
  unfold catOperand
  split_ifs
  · exact spares_catDescriptor o 0 st
  · refine .bind (World.spares_openFile path) fun opened => ?_
    cases opened with
    | error e => exact .pure _
    | ok n =>
      refine .bind (fun w hw => ⟨rfl, hw⟩) fun _ => .bind (spares_catDescriptor o _ st) fun r => ?_
      exact .bind (fun w hw => ⟨rfl, hw⟩) fun _ => .pure r

theorem spares_catOperands (self : Octets) (o : CatOptions) (paths : List Octets) (st : CatState) (code : Nat) :
    Spares (catOperands self o paths st code) := by
  induction paths generalizing st code with
  | nil => exact .pure code
  | cons path rest ih =>
    unfold catOperands
    refine .bind (spares_catOperand o path st) fun r => ?_
    cases r with
    | ok st => exact ih st code
    | error e =>
      dsimp only
      split_ifs
      · exact .bind (World.spares_write 2 _) fun _ => .pure 1
      · exact .bind .get fun w => .bind (World.spares_write 2 _) fun _ => ih st 1

theorem spares_cat : Program.Spares cat := by
  refine spares_withOptions _ _ fun self p => .bind .get fun w => ?_
  split
  · exact .bind (World.spares_write 2 _) fun _ => .pure _
  · dsimp only
    generalize (if p.operands.isEmpty then ["-"] else p.operands) = operands
    refine .bind (spares_catOperands self _ operands _ _) fun code => .bind .get fun later => ?_
    split
    · exact .bind (World.spares_write 2 _) fun _ => .pure _
    · exact .pure _

end Tool

/-! ### Started programs -/

/-- A program that is neither a shell nor starts another one changes no file. -/
theorem spares_of_lookup {start : Start} {name : Octets} {program : Program}
    (hprogram : (programs start).lookup name = some program) (hshell : name ≠ "dash") (henv : name ≠ "env") :
    program.Spares := by
  obtain ⟨before, behind, hprograms, -⟩ := List.lookup_eq_some_iff.1 hprogram
  have h : (name, program) ∈ programs start := hprograms ▸ List.mem_append_right before List.mem_cons_self
  simp only [programs, List.mem_cons, Prod.mk.injEq, List.not_mem_nil, or_false] at h
  rcases h with h | h | h | h | h | h | h | h | h | h | h | h | h | h | h | h <;> obtain ⟨rfl, rfl⟩ := h
  · exact Tool.spares_echo
  · exact Tool.spares_printf
  · exact spares_ends 0
  · exact spares_ends 1
  · contradiction
  · contradiction
  · exact Tool.spares_printenv
  · exact Tool.spares_cat
  · exact Tool.spares_seq
  · exact Tool.spares_expr
  · exact Tool.spares_judge none
  · exact Tool.spares_bracket
  · exact Tool.spares_basename
  · exact Tool.spares_dirname
  · exact Tool.spares_ls
  · exact Tool.spares_pwd

theorem piped_withPipes (w : World) : w.withPipes.Piped := by
  intro s hs _ path position appending
  simp only [World.withPipes, List.mem_toArray, List.mem_cons, List.not_mem_nil, or_false] at hs
  rcases hs with rfl | rfl | rfl <;> exact Channel.noConfusion

theorem getD_ne_of_ne_some {last? : Option Octets} {name : Octets} (h : last? ≠ some name) (hne : name ≠ "") :
    last?.getD "" ≠ name := by
  cases last? with
  | none => exact hne.symm
  | some last => simpa using h

/-- What stands at a path that is no shell's changes no file if it is started. -/
theorem files_startWithin {file : Octets} {w : World} (hw : w.Piped)
    (hpath : ∀ path, w.files.resolve w.here file = .ok path →
      path.getLast? ≠ some "dash" ∧ path.getLast? ≠ some "env")
    (depth : Nat) (name : Octets) (args : List Octets) :
    (startWithin depth file name args w).2.files = w.files := by
  cases depth with
  | zero => rfl
  | succ depth =>
    unfold startWithin
    split
    · rfl
    · next path hresolve =>
      split
      case h_6 =>
        split_ifs
        · rfl
        · dsimp only
          split
          · next program hlookup =>
            obtain ⟨hshell, henv⟩ := hpath path hresolve
            have hspares := spares_of_lookup hlookup (getD_ne_of_ne_some hshell (by decide))
              (getD_ne_of_ne_some henv (by decide))
            exact (hspares name args w hw).files
          · rfl
      all_goals rfl

/-- The name, or a place where it is looked for, leads to the path. -/
def Start.LeadsTo (w : World) (program : Octets) (path : Path) : Prop :=
  ∃ file, (file = program ∨ file ∈ Start.places w program) ∧ w.files.resolve w.here file = .ok path

/-- A launcher changes no file under a name that leads to no shell and to no program that starts other ones,
whatever the arguments are and however the program ends. -/
theorem files_launcher {o : LaunchOptions} {w : World} {files : Files} {program : String}
    (hpath : ∀ own path, o.apply { w with files } = .ok own →
      Start.LeadsTo own.withPipes (Octets.ofText program) path →
      path.getLast? ≠ some "dash" ∧ path.getLast? ≠ some "env") (args : List String) :
    (launcher o w program args files).2 = files := by
  rcases launcher_cases o w program args files with
    ⟨fault, hfault⟩ | ⟨own, result, later, hown, hstart, hfiles, -⟩
  · rw [hfault]
  · have hlater : later.files = own.files := by
      rcases Start.byName_cases (startWithin_apart programDepth) (Octets.ofText program)
        (args.map Octets.ofText) own.withPipes with ⟨file, hfile, hstarted⟩ | ⟨e, hfailed⟩
      · have hsame := files_startWithin (piped_withPipes own)
          (fun path hresolve => hpath own path hown ⟨file, hfile, hresolve⟩) programDepth
          (Octets.ofText program) (args.map Octets.ofText)
        rwa [← hstarted, hstart] at hsame
      · obtain ⟨-, rfl⟩ := Prod.mk.inj (hstart.symm.trans hfailed)
        rfl
    rw [hfiles, hlater, files_apply hown]

end CommandPipeline.Platform
