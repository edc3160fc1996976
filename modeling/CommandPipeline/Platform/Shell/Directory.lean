import CommandPipeline.Platform.Numeral
import CommandPipeline.Platform.Shell.Search

/-! The builtin commands for the working directory, the permissions of new files, and limits: `cd`,
`pwd`, `umask` and `ulimit`. -/
namespace CommandPipeline.Platform.Shell

open Text (Octets)

/-! ### The working directory -/

/-- The path of a directory as it is named from another one, without names that lead nowhere. -/
def namedFrom (current target : Octets) : Octets :=
  let start := if target.startsWith "/" then target else current
  let root := if start.startsWith "//" && !start.startsWith "///" then "//" else "/"
  let names := (if target.startsWith "/" then target else current ++ "/" ++ target).splitOn "/"
  root ++ "/".intercalate (names.foldl (fun kept name =>
    if name = "" ∨ name = "." then kept else if name = ".." then kept.dropLast else kept ++ [name]) [])

/-- The directory at a path. -/
def directoryAt? (w : World) (path : Octets) : Option Path :=
  match w.files.resolve w.here path with
  | .ok place => if let some .directory := w.files.node? place then some place else none
  | .error _ => none

/-- Enters a directory, and tells whether that is possible. -/
def enter (physical : Bool) (target : Octets) : Step Bool := do
  let m ← Step.memory
  let named := namedFrom m.directory target
  match directoryAt? (← Step.world) (if physical then target else named) with
  | none => return false
  | some place =>
    Step.inWorld (modify fun w => { w with here := place })
    let directory := if physical then World.pathText place else named
    Step.setVariable "OLDPWD" (some m.directory) true
    Step.remember fun m => { m with directory, found := m.found.map fun e => (e.1, e.2.1, true) }
    Step.setVariable "PWD" (some directory) true
    return true

/-- Whether the last of the options asks for paths without links. -/
def asksPhysical (options : List (Char × Octets)) : Bool := options.getLast?.any fun o => o.1 == 'P'

/-- Whether a path begins at the root or at the working directory. -/
def isAnchored (path : Octets) : Bool :=
  path.startsWith "/" || (["", ".", ".."].contains path && path != "") || path.startsWith "./" ||
    path.startsWith "../"

def runCd (words : List Octets) : Step Nat := do
  let (options, words) ← Step.readOptions "LP" words
  let physical := asksPhysical options
  let m ← Step.memory
  let back := words.head? == some "-"
  let target := (if words.isEmpty then m.valueOf? "HOME" else if back then m.valueOf? "OLDPWD"
    else words.head?).getD ""
  let w ← Step.world
  let searched := if isAnchored target then []
    else (m.valueOf? "CDPATH").elim [] fun path => searchPath path
  let named := if target = "" then "." else target
  let hit := searched.find? fun d => (directoryAt? w (inDirectory d named)).isSome
  let place := match hit with
    | some d => inDirectory d named
    | none => named
  if ← enter physical place then
    if back ∨ hit.any (· ≠ "") then Step.say ((← Step.memory).directory ++ "\n")
    return 0
  else Step.fail ("can't cd to " ++ named)

def runPwd (words : List Octets) : Step Nat := do
  let (options, _) ← Step.readOptions "LP" words
  let s ← get
  Step.say ((if asksPhysical options then World.pathText s.world.here else s.memory.directory) ++ "\n")
  return 0

/-! ### Permissions -/

/-- The permissions that a letter stands for, where the ones of users are taken from `before`. -/
def permissionOf? (before : Nat) (letter : Char) : Option Nat :=
  match letter with
  | 'r' => some 4
  | 'w' => some 2
  | 'x' => some 1
  | 'X' => some (if before &&& 0o111 = 0 then 0 else 1)
  | 's' => some 0
  | 'u' => some (before / 64 % 8)
  | 'g' => some (before / 8 % 8)
  | 'o' => some (before % 8)
  | _ => none

def usersOf? (letter : Char) : Option Nat :=
  match letter with
  | 'u' => some 0o100
  | 'g' => some 0o010
  | 'o' => some 0o001
  | 'a' => some 0o111
  | _ => none

/-- What a letter or sign stands for at the end of a word. -/
def wordEnd : Char := Char.ofNat 0

/-- Changes permissions as letters ask. A word that ends behind its users goes on in the next word. -/
def changeMode (before : Nat) : (fuel : Nat) → (users mode : Nat) → List Char → Option Nat
  | 0, _, _, _ => none
  | fuel + 1, users, mode, cs =>
    if cs.isEmpty ∨ cs.head? = some wordEnd then some mode
    else
      let front := cs.takeWhile fun l => (usersOf? l).isSome
      let users := front.foldl (fun n l => n ||| (usersOf? l).getD 0) users
      let users := if users = 0 then 0o111 else users
      match cs.drop front.length with
      | [] => some mode
      | sign :: rest =>
        if sign ≠ '+' ∧ sign ≠ '-' ∧ sign ≠ '=' ∧ sign ≠ wordEnd then none
        else
          let letters := rest.takeWhile fun l => (permissionOf? before l).isSome
          let bits := users * letters.foldl (fun n l => n ||| (permissionOf? before l).getD 0) 0
          let mode := if sign = '+' then mode ||| bits
            else if sign = '-' then mode &&& (0o777 ^^^ bits)
            else if sign = '=' then (mode &&& (0o777 ^^^ users * 7)) ||| bits
            else mode
          match rest.drop letters.length with
          | [] => some mode
          | ',' :: next => changeMode before fuel 0 mode next
          | c :: next =>
            if c = '+' ∨ c = '-' ∨ c = '=' ∨ c = wordEnd then changeMode before fuel users mode (c :: next)
            else none

/-- The permissions after a change that words ask for. -/
def changedMode? (mode : Nat) (words : List Octets) : Option Nat :=
  let cs := (String.intercalate (String.singleton wordEnd) words).toList
  changeMode mode (cs.length + 1) 0 mode cs

/-- Permissions by the letters of the users. -/
def modeText (mode : Nat) : Octets :=
  let letters (bits : Nat) : String :=
    (if bits &&& 4 = 0 then "" else "r") ++ (if bits &&& 2 = 0 then "" else "w") ++
      (if bits &&& 1 = 0 then "" else "x")
  "u=" ++ letters (mode / 64 % 8) ++ ",g=" ++ letters (mode / 8 % 8) ++ ",o=" ++ letters (mode % 8)

def runUmask (words : List Octets) : Step Nat := do
  let (options, words) ← Step.readOptions "S" words
  let mask := (← Step.world).mask
  match words with
  | [] =>
    let digits := Nat.toDigits 8 mask
    let octal := String.ofList (List.replicate (4 - digits.length) '0' ++ digits)
    Step.say ((if options.isEmpty then octal else modeText (0o777 ^^^ mask)) ++ "\n")
  | text :: _ =>
    if text.toList.head?.any Char.isDigit then
      match digits? 8 octalValue? text.toList with
      | some (n, []) => Step.inWorld (modify fun w => { w with mask := n % 512 })
      | _ => Step.fail ("Illegal number: " ++ text)
    else match changedMode? (0o777 ^^^ mask) words with
      | some mode => Step.inWorld (modify fun w => { w with mask := 0o777 ^^^ mode })
      | none => Step.fail ("Illegal mode: " ++ text)
  return 0

/-! ### Limits -/

/-- What is limited, by letter, with its unit. -/
def limitTitles : List (Char × String) :=
  [('t', "time(seconds)"), ('f', "file(blocks)"), ('d', "data(kbytes)"), ('s', "stack(kbytes)"),
   ('c', "coredump(blocks)"), ('m', "memory(kbytes)"), ('l', "locked memory(kbytes)"), ('p', "process"),
   ('n', "nofiles"), ('v', "vmemory(kbytes)"), ('w', "locks"), ('r', "rtprio")]

def usualLimit : Char → Limit
  | 's' => { soft := some 8192 }
  | 'l' => { soft := some 8192, hard := some 8192 }
  | 'n' => { soft := some 1048576, hard := some 1048576 }
  | 'r' => { soft := some 0, hard := some 0 }
  | _ => {}

/-- Whether a limit is above another one. -/
def limitAbove : Option Nat → Option Nat → Bool
  | none, some _ => true
  | some a, some b => b < a
  | _, none => false

/-- Shows or sets limits. A hard limit cannot be raised, and a soft one not above it. -/
def runUlimit (words : List Octets) : Step Nat := do
  let (options, words) ← Step.readOptions "HSatfdscmlpnvwr" words
  let letters := options.map Prod.fst
  let letter := ((letters.filter fun c => c != 'H' && c != 'S' && c != 'a').getLast?).getD 'f'
  let side := (letters.filter fun c => c == 'H' || c == 'S').getLast?
  let limits := (← Step.memory).limits
  let limitOf (c : Char) : Limit := (limits.lookup c).getD (usualLimit c)
  let shown (c : Char) : Octets :=
    (if side = some 'H' then (limitOf c).hard else (limitOf c).soft).elim "unlimited" toString ++ "\n"
  match words with
  | [] =>
    let line (l : Char × String) : Octets :=
      l.2 ++ String.ofList (List.replicate (20 - l.2.length) ' ') ++ " " ++ shown l.1
    Step.say (if letters.contains 'a' then String.join (limitTitles.map line) else shown letter)
  | text :: rest =>
    if letters.contains 'a' ∨ !rest.isEmpty then Step.fail "too many arguments"
    let digits := text.toList.takeWhile Char.isDigit
    if text ≠ "unlimited" ∧ digits.length < text.length then Step.fail "bad number"
    let value := if text = "unlimited" then none
      else some ((digits? 10 decimalValue? digits).elim 0 Prod.fst)
    let old := limitOf letter
    let new : Limit := {
      soft := if side = some 'H' then old.soft else value
      hard := if side = some 'S' then old.hard else value }
    let refuse (e : OsError) : Step Unit := Step.fail ("error setting limit (" ++ e.text ++ ")")
    if limitAbove new.soft new.hard then refuse .invalidArgument
    if limitAbove new.hard old.hard then refuse .notPermitted
    Step.remember fun m => { m with limits := (letter, new) :: limits.filter fun e => e.1 ≠ letter }
  return 0

end CommandPipeline.Platform.Shell
