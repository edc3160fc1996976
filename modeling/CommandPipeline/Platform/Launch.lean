import CommandPipeline.Command.Error
import CommandPipeline.Platform.Shell.Program
import CommandPipeline.Platform.Tool.Cat
import CommandPipeline.Platform.Tool.Condition
import CommandPipeline.Platform.Tool.Echo
import CommandPipeline.Platform.Tool.Env
import CommandPipeline.Platform.Tool.Expr
import CommandPipeline.Platform.Tool.Ls
import CommandPipeline.Platform.Tool.Names
import CommandPipeline.Platform.Tool.Printf
import CommandPipeline.Platform.Tool.Seq

/-! Starting programs among files. The launcher is the system that commands run on, with the programs that the
commands of a pipeline call. A run takes any launcher; with this one, the command line does all of its work on
values, and what a pipeline does can be followed to the end of its commands. -/
namespace CommandPipeline.Platform

open Command (Completion StartFault Launcher)
open Text (Octets)

/-! ### The programs -/

/-- A program that does nothing but end with a code. -/
def ends (code : Nat) : Program := fun _ _ => return .exited code

/-- The programs by the names of their files. -/
def programs (start : Start) : List (Octets × Program) :=
  [("echo", Tool.echo), ("printf", Tool.printf), ("true", ends 0), ("false", ends 1),
   ("dash", Shell.program start), ("env", Tool.env start), ("printenv", Tool.printenv),
   ("cat", Tool.cat), ("seq", Tool.seq), ("expr", Tool.expr), ("test", Tool.test),
   ("[", Tool.bracket), ("basename", Tool.basename), ("dirname", Tool.dirname), ("ls", Tool.ls),
   ("pwd", Tool.pwd)]

/-- The names of the files of programs. -/
def programNames : List Octets :=
  ["[", "basename", "cat", "dash", "dirname", "echo", "env", "expr", "false", "ls", "printenv", "printf",
   "pwd", "seq", "test", "true"]

/-- The length that no argument reaches, and the length that all arguments and variables may have. -/
def argumentLimit : Nat := 131072
def argumentsLimit : Nat := 2097152

/-- Whether arguments and variables are too long for a program. -/
def tooLong (arguments : List Octets) (environment : Environment) : Bool :=
  let texts := arguments ++ environment.map fun e => e.1 ++ "=" ++ e.2
  texts.any (fun a => argumentLimit ≤ a.length) ||
    argumentsLimit < texts.foldl (fun n a => n + a.length + 9) 0

/-- Runs programs that start programs, up to `depth` of them inside one another. -/
def startWithin : (depth : Nat) → Start
  | 0 => fun _ _ _ => return .error .tryAgain
  | depth + 1 => fun file self args w =>
    match w.files.resolve w.here file with
    | .error e => (.error e, w)
    | .ok path =>
      match w.files.node? path with
      | none | some (.link _) => (.error .noEntry, w)
      | some .directory | some (.device _) | some (.file _ false) => (.error .accessDenied, w)
      | some (.file _ true) =>
        if tooLong (self :: args) w.environment then (.error .tooLong, w)
        else
          let start : Start := fun file self args => startWithin depth file self args
          match (programs start).lookup (path.getLast?.getD "") with
          | some program =>
            let (ending, later) := program self args w
            (.ok ending, w.resume later)
          | none => (.error .badFormat, w)

/-- How many programs may run inside one another. -/
def programDepth : Nat := 1000

/-! ### Starting -/

/-- Where and with which environment programs start. -/
structure LaunchOptions where
  /-- The directory to start in, if it is not the working directory. -/
  directory : Option String := none
  inheritEnvironment : Bool := true

/-- The world that a program starts in. -/
def LaunchOptions.apply (o : LaunchOptions) (w : World) : Except OsError World :=
  let w := if o.inheritEnvironment then w else { w with environment := [] }
  match o.directory with
  | none => .ok w
  | some path => do
    let place ← w.files.resolve w.here (Octets.ofText path)
    match w.files.node? place with
    | some .directory => .ok { w with here := place }
    | some _ => .error .notDirectory
    | none => .error .noEntry

/-- A world with nothing to read, and a pipe each for what is written and for errors. -/
def World.withPipes (w : World) : World :=
  let stream (channel : Channel) : Stream := { channel, readable := true, writable := true }
  { w with
    pipes := #["", ""]
    streams := #[stream (.device .null), { stream (.pipe 0) with readable := false },
      { stream (.pipe 1) with readable := false }]
    descriptors := [(0, 0), (1, 1), (2, 2)] }

/-- Starts programs in a world, of which the files are those that the programs before have left. -/
def launcher (o : LaunchOptions) (w : World) : Launcher Files := fun program args files =>
  if ((program :: args) ++ o.directory.toList).any fun a => a.toList.contains (Char.ofNat 0) then
    (.error .nulInWord, files)
  else
    match o.apply { w with files } with
    | .error e => (.error (.os e), files)
    | .ok w =>
      match (startWithin programDepth).byName (Octets.ofText program) (args.map Octets.ofText) w.withPipes with
      | (.error e, later) => (.error (.os e), later.files)
      | (.ok ending, later) =>
        let written (pipe : Nat) : List UInt8 := Octets.toBytes (later.pipes[pipe]?.getD "")
        (.ok { ending, stdout := written 0, stderr := written 1 }, later.files)

/-! ### The usual files -/

/-- The users of the system, each with a home. -/
def usualUsers : Octets := String.join
  (["root:x:0:0:root:/root:/bin/bash", "daemon:x:1:1:daemon:/usr/sbin:/usr/sbin/nologin",
    "bin:x:2:2:bin:/bin:/usr/sbin/nologin", "sys:x:3:3:sys:/dev:/usr/sbin/nologin",
    "sync:x:4:65534:sync:/bin:/bin/sync", "games:x:5:60:games:/usr/games:/usr/sbin/nologin",
    "man:x:6:12:man:/var/cache/man:/usr/sbin/nologin", "lp:x:7:7:lp:/var/spool/lpd:/usr/sbin/nologin",
    "mail:x:8:8:mail:/var/mail:/usr/sbin/nologin", "news:x:9:9:news:/var/spool/news:/usr/sbin/nologin",
    "uucp:x:10:10:uucp:/var/spool/uucp:/usr/sbin/nologin", "proxy:x:13:13:proxy:/bin:/usr/sbin/nologin",
    "www-data:x:33:33:www-data:/var/www:/usr/sbin/nologin",
    "backup:x:34:34:backup:/var/backups:/usr/sbin/nologin",
    "list:x:38:38:Mailing List Manager:/var/list:/usr/sbin/nologin",
    "irc:x:39:39:ircd:/run/ircd:/usr/sbin/nologin", "_apt:x:42:65534::/nonexistent:/usr/sbin/nologin",
    "nobody:x:65534:65534:nobody:/nonexistent:/usr/sbin/nologin"].map (· ++ "\n"))

/-- The directories and files that are always there. -/
def usualFiles : Files :=
  let directories : List Path :=
    [["boot"], ["dev"], ["etc"], ["home"], ["media"], ["mnt"], ["opt"], ["proc"], ["root"], ["run"], ["srv"],
     ["sys"], ["tmp"], ["usr"], ["var"], ["usr", "bin"], ["usr", "games"], ["usr", "include"], ["usr", "lib"],
     ["usr", "lib64"], ["usr", "libexec"], ["usr", "local"], ["usr", "sbin"], ["usr", "share"], ["usr", "src"],
     ["usr", "local", "bin"], ["usr", "local", "etc"], ["usr", "local", "games"], ["usr", "local", "include"],
     ["usr", "local", "lib"], ["usr", "local", "sbin"], ["usr", "local", "share"], ["usr", "local", "src"],
     ["var", "cache"], ["var", "lib"], ["var", "log"], ["var", "tmp"], ["proc", "self"], ["proc", "self", "fd"]]
  let links : List (Path × Path) :=
    [(["bin"], ["usr", "bin"]), (["lib"], ["usr", "lib"]), (["lib64"], ["usr", "lib64"]),
     (["sbin"], ["usr", "sbin"]), (["usr", "bin", "sh"], ["usr", "bin", "dash"]),
     (["dev", "fd"], ["proc", "self", "fd"])]
  let devices : List (Octets × Device) :=
    [("null", .null), ("zero", .zero), ("full", .full), ("tty", .terminal), ("stdin", .descriptor 0),
     ("stdout", .descriptor 1), ("stderr", .descriptor 2)]
  { nodes := directories.map (fun p => (p, Node.directory)) ++
      links.map (fun (p, target) => (p, Node.link target)) ++
      devices.map (fun (name, d) => (["dev", name], Node.device d)) ++
      (List.range 20).map (fun n => (["proc", "self", "fd", toString n], Node.device (.descriptor n))) ++
      [(["etc", "passwd"], .file (Octets.toBytes usualUsers) false)] ++
      programNames.map fun n => (["usr", "bin", n], Node.file (Octets.toBytes "\x7fELF") true) }

end CommandPipeline.Platform
