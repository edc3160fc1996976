import CommandPipeline.Platform.BlockSize
import CommandPipeline.Platform.CharacterWidth
import CommandPipeline.Platform.Glob
import CommandPipeline.Platform.Numeral
import CommandPipeline.Platform.Options
import CommandPipeline.Platform.Quoting
import CommandPipeline.Platform.VersionOrder

/-! The program `ls`, which lists files and what is in directories. Files come first, in one list, and
each directory follows in a list of its own. -/
namespace CommandPipeline.Platform.Tool

open Text (Octets)

/-! ### Options -/

inductive LsFormat where
  | single
  | commas
  /-- Columns that are filled line by line. -/
  | across
  /-- Columns that are filled one after another. -/
  | columns
  deriving DecidableEq

inductive LsOrder where
  | unsorted
  | name
  | extension
  | size
  | time
  | width
  | version
  deriving DecidableEq

inductive LsQuoting where
  | literal
  | shell (escapes : Bool)
  | shellAlways (escapes : Bool)
  | double
  | doubleMaybe
  | escape
  | locale
  | doubleLocale
  deriving DecidableEq

/-- Which marks stand behind names. -/
inductive LsMarks where
  | none
  | slash
  | fileType
  | all
  deriving DecidableEq

/-- The signs of a name that could be taken for marks. -/
def LsMarks.signs : LsMarks → List Char
  | .fileType => "*=>@|".toList
  | .all => "=>@|".toList
  | _ => []

/-- Which links are followed. -/
inductive LsFollowing where
  | never
  /-- Operands that lead to directories. -/
  | directories
  | operands
  | always
  deriving DecidableEq

structure LsOptions where
  /-- Names that begin with a point are shown. -/
  hidden : Bool := false
  /-- The directory itself and the one above it are shown. -/
  around : Bool := false
  /-- Patterns of names that are not shown. -/
  ignored : List Octets := []
  /-- Patterns of names that are shown only with the hidden ones. -/
  concealed : List Octets := []
  /-- Directories are listed like files. -/
  plainDirectories : Bool := false
  recursive : Bool := false
  reverse : Bool := false
  directoriesFirst : Bool := false
  byTime : Bool := false
  zero : Bool := false
  masked : Bool := false
  context : Bool := false
  /-- Whether sizes are shown in front of names, and how. -/
  sized : Bool := false
  blockSize : Option BlockSize := none
  format : LsFormat := .single
  order : Option LsOrder := none
  quoting : Option LsQuoting := none
  marks : LsMarks := .none
  following : Option LsFollowing := none
  width : Option Nat := none
  tab : Option Nat := none

def lsOptionSet : OptionSet where
  flags := "abcdfghiklmnopqrstuvxABCDFGHLNQRSUXZ1".toList
  valued := "wIT".toList
  words :=
    [⟨"all", .nothing, "a"⟩, ⟨"escape", .nothing, "b"⟩, ⟨"directory", .nothing, "d"⟩, ⟨"dired", .nothing, "D"⟩,
     ⟨"full-time", .nothing, "full-time"⟩, ⟨"group-directories-first", .nothing, "group"⟩,
     ⟨"human-readable", .nothing, "h"⟩, ⟨"inode", .nothing, "i"⟩, ⟨"kibibytes", .nothing, "k"⟩,
     ⟨"numeric-uid-gid", .nothing, "n"⟩, ⟨"no-group", .nothing, "G"⟩, ⟨"hide-control-chars", .nothing, "q"⟩,
     ⟨"reverse", .nothing, "r"⟩, ⟨"size", .nothing, "s"⟩, ⟨"width", .value, "w"⟩, ⟨"almost-all", .nothing, "A"⟩,
     ⟨"ignore-backups", .nothing, "B"⟩, ⟨"classify", .maybe, "F"⟩, ⟨"file-type", .nothing, "file-type"⟩,
     ⟨"si", .nothing, "si"⟩, ⟨"dereference-command-line", .nothing, "H"⟩,
     ⟨"dereference-command-line-symlink-to-dir", .nothing, "follow-directories"⟩, ⟨"hide", .value, "hide"⟩,
     ⟨"ignore", .value, "I"⟩, ⟨"indicator-style", .value, "indicator-style"⟩, ⟨"dereference", .nothing, "L"⟩,
     ⟨"literal", .nothing, "N"⟩, ⟨"quote-name", .nothing, "Q"⟩, ⟨"quoting-style", .value, "quoting-style"⟩,
     ⟨"recursive", .nothing, "R"⟩, ⟨"format", .value, "format"⟩,
     ⟨"show-control-chars", .nothing, "show-control-chars"⟩, ⟨"sort", .value, "sort"⟩, ⟨"tabsize", .value, "T"⟩,
     ⟨"time", .value, "time"⟩, ⟨"time-style", .value, "time-style"⟩, ⟨"zero", .nothing, "zero"⟩,
     ⟨"color", .maybe, "color"⟩, ⟨"hyperlink", .maybe, "hyperlink"⟩, ⟨"block-size", .value, "block-size"⟩,
     ⟨"context", .nothing, "Z"⟩, ⟨"author", .nothing, "author"⟩, ⟨"help", .nothing, "help"⟩,
     ⟨"version", .nothing, "version"⟩]
  anywhere := true

/-- When something is done: always, never, or on a terminal, which the output never is. -/
def whenChoices : Choices Bool :=
  [(["always", "yes", "force"], true), (["never", "no", "none"], false), (["auto", "tty", "if-tty"], false)]

def formatChoices : Choices LsFormat :=
  [(["verbose", "long"], .single), (["commas"], .commas), (["horizontal", "across"], .across),
   (["vertical"], .columns), (["single-column"], .single)]

def orderChoices : Choices LsOrder :=
  [(["none"], .unsorted), (["time"], .time), (["size"], .size), (["extension"], .extension),
   (["version"], .version), (["width"], .width)]

def quotingChoices : Choices LsQuoting :=
  [(["literal"], .literal), (["shell"], .shell false), (["shell-always"], .shellAlways false),
   (["shell-escape"], .shell true), (["shell-escape-always"], .shellAlways true), (["c"], .double), (["c-maybe"], .doubleMaybe),
   (["escape"], .escape), (["locale"], .locale), (["clocale"], .doubleLocale)]

def marksChoices : Choices LsMarks :=
  [(["none"], .none), (["slash"], .slash), (["file-type"], .fileType), (["classify"], .all)]

def timeChoices : Choices Unit :=
  [(["atime", "access", "use"], ()), (["ctime", "status"], ()), (["birth", "creation"], ())]

/-- A length that is written as a number in one of three bases. -/
def lengthOf? (s : Octets) : Option Nat :=
  if s.toList.contains '-' then none
  else match readInteger? false natural? s.toList with
    | some ⟨n, _, []⟩ => some n.toNat
    | _ => none

/-- What is wrong with the value of an option, and whether it is a word that is not known. -/
abbrev LsFault := String × Bool

namespace LsOptions

/-- The options with one more of them. -/
def add (quote : Octets → Octets) (o : LsOptions) (option : String × Option Octets) : Except LsFault LsOptions :=
  let value := option.2.getD ""
  let chosen {α : Type} (choices : Choices α) (use : α → LsOptions) : Except LsFault LsOptions :=
    match choices.choose quote ("--" ++ option.1) value with
    | .ok a => .ok (use a)
    | .error e => .error (e, true)
  let switched (name : String) (use : LsOptions) : Except LsFault LsOptions :=
    match option.2.map (whenChoices.choose quote name) with
    | some (.error e) => .error (e, true)
    | some (.ok false) => .ok o
    | _ => .ok use
  match option.1 with
  | "a" => .ok { o with hidden := true, around := true }
  | "A" => .ok { o with hidden := true, around := false }
  | "b" => .ok { o with quoting := some .escape }
  | "B" => .ok { o with ignored := "*~" :: ".*~" :: o.ignored }
  | "c" | "u" => .ok { o with byTime := true }
  | "C" => .ok { o with format := .columns }
  | "d" => .ok { o with plainDirectories := true }
  | "f" => .ok { o with hidden := true, around := true, sized := false, order := some .unsorted }
  | "F" => switched "--classify" { o with marks := .all }
  | "file-type" => .ok { o with marks := .fileType }
  | "follow-directories" => .ok { o with following := some .directories }
  | "group" => .ok { o with directoriesFirst := true }
  | "h" => .ok { o with blockSize := some (.scaled 1024) }
  | "H" => .ok { o with following := some .operands }
  | "hide" => .ok { o with concealed := value :: o.concealed }
  | "I" => .ok { o with ignored := value :: o.ignored }
  | "L" => .ok { o with following := some .always }
  | "l" | "g" | "n" | "o" | "full-time" | "1" => .ok { o with format := .single }
  | "m" => .ok { o with format := .commas }
  | "N" => .ok { o with quoting := some .literal }
  | "p" => .ok { o with marks := .slash }
  | "q" => .ok { o with masked := true }
  | "Q" => .ok { o with quoting := some .double }
  | "r" => .ok { o with reverse := true }
  | "R" => .ok { o with recursive := true }
  | "s" => .ok { o with sized := true }
  | "S" => .ok { o with order := some .size }
  | "si" => .ok { o with blockSize := some (.scaled 1000) }
  | "block-size" => match BlockSize.parse value with
    | .ok size => .ok { o with blockSize := some size }
    | .error .noNumber => .error ("invalid --block-size argument " ++ quote value, false)
    | .error .badLetters => .error ("invalid suffix in --block-size argument " ++ quote value, false)
    | .error .tooLarge => .error ("--block-size argument " ++ quote value ++ " too large", false)
  | "show-control-chars" => .ok { o with masked := false }
  | "t" => .ok { o with order := some .time }
  | "U" => .ok { o with order := some .unsorted }
  | "v" => .ok { o with order := some .version }
  | "x" => .ok { o with format := .across }
  | "X" => .ok { o with order := some .extension }
  | "Z" => .ok { o with context := true }
  | "zero" => .ok { o with zero := true, format := .single, masked := false, quoting := some .literal }
  | "color" | "hyperlink" => switched ("--" ++ option.1) o
  | "format" => chosen formatChoices fun format => { o with format }
  | "indicator-style" => chosen marksChoices fun marks => { o with marks }
  | "quoting-style" => chosen quotingChoices fun style => { o with quoting := some style }
  | "sort" => chosen orderChoices fun order => { o with order := some order }
  | "time" => chosen timeChoices fun _ => { o with byTime := true }
  | "T" => match lengthOf? value with
    | some n => .ok { o with tab := some n }
    | none => .error ("invalid tab size: " ++ quote value, false)
  | "w" => match lengthOf? value with
    | some n => .ok { o with width := some n }
    | none => .error ("invalid line width: " ++ quote value, false)
  | _ => .ok o

/-- A variable of the environment that may set what no option has set, with a complaint if its value
cannot be used. -/
def setting? {α : Type} (w : World) (wanted : Bool) (set : Option α) (name : String)
    (read? : Octets → Option α) (what : String) : Option α × List String :=
  match if wanted && set.isNone then w.valueOf? name else none with
  | none => (set, [])
  | some value =>
    match read? value with
    | some a => (some a, [])
    | none =>
      if value = "" then (set, [])
      else (set, ["ignoring invalid " ++ what ++ " environment variable " ++ name ++ ": " ++
        quoteArgument w.charset value])

/-- The options, completed from the environment, and complaints about that. -/
def complete (w : World) (o : LsOptions) : LsOptions × List String :=
  let inLines := o.format != .single
  let (width, a) := setting? w inLines o.width "COLUMNS" lengthOf? "width in"
  let (tab, b) := setting? w inLines o.tab "TABSIZE" lengthOf? "tab size in"
  let quoting? (value : Octets) : Option LsQuoting := (quotingChoices.value? value).join
  let (quoting, c) := setting? w true o.quoting "QUOTING_STYLE" quoting? "value of"
  ({ o with width, tab, quoting }, a ++ b ++ c)

/-- Which links are followed if no option says so. -/
def followed (o : LsOptions) : LsFollowing :=
  o.following.getD (if o.plainDirectories || o.marks == .all then .never else .directories)

/-- The order if no option says another one. -/
def usedOrder (o : LsOptions) : LsOrder := o.order.getD (if o.byTime then .time else .name)

end LsOptions

/-! ### Entries -/

structure LsEntry where
  name : Octets
  path : Path
  node : Node
  /-- Whether it is a directory or leads to one. -/
  leadsToDirectory : Bool

namespace LsEntry

/-- What a path is in a list. A link is followed only if that is wanted. -/
def ofPath (files : Files) (follow : Bool) (name : Octets) (path : Path) (node : Node) : LsEntry :=
  let target := (files.node? (files.follow path)).getD node
  let leadsToDirectory := match target with
    | .directory => true
    | _ => false
  { name, path, node := if follow then target else node, leadsToDirectory }

def isDirectory (e : LsEntry) : Bool := match e.node with
  | .directory => true
  | _ => false

/-- The mark of what a name stands for. -/
def mark (marks : LsMarks) (e : LsEntry) : Octets :=
  match marks, e.node with
  | .none, _ => ""
  | _, .directory => "/"
  | .slash, _ => ""
  | _, .link _ | _, .device (.descriptor _) => "@"
  | .all, .file _ true => "*"
  | _, _ => ""

def size (e : LsEntry) : Nat := match e.node with
  | .file bytes _ => bytes.length
  | .directory => 4096
  | _ => 0

/-- The bytes of the blocks that it takes on the disk. -/
def allocated (e : LsEntry) : Nat := match e.node with
  | .file bytes _ => BlockSize.divideUp bytes.length 4096 * 4096
  | .directory => if ["dev", "proc", "sys"].any fun name => e.path.head? == some name then 0 else 4096
  | _ => 0

/-- The name from its last point on. -/
def extension (e : LsEntry) : Octets :=
  let behind := e.name.toList.reverse.takeWhile (· != '.')
  if behind.length = e.name.length then "" else String.ofList ('.' :: behind.reverse)

end LsEntry

/-- A name as it is shown, with quotes or escapes for some signs. -/
def LsOptions.show (o : LsOptions) (charset : Charset) (special : List Char) (name : Octets) : Octets :=
  let isSpecial := name.toList.any special.contains
  let masked (text : Octets) : Octets :=
    if o.masked then
      String.join ((characters charset text).map fun unit => if isShown charset unit then unit else "?")
    else text
  match o.quoting.getD .literal with
  | .literal => masked name
  | .shell escapes =>
    let text := if isSpecial || needsQuotes charset escapes (characters charset name) then
      quoteForShell charset escapes name else name
    if escapes then text else masked text
  | .shellAlways escapes =>
    let text := quoteForShell charset escapes name
    if escapes then text else masked text
  | .double => quoteDouble charset special name
  | .doubleMaybe =>
    if !isSpecial && quoteDouble charset [] name == "\"" ++ name ++ "\"" then name else quoteDouble charset [] name
  | .escape => escapedText charset special name
  | .locale => quoteSingle charset special name
  | .doubleLocale => match charset with
    | .ascii => quoteDouble charset special name
    | .utf8 => quoteSingle charset special name

/-- The name of a file as it is shown. -/
def LsOptions.title (o : LsOptions) (charset : Charset) (e : LsEntry) : Octets :=
  o.show charset ((if o.quoting = some .escape then [' '] else []) ++ o.marks.signs) e.name

/-- Whether the names of a list that have no quotes stand below the names inside the quotes of others. -/
def LsOptions.shifts (o : LsOptions) (charset : Charset) (entries : List LsEntry) : Bool :=
  (o.format == .across || o.format == .columns) && o.width != some 0 &&
    (o.quoting == some (.shell false) || o.quoting == some (.shell true) || o.quoting == some .doubleMaybe) &&
    entries.any fun e => o.title charset e != e.name

def LsOptions.sizeText (o : LsOptions) (w : World) (bytes : Nat) : Octets :=
  (o.blockSize.getD (.counted (if w.isStrict then 512 else 1024) "")).text bytes

/-- A name with all that stands around it. The sizes of the list take `wide` columns, and `shifted` tells
whether some of its names have quotes. -/
def LsOptions.label (o : LsOptions) (w : World) (wide : Nat) (shifted : Bool) (e : LsEntry) : Octets :=
  let title := o.title w.charset e
  let size := o.sizeText w e.allocated
  let room := if o.format = .commas then 0 else wide - size.length
  (if o.sized then String.ofList (List.replicate room ' ') ++ size ++ " " else "") ++
    (if o.context then "? " else "") ++ (if shifted && title == e.name then " " else "") ++ title ++
    e.mark o.marks

def total (sizes : List Nat) : Nat := sizes.foldl (· + ·) 0

def labelWidth (charset : Charset) (label : Octets) : Nat :=
  total ((characters charset label).map fun unit =>
    match unit.toList with
    | [c] => if c.toNat < 0x80 then Charset.ascii.width c else if charset = .utf8 then 1 else 0
    | _ => total (unit.toText.toList.map charset.width))

/-! ### Order -/

/-- Whether an entry comes before another one, or at the same place. -/
def LsOptions.ordered (o : LsOptions) (w : World) (shifted : Bool) (a b : LsEntry) : Bool :=
  let width (e : LsEntry) : Nat :=
    let title := o.title w.charset e
    labelWidth w.charset title + if shifted && title == e.name then 1 else 0
  let byName := decide (a.name ≤ b.name)
  let byKey (m n : Nat) : Bool := decide (m < n) || (m == n && byName)
  if o.directoriesFirst && a.leadsToDirectory != b.leadsToDirectory then a.leadsToDirectory
  else match o.usedOrder with
    | .extension => decide (a.extension < b.extension) || (a.extension == b.extension && byName)
    | .size => byKey b.size a.size
    | .time => byKey (w.files.changed b.path) (w.files.changed a.path)
    | .width => byKey (width a) (width b)
    | .version => match compareVersions a.name b.name with
      | .lt => true
      | .eq => byName
      | .gt => false
    | _ => byName

def LsOptions.sort (o : LsOptions) (w : World) (entries : List LsEntry) : List LsEntry :=
  if o.usedOrder = .unsorted then entries
  else
    let shifted := o.shifts w.charset entries
    entries.mergeSort fun a b =>
      if o.reverse && !(o.directoriesFirst && a.leadsToDirectory != b.leadsToDirectory) then
        o.ordered w shifted b a
      else o.ordered w shifted a b

/-! ### Lists -/

/-- Blanks and tabs that lead from one column to another. -/
def indentation (tab : Nat) : (fuel : Nat) → (here goal : Nat) → List Char
  | 0, _, _ => []
  | fuel + 1, here, goal =>
    if goal ≤ here then []
    else if tab ≠ 0 ∧ (here + 1) / tab < goal / tab then
      '\t' :: indentation tab fuel (here + (tab - here % tab)) goal
    else ' ' :: indentation tab fuel (here + 1) goal

/-- The widths of `count` columns that hold labels. A column has at least three characters, and two
blanks behind its longest label unless it is the last one. -/
def columnWidths (down : Bool) (widths : List Nat) (count : Nat) : List Nat :=
  let rows := (widths.length + count - 1) / count
  (List.range count).map fun column =>
    let own := (widths.zipIdx.filter fun e => (if down then e.2 / rows else e.2 % count) == column).map Prod.fst
    (own.map fun n => if column + 1 = count then n else n + 2).foldl max 3

/-- The widths of as many columns as fit into a line. -/
def fittingColumns (down : Bool) (line : Nat) (widths : List Nat) : (count : Nat) → List Nat
  | 0 => []
  | 1 => columnWidths down widths 1
  | count + 2 =>
    let columns := columnWidths down widths (count + 2)
    if total columns < line then columns else fittingColumns down line widths (count + 1)

/-- One line of labels with their widths, in columns of the given widths. -/
def columnLine (tab : Nat) : (here : Nat) → List (Octets × Nat) → List Nat → Octets
  | _, [], _ => ""
  | _, [(label, _)], _ => label
  | here, (label, n) :: rest, columns =>
    let column := columns.headD 0
    label ++ String.ofList (indentation tab column (here + n) (here + column)) ++
      columnLine tab (here + column) rest columns.tail

/-- Labels with commas between them, in lines that they fit into. -/
def commaText (line : Nat) (close : Octets) : (here : Nat) → List (Octets × Nat) → Octets
  | _, [] => close
  | here, (label, n) :: rest =>
    let next := rest.head?.elim 0 Prod.snd
    let fits : Bool := line == 0 || decide (here + n + next + 2 < line)
    let here' := if fits then here + n + 2 else 0
    label ++ (if rest.isEmpty then "" else if fits then ", " else "," ++ close) ++ commaText line close here' rest

/-- Cuts a list into pieces of one length. -/
def piecesOf {α : Type} (length : Nat) : (fuel : Nat) → List α → List (List α)
  | 0, _ => []
  | fuel + 1, xs => if xs.isEmpty then [] else xs.take length :: piecesOf length fuel (xs.drop length)

/-- The entries of one list in the format that is wanted, which have been found among others. -/
def LsOptions.listing (o : LsOptions) (w : World) (found entries : List LsEntry) : Octets :=
  let charset := w.charset
  let close := if o.zero then "\x00" else "\n"
  let shifted := o.shifts charset found
  let wide := (found.map fun e => (o.sizeText w e.allocated).length).foldl max 0
  let labels := entries.map (o.label w wide shifted)
  let line := o.width.getD 80
  let sized := labels.map fun l => (l, labelWidth charset l)
  let inColumns (down : Bool) : Octets :=
    if line = 0 then "  ".intercalate labels ++ close
    else
      let most := line / 3 + if line % 3 = 0 then 0 else 1
      let columns := fittingColumns down line (sized.map Prod.snd) (min most labels.length)
      let count := max columns.length 1
      let rows := (labels.length + count - 1) / count
      let lines := if down then
          (List.range rows).map fun row => (sized.zipIdx.filter fun e => e.2 % rows == row).map Prod.fst
        else piecesOf count labels.length sized
      String.join (lines.map fun l => columnLine (o.tab.getD 8) 0 l columns ++ close)
  if entries.isEmpty then ""
  else match o.format with
    | .single => String.join (labels.map (· ++ close))
    | .commas => commaText line close 0 sized
    | .across => inColumns false
    | .columns => inColumns true

/-! ### Directories -/

/-- Whether a name fits one of some patterns, none of which takes a point in front for a wildcard. -/
def fitsAny (patterns : List Octets) (name : Octets) : Bool :=
  patterns.any fun p => (!name.startsWith "." || p.startsWith ".") && Glob.fits ['!', '^'] p.toList name.toList

def LsOptions.skips (o : LsOptions) (name : Octets) : Bool :=
  (!o.hidden && (name.startsWith "." || fitsAny o.concealed name)) || fitsAny o.ignored name

/-- What is in a directory, in its order. -/
def LsOptions.content (o : LsOptions) (w : World) (path : Path) : List LsEntry :=
  let follow := o.followed == .always
  let entry? (name : Octets) : Option LsEntry :=
    (w.files.node? (path ++ [name])).map (LsEntry.ofPath w.files follow name (path ++ [name]))
  let around := if o.around then
      [LsEntry.ofPath w.files false "." path .directory, LsEntry.ofPath w.files false ".." path.dropLast .directory]
    else []
  o.sort w ((around.filter fun e => !o.skips e.name) ++
    ((w.files.children path).filter fun name => !o.skips name).filterMap entry?)

/-- The lists of directories, each with its heading if that is wanted. -/
def LsOptions.blocks (o : LsOptions) (w : World) (headings : Bool) : (fuel : Nat) → List (Octets × Path) → List Octets
  | 0, _ | _ + 1, [] => []
  | fuel + 1, (name, path) :: rest =>
    let entries := o.content w path
    let heading := if headings then o.show w.charset [':'] name ++ ":\n" else ""
    let summary := if o.sized then
        "total " ++ o.sizeText w (total (entries.map LsEntry.allocated)) ++ (if o.zero then "\x00" else "\n")
      else ""
    let inside := if o.recursive then
        (entries.filter fun e => e.isDirectory && e.name != "." && e.name != "..").map fun e =>
          (if name.endsWith "/" then name ++ e.name else name ++ "/" ++ e.name, e.path)
      else []
    (heading ++ summary ++ o.listing w entries entries) :: blocks o w headings fuel (inside ++ rest)

/-! ### The program -/

/-- An operand, as far as links are followed. -/
def LsOptions.operand (o : LsOptions) (w : World) (name : Octets) : Except OsError LsEntry := do
  let path ← w.files.locate w.here name
  let node ← w.files.findLink w.here name
  let e := LsEntry.ofPath w.files false name path node
  let follow := match o.followed with
    | .never => false
    | .directories => e.leadsToDirectory
    | _ => true
  let path := if follow then w.files.follow path else path
  return { LsEntry.ofPath w.files follow name path node with leadsToDirectory := e.leadsToDirectory }

def LsOptions.list (o : LsOptions) (w : World) (operands : List Octets) : Octets × List String :=
  let operands := if operands.isEmpty then ["."] else operands
  let found := operands.map fun name => (name, o.operand w name)
  let faults := found.filterMap fun e => match e.2 with
    | .ok _ => none
    | .error fault => some ("cannot access " ++ quoteName w.charset e.1 ++ ": " ++ fault.text)
  let entries := o.sort w (found.filterMap fun e => e.2.toOption)
  let (inside, plain) := entries.partition fun e => e.isDirectory && !o.plainDirectories
  let directories := inside.map fun e => (e.name, e.path)
  let headings := o.recursive || !plain.isEmpty || operands.length != 1
  let blocks := (if plain.isEmpty then [] else [o.listing w entries plain]) ++
    o.blocks w headings (w.files.nodes.length + operands.length + 1) directories
  ("\n".intercalate blocks, faults)

def ls : Program := fun self args => do
  let w ← get
  let p := (lsOptionSet.within w).parse none args
  let options := p.options.takeWhile fun option => !Parsed.asksForHelp option
  match options.foldlM (LsOptions.add (quoteArgument w.charset)) {} with
  | .error (e, unknownWord) =>
    (if unknownWord then misused 1 self e else complains 2 self e).deliver 2 self
  | .ok o =>
    if options.length < p.options.length then return .exited 0
    match p.fault with
    | some e => (misused 2 self e).deliver 2 self
    | none =>
      let (o, warnings) := o.complete w
      let (out, faults) := o.list w p.operands
      Printout.deliver 2 self {
        code := if faults.isEmpty then 0 else 2, out
        err := String.join ((warnings ++ faults).map (complaint self)) }

end CommandPipeline.Platform.Tool
