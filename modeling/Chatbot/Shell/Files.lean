import Chatbot.Shell.Tools
import Chatbot.Shell.Host

/-!
# Tools on files and paths

`rm`, `touch`, `cp` and `mv` act on the files a script wrote: each is known by its path as
written, with its contents. The directories of the host's tree hold them; a path that names
one of those directories names no file a tool may remove, copy or move over.

`readlink` and `realpath` make paths canonical in the host's tree, following its links.

Messages name a file between ASCII single quotes, as the GNU tools quote file names in their
diagnostics.
-/

namespace Chatbot.Shell

/-- A file name quoted for a message: between single quotes, each single quote inside written
`'\''`. -/
def shellQuoted (name : String) : String :=
  "'" ++ String.intercalate "'\\''" (name.splitOn "'") ++ "'"

/-- Whether a path names a directory of the host's tree. -/
def isHostDirectory (path : String) : Bool :=
  path.startsWith "/" && HostNode.lookup path == some .dir

/-- The last component of a path. -/
def lastComponent (path : String) : String :=
  ((path.splitOn "/").filter (· ≠ "")).getLastD path

/-- What `rm` was asked: whether to ignore missing files, to remove directories' contents,
and to tell each removal. -/
structure RemoveJob where
  /-- `-f`. -/
  force : Bool := false
  /-- `-r`. -/
  recursive : Bool := false
  /-- `-v`. -/
  verbose : Bool := false
  deriving Repr

/-- `rm`: remove the files named. A missing file is an error unless `-f`; a directory is one
unless `-r`, which removes the files under it. -/
def rmTool (files : List (String × Bytes)) (args : List Bytes) : ToolRun :=
  let letters : List (UInt8 × Bool) :=
    [(0x66, false), (0x72, false), (0x52, false), (0x76, false), (0x69, false), (0x64, false),
     (0x49, false)]
  let longs : List (String × Bool) :=
    [("force", false), ("recursive", false), ("verbose", false), ("dir", false),
     ("interactive", false)]
  match readToolOptions letters longs (args.length + 1) args [] [] with
  | .error e => usageFailure "rm" e
  | .ok (opts, names) =>
    let job := opts.foldl (fun (j : RemoveJob) o =>
      match o with
      | .short 0x66 _ | .long "force" _ => { j with force := true }
      | .short 0x72 _ | .short 0x52 _ | .long "recursive" _ => { j with recursive := true }
      | .short 0x76 _ | .long "verbose" _ => { j with verbose := true }
      | _ => j) {}
    if names.isEmpty then
      if job.force then {} else usageFailure "rm" "missing operand"
    else
      let step (acc : ToolRun × List String) (n : Bytes) : ToolRun × List String :=
        let (r, gone) := acc
        let name := textOf n
        let told (path : String) : Bytes :=
          if job.verbose then rawOf ("removed " ++ shellQuoted path ++ "\n") else []
        if files.any (fun f => f.1 = name) && !gone.contains name then
          ({ r with out := r.out ++ told name, removes := r.removes ++ [name] }, gone ++ [name])
        else if isHostDirectory name || files.any (fun f => f.1.startsWith (name ++ "/")) then
          if job.recursive then
            let under := (files.map Prod.fst).filter fun p => p.startsWith (name ++ "/")
            ({ r with out := r.out ++ (under.flatMap told), removes := r.removes ++ under },
              gone ++ under)
          else
            ({ r with err := r.err ++ rawOf ("rm: cannot remove " ++ shellQuoted name ++
              ": Is a directory\n"), status := 1 }, gone)
        else if job.force then (r, gone)
        else
          ({ r with err := r.err ++ rawOf ("rm: cannot remove " ++ shellQuoted name ++
            ": No such file or directory\n"), status := 1 }, gone)
      (names.foldl step ({}, [])).1

/-- `touch`: make each file named exist, empty if it did not. -/
def touchTool (files : List (String × Bytes)) (args : List Bytes) : ToolRun :=
  let names := (args.filter fun a => a.head? != some 0x2D).map textOf
  if names.isEmpty then usageFailure "touch" "missing file operand"
  else
    { writes := names.filterMap fun n =>
        if files.any (·.1 = n) || isHostDirectory n then none else some (n, []) }

/-- Where a copy of `source` goes when the destination is `dest`: into it when it is a
directory. -/
def copyTarget (source dest : String) : String :=
  if isHostDirectory dest then
    (if dest.endsWith "/" then dest else dest ++ "/") ++ lastComponent source
  else dest

/-- `cp` (`move` false) and `mv` (`move` true): copy or move files, the last operand being
the destination. -/
def copyTool (tool : String) (move : Bool) (files : List (String × Bytes)) (args : List Bytes) :
    ToolRun :=
  let names := (args.filter fun a => a.head? != some 0x2D || a.length < 2).map textOf
  match names with
  | [] => usageFailure tool "missing file operand"
  | [one] => usageFailure tool s!"missing destination file operand after {shellQuoted one}"
  | _ =>
    let dest := names.getLastD ""
    let sources := names.dropLast
    if sources.length > 1 && !isHostDirectory dest then
      ToolRun.failure s!"{tool}: target {shellQuoted dest}: Not a directory"
    else
      sources.foldl (fun (r : ToolRun) src =>
        match files.find? (·.1 = src) with
        | some (_, data) =>
          let target := copyTarget src dest
          { r with writes := r.writes ++ [(target, data)],
                   removes := if move && target != src then r.removes ++ [src] else r.removes }
        | none =>
          { r with err := r.err ++ rawOf (tool ++ ": cannot stat " ++ shellQuoted src ++
              ": No such file or directory\n"), status := 1 }) {}

/-- A path made absolute: a relative one is taken from the root. -/
def absolutePath (path : String) : String := if path.startsWith "/" then path else "/" ++ path

/-- `readlink`: the target of each symbolic link named, or with `-f`, `-e` or `-m` the
canonical form of each path. A path that fails is reported only with `-v`. -/
def readlinkTool (files : List (String × Bytes)) (args : List Bytes) : ToolRun :=
  let letters : List (UInt8 × Bool) :=
    [(0x66, false), (0x65, false), (0x6D, false), (0x6E, false), (0x71, false), (0x73, false),
     (0x76, false), (0x7A, false)]
  let longs : List (String × Bool) :=
    [("canonicalize", false), ("canonicalize-existing", false), ("canonicalize-missing", false),
     ("no-newline", false), ("quiet", false), ("silent", false), ("verbose", false),
     ("zero", false)]
  match readToolOptions letters longs (args.length + 1) args [] [] with
  | .error e => usageFailure "readlink" e
  | .ok (opts, names) =>
    let has (c : UInt8) (long : String) : Bool :=
      opts.any fun o => o == .short c none || o == .long long none
    let mode : Option Existence := opts.foldl (fun m o =>
      match o with
      | .short 0x66 _ | .long "canonicalize" _ => some .allButLast
      | .short 0x65 _ | .long "canonicalize-existing" _ => some .every
      | .short 0x6D _ | .long "canonicalize-missing" _ => some .none
      | _ => m) none
    let verbose := opts.foldl (fun v o =>
      match o with
      | .short 0x76 _ | .long "verbose" _ => true
      | .short 0x71 _ | .short 0x73 _ | .long "quiet" _ | .long "silent" _ => false
      | _ => v) false
    let eol : Bytes := if has 0x7A "zero" then [0] else [0x0A]
    let eol := if has 0x6E "no-newline" && names.length = 1 then [] else eol
    if names.isEmpty then usageFailure "readlink" "missing operand"
    else
      let isFile (p : String) : Bool := files.any (·.1 = p)
      names.foldl (fun (r : ToolRun) n =>
        let path := textOf n
        let result : Except String String := match mode with
          | some m => canonicalPath isFile m (absolutePath path)
          | none =>
            match HostNode.lookupLink (absolutePath path) with
            | some (.link target) => .ok target
            | some _ => .error "Invalid argument"
            | none => .error (if isFile path then "Invalid argument" else "No such file or directory")
        match result with
        | .ok t => { r with out := r.out ++ rawOf t ++ eol }
        | .error e =>
          { r with status := 1,
                   err := if verbose then r.err ++ rawOf s!"readlink: {path}: {e}\n" else r.err }) {}

/-- `realpath`: the canonical form of each path; all its components but the last must exist
(`-e`: all of them, `-m`: none). `-s` leaves links as they are. -/
def realpathTool (files : List (String × Bytes)) (args : List Bytes) : ToolRun :=
  let letters : List (UInt8 × Bool) :=
    [(0x65, false), (0x6D, false), (0x73, false), (0x71, false), (0x7A, false), (0x4C, false),
     (0x50, false), (0x45, false)]
  let longs : List (String × Bool) :=
    [("canonicalize-existing", false), ("canonicalize-missing", false), ("strip", false),
     ("no-symlinks", false), ("quiet", false), ("zero", false), ("logical", false),
     ("physical", false)]
  match readToolOptions letters longs (args.length + 1) args [] [] with
  | .error e => usageFailure "realpath" e
  | .ok (opts, names) =>
    let has (c : UInt8) (long : String) : Bool :=
      opts.any fun o => o == .short c none || o == .long long none
    let mode : Existence := opts.foldl (fun m o =>
      match o with
      | .short 0x65 _ | .long "canonicalize-existing" _ => .every
      | .short 0x6D _ | .long "canonicalize-missing" _ => .none
      | .short 0x45 _ => .allButLast
      | _ => m) .allButLast
    let strip := has 0x73 "strip" || has 0x73 "no-symlinks"
    let quiet := has 0x71 "quiet"
    let eol : Bytes := if has 0x7A "zero" then [0] else [0x0A]
    if names.isEmpty then usageFailure "realpath" "missing operand"
    else
      let isFile (p : String) : Bool := files.any (·.1 = p)
      names.foldl (fun (r : ToolRun) n =>
        let path := textOf n
        let result : Except String String :=
          if strip then .ok (joinComponents (normalizeComponents (pathComponents (absolutePath path))))
          else canonicalPath isFile mode (absolutePath path)
        match result with
        | .ok t => { r with out := r.out ++ rawOf t ++ eol }
        | .error e =>
          { r with status := 1,
                   err := if quiet then r.err else r.err ++ rawOf s!"realpath: {path}: {e}\n" }) {}

end Chatbot.Shell
