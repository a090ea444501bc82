import Chatbot.Shell.Syntax

/-!
# The host's files

Scripts see two kinds of files: those they write themselves, kept by the shell with their
contents, and the standard tree of the machine they run on, of which only the shape is known:
its directories, devices, symbolic links and programs. The tree is that of a Debian system
with `/usr` merged, so `/bin` is a link to `usr/bin` and `/bin/sh` a link to `dash`.

A path is resolved by following links from its first component on; `lookup` follows a link
in the last component too, `lookupLink` does not, so that `test -L` can see it.
-/

namespace Chatbot.Shell

/-- What a path names in the host's tree. -/
inductive HostNode where
  /-- A directory. -/
  | dir
  /-- A regular file, executable or not. -/
  | file (executable : Bool)
  /-- A character device. -/
  | device
  /-- A symbolic link to a path, relative to the link's directory unless it starts with `/`. -/
  | link (target : String)
  deriving DecidableEq, Repr

/-- The programs in `/usr/bin`. -/
def hostPrograms : List String :=
  ["[", "arch", "awk", "b2sum", "base32", "base64", "basename", "basenc", "bash", "cat", "chgrp",
   "chmod", "chown", "cksum", "cmp", "comm", "cp", "csplit", "cut", "dash", "date", "dd", "df",
   "diff", "dir", "dircolors", "dirname", "du", "echo", "egrep", "env", "expand", "expr",
   "factor", "false", "fgrep", "find", "fmt", "fold", "grep", "groups", "gzip", "head", "hostid",
   "hostname", "id", "install", "join", "kill", "link", "ln", "logname", "ls", "md5sum", "mkdir",
   "mkfifo", "mknod", "mktemp", "mv", "nice", "nl", "nohup", "nproc", "numfmt", "od", "paste",
   "pathchk", "perl", "pr", "printenv", "printf", "ptx", "pwd", "readlink", "realpath", "rm",
   "rmdir", "sed", "seq", "sha1sum", "sha224sum", "sha256sum", "sha384sum", "sha512sum",
   "shred", "shuf", "sleep", "sort", "split", "stat", "stdbuf", "stty", "sum", "sync", "tac",
   "tail", "tar", "tee", "test", "timeout", "touch", "tr", "true", "truncate", "tsort", "tty",
   "uname", "unexpand", "uniq", "unlink", "users", "vdir", "wc", "which", "who", "whoami",
   "xargs", "yes"]

/-- The host's tree: every path it holds, with what it is. -/
def hostTree : List (String × HostNode) :=
  [("/", .dir), ("/bin", .link "usr/bin"), ("/boot", .dir), ("/dev", .dir),
   ("/dev/fd", .link "/proc/self/fd"), ("/dev/full", .device), ("/dev/null", .device),
   ("/dev/ptmx", .device), ("/dev/pts", .dir), ("/dev/random", .device), ("/dev/shm", .dir),
   ("/dev/stderr", .link "/proc/self/fd/2"), ("/dev/stdin", .link "/proc/self/fd/0"),
   ("/dev/stdout", .link "/proc/self/fd/1"), ("/dev/tty", .device), ("/dev/urandom", .device),
   ("/dev/zero", .device), ("/etc", .dir), ("/etc/group", .file false),
   ("/etc/hostname", .file false), ("/etc/hosts", .file false),
   ("/etc/os-release", .link "../usr/lib/os-release"), ("/etc/passwd", .file false),
   ("/etc/resolv.conf", .file false), ("/etc/shells", .file false), ("/home", .dir),
   ("/lib", .link "usr/lib"), ("/lib64", .link "usr/lib64"), ("/media", .dir), ("/mnt", .dir),
   ("/opt", .dir), ("/proc", .dir), ("/proc/cpuinfo", .file false),
   ("/proc/meminfo", .file false), ("/proc/self", .dir), ("/proc/self/fd", .dir),
   ("/proc/self/fd/0", .device), ("/proc/self/fd/1", .device), ("/proc/self/fd/2", .device),
   ("/proc/version", .file false), ("/root", .dir), ("/run", .dir), ("/sbin", .link "usr/sbin"),
   ("/srv", .dir), ("/sys", .dir), ("/tmp", .dir), ("/usr", .dir), ("/usr/bin", .dir),
   ("/usr/bin/sh", .link "dash"), ("/usr/games", .dir), ("/usr/include", .dir),
   ("/usr/lib", .dir), ("/usr/lib/os-release", .file false), ("/usr/lib64", .dir),
   ("/usr/local", .dir), ("/usr/local/bin", .dir), ("/usr/sbin", .dir), ("/usr/share", .dir),
   ("/usr/src", .dir), ("/var", .dir), ("/var/cache", .dir), ("/var/lib", .dir),
   ("/var/log", .dir), ("/var/tmp", .dir)] ++
  hostPrograms.map fun p => ("/usr/bin/" ++ p, .file true)

/-- The components of a path, without empty ones. -/
def pathComponents (path : String) : List String :=
  (path.splitOn "/").filter (· ≠ "")

/-- The absolute path of components. -/
def joinComponents (cs : List String) : String :=
  "/" ++ String.intercalate "/" cs

/-- Components with `.` dropped and `..` taking off the one before it. -/
def normalizeComponents (cs : List String) : List String :=
  (cs.foldl (fun acc c =>
    if c = "." then acc else if c = ".." then acc.dropLast else acc ++ [c]) [])

/-- The node of an absolute path whose components are all resolved. -/
def hostNodeAt (cs : List String) : Option HostNode :=
  hostTree.lookup (joinComponents cs)

/-- Follow the links of an absolute path, component by component; the last component's link
is followed only when `followLast`. -/
def resolve : Nat → Bool → List String → List String
  | 0, _, cs => cs
  | fuel + 1, followLast, cs =>
    let n := cs.length
    let linkAt := (List.range n).find? fun i =>
      (i + 1 < n || followLast) &&
        match hostNodeAt (cs.take (i + 1)) with
        | some (.link _) => true
        | _ => false
    match linkAt with
    | none => cs
    | some i =>
      match hostNodeAt (cs.take (i + 1)) with
      | some (.link target) =>
        let base := if target.startsWith "/" then [] else cs.take i
        resolve fuel followLast (normalizeComponents (base ++ pathComponents target) ++ cs.drop (i + 1))
      | _ => cs

/-- The node an absolute path names, following every link. -/
def HostNode.lookup (path : String) : Option HostNode :=
  hostNodeAt (resolve 16 true (normalizeComponents (pathComponents path)))

/-- The node an absolute path names, not following a link in its last component. -/
def HostNode.lookupLink (path : String) : Option HostNode :=
  hostNodeAt (resolve 16 false (normalizeComponents (pathComponents path)))

/-- The names in a directory of the host's tree, given by its absolute path. -/
def hostListing (dir : String) : List String :=
  let cs := resolve 16 true (normalizeComponents (pathComponents dir))
  hostTree.filterMap fun (p, _) =>
    let pcs := pathComponents p
    if pcs.length = cs.length + 1 && pcs.take cs.length = cs then pcs.getLast? else none

/-- How much of a path must exist for it to be made canonical. -/
inductive Existence where
  /-- Every component (`-e`). -/
  | every
  /-- All but the last (`-f`, and `realpath` by default). -/
  | allButLast
  /-- None (`-m`). -/
  | none
  deriving DecidableEq, Repr

/-- What a path names for canonicalizing: a node of the host's tree, or a file a script wrote
(`isFile`). -/
def nodeForCanonical (isFile : String → Bool) (cs : List String) : Option HostNode :=
  match hostNodeAt cs with
  | some n => some n
  | none => if isFile (joinComponents cs) then some (.file false) else none

/-- Make the components of an absolute path canonical, one at a time from the first: `.` is
dropped, `..` goes up, a link is replaced by its target (from the root when the target is
absolute, else from its directory). The components resolved so far are `done`, those left
`queue`. A component that does not exist is an error unless `mode` allows it; a component
after a file is one unless nothing need exist. `fuel` bounds the steps, links included. -/
def canonicalComponents (isFile : String → Bool) (mode : Existence) :
    Nat → List String → List String → Except String (List String)
  | 0, _, _ => .error "Too many levels of symbolic links"
  | _, done, [] => .ok done
  | fuel + 1, done, c :: rest =>
    if c = "." then canonicalComponents isFile mode fuel done rest
    else if c = ".." then canonicalComponents isFile mode fuel done.dropLast rest
    else
      let cand := done ++ [c]
      let more := rest.any (· ≠ ".")
      match nodeForCanonical isFile cand with
      | some (.link target) =>
        let base := if target.startsWith "/" then [] else done
        canonicalComponents isFile mode fuel base (pathComponents target ++ rest)
      | some .dir => canonicalComponents isFile mode fuel cand rest
      | some _ =>
        if more && mode != .none then .error "Not a directory"
        else canonicalComponents isFile mode fuel cand rest
      | none =>
        if mode = .every || (mode = .allButLast && more) then .error "No such file or directory"
        else canonicalComponents isFile mode fuel cand rest

/-- The canonical form of an absolute path, or the error of the first component that stops
it. -/
def canonicalPath (isFile : String → Bool) (mode : Existence) (path : String) :
    Except String String :=
  (canonicalComponents isFile mode 256 [] (pathComponents path)).map joinComponents

end Chatbot.Shell
