import Chatbot.Shell.Glob
import Chatbot.Shell.Host

/-!
# Pathname expansion

A field with an unquoted `*`, `?` or `[` is a pattern for paths. It is cut at each `/`; a
component with such a character is matched against the names in the directory reached so
far, the others are taken as they are. A name starting with `.` is matched only by a
component that starts with `.` itself. The paths found replace the field, sorted byte by
byte; when there are none the field stays.

The directories are those of the host's tree and those the script wrote files into; the
current directory holds the files the script wrote under relative names.
-/

namespace Chatbot.Shell

/-- Whether a field has an active `*`, `?` or `[`. -/
def hasMeta (field : List (UInt8 × Bool)) : Bool :=
  field.any fun (b, active) => active && (b = 0x2A || b = 0x3F || b = 0x5B)

/-- Cut a field at each `/`. -/
def cutAtSlashes (field : List (UInt8 × Bool)) : List (List (UInt8 × Bool)) :=
  field.splitOnP fun x => x.1 = 0x2F

/-- The directory part and the last component of a path written by the script. -/
def splitPath (path : String) : String × String :=
  let cs := path.toList
  match cs.reverse.findIdx? (· = '/') with
  | some j =>
    let k := cs.length - 1 - j
    let dir := String.ofList (cs.take k)
    (if dir.isEmpty then "/" else dir, String.ofList (cs.drop (k + 1)))
  | none => ("", path)

/-- The names in a directory (`""` for the current one): the host's and those of the files
the script wrote there. -/
def directoryNames (files : List String) (dir : String) : List String :=
  let host := if dir.startsWith "/" then hostListing dir else []
  let own := files.filterMap fun f =>
    let (d, b) := splitPath f
    if d = dir && !b.isEmpty then some b else none
  (host ++ own).eraseDups

/-- Whether a path exists, as the script's file or in the host's tree. -/
def pathExists (files : List String) (path : String) : Bool :=
  files.contains path || (path.startsWith "/" && (HostNode.lookupLink path).isSome)

/-- A path with a name added. -/
def joinPath (dir name : String) : String :=
  if dir.isEmpty then name else if dir.endsWith "/" then dir ++ name else dir ++ "/" ++ name

/-- A component taken as it is: its bytes, a backslash making the next one plain. -/
def literalComponent : List (UInt8 × Bool) → Bytes
  | [] => []
  | (0x5C, true) :: (b, _) :: rest => b :: literalComponent rest
  | (b, _) :: rest => b :: literalComponent rest

/-- The paths a pattern names, sorted; empty when none exists. -/
def expandPathname (files : List String) (field : List (UInt8 × Bool)) : List String :=
  let comps := cutAtSlashes field
  let (start, comps) : String × List (List (UInt8 × Bool)) := match comps with
    | [] :: rest => ("/", rest)
    | cs => ("", cs)
  let step (acc : List String × Bool) (c : List (UInt8 × Bool)) : List String × Bool :=
    let (paths, _) := acc
    if hasMeta c then
      let dotOk := c.head?.map (·.1) = some 0x2E
      let found := paths.flatMap fun p =>
        ((directoryNames files p).filter fun n =>
          (dotOk || !n.startsWith ".") && globMatches c (rawOf n)).map (joinPath p)
      (found, true)
    else if c.isEmpty then (paths.map fun p => if p.isEmpty || p.endsWith "/" then p else p ++ "/", false)
    else (paths.map fun p => joinPath p (textOf (literalComponent c)), false)
  let (paths, lastMeta) := comps.foldl step ([start], false)
  let found := if lastMeta then paths else paths.filter (pathExists files)
  found.mergeSort fun a b => decide (a ≤ b)

end Chatbot.Shell
