/-!
A file tree held in memory: every absolute path it knows and what is there, a file with its
bytes, a directory, or a symbolic link with its target. Paths are looked up the way the system
does it: from the working directory unless absolute, `.` staying put and `..` going to the
parent of the directory reached so far, and links followed where they stand (a link's target is
read from the link's directory), at most forty of them. Resolving a path to its real location
instead follows the textual rules of path resolution, keeping names that do not exist as they
are. Walking a directory lists its children, sorted, and goes into subdirectories that are not
links.
-/

namespace SecScan.Files

/-- What a path holds. -/
inductive Node where
  | file (content : ByteArray)
  | dir
  | link (target : String)
  deriving Inhabited

/-- Why a path could not be looked up. -/
inductive Errno where
  | noEntry
  | notDirectory
  | loop
  deriving DecidableEq, Repr, Inhabited

/-- The number and text of an error, as the system reports them. -/
def Errno.describe : Errno → Nat × String
  | .noEntry => (2, "No such file or directory")
  | .notDirectory => (20, "Not a directory")
  | .loop => (40, "Too many levels of symbolic links")

/-- The parts of a path between slashes, empty ones included. -/
def slashParts (path : String) : List String :=
  (path.toList.splitOn '/').map String.ofList

/-- The components of a path, without empty and `.` components. -/
def components (path : String) : List String :=
  (slashParts path).filter fun c => c != "" && c != "."

/-- An absolute path from its components. -/
def pathText (comps : List String) : String := "/" ++ "/".intercalate comps

/-- A file tree: each absolute path it knows, as components, with what is there. Every
directory on the way to a path is in the tree. -/
structure Tree where
  nodes : List (List String × Node)
  deriving Inhabited

namespace Tree

/-- What is at exactly these components, links not followed. The root is a directory. -/
def at? (t : Tree) (comps : List String) : Option Node :=
  if comps.isEmpty then some .dir else t.nodes.lookup comps

/-- The tree with a node at a path, replacing what was there and adding the directories on the
way. -/
def put (t : Tree) (comps : List String) (node : Node) : Tree :=
  let parents := (List.range comps.length).map fun k => comps.take k
  let missing := (parents.filter fun p => !p.isEmpty && (t.at? p).isNone).map fun p => (p, Node.dir)
  { nodes := (t.nodes.filter fun (p, _) => p != comps) ++ missing ++ [(comps, node)] }

/-- Follows the names of a path from the directory `dir`, which is real. With `followLast` a
link in the last place is followed too. The result is the real location reached; a missing last
name is an error. -/
def walkNames (t : Tree) (followLast : Bool) : Nat → List String → List String →
    Except Errno (List String)
  | 0, _, _ => .error .loop
  | _, dir, [] => .ok dir
  | fuel + 1, dir, name :: rest =>
    if name == "." || name == "" then walkNames t followLast (fuel + 1) dir rest
    else if name == ".." then walkNames t followLast (fuel + 1) dir.dropLast rest
    else
      let here := dir ++ [name]
      match t.at? here with
      | none => .error .noEntry
      | some .dir => walkNames t followLast (fuel + 1) here rest
      | some (.file _) => if rest.isEmpty then .ok here else .error .notDirectory
      | some (.link target) =>
        if rest.isEmpty && !followLast then .ok here
        else
          let start := if target.startsWith "/" then [] else dir
          match walkNames t true fuel start (slashParts target) with
          | .ok real => walkNames t followLast fuel real rest
          | .error e => .error e
termination_by fuel _ names => (fuel, names.length)

/-- The real location of a path from the working directory `cwd`. -/
def locate (t : Tree) (cwd : List String) (path : String) (followLast : Bool := true) :
    Except Errno (List String) :=
  let start := if path.startsWith "/" then [] else cwd
  if path.isEmpty then .error .noEntry
  else t.walkNames followLast 41 start (slashParts path)

/-- What a path leads to, links followed. -/
def stat (t : Tree) (cwd : List String) (path : String) : Except Errno Node := do
  let real ← t.locate cwd path
  match t.at? real with
  | some n => pure n
  | none => throw .noEntry

/-- Whether a path leads to a directory. -/
def isDir (t : Tree) (cwd : List String) (path : String) : Bool :=
  match t.stat cwd path with
  | .ok .dir => true
  | _ => false

/-- Whether a path leads to a file. -/
def isFile (t : Tree) (cwd : List String) (path : String) : Bool :=
  match t.stat cwd path with
  | .ok (.file _) => true
  | _ => false

/-- Whether a path is itself a link. -/
def isLink (t : Tree) (cwd : List String) (path : String) : Bool :=
  match t.locate cwd path false with
  | .ok real => match t.at? real with
    | some (.link _) => true
    | _ => false
  | .error _ => false

/-- The names in a real directory, sorted. -/
def children (t : Tree) (dir : List String) : List String :=
  let names := t.nodes.filterMap fun (p, _) =>
    if p.length == dir.length + 1 && p.take dir.length == dir then p.getLast? else none
  names.mergeSort fun a b => a ≤ b

/-- A path kept as text parts: whether it starts at the root, and its names. -/
structure Spelled where
  absolute : Bool
  names : List String
  deriving Repr, Inhabited, BEq

/-- The text of a spelled path. -/
def Spelled.text (p : Spelled) : String :=
  (if p.absolute then "/" else "") ++ "/".intercalate p.names

/-- The parent of a spelled path, textually: `..` piles up on a relative path that has nothing
left to drop, and stays put at the root. -/
def Spelled.up (p : Spelled) : Spelled :=
  match p.names.getLast? with
  | some ".." => { p with names := p.names ++ [".."] }
  | some _ => { p with names := p.names.dropLast }
  | none => if p.absolute then p else { p with names := [".."] }

/-- Resolves the names of `rest` onto `path`, following the links met; a link met again while it
is being resolved leaves the rest unresolved. The flag says whether resolution got through. -/
def realNames (t : Tree) (cwd : List String) : Nat → Spelled → List String →
    List (String × Option Spelled) → Spelled × Bool × List (String × Option Spelled)
  | 0, path, rest, seen => ({ path with names := path.names ++ rest }, false, seen)
  | _, path, [], seen => (path, true, seen)
  | fuel + 1, path, name :: rest, seen =>
    if name == "" || name == "." then realNames t cwd (fuel + 1) path rest seen
    else if name == ".." then realNames t cwd (fuel + 1) path.up rest seen
    else
      let next := { path with names := path.names ++ [name] }
      let key := next.text
      let target := match t.locate cwd key false with
        | .ok real => match t.at? real with
          | some (.link target) => some target
          | _ => none
        | .error _ => none
      match target with
      | none => realNames t cwd (fuel + 1) next rest seen
      | some target =>
        match seen.lookup key with
        | some (some known) => realNames t cwd (fuel + 1) known rest seen
        | some none => ({ next with names := next.names ++ rest }, false, seen)
        | none =>
          let seen := (key, none) :: seen
          let start := if target.startsWith "/" then ⟨true, []⟩ else path
          let (resolved, ok, seen) := realNames t cwd fuel start (slashParts target) seen
          if ok then
            realNames t cwd fuel resolved rest ((key, some resolved) :: seen.filter (·.1 != key))
          else ({ resolved with names := resolved.names ++ rest }, false, seen)
termination_by fuel _ names _ => (fuel, names.length)

/-- Collapses `.` and `..` textually in an absolute path. -/
def normalizeNames (names : List String) : List String :=
  names.foldl (fun acc n => if n == "" || n == "." then acc else if n == ".." then acc.dropLast else acc ++ [n]) []

/-- The real absolute path of a path, with links resolved where they exist. -/
def realPath (t : Tree) (cwd : List String) (path : String) : List String :=
  let start : Spelled := ⟨path.startsWith "/", []⟩
  let (resolved, _, _) := t.realNames cwd 41 start (slashParts path) []
  normalizeNames (if resolved.absolute then resolved.names else cwd ++ resolved.names)

/-- The bytes of the file a path leads to. -/
def read (t : Tree) (cwd : List String) (path : String) : Except Errno (Option ByteArray) := do
  match ← t.stat cwd path with
  | .file content => pure (some content)
  | _ => pure none

/-- Writes a file where a path leads, following links; the parent directory must exist. -/
def write (t : Tree) (cwd : List String) (path : String) (content : ByteArray) : Except Errno Tree := do
  match t.locate cwd path with
  | .ok real => pure (t.put real (.file content))
  | .error .noEntry =>
    let names := components path
    let parent ← t.locate cwd ((if path.startsWith "/" then "/" else "") ++ "/".intercalate names.dropLast)
    match names.getLast? with
    | some name => pure (t.put (parent ++ [name]) (.file content))
    | none => throw .noEntry
  | .error e => throw e

end Tree

end SecScan.Files
