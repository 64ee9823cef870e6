import Bootstrapper.Module.Basic
import Bootstrapper.Path.Full

/-!
# Files

A tree of files and directories, and how paths are looked up in it from a current directory. Unlike
a full path, a path that is looked up passes through the directories that it names, so each has to
exist, also before `..`.

Left out are links, permissions and times, and where `..` leads from a current directory that is
gone. So a directory has one path from the root, and statements about where a path leads are about
trees without links.
-/

namespace Bootstrapper

/-- What a file holds, as far as the start can tell. -/
inductive Content
  | empty
  | text
  | program
  | library (exports : Module)

inductive Node
  | directory
  | file (content : Content)

/-- A tree, by what stands at the end of each list of names from the root. If that is a file, `data`
is what it holds, byte by byte, for the programs that read and write it. -/
structure FileTree where
  node? : List Bytes → Option Node
  data : List Bytes → Bytes := fun _ => []

namespace FileTree

def nameLimit : Nat := 255

/-- Whether a directory stands at the end of a list of names. -/
def isDirectoryAt (tree : FileTree) (names : List Bytes) : Bool :=
  tree.node? names matches some .directory

def insert (tree : FileTree) (names : List Bytes) (node : Node) : FileTree :=
  { tree with node? := fun other => if other = names then some node else tree.node? other }

def ofList (nodes : List (List Bytes × Node)) : FileTree :=
  nodes.foldl (fun tree node => tree.insert node.1 node.2)
    { node? := fun names => if names.isEmpty then some .directory else none }

def walk (tree : FileTree) (here : List Bytes) : List Bytes → Except IoError (List Bytes)
  | [] => .ok here
  | segment :: segments =>
    -- a segment that stays or climbs needs a directory to start from, too
    if !tree.isDirectoryAt here then .error .notDirectory
    else if Path.stays segment then walk tree here segments
    else if Path.climbs segment then walk tree here.dropLast segments
    else if nameLimit < segment.length then .error .nameTooLong
    else if (tree.node? (here ++ [segment])).isNone then .error .notFound
    else walk tree (here ++ [segment]) segments

/-- The names from the root where a walk along a path begins. A path that no program can hand to the
system is refused before. -/
def startOf (directory : Option Bytes) (path : Bytes) : Except IoError (List Bytes) :=
  if path.contains Bytes.nul then
    .error (.refused "file name contained an unexpected NUL byte")
  else if path.isEmpty then .error .notFound
  else if Path.isAbsolute path then .ok []
  else
    match directory with
    | some directory => .ok (Path.names directory)
    | none => .error .notFound

/-- Where a lookup by the system begins, which takes only paths that fit into its buffer. -/
def lookupStart (directory : Option Bytes) (path : Bytes) : Except IoError (List Bytes) :=
  if !path.contains Bytes.nul && Path.capacity ≤ path.length then .error .nameTooLong
  else startOf directory path

/-- The names from the root that a path leads to. -/
def resolve (tree : FileTree) (directory : Option Bytes) (path : Bytes) :
    Except IoError (List Bytes) :=
  match lookupStart directory path with
  | .error error => .error error
  | .ok start => walk tree start (Path.segments path)

/-- The one path from the root to what a path leads to. It is found step by step, so only the
answer has to fit into the buffer. -/
def realPath (tree : FileTree) (directory : Option Bytes) (path : Bytes) : Except IoError Bytes :=
  match startOf directory path with
  | .error error => .error error
  | .ok start =>
    match walk tree start (Path.segments path) with
    | .error error => .error error
    | .ok names =>
      let real := Path.ofNames names
      if Path.capacity ≤ real.length then .error .nameTooLong else .ok real

def lookup (tree : FileTree) (directory : Option Bytes) (path : Bytes) : Except IoError Node :=
  match tree.resolve directory path with
  | .error error => .error error
  | .ok names =>
    match tree.node? names with
    | some node => .ok node
    | none => .error .notFound

/-- Whether a path leads anywhere. -/
def holds (tree : FileTree) (directory : Option Bytes) (path : Bytes) : Bool :=
  (tree.lookup directory path).isOk

def isDirectory (tree : FileTree) (directory : Option Bytes) (path : Bytes) : Bool :=
  tree.lookup directory path matches .ok .directory

/-- Whether two paths lead to the same place (`same_directory`). -/
def sameFile (tree : FileTree) (directory : Option Bytes) (a b : Bytes) : Bool :=
  match tree.realPath directory a, tree.realPath directory b with
  | .ok a, .ok b => a = b
  | _, _ => false

/-! ## Making directories -/

/-- A path without the slashes at its end, as its segments from the last on. -/
def fromLast (path : Bytes) : List Bytes :=
  (Path.segments path).reverse.dropWhile List.isEmpty

def makeDirectory (tree : FileTree) (directory : Option Bytes) (path : Bytes) :
    Except IoError FileTree :=
  match lookupStart directory path with
  | .error error => .error error
  | .ok start =>
    match fromLast path with
    -- a path of slashes leads to the root
    | [] => .error .alreadyExists
    | last :: before =>
      match walk tree start before.reverse with
      | .error error => .error error
      | .ok parent =>
        if !tree.isDirectoryAt parent then .error .notDirectory
        else if Path.stays last || Path.climbs last then .error .alreadyExists
        else if nameLimit < last.length then .error .nameTooLong
        else if (tree.node? (parent ++ [last])).isSome then .error .alreadyExists
        else .ok (tree.insert (parent ++ [last]) .directory)

def ensureDirectory (tree : FileTree) (directory : Option Bytes) (path : Bytes) :
    Except IoError FileTree :=
  match tree.makeDirectory directory path with
  | .ok tree => .ok tree
  | .error error => if tree.isDirectory directory path then .ok tree else .error error

/-- Makes the directory at the end of some steps, given from the last on, and those before it as
far as they are missing. What was made stays also when a later one fails. -/
def ensureSteps (tree : FileTree) (directory : Option Bytes) (root : Bytes) :
    List Bytes → FileTree × Except IoError Unit
  | [] => (tree, .ok ())
  | last :: before =>
    let path := (last :: before).reverse.foldl Path.push root
    match tree.ensureDirectory directory path with
    | .ok tree => (tree, .ok ())
    | .error error =>
      -- something above is missing: it is made first, then this is tried once more
      if error = .notFound then
        match ensureSteps tree directory root before with
        | (tree, .error error) => (tree, .error error)
        | (tree, .ok _) =>
          match tree.ensureDirectory directory path with
          | .ok tree => (tree, .ok ())
          | .error error => (tree, .error error)
      else (tree, .error error)

/-- Makes the directory at a path and those above it as far as they are missing. -/
def ensureAll (tree : FileTree) (directory : Option Bytes) (path : Bytes) :
    FileTree × Except IoError Unit :=
  let root := if Path.isAbsolute path then Path.root path else []
  ensureSteps tree directory root (Path.steps path).reverse

/-! ## Removing directories -/

def empties (tree : FileTree) (names : List Bytes) : FileTree :=
  { tree with
    node? := fun other =>
      if names.isPrefixOf other && other ≠ names then none else tree.node? other }

def erase (tree : FileTree) (names : List Bytes) : FileTree :=
  { tree with node? := fun other => if other = names then none else tree.node? other }

/-- Removes a directory with all that it holds. First its contents go; if the path then leads
nowhere the work is done. -/
def removeAll (tree : FileTree) (directory : Option Bytes) (path : Bytes) :
    FileTree × Except IoError Unit :=
  match tree.resolve directory path with
  | .error error => (tree, .error error)
  | .ok names =>
    if !tree.isDirectoryAt names then (tree, .error .notDirectory)
    else
      let emptied := tree.empties names
      -- the path may pass through what has just been emptied
      match emptied.resolve directory path with
      -- the root stays
      | .ok [] => (emptied, .error .busy)
      | .ok names => (emptied.erase names, .ok ())
      | .error .notFound => (emptied, .ok ())
      | .error error => (emptied, .error error)

end FileTree

end Bootstrapper
