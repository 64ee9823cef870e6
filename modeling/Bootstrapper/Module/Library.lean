import Bootstrapper.Environment.Variables
import Bootstrapper.Files.Tree

/-!
# Shared libraries

The loader of the system: a name with a slash is a path, a name without one is looked for in the
directories that the environment names and then among the system's libraries, and no name is the
running program itself. A path can refer to the directory of the running program and to that of the
system's libraries. Names and symbols are handed to the system as strings ended by a zero byte; one
at their end is taken for that end. The system's cache of libraries and search paths that are built
into a program are left out.
-/

namespace Bootstrapper.Module

open Bytes (nul slash)

/-- Where libraries are looked for: in a tree of files from a current directory, given the directory
of the running program, that of the system's libraries, and those that are searched before it. -/
structure Libraries where
  files : FileTree
  directory : Option Bytes
  origin : Bytes
  system : Bytes
  searched : List Bytes

/-- The directory that a program lies in, given the path of its executable. -/
def originOf (executable : Bytes) : Bytes :=
  ((executable.reverse.dropWhile (· ≠ slash)).drop 1).reverse

def systemDirectory : Bytes := Utf8.encode "/lib/x86_64-linux-gnu"

/-- The variable with the directories that are searched before that of the system's libraries. -/
def searchVariable : String := "LD_LIBRARY_PATH"

/-- The directories that an environment names: between colons or semicolons, none if there is
nothing. -/
def searchedDirectories (environment : Variables) : List Bytes :=
  match environment.get searchVariable with
  | none | some [] => []
  -- a semicolon parts like a colon
  | some value => Bytes.split 0x3A (value.map fun b => if b = 0x3B then 0x3A else b)

/-- A name as the system takes it, without a zero byte at its end, or why it cannot be taken. -/
def systemName (name : Bytes) : Except String Bytes :=
  if name.getLast? = some nul then
    if name.dropLast.contains nul then
      .error "could not create a C string from bytes with trailing null"
    else .ok name.dropLast
  else if name.contains nul then .error "could not create a C string from bytes"
  else .ok name

/-- The exports of a module as the system finds them: the name may end in a zero character, and
no export is without a name. -/
def systemExports (exports : Module) : Module := fun symbol =>
  match systemName (Utf8.encode symbol) with
  | .error _ => none
  | .ok [] => none
  | .ok name => (Utf8.decode? name).bind exports

/-- A module that exports nothing with the signature of a host. The running program and the
libraries of the system are such modules. -/
def unrelated : Module := fun _ => none

/-! ## Names as paths -/

/-- Whether a name may go on with a byte: a letter, a digit or a low line. -/
def isNameByte (b : UInt8) : Bool :=
  (Char.ofNat b.toNat).isAlphanum || b = 0x5F

def afterWord? (word name : Bytes) : Option Bytes :=
  match Bytes.after? word name with
  | none => none
  | some rest => if rest.head?.any isNameByte then none else some rest

/-- What follows a reference to a word, behind the dollar sign: the word alone or in braces. -/
def afterReference? (word name : Bytes) : Option Bytes :=
  match name with
  | 0x7B :: name =>
    match Bytes.after? word name with
    | some (0x7D :: rest) => some rest
    | _ => none
  | name => afterWord? word name

namespace Libraries

/-- The words that a name can refer to, and what they stand for. -/
def references (libraries : Libraries) : List (Bytes × Bytes) :=
  [(Utf8.encode "ORIGIN", libraries.origin), (Utf8.encode "LIB", libraries.system.drop 1)]

/-- What a reference behind a dollar sign stands for, and what follows it. -/
def reference? (libraries : Libraries) (name : Bytes) : Option (Bytes × Bytes) :=
  libraries.references.findSome? fun entry =>
    (afterReference? entry.1 name).map fun rest => (entry.2, rest)

/-- A name with its references filled in. `fuel` bounds its length. -/
def expandWith (libraries : Libraries) : Nat → Bytes → Bytes
  | 0, name => name
  | _, [] => []
  | fuel + 1, b :: name =>
    -- a dollar sign stands for itself unless a word follows that is known
    if b = 0x24 then
      match libraries.reference? name with
      | some (value, rest) => value ++ expandWith libraries fuel rest
      | none => b :: expandWith libraries fuel name
    else b :: expandWith libraries fuel name

/-- A name with its references filled in. -/
def expand (libraries : Libraries) (name : Bytes) : Bytes :=
  libraries.expandWith name.length name

/-- A directory that is searched, up to the name of a file in it. Nothing stands for the current
directory. -/
def searchStart (libraries : Libraries) (directory : Bytes) : Bytes :=
  match (libraries.expand directory).reverse with
  | [] => [Bytes.dot, slash]
  | b :: before => ((b :: before).dropWhile (· = slash)).reverse ++ [slash]

/-- The paths that a name can stand for: with a slash it is a path in which references are filled
in, without one it is a file in a directory; the last is that of the system's libraries. -/
def pathsOf (libraries : Libraries) (name : Bytes) : List Bytes :=
  if name.contains slash then [libraries.expand name]
  else
    libraries.searched.map (libraries.searchStart · ++ name) ++ [Path.push libraries.system name]

/-- The path that a name stands for: the first that leads anywhere, or the last. -/
def pathOf (libraries : Libraries) (name : Bytes) : Bytes :=
  let paths := libraries.pathsOf name
  (paths.find? (libraries.files.holds libraries.directory)).getD (paths.getLastD name)

/-! ## Loading -/

/-- Opens the file that a name stands for as a library. What is wrong with its contents is told of
the path, the rest of the name as it was given. -/
def openFile (libraries : Libraries) (name : Bytes) : Except String Module :=
  let path := libraries.pathOf name
  let failed (what : Bytes) (reason : String) : Except String Module :=
    .error (Utf8.decodeLossy what ++ ": " ++ reason)
  match libraries.files.lookup libraries.directory path with
  | .error (.system code) => failed name ("cannot open shared object file: " ++ errorText code)
  | .error error => failed name ("cannot open shared object file: " ++ error.message)
  | .ok .directory => failed path "cannot read file data: Is a directory"
  | .ok (.file .empty) => failed path "file too short"
  | .ok (.file .text) => failed path "invalid ELF header"
  | .ok (.file .program) =>
    failed name "cannot dynamically load position-independent executable"
  | .ok (.file (.library exports)) => .ok (systemExports exports)

/-- The loader of the system (`SystemModuleLoader`). -/
def load (libraries : Libraries) : Loader := fun name =>
  match systemName name with
  | .error reason => .error reason
  | .ok name =>
    -- without a name the running program opens itself
    if name.isEmpty then .ok unrelated else libraries.openFile name

end Libraries

end Bootstrapper.Module
