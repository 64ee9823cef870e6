import Bootstrapper.Bytes
import Bootstrapper.Log.Record
import Bootstrapper.Pattern.Written
import Bootstrapper.Text.Blank
import Bootstrapper.Text.Lines

/-!
# Log filters

A filter is a list of directives between commas: a level for all targets, a target with its level,
or a target alone, which passes entirely. Of the directives whose target a record's target begins
with, the longest decides; a record that none fits is dropped. Behind a slash may follow a pattern,
which is then to be found in a record's message.

What is ill-formed is left out and complained about.
-/

namespace Bootstrapper.Log

/-- Up to which level the records of some targets pass. `verbosity` zero lets none through. A
directive without a target speaks of all. -/
structure Directive where
  target : Option String
  verbosity : Nat
deriving DecidableEq, Repr

structure Filter where
  directives : List Directive
  pattern : Option Pattern
deriving DecidableEq, Repr

inductive FilterFault
  | directive (text : String)
  | slashes (text : String)
  | pattern (text : String) (rejection : Pattern.Rejection)
deriving DecidableEq, Repr

def FilterFault.warning (fault : FilterFault) : String :=
  let reason :=
    match fault with
    | .directive text => "invalid logging spec '" ++ text ++ "'"
    | .slashes text => "invalid logging spec '" ++ text ++ "' (too many '/'s)"
    | .pattern text rejection => "invalid regex filter - " ++ rejection.message text
  "warning: " ++ reason ++ ", ignoring it\n"

def verbosity? (name : String) : Option Nat :=
  match name.toUpper with
  | "OFF" => some 0
  | "ERROR" => some 1
  | "WARN" => some 2
  | "INFO" => some 3
  | "DEBUG" => some 4
  | "TRACE" => some 5
  | _ => none

def trimmed (text : String) : String :=
  String.ofList (trimBlanks text.toList)

namespace Directive

def read? (text : String) : Option (Except FilterFault Directive) :=
  let text := trimmed text
  match text.splitOn "=" with
  | [""] => none
  -- a word that is no level is a target, all of whose records pass
  | [word] => some (.ok ((verbosity? word).elim ⟨some word, 5⟩ (⟨none, ·⟩)))
  | [target, level] =>
    let level := trimmed level
    if level.isEmpty then some (.ok ⟨some target, 5⟩)
    else
      match verbosity? level with
      | some verbosity => some (.ok ⟨some target, verbosity⟩)
      | none => some (.error (.directive level))
  | _ => some (.error (.directive text))

def size (directive : Directive) : Nat :=
  (directive.target.getD "").utf8ByteSize

def covers (directive : Directive) (target : String) : Bool :=
  (directive.target.getD "").toList.isPrefixOf target.toList

end Directive

namespace Filter

def add (directives : List Directive) (directive : Directive) : List Directive :=
  if directives.any fun d => d.target = directive.target then
    directives.map fun d => if d.target = directive.target then directive else d
  else directives ++ [directive]

def readDirectives (text : String) : List Directive × List FilterFault :=
  let results := (text.splitOn ",").filterMap Directive.read?
  ((results.filterMap Except.toOption).foldl add [],
    results.filterMap fun
      | .error fault => some fault
      | .ok _ => none)

def readPattern (text : String) : Option Pattern × List FilterFault :=
  match Pattern.ofString? text with
  | .ok pattern => (some pattern, [])
  | .error rejection => (none, [.pattern text rejection])

/-- Without any directive errors pass. -/
def orErrors (directives : List Directive) : List Directive :=
  if directives.isEmpty then [⟨none, 1⟩] else directives

def read (text : String) : Filter × List FilterFault :=
  match text.splitOn "/" with
  | [directives] =>
    let read := readDirectives directives
    (⟨orErrors read.1, none⟩, read.2)
  | [directives, pattern] =>
    let read := readDirectives directives
    let pattern := readPattern pattern
    (⟨orErrors read.1, pattern.1⟩, read.2 ++ pattern.2)
  -- with a second slash nothing of the text is used
  | _ => (⟨orErrors [], none⟩, [.slashes text])

/-- The directive that decides about a target: the longest, and of two equally long the later. -/
def deciding? (filter : Filter) (target : String) : Option Directive :=
  filter.directives.foldl (fun best directive =>
    if directive.covers target then
      match best with
      | none => some directive
      | some b => if b.size ≤ directive.size then some directive else best
    else best) none

def passes (filter : Filter) (record : Record) : Bool :=
  match filter.deciding? record.target with
  | some directive =>
    record.level.verbosity ≤ directive.verbosity
      && filter.pattern.all fun pattern => pattern.isFoundIn record.message
  | none => false

end Filter

end Bootstrapper.Log
