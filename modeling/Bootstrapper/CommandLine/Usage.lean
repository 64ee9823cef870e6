import Bootstrapper.CommandLine.Basic
import Bootstrapper.Text.Similarity
import Bootstrapper.Text.Styled

/-!
# Usage errors

What can be wrong with a command line, and the texts that tell the user. Asking for help ends the
reading in the same way. The texts are styled: what is to be typed as it stands is bold, what is
wrong yellow, what is proposed green.
-/

namespace Bootstrapper.CommandLine

/-- Why a command line is not followed. With an option that is not known come those that were used
before it. -/
inductive UsageError
  | help
  | missingValue (setting : Setting)
  | repeatedSetting (setting : Setting)
  | repeatedDebug
  | notUnicode
  | unknownOption (name : Bytes) (used : List Flag)
  | unexpectedValue (switch : Switch) (value : Bytes) (isFirst : Bool)
deriving DecidableEq, Repr

open Styled (plain fixed)

def verbatim (text : String) : Styled := fixed .bold text

def Setting.shown (setting : Setting) : String :=
  "--" ++ setting.name ++ " " ++ setting.placeholder

def Switch.shown (switch : Switch) : String :=
  "--" ++ switch.name

def Flag.shown : Flag → String
  | .setting s => s.shown
  | .switch s => s.shown

def Flag.usage : Flag → Styled
  | .setting s => verbatim ("--" ++ s.name) ++ plain (" " ++ s.placeholder)
  | .switch s => verbatim s.shown

def usageStart : Styled :=
  fixed .heading "Usage:" ++ plain " " ++ verbatim "dnx" ++ plain " "

def usageLine : Styled := plain "\n\n" ++ usageStart ++ plain "[OPTIONS] [ARGS]..."

/-- The line that shows how the program is used with some options; in general if there are none. -/
def usageWith (flags : List Flag) : Styled :=
  if flags.isEmpty then usageLine
  else
    plain "\n\n" ++ usageStart ++ Styled.intercalate (plain " ") (flags.map Flag.usage)
      ++ plain " [ARGS]..."

/-- All that a command line may hold besides asking for help, as alternatives. -/
def alternatives : String :=
  let flags := Flag.all.filter (· ≠ .switch .help)
  "<" ++ "|".intercalate (flags.map Flag.shown ++ ["ARGS"]) ++ ">"

def moreLine : Styled :=
  plain "\n\nFor more information, try '" ++ verbatim "--help" ++ plain "'.\n"

/-- A line of the help about an option: its names, what follows them up to the text, the text. -/
def helpLine (names : Styled) (gap text : String) : Styled :=
  names ++ plain (gap ++ text ++ "\n")

def helpText : Styled :=
  plain "Bootstrap the application host and run an application\n\n" ++ usageStart
    ++ plain "[OPTIONS] [ARGS]...\n\n" ++ fixed .heading "Arguments:"
    ++ plain "\n  [ARGS]...  Arguments passed through to the application\n\n"
    ++ fixed .heading "Options:" ++ plain "\n"
    ++ helpLine (plain "      " ++ (Flag.switch .debug).usage) "  "
      "Wait for a debugger to attach before loading the host"
    ++ helpLine (plain "      " ++ (Flag.setting .base).usage) "       "
      "Application base directory (default: DNX_APPBASE, then the current directory)"
    ++ helpLine (plain "      " ++ (Flag.setting .host).usage) "         "
      "Host module to load (default: the dnx_host library next to this executable)"
    ++ helpLine (plain "      " ++ (Flag.setting .entryPoint).usage) "  "
      "Export to call in the host module [default: CallApplicationMain]"
    ++ helpLine (plain "  " ++ verbatim "-h" ++ plain ", " ++ (Flag.switch .help).usage)
      "                " "Print help"

namespace UsageError

def switchUsage (switch : Switch) (isFirst : Bool) : Styled :=
  if isFirst then (Flag.switch switch).usage ++ plain " [ARGS]..."
  else
    match switch with
    | .debug => plain alternatives
    | .help => (Flag.switch .help).usage ++ plain (" " ++ alternatives)

def meant? (name : Bytes) : Option Flag :=
  Similarity.best? (fun flag => flag.name.toList) (Utf8.decodeLossy name).toList Flag.all

def label : Styled := fixed .alarm "error:" ++ plain " "

def tip : Styled := plain "\n  " ++ fixed .green "tip:" ++ plain " "

/-- The text about a name that no option has: which may have been meant, and how to hand it to the
application. -/
def unknownText (name : Bytes) (used : List Flag) : Styled :=
  let shown := "--" ++ Utf8.decodeLossy name
  let near := (meant? name).toList
  let tips := near.flatMap fun flag =>
    tip ++ plain "a similar argument exists: '" ++ fixed .green ("--" ++ flag.name) ++ plain "'"
  label ++ plain "unexpected argument '" ++ .typed .yellow shown ++ plain "' found\n" ++ tips
    ++ tip ++ plain "to pass '" ++ .typed .yellow shown ++ plain "' as a value, use '"
    ++ .typed .green ("-- " ++ shown) ++ plain "'"
    ++ usageWith (used ++ near.filter fun flag => !used.contains flag)

def repeatedText (shown : String) : Styled :=
  label ++ plain "the argument '" ++ fixed .yellow shown
    ++ plain "' cannot be used multiple times" ++ usageLine

def styled : UsageError → Styled
  | .help => helpText
  | .missingValue setting =>
    label ++ plain "a value is required for '" ++ fixed .yellow setting.shown
      ++ plain "' but none was supplied" ++ moreLine
  | .repeatedSetting setting => repeatedText setting.shown ++ moreLine
  | .repeatedDebug => repeatedText Switch.debug.shown ++ moreLine
  | .notUnicode =>
    label ++ plain "invalid UTF-8 was detected in one or more arguments" ++ usageLine ++ moreLine
  | .unknownOption name used => unknownText name used ++ moreLine
  | .unexpectedValue switch value isFirst =>
    label ++ plain "unexpected value '" ++ .typed .yellow (Utf8.decodeLossy value)
      ++ plain "' for '" ++ (Flag.switch switch).usage
      ++ plain "' found; no more were expected\n\n" ++ usageStart
      ++ switchUsage switch isFirst ++ moreLine

/-- The text for an error, without styles and without what a terminal would obey. -/
def message (error : UsageError) : String :=
  error.styled.shown Terminal.plainText

end UsageError

end Bootstrapper.CommandLine
