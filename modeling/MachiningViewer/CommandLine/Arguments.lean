import MachiningViewer.Job.Basic
import MachiningViewer.Number.Binary64
import MachiningViewer.Text.Blank

/-!
# Arguments

What the program is asked to do. The first two arguments are the command and what it is for; options
follow in any order. An option that needs a value and stands last is passed over, and of an option
that is given twice the last value counts.
-/

namespace MachiningViewer.CommandLine

/-! ### Job numbers -/

/-- Why an argument is no job number. -/
inductive JobNumberFault where
  | empty
  | notADigit
  | tooLarge
  deriving DecidableEq, Repr

def JobNumberFault.message : JobNumberFault → String
  | .empty => "cannot parse integer from empty string"
  | .notADigit => "invalid digit found in string"
  | .tooLarge => "number too large to fit in target type"

/-- Appends a digit to a number of 64 bits. -/
def appendDigit (n : Nat) (c : Char) : Except JobNumberFault Nat :=
  if !Text.isAsciiDigit c then .error .notADigit
  else
    let n := 10 * n + (c.toNat - '0'.toNat)
    if n < twoTo 64 then .ok n else .error .tooLarge

/-- Reads the digits of a job number. There has to be one. -/
def readDigits : List Char → Except JobNumberFault JobId
  | [] => .error .notADigit
  | cs => cs.foldlM appendDigit 0

/-- Reads a job number, which may have a plus sign. -/
def readJobNumber (s : String) : Except JobNumberFault JobId :=
  match s.toList with
  | [] => .error .empty
  | '+' :: digits => readDigits digits
  | digits => readDigits digits

/-! ### Commands -/

/-- What there is to do. -/
inductive Command where
  /-- Interprets a toolpath file. -/
  | parse (path : String)
  /-- Follows a job until it is at its end. -/
  | watch (job : JobId)
  /-- Saves the toolpath text of a job. -/
  | download (job : JobId)
  deriving DecidableEq, Repr

/-- Why there is nothing to do. -/
inductive CommandFault where
  | unknown (name : String)
  | noJobNumber (text : String) (fault : JobNumberFault)
  deriving DecidableEq, Repr

/-- Reads a command and what it is for. -/
def Command.read (name subject : String) : Except CommandFault Command :=
  let job := (readJobNumber subject).mapError (CommandFault.noJobNumber subject)
  match name with
  | "parse" => .ok (.parse subject)
  | "watch" => job.map .watch
  | "download" => job.map .download
  | _ => .error (.unknown name)

/-! ### Options -/

/-- How much the program reports of its own doings. -/
inductive Verbosity where
  | quiet
  | verbose
  | detailed
  deriving DecidableEq, Repr

/-- What is set by options. -/
structure Options where
  config : Option String
  backend : Option String
  output : Option String
  verbosity : Verbosity
  deriving DecidableEq, Repr

/-- Nothing is set. -/
def Options.none : Options := ⟨.none, .none, .none, .quiet⟩

/-- At least verbose. -/
def Verbosity.raise : Verbosity → Verbosity
  | .quiet => .verbose
  | v => v

/-- Reads options, and answers with those that are not known. -/
def Options.read (o : Options) : List String → Options × List String
  | [] => (o, [])
  | [name] =>
    match name with
    | "--config" | "-c" | "--api" | "-a" | "--output" | "-o" => (o, [])
    | "--verbose" | "-v" => ({ o with verbosity := o.verbosity.raise }, [])
    | "-vv" => ({ o with verbosity := .detailed }, [])
    | _ => (o, [name])
  | name :: value :: rest =>
    match name with
    | "--config" | "-c" => Options.read { o with config := some value } rest
    | "--api" | "-a" => Options.read { o with backend := some value } rest
    | "--output" | "-o" => Options.read { o with output := some value } rest
    | "--verbose" | "-v" =>
      Options.read { o with verbosity := o.verbosity.raise } (value :: rest)
    | "-vv" => Options.read { o with verbosity := .detailed } (value :: rest)
    | _ =>
      let (o, unknown) := Options.read o (value :: rest)
      (o, name :: unknown)

/-! ### All arguments -/

/-- What the arguments ask for. -/
inductive Invocation where
  /-- The help text, because it is asked for or because too little is. -/
  | usage (asked : Bool)
  | refused (fault : CommandFault)
  | run (command : Command) (options : Options) (unknown : List String)
  deriving DecidableEq, Repr

/-- Reads all arguments. Asking for help goes before everything else. -/
def Invocation.read (arguments : List String) : Invocation :=
  if arguments.any fun a => a == "--help" || a == "-h" then .usage true
  else
    match arguments with
    | name :: subject :: rest =>
      match Command.read name subject with
      | .error fault => .refused fault
      | .ok command =>
        let (options, unknown) := Options.none.read rest
        .run command options unknown
    | _ => .usage false

end MachiningViewer.CommandLine
