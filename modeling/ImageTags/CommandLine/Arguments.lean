import ImageTags.CommandLine.Parameter
import ImageTags.Numeral
import ImageTags.Text.Split

/-!
# Arguments

The arguments of a run name a command and then set its parameters, by `--name=value`, by `--name`
and `value` as two arguments, or by `--name` alone for a switch.  A value of its own that starts
with a hyphen is taken for an option.

An option whose value is to come stays pending until the next option, and only then its own faults
show.  An argument that has no place at all is a fault at once.
-/

namespace ImageTags

open Text

/-- What a run answers instead of running its command. -/
inductive Usage where
  | help
  | version
  | missingCommand
  | unknownCommand
  | unknownArgument
  /-- A value is missing, or it is none of those that are allowed. -/
  | invalidValue
  /-- A switch has a value. -/
  | unexpectedValue
  /-- A parameter is set twice. -/
  | repeated
  /-- A value is no number. -/
  | malformedNumber
  deriving DecidableEq, Repr

/-- The exit code of a usage answer. -/
def Usage.exitCode : Usage → Nat
  | help => 0
  | version => 0
  | _ => 2

/-- Parameters with the values that they are set to, in the order in which that was done. -/
abbrev Settings := List (Parameter × String)

/-- Checks the value of a parameter. -/
def Parameter.check (p : Parameter) (value : String) : Except Usage Unit :=
  match p.kind with
  | .text => .ok ()
  | .path => if value = "" then .error .invalidValue else .ok ()
  | .switch => if value = "true" ∨ value = "false" then .ok () else .error .invalidValue
  | .integer =>
    match Numeral.readSigned? value.toList with
    | some _ => .ok ()
    | none => .error .malformedNumber

/-- Sets a parameter, which must not be set yet. -/
def Settings.set (s : Settings) (p : Parameter) (value : String) : Except Usage Settings := do
  if (s.lookup p).isSome then .error .repeated
  p.check value
  .ok (s ++ [(p, value)])

/-! ## Options -/

/-- How far the arguments have been read: what is set, and the option that is pending with its
value, if that has come. -/
structure Scan where
  settings : Settings
  pending : Option (Parameter × Option String)
  deriving DecidableEq, Repr

/-- The settings with that of the pending option. -/
def Scan.settle (s : Scan) : Except Usage Settings :=
  match s.pending with
  | none => .ok s.settings
  | some (_, none) => .error .invalidValue
  | some (p, some value) => s.settings.set p value

/-- The forms of an argument. -/
inductive Argument where
  /-- Two hyphens alone: no option follows. -/
  | endOfOptions
  | long (name : String) (value : Option String)
  /-- Letters after one hyphen. -/
  | short (letters : List Char)
  | word (text : String)
  deriving DecidableEq, Repr

/-- The form of an argument. -/
def Argument.ofString (text : String) : Argument :=
  match text.toList with
  | ['-', '-'] => .endOfOptions
  | '-' :: '-' :: option =>
    let (name, value) := cutFirst '=' option
    .long (String.ofList name) (value.map String.ofList)
  | '-' :: c :: letters => .short (c :: letters)
  | _ => .word text

/-- Sets a parameter by an option, or leaves it pending. -/
def Scan.option (s : Scan) (p : Parameter) (value : Option String) : Except Usage Scan :=
  match p.kind, value with
  | .switch, some _ => .error .unexpectedValue
  | .switch, none => do
    .ok ⟨← (← s.settle).set p "true", none⟩
  | _, some value => do
    .ok ⟨← (← s.settle).set p value, none⟩
  | _, none => do
    .ok ⟨← s.settle, some (p, none)⟩

/-- Reads one argument of a command with the parameters `known`, which is not the end of the
options. -/
def Scan.next (known : List Parameter) (s : Scan) : Argument → Except Usage Scan
  | .long name value =>
    match known.find? (·.name = name) with
    | some p => s.option p value
    | none =>
      if name ≠ "help" then .error .unknownArgument
      else if value.isSome then .error .unexpectedValue
      else do
        let _ ← s.settle
        .error .help
  | .short letters =>
    if letters.head? = some 'h' then do
      let _ ← s.settle
      .error .help
    else .error .unknownArgument
  | .word text =>
    match s.pending with
    | some (p, none) => .ok ⟨s.settings, some (p, some text)⟩
    | _ => .error .unknownArgument
  | .endOfOptions => .error .unknownArgument

/-- Reads the arguments of a command with the parameters `known`. -/
def Scan.run (known : List Parameter) (s : Scan) : List String → Except Usage Settings
  | [] => s.settle
  | arg :: args =>
    match Argument.ofString arg with
    | .endOfOptions => if args.isEmpty then s.settle else .error .unknownArgument
    | form => do
      let s ← s.next known form
      run known s args

/-! ## The environment -/

/-- Sets a parameter by the environment unless it is set. -/
def Settings.setFromEnvironment (environment : List (String × String)) (s : Settings)
    (p : Parameter) : Except Usage Settings :=
  if (s.lookup p).isSome then .ok s
  else
    match p.environmentName?.bind fun name => environment.lookup name with
    | some value => s.set p value
    | none => .ok s

/-- The settings of a command with the parameters `known`: from its arguments, then from the
environment. -/
def Settings.read (known : List Parameter) (environment : List (String × String))
    (args : List String) : Except Usage Settings := do
  let settings ← Scan.run known ⟨[], none⟩ args
  known.foldlM (Settings.setFromEnvironment environment) settings

/-! ## Commands -/

/-- The names of the commands. -/
def commandNames : List String := ["generate", "rules", "help"]

/-- A command with its settings. -/
inductive Command where
  | generate (settings : Settings)
  | rules (settings : Settings)
  deriving DecidableEq, Repr

/-- What a request for help about commands answers: it must name one command at most. -/
def helpAbout : List String → Usage
  | [] => .help
  | [name] => if name ∈ commandNames then .help else .unknownCommand
  | _ => .unknownCommand

/-- What an option in front of the command answers. -/
def leadingOption : Argument → Usage
  | .long name value =>
    if name ≠ "help" ∧ name ≠ "version" then .unknownArgument
    else if value.isSome then .unexpectedValue
    else if name = "help" then .help else .version
  | .short letters =>
    match letters.head? with
    | some 'h' => .help
    | some 'V' => .version
    | _ => .unknownArgument
  | .word _ => .unknownCommand
  | .endOfOptions => .missingCommand

/-- Reads the arguments of a run. -/
def Command.parse (environment : List (String × String)) : List String → Except Usage Command
  | [] => .error .missingCommand
  | "generate" :: args => (Settings.read Parameter.all environment args).map .generate
  | "rules" :: args => (Settings.read [.tags] environment args).map .rules
  | "help" :: args => .error (helpAbout args)
  | ["--"] => .error .missingCommand
  | "--" :: arg :: _ =>
    .error (if arg ∈ commandNames then .unknownArgument else .unknownCommand)
  | arg :: _ => .error (leadingOption (.ofString arg))

end ImageTags
