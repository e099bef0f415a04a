-- SUMMARY: Command lines and what they ask for.
import MasterData.Config.Basic

/-! # Command lines

The options for the configuration and for more log output may stand before or behind the command; a
configuration named behind it counts. A value may follow its option as the next argument, behind an
equals sign, or, for a letter, at once; letters may share one dash. Behind two dashes no argument is an
option. The first thing that does not fit makes the whole command line misuse, unless a request for
help stands before it. Only of a value that stands alone directly before the command it shows last that
it does not fit: a request for help behind the command still counts.
-/

namespace MasterData

/-- What a command line can ask to be done. -/
inductive Command where
  | compile (check : Bool)
  | materialize
  | aggregate
  | inspect (workbook : String)
  deriving DecidableEq

/-- A command with its options. -/
structure Options where
  config : String
  /-- How much more is logged. -/
  verbosity : Nat
  command : Command
  deriving DecidableEq

/-- What a command line asks for. -/
inductive Invocation where
  | run (options : Options)
  | help
  | version
  | misuse
  deriving DecidableEq

namespace Invocation

/-- The name of a command. -/
inductive CommandName where
  | compile
  | materialize
  | aggregate
  | inspect
  deriving DecidableEq

/-- The command with a name. -/
def commandNamed? (s : String) : Option CommandName :=
  [("compile", .compile), ("materialize", .materialize), ("aggregate", .aggregate),
    ("inspect", .inspect)].lookup s

/-- What the arguments so far say. -/
structure Seen where
  /-- The command, once it is named. -/
  command : Option CommandName
  /-- The configuration named on this side of the command. -/
  config : Option String
  /-- The configuration named before the command. -/
  outerConfig : Option String
  verbosity : Nat
  check : Bool
  workbook : Option String
  /-- The next argument must be the value of the configuration. -/
  awaitsConfig : Bool
  /-- A value that stands alone before the command does not fit. -/
  isSpoilt : Bool
  /-- Two dashes have passed. -/
  isOptionFree : Bool

def Seen.nothing : Seen := ⟨none, none, none, 0, false, none, false, false, false⟩

/-- What remains to be seen, or what the whole command line asks for. -/
abbrev Progress := Except Invocation Seen

namespace Seen

/-! ## Options -/

/-- A value for the configuration; there is at most one on each side of the command. -/
def withConfig (s : Seen) (value : String) : Progress :=
  if value = "" ∨ s.config.isSome then .error .misuse
  else .ok { s with config := some value, awaitsConfig := false }

/-- A value for the configuration in an argument of its own. -/
def withSeparateConfig (s : Seen) (value : String) : Progress :=
  match s.withConfig value with
  | .ok s => .ok s
  | .error misfit =>
    if s.command.isNone then .ok { s with awaitsConfig := false, isSpoilt := true }
    else .error misfit

/-- The letters behind a single dash. -/
def withLetters (s : Seen) : List Char → Progress
  | [] => .ok s
  | 'v' :: rest => withLetters { s with verbosity := s.verbosity + 1 } rest
  | ['c'] => .ok { s with awaitsConfig := true }
  | 'c' :: '=' :: value => s.withConfig (String.ofList value)
  | 'c' :: value => s.withConfig (String.ofList value)
  | 'h' :: _ => .error .help
  | 'V' :: _ => .error (if s.command.isNone then .version else .misuse)
  | _ => .error .misuse

/-- The word behind two dashes. -/
def withWord (s : Seen) (word : List Char) : Progress :=
  let name := String.ofList (word.takeWhile (· ≠ '='))
  match name, word.dropWhile (· ≠ '=') with
  | "config", [] => .ok { s with awaitsConfig := true }
  | "config", _ :: value => s.withConfig (String.ofList value)
  | "verbose", [] => .ok { s with verbosity := s.verbosity + 1 }
  | "check", [] =>
    if s.command = some .compile ∧ !s.check then .ok { s with check := true } else .error .misuse
  | "help", [] => .error .help
  | "version", [] => .error (if s.command.isNone then .version else .misuse)
  | _, _ => .error .misuse

/-! ## Other arguments -/

/-- An argument behind the command that is no option. -/
def withOperand (s : Seen) (arg : String) : Progress :=
  if s.command = some .inspect ∧ s.workbook.isNone ∧ arg ≠ "" then
    .ok { s with workbook := some arg }
  else .error .misuse

/-- The seen arguments with the command named. -/
def withCommand (s : Seen) (name : CommandName) : Seen :=
  { s with command := some name, outerConfig := s.config, config := none }

/-- What the arguments ask for when there are no more. -/
def finish (s : Seen) : Invocation :=
  let config := (s.config.or s.outerConfig).getD Config.fileName
  if s.awaitsConfig || s.isSpoilt then .misuse
  else
    match s.command, s.workbook with
    | some .compile, _ => .run ⟨config, s.verbosity, .compile s.check⟩
    | some .materialize, _ => .run ⟨config, s.verbosity, .materialize⟩
    | some .aggregate, _ => .run ⟨config, s.verbosity, .aggregate⟩
    | some .inspect, some workbook => .run ⟨config, s.verbosity, .inspect workbook⟩
    | some .inspect, none => .misuse
    | none, _ => .misuse

end Seen

/-- Whether an argument names a command, help included. -/
def isCommandWord (arg : String) : Bool :=
  arg = "help" || (commandNamed? arg).isSome

/-- What a request for help on some commands asks for. -/
def helpOn : List String → Invocation
  | [] => .help
  | [name] => if isCommandWord name then .help else .misuse
  | _ => .misuse

/-- Whether an argument has the form of an option. -/
def isOptionLike (arg : String) : Bool :=
  match arg.toList with
  | '-' :: _ :: _ => true
  | _ => false

/-- What further arguments ask for. -/
def ofArgumentsFrom (s : Seen) : List String → Invocation
  | [] => s.finish
  | arg :: rest =>
    let proceed (progress : Progress) : Invocation :=
      match progress with
      | .ok s => ofArgumentsFrom s rest
      | .error invocation => invocation
    if s.awaitsConfig then
      if isOptionLike arg then .misuse else proceed (s.withSeparateConfig arg)
    else if s.command.isNone && s.isSpoilt && !isCommandWord arg then .misuse
    else if isOptionLike arg && !s.isOptionFree then
      match arg.toList with
      | '-' :: '-' :: [] => proceed (.ok { s with isOptionFree := true })
      | '-' :: '-' :: word => proceed (s.withWord word)
      | _ :: letters => proceed (s.withLetters letters)
      | [] => .misuse
    else if s.command.isSome then proceed (s.withOperand arg)
    else if s.isOptionFree then .misuse
    else if arg = "help" then helpOn rest
    else
      match commandNamed? arg with
      | some name => proceed (.ok (s.withCommand name))
      | none => .misuse

/-- What a command line asks for. -/
def ofArguments (args : List String) : Invocation :=
  ofArgumentsFrom .nothing args

end Invocation

end MasterData
