import Scaffold.Command.Level

namespace Scaffold.Command

inductive UsageError where
  | help (level : Level)
  | version
  | nothing (level : Level)
  | commandMissing (level : Level)
  | unknownCommand (level : Level) (name : String)
  | needlessDashes (level : Level) (name : String)
  | unexpected (level : Level) (argument : String)
  | unknownFlag (level : Level) (flag : String)
  | operandMissing (level : Level) (given : List Argument) (operand : Operand)
  | valueMissing (display : String)
  | repeated (level : Level) (display : String)
  | needlessValue (level : Level) (display value : String)
  deriving DecidableEq, Repr

inductive UsageError.Kind where
  | displayHelp
  | displayVersion
  | displayHelpOnMissing
  | missingSubcommand
  | invalidSubcommand
  | unknownArgument
  | missingRequiredArgument
  | invalidValue
  | argumentConflict
  | tooManyValues
  deriving DecidableEq, Repr

namespace UsageError

def kind : UsageError → Kind
  | help _ => .displayHelp
  | version => .displayVersion
  | nothing _ => .displayHelpOnMissing
  | commandMissing _ => .missingSubcommand
  | unknownCommand .. => .invalidSubcommand
  | needlessDashes .. | unexpected .. | unknownFlag .. => .unknownArgument
  | operandMissing .. => .missingRequiredArgument
  | valueMissing _ => .invalidValue
  | repeated .. => .argumentConflict
  | needlessValue .. => .tooManyValues

def Kind.name : Kind → String
  | displayHelp => "DisplayHelp"
  | displayVersion => "DisplayVersion"
  | displayHelpOnMissing => "DisplayHelpOnMissingArgumentOrSubcommand"
  | missingSubcommand => "MissingSubcommand"
  | invalidSubcommand => "InvalidSubcommand"
  | unknownArgument => "UnknownArgument"
  | missingRequiredArgument => "MissingRequiredArgument"
  | invalidValue => "InvalidValue"
  | argumentConflict => "ArgumentConflict"
  | tooManyValues => "TooManyValues"

def isAnswer (e : UsageError) : Bool := e.kind = .displayHelp || e.kind = .displayVersion

def exitCode (e : UsageError) : Nat := if e.isAnswer then 0 else 2

private def hint : String := "For more information, try '--help'."

private def complaint (message : String) (tip usage : Option String) : String :=
  Text.lines (["error: " ++ message, ""] ++ tip.elim [] (fun t => ["  tip: " ++ t, ""]) ++
    usage.elim [] (fun u => [u, ""]) ++ [hint])

private def unexpectedText (argument : String) : String := "unexpected argument '" ++ argument ++ "' found"

private def usageWith (l : Level) (given : List Argument) (o : Operand) : String :=
  "Usage: " ++ l.title ++ String.join (given.map fun a => " " ++ a.display) ++ " " ++ o.display

private def commandNames (l : Level) : List String :=
  l.commands.flatMap fun e => e.name :: e.otherName.toList

def message : UsageError → String
  | help l | nothing l => l.helpText
  | version => versionText
  | commandMissing l =>
    complaint ("'" ++ l.title ++ "' requires a subcommand but one was not provided\n  [subcommands: " ++
      Text.joinWith ", " (commandNames l) ++ "]") none l.usage
  | unknownCommand l name => complaint ("unrecognized subcommand '" ++ name ++ "'") none l.usage
  | needlessDashes l name =>
    complaint (unexpectedText name)
      (some ("subcommand '" ++ name ++ "' exists; to use it, remove the '--' before it")) l.usage
  | unexpected l argument => complaint (unexpectedText argument) none l.usage
  | unknownFlag l flag =>
    complaint (unexpectedText flag)
      (if l.operand.isSome then some ("to pass '" ++ flag ++ "' as a value, use '-- " ++ flag ++ "'") else none)
      l.usage
  | operandMissing l given o =>
    complaint ("the following required arguments were not provided:\n  " ++ o.display) none (usageWith l given o)
  | valueMissing display =>
    complaint ("a value is required for '" ++ display ++ "' but none was supplied") none none
  | repeated l display => complaint ("the argument '" ++ display ++ "' cannot be used multiple times") none l.usage
  | needlessValue l display value =>
    complaint ("unexpected value '" ++ value ++ "' for '" ++ display ++ "' found; no more were expected") none
      l.usage

end UsageError

end Scaffold.Command
