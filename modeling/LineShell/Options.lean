import LineShell.Session
import LineShell.Text.Numeral

/-!
# The options of the command line

What the shell is asked to do by its arguments: to run with certain options, to explain itself, or
something that it does not understand.  Arguments are read from left to right and the first one that
cannot be understood decides.
-/

namespace LineShell

/-- The options of a run. -/
structure Options where
  /-- Lines are not echoed from the start. -/
  quiet : Bool
  /-- Lines are read as they come, without an editor. -/
  plain : Bool
  /-- The end of the input ends the session. -/
  leaveAtEnd : Bool
  /-- How deep recalls may nest, if that is said. -/
  recallDepth : Option Nat
deriving DecidableEq, Repr

namespace Options

/-- The options when there are no arguments. -/
def none : Options :=
  { quiet := false, plain := false, leaveAtEnd := false, recallDepth := Option.none }

/-- The settings that the options ask for. -/
def settings (o : Options) : Settings :=
  { echo := !o.quiet
    leaveAtEnd := o.leaveAtEnd
    recallDepth := o.recallDepth.getD Settings.standardRecallDepth }

end Options

/-- Why arguments are not understood. -/
inductive Misuse where
  /-- Nothing is known by this name, or it does not belong here. -/
  | unknown (argument : Text)
  /-- An option lacks its value. -/
  | noValue (option : Text)
  /-- An option has a value that it cannot have. -/
  | badValue (option value : Text) (why : Text)
  /-- Something follows the wish for an explanation. -/
  | afterHelp
deriving DecidableEq, Repr

namespace Misuse

/-- The text about a misuse. -/
def message : Misuse → Text
  | .unknown argument => "Unrecognized argument: ".toList ++ argument ++ ['\n']
  | .noValue option => "No value provided for option '".toList ++ option ++ "'.\n".toList
  | .badValue option value why =>
    "Error parsing option '".toList ++ option ++ "' with value '".toList ++ value ++
      "': ".toList ++ why ++ ['\n']
  | .afterHelp => "Trailing arguments are not allowed after \x60help\x60.".toList

/-- What is written about a misuse. -/
def report (m : Misuse) : Text :=
  m.message ++ "\nRun tinysh --help for more information.\n".toList

end Misuse

/-- What arguments ask for. -/
inductive Invocation where
  | run (options : Options)
  | help
  | misused (m : Misuse)
deriving DecidableEq, Repr

namespace Invocation

/-- The greatest depth that can be asked for. -/
def greatestDepth : Nat := 18446744073709551615

/-- Reads digits after a number; a digit that is none is found out before a number that is too
large. -/
def digits (n : Nat) : Text → Except Text Nat
  | [] => .ok n
  | c :: t =>
    if c.isDigit then
      let n := n * 10 + (c.toNat - '0'.toNat)
      if n ≤ greatestDepth then digits n t
      else .error "number too large to fit in target type".toList
    else .error "invalid digit found in string".toList

/-- The depth that a value asks for, or why it asks for none. -/
def depth (value : Text) : Except Text Nat :=
  match value with
  | [] => .error "cannot parse integer from empty string".toList
  | ['+'] => .error "invalid digit found in string".toList
  | '+' :: t => digits 0 t
  | _ => digits 0 value

/-- The name of the option with a value. -/
def depthOption : Text := "--recall-depth".toList

/-- Reads arguments after those that asked for `o`, and for an explanation if `help`. -/
def read (help : Bool) (o : Options) : List Text → Invocation
  | [] => if help then .help else .run o
  | argument :: rest =>
    let name := String.ofList argument
    if name = "--help" ∨ name = "help" then read true o rest
    else if argument.head? ≠ some '-' then .misused (.unknown argument)
    else if name = "--" then
      match rest with
      | [] => if help then .help else .run o
      | argument :: _ => .misused (.unknown argument)
    else if help then .misused .afterHelp
    else if name = "-q" ∨ name = "--quiet" then read help { o with quiet := true } rest
    else if name = "--plain" then read help { o with plain := true } rest
    else if name = "--exit-on-eof" then read help { o with leaveAtEnd := true } rest
    else if argument = depthOption then
      match rest with
      | [] => .misused (.noValue depthOption)
      | value :: rest =>
        if o.recallDepth.isSome then
          .misused (.badValue depthOption value "duplicate values provided".toList)
        else
          match depth value with
          | .ok n => read help { o with recallDepth := some n } rest
          | .error why => .misused (.badValue depthOption value why)
    else .misused (.unknown argument)

/-- What the arguments of a command line ask for. -/
def ofArguments (arguments : List Text) : Invocation :=
  read false Options.none arguments

/-- The explanation of the shell. -/
def usage : Text :=
  ("Usage: tinysh [-q] [--plain] [--exit-on-eof] [--recall-depth <recall-depth>]\n\n" ++
    "A tiny interactive shell with history recall.\n\n" ++
    "Options:\n" ++
    "  -q, --quiet       start with command echo turned off, as after \x60set +v\x60.\n" ++
    "  --plain           read plain lines from standard input instead of using the\n" ++
    "                    line editor.\n" ++
    "  --exit-on-eof     leave the shell when standard input is exhausted.\n" ++
    "  --recall-depth    how deep \x60!N\x60 recalls may nest before giving up.\n" ++
    "  --help, help      display usage information\n\n").toList

end Invocation

end LineShell
