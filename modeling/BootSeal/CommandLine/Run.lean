import BootSeal.CommandLine.Action
import BootSeal.Text.Alphanumeric
/-!
# Command lines

A command line is switches for the log, the name of a command, and the words of the command. A run
of it ends with a status, with what it shows, and with a store.
-/

namespace BootSeal.CommandLine

structure Outcome where
  status : Nat := 0
  output : Bytes := []
  errors : String := ""
  prompts : List String := []
  crash : Option Crash := none
  store : Store

def programName : String := "bootimg"

inductive ProgramSetting where
  | verbose
deriving DecidableEq, Repr

/-- The switch for the log; used twice, it shows the finer events too. -/
def verboseOption : OptionSpec ProgramSetting where
  short := 'v'
  long := "verbose"
  words := 0
  isRepeated := true
  read := fun _ _ => .ok .verbose

def programOptions : List (OptionSpec (Option ProgramSetting)) :=
  [verboseOption.besideHelp, OptionSpec.help]

def usageLine : Option (String × Command) → String
  | none => "Usage: " ++ programName ++ " [OPTIONS] COMMAND [ARGS]..."
  | some (name, c) =>
      "Usage: " ++ programName ++ " " ++ name ++ " [OPTIONS]"
        ++ (match c.argument? with | some a => " " ++ a | none => "")

def helpLine : Option (String × Command) → String
  | none => "Try '" ++ programName ++ " --help' for help."
  | some (name, _) => "Try '" ++ programName ++ " " ++ name ++ " --help' for help."

def usageText (called : Option (String × Command)) (f : UsageFault) : String :=
  if f.isBare then "Error: " ++ f.message ++ "\n"
  else
    usageLine called ++ "\n" ++ helpLine called ++ "\n\nError: " ++ f.message ++ "\n"

def failureText (called : Option (String × Command)) : Failure → String
  | .reported message => "Error: " ++ message ++ "\n"
  | .usage f => usageText called f
  | .refused => ""
  | .aborted => "\nAborted!\n"
  | .crash _ => ""

/-- Whether an event is shown, for the number of times that the log was asked for. -/
def isShown (verbosity : Nat) (e : Event) : Bool :=
  match e.level with
  | .info => 1 ≤ verbosity
  | .debug => 2 ≤ verbosity

def logLine (e : Event) : String :=
  let level := e.level.name
  level ++ String.ofList (List.replicate (5 - level.length) ' ') ++ " " ++ e.message ++ "\n"

def logText (verbosity : Nat) (events : List Event) : String :=
  String.join ((events.filter (isShown verbosity)).map logLine)

def Failure.crash? : Failure → Option Crash
  | .crash c => some c
  | _ => none

def Outcome.ofAction (called : Option (String × Command)) (verbosity : Nat) (a : Action) :
    Outcome where
  status := match a.failure with | none => 0 | some f => f.status
  output := a.output
  errors := logText verbosity a.events
    ++ (match a.failure with | none => "" | some f => failureText called f)
  prompts := a.prompts
  crash := a.failure.bind Failure.crash?
  store := a.store

variable [KeyLibrary]

def runCommand (s : Store) (name : String) (c : Command) (verbosity : Nat) (line : List String)
    (answers : List String) (entropy : Bytes) : Outcome :=
  .ofAction (some (name, c)) verbosity
    (match c.parse s line with
    | .error f => .fail s (.usage f)
    | .ok .help => .print s (usageLine (some (name, c)) ++ "\n")
    | .ok (.request r) => .ofRequest s answers entropy r)

/-- Whether a word cannot be meant as a name. -/
def isNoName (word : String) : Bool :=
  match word.toList with
  | [] => false
  | c :: _ => !isAlphanumeric c

/-- The fault of a command line whose command is not known. Where the word cannot be meant as a
name, the words behind it are looked at as options first. -/
def unknownCommand (name : String) (rest : List String) : UsageFault :=
  if isNoName name then
    match scan programOptions true rest with
    | .error f => f
    | .ok _ => .unknownCommand name
  else .unknownCommand name

/-- Runs a command line, with the answers that the user will give and with random bytes. -/
def run (s : Store) (line : List String) (answers : List String) (entropy : Bytes) : Outcome :=
  match scan programOptions true line with
  | .error f => .ofAction none 0 (.fail s (.usage f))
  | .ok words =>
      if words.uses.any fun u => u.1.long = "help" then
        .ofAction none 0 (.print s (usageLine none ++ "\n"))
      else
        match words.arguments with
        | [] => .ofAction none 0 (.fail s (.usage .missingCommand))
        | name :: rest =>
            match Command.ofName? name with
            | none => .ofAction none 0 (.fail s (.usage (unknownCommand name rest)))
            | some c => runCommand s name c words.uses.length rest answers entropy

end BootSeal.CommandLine
