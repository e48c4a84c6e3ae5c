import BootSeal.Text.Numeral
import BootSeal.Text.Quoted
/-!
# Faults in the use of a command

What is wrong with the words of a command line, or with the files that they name.
-/

namespace BootSeal.CommandLine

inductive ValueFault where
  | notInteger (word : String)
  | notChoice (word : String) (choices : List String)
  | isDirectory (word : String)
deriving DecidableEq, Repr

def ValueFault.message : ValueFault → String
  | .notInteger word =>
      word ++ " is not a valid integer. Please use code literals prefixed with 0b/0B, 0o/0O, or "
        ++ "0x/0X as necessary."
  | .notChoice word [choice] => Quoted.quote word ++ " is not " ++ Quoted.quote choice ++ "."
  | .notChoice word choices =>
      Quoted.quote word ++ " is not one of " ++ ", ".intercalate (choices.map Quoted.quote) ++ "."
  | .isDirectory word => "File " ++ Quoted.quote word ++ " is a directory."

inductive UsageFault where
  | unknownOption (name : String)
  | missingWords (name : String) (count : Nat)
  | needlessValue (name : String)
  | invalidValue (option : String) (fault : ValueFault)
  | missingOption (option : String)
  | missingArgument (name : String)
  | extraWords (words : List String)
  | unknownCommand (name : String)
  | missingCommand
  | missingKey (path : String)
  | unusableKey (path reason : String)
  | missingImage (path : String)
  | privateKeyNeeded (reason : String)
deriving DecidableEq, Repr

namespace UsageFault

def message : UsageFault → String
  | unknownOption name => "No such option " ++ Quoted.quote name ++ "."
  | missingWords name count =>
      if count = 1 then "Option " ++ Quoted.quote name ++ " requires an argument."
      else "Option " ++ Quoted.quote name ++ " requires " ++ Numeral.decimal count ++ " arguments."
  | needlessValue name => "Option " ++ Quoted.quote name ++ " does not take a value."
  | invalidValue option fault => "Invalid value for " ++ option ++ ": " ++ fault.message
  | missingOption option => "Missing option " ++ option ++ "."
  | missingArgument name => "Missing argument " ++ Quoted.quote name ++ "."
  | extraWords [word] => "Got unexpected extra argument (" ++ word ++ ")"
  | extraWords words => "Got unexpected extra arguments (" ++ " ".intercalate words ++ ")"
  | unknownCommand name => "No such command " ++ Quoted.quote name ++ "."
  | missingCommand => "Missing command."
  | missingKey path => "Key file not found (" ++ path ++ ")"
  | unusableKey path reason => "Unusable key " ++ path ++ ": " ++ reason
  | missingImage path => "Image file not found (" ++ path ++ ")"
  | privateKeyNeeded reason => reason

/-- Whether a fault is shown alone, without a reminder of the usage. -/
def isBare : UsageFault → Bool
  | missingWords _ _ => true
  | needlessValue _ => true
  | _ => false

end UsageFault

end BootSeal.CommandLine
