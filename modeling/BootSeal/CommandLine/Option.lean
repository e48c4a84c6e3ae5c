import BootSeal.CommandLine.Usage
import BootSeal.Store
import BootSeal.Text.IntegerLiteral
/-!
# Options

An option has a short and a long name and takes a fixed number of words, which it reads as one
setting. The words of a command line are first told apart, options from arguments, and then read
option by option.
-/

namespace BootSeal.CommandLine

/-- An option whose words mean a setting in `σ`. -/
structure OptionSpec (σ : Type) where
  short : Char
  long : String
  /-- The words it takes; an option without words is a switch. -/
  words : Nat
  /-- Whether every use of it counts, and not the last one alone. -/
  isRepeated : Bool := false
  isRequired : Bool := false
  read : Store → List String → Except ValueFault σ

namespace OptionSpec

variable {σ : Type}

def shortName (o : OptionSpec σ) : String := String.ofList ['-', o.short]

def longName (o : OptionSpec σ) : String := "--" ++ o.long

def hint (o : OptionSpec σ) : String :=
  Quoted.quote o.shortName ++ " / " ++ Quoted.quote o.longName

/-- The switch that asks for help, with no setting of its own. -/
def help : OptionSpec (Option σ) where
  short := 'h'
  long := "help"
  words := 0
  read := fun _ _ => .ok none

def besideHelp (o : OptionSpec σ) : OptionSpec (Option σ) :=
  { o with read := fun s words => (o.read s words).map some }

end OptionSpec

abbrev Use (σ : Type) := OptionSpec σ × List String

structure Words (σ : Type) where
  uses : List (Use σ) := []
  arguments : List String := []

/-- The uses of options at the front of a command line, and the number of words they take from what
follows. -/
abbrev Taken (σ : Type) := List (Use σ) × Nat

section Scanning

variable {σ : Type}

/-- Gives an option its words, some of which are attached to its name. -/
def takeWords (o : OptionSpec σ) (name : String) (attached rest : List String) :
    Except UsageFault (Taken σ) :=
  if (attached ++ rest).length < o.words then .error (.missingWords name o.words)
  else .ok ([(o, (attached ++ rest).take o.words)], o.words - attached.length)

/-- Reads the letters of a group of short options. The first one that takes words ends the group:
what is left of the group is its first word. -/
def takeShort (specs : List (OptionSpec σ)) (rest : List String) :
    List Char → Except UsageFault (Taken σ)
  | [] => .ok ([], 0)
  | c :: more =>
      match specs.find? fun o => o.short = c with
      | none => .error (.unknownOption (String.ofList ['-', c]))
      | some o =>
          if o.words = 0 then
            match takeShort specs rest more with
            | .error e => .error e
            | .ok (uses, count) => .ok ((o, []) :: uses, count)
          else
            -- The rest of the group is the first word, whatever letters it has.
            takeWords o o.shortName (if more = [] then [] else [String.ofList more]) rest

def splitValue (word : List Char) : List Char × List String :=
  match word.dropWhile (· ≠ '=') with
  | [] => (word, [])
  | _ :: value => (word.takeWhile (· ≠ '='), [String.ofList value])

/-- Reads a word that starts like an option: a long name, perhaps with a value, or else a group of
short ones. -/
def takeOption (specs : List (OptionSpec σ)) (word : List Char) (rest : List String) :
    Except UsageFault (Taken σ) :=
  let (name, value) := splitValue word
  let name := String.ofList name
  match specs.find? fun o => o.longName = name with
  | some o =>
      if o.words = 0 ∧ value ≠ [] then .error (.needlessValue name)
      else takeWords o name value rest
  | none =>
      if ['-', '-'].isPrefixOf word then .error (.unknownOption name)
      else takeShort specs rest word.tail

/-- Whether a word starts like an option. A dash alone does not. -/
def isOption : List Char → Bool
  | '-' :: _ :: _ => true
  | _ => false

/-- Tells the words of a command line apart. Behind two dashes all words are arguments; where
options must come first, so are all words from the first argument on. -/
def scan (specs : List (OptionSpec σ)) (optionsFirst : Bool) (line : List String) :
    Except UsageFault (Words σ) :=
  match line with
  | [] => .ok {}
  | word :: rest =>
      -- A second pair of dashes would be an argument.
      if word = "--" then .ok { arguments := rest }
      else if isOption word.toList then
        match takeOption specs word.toList rest with
        | .error e => .error e
        | .ok (uses, count) =>
            match scan specs optionsFirst (rest.drop count) with
            | .error e => .error e
            | .ok words => .ok { words with uses := uses ++ words.uses }
      else if optionsFirst then .ok { arguments := word :: rest }
      else
        match scan specs optionsFirst rest with
        | .error e => .error e
        | .ok words => .ok { words with arguments := word :: words.arguments }
termination_by line.length
decreasing_by all_goals simp only [List.length_drop, List.length_cons]; omega

def countingUses (o : OptionSpec σ) (uses : List (Use σ)) : List (Use σ) :=
  let own := uses.filter fun u => u.1.long = o.long
  if o.isRepeated then own else own.getLast?.toList

/-- The uses that count: option by option, in the order in which the options first appear. -/
def settledUses (uses : List (Use σ)) : List (Use σ) :=
  let firsts := uses.foldl
    (fun seen u => if seen.any (fun o => o.long = u.1.long) then seen else seen ++ [u.1]) []
  firsts.flatMap fun o => countingUses o uses

/-- Reads the settings of uses, up to the first one that is wrong. -/
def readUses (s : Store) : List (Use σ) → Except UsageFault (List σ)
  | [] => .ok []
  | (o, words) :: rest =>
      match o.read s words with
      | .error e => .error (.invalidValue o.hint e)
      | .ok setting =>
          match readUses s rest with
          | .error e => .error e
          | .ok settings => .ok (setting :: settings)

def firstMissing (specs : List (OptionSpec σ)) (uses : List (Use σ)) : Option (OptionSpec σ) :=
  specs.find? fun o => o.isRequired && !uses.any fun u => u.1.long = o.long

end Scanning

/-! ## Readings -/

def readInteger (word : String) : Except ValueFault Int :=
  match IntegerLiteral.parse? word with
  | some v => .ok v
  | none => .error (.notInteger word)

def readChoice (choices : List String) (word : String) : Except ValueFault String :=
  if choices.contains word then .ok word else .error (.notChoice word choices)

def readFilePath (s : Store) (word : String) : Except ValueFault String :=
  match s.locate word with
  | .ok (.directory _) => .error (.isDirectory word)
  | _ => .ok word

end BootSeal.CommandLine
