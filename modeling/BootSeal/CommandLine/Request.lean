import BootSeal.Builder.Addition
import BootSeal.CommandLine.Option
import BootSeal.Key.Export
/-!
# Requests

A command line that is in order asks for one thing. Each command has its options, and most have
either a required option or an argument; everything else on the line is refused.
-/

namespace BootSeal.CommandLine

inductive Command where
  | newKey
  | publicKey
  | fingerprint
  | privateKey
  | verify
  | create
  | version
  | report
deriving DecidableEq, Repr

namespace Command

def all : List Command :=
  [newKey, publicKey, fingerprint, privateKey, verify, create, version, report]

def name : Command → String
  | newKey => "keygen"
  | publicKey => "getpub"
  | fingerprint => "getpubhash"
  | privateKey => "getpriv"
  | verify => "verify"
  | create => "create"
  | version => "version"
  | report => "dumpinfo"

def aliases : List (String × Command) := [("sign", create)]

/-- All names by which commands are called, in ascending order. -/
def names : List String :=
  (all.map name ++ aliases.map Prod.fst).mergeSort fun a b => !(decide (b < a))

def ofName? (s : String) : Option Command :=
  match all.find? fun c => c.name = s with
  | some c => some c
  | none => aliases.lookup s

def argument? : Command → Option String
  | verify => some "IMGFILE"
  | report => some "IMGFILE"
  | create => some "OUTFILE"
  | _ => none

end Command

inductive PublicForm where
  | listing
  | pem
  | raw
deriving DecidableEq, Repr

namespace PublicForm

def name : PublicForm → String
  | listing => "lang-c"
  | pem => "pem"
  | raw => "raw"

/-- The form of a name; a listing if there is no such form. -/
def ofName : String → PublicForm
  | "pem" => pem
  | "raw" => raw
  | _ => listing

end PublicForm

inductive Setting where
  | key (path : String)
  | keyType (name : String)
  | isProtected
  | form (f : PublicForm)
  | format (f : Option PrivateFormat)
  | output (path : String)
  | silent
  | order (o : Option ByteOrder)
  | setName (name : String)
  | addition (a : Builder.Addition)
deriving DecidableEq, Repr

/-! ## The options -/

def keyOption (isRequired : Bool) : OptionSpec Setting where
  short := 'k'
  long := "key"
  words := 1
  isRequired := isRequired
  read := fun _ ws => .ok (.key (ws.headD ""))

def passwordOption : OptionSpec Setting where
  short := 'p'
  long := "password"
  words := 0
  read := fun _ _ => .ok .isProtected

/-- The kind of a new key, of which there is one. -/
def typeOption : OptionSpec Setting where
  short := 't'
  long := "type"
  words := 1
  read := fun _ ws => (readChoice ["ecdsa-p384"] (ws.headD "")).map .keyType

def encodingOption (choices : List PublicForm) : OptionSpec Setting where
  short := 'e'
  long := "encoding"
  words := 1
  read := fun _ ws =>
    (readChoice (choices.map PublicForm.name) (ws.headD "")).map fun w => .form (.ofName w)

def formatOption : OptionSpec Setting where
  short := 'f'
  long := "format"
  words := 1
  read := fun _ ws =>
    (readChoice ["openssl", "pkcs8"] (ws.headD "")).map fun w =>
      .format (PrivateFormat.ofName? (some w))

def outputOption (long : String) : OptionSpec Setting where
  short := 'o'
  long := long
  words := 1
  read := fun _ ws => .ok (.output (ws.headD ""))

def silentOption : OptionSpec Setting where
  short := 's'
  long := "silent"
  words := 0
  read := fun _ _ => .ok .silent

def endianOption : OptionSpec Setting where
  short := 'e'
  long := "endian"
  words := 1
  read := fun _ ws =>
    (readChoice ["little", "big"] (ws.headD "")).map fun w => .order (ByteOrder.ofName? w)

def setNameOption : OptionSpec Setting where
  short := 'n'
  long := "set-name"
  words := 1
  read := fun _ ws => .ok (.setName (ws.headD ""))

def chunkOption : OptionSpec Setting where
  short := 'c'
  long := "chunk"
  words := 3
  isRepeated := true
  read := fun s ws => do
    let owner ← readInteger (ws.getD 0 "")
    let execAddr ← readInteger (ws.getD 1 "")
    let path ← readFilePath s (ws.getD 2 "")
    return .addition (.file owner execAddr path)

def hexOption : OptionSpec Setting where
  short := 'x'
  long := "hex-chunk"
  words := 2
  isRepeated := true
  read := fun s ws => do
    let owner ← readInteger (ws.getD 0 "")
    let path ← readFilePath s (ws.getD 1 "")
    return .addition (.hexFile owner path)

def ziOption : OptionSpec Setting where
  short := 'z'
  long := "zi-chunk"
  words := 3
  isRepeated := true
  read := fun _ ws => do
    let owner ← readInteger (ws.getD 0 "")
    let execAddr ← readInteger (ws.getD 1 "")
    let size ← readInteger (ws.getD 2 "")
    return .addition (.ziChunk owner execAddr size)

def Command.options : Command → List (OptionSpec Setting)
  | .newKey => [keyOption true, typeOption, passwordOption]
  | .publicKey => [outputOption "output", keyOption true, encodingOption [.listing, .pem, .raw]]
  | .fingerprint => [outputOption "output", keyOption true, encodingOption [.listing, .raw]]
  | .privateKey => [formatOption, keyOption true]
  | .verify => [keyOption false]
  | .create =>
      [keyOption false, endianOption, setNameOption, chunkOption, hexOption, ziOption]
  | .version => []
  | .report => [silentOption, outputOption "outfile"]

/-! ## Settings -/

namespace Setting

def key? (settings : List Setting) : Option String :=
  settings.findSome? fun | .key path => some path | _ => none

def output? (settings : List Setting) : Option String :=
  settings.findSome? fun | .output path => some path | _ => none

def publicForm (settings : List Setting) : PublicForm :=
  (settings.findSome? fun | .form f => some f | _ => none).getD .listing

def privateFormat (settings : List Setting) : PrivateFormat :=
  (settings.findSome? fun | .format f => f | _ => none).getD .pkcs8

def byteOrder (settings : List Setting) : ByteOrder :=
  (settings.findSome? fun | .order o => o | _ => none).getD .little

def imageName (settings : List Setting) : String :=
  (settings.findSome? fun | .setName name => some name | _ => none).getD ""

def additions (settings : List Setting) : List Builder.Addition :=
  settings.filterMap fun | .addition a => some a | _ => none

end Setting

/-! ## Requests -/

structure CreateRequest where
  outfile : String
  order : ByteOrder := .little
  setName : String := ""
  /-- Owner, address and path of each raw file. -/
  files : List (Int × Int × String) := []
  /-- Owner and path of each Intel HEX file. -/
  hexFiles : List (Int × String) := []
  /-- Owner, address and size of each zero-initialised region. -/
  ziChunks : List (Int × Int × Int) := []
  key : Option String := none
deriving DecidableEq, Repr

/-- All additions: raw files first, then Intel HEX files, then zero-initialised regions. -/
def CreateRequest.additions (r : CreateRequest) : List Builder.Addition :=
  r.files.map (fun f => .file f.1 f.2.1 f.2.2) ++ r.hexFiles.map (fun f => .hexFile f.1 f.2)
    ++ r.ziChunks.map (fun f => .ziChunk f.1 f.2.1 f.2.2)

inductive Request where
  | newKey (path : String) (isProtected : Bool)
  | publicKey (path : String) (form : PublicForm) (output : Option String)
  | fingerprint (path : String) (form : PublicForm) (output : Option String)
  | privateKey (path : String) (format : PrivateFormat)
  | verify (image : String) (key : Option String)
  | create (r : CreateRequest)
  | version
  | report (image : String) (outfile : Option String) (silent : Bool)
deriving DecidableEq, Repr

namespace Request

/-- A path that counts as missing when it is empty. -/
def given? (path : Option String) : Option String := path.filter (· ≠ "")

def ofCreateSettings (settings : List Setting) (outfile : String) : CreateRequest :=
  let additions := Setting.additions settings
  { outfile := outfile
    order := Setting.byteOrder settings
    setName := Setting.imageName settings
    files := additions.filterMap fun
      | .file owner execAddr path => some (owner, execAddr, path)
      | _ => none
    hexFiles := additions.filterMap fun
      | .hexFile owner path => some (owner, path)
      | _ => none
    ziChunks := additions.filterMap fun
      | .ziChunk owner execAddr size => some (owner, execAddr, size)
      | _ => none
    key := given? (Setting.key? settings) }

def ofSettings (settings : List Setting) (argument : String) : Command → Request
  | .newKey => .newKey ((Setting.key? settings).getD "") (settings.contains .isProtected)
  | .publicKey =>
      .publicKey ((Setting.key? settings).getD "") (Setting.publicForm settings)
        (given? (Setting.output? settings))
  | .fingerprint =>
      .fingerprint ((Setting.key? settings).getD "") (Setting.publicForm settings)
        (given? (Setting.output? settings))
  | .privateKey => .privateKey ((Setting.key? settings).getD "") (Setting.privateFormat settings)
  | .verify => .verify argument (given? (Setting.key? settings))
  | .create => .create (ofCreateSettings settings argument)
  | .version => .version
  | .report => .report argument (Setting.output? settings) (settings.contains .silent)

end Request

inductive Line where
  | help
  | request (r : Request)
deriving DecidableEq, Repr

/-- The argument of a command and the words that are left over. -/
def takeArgument (c : Command) (arguments : List String) :
    Except UsageFault (String × List String) :=
  match c.argument?, arguments with
  | none, rest => .ok ("", rest)
  | some _, word :: rest => .ok (word, rest)
  | some name, [] => .error (.missingArgument name)

/-- Reads the words of a command. The order of the steps decides which fault is told. -/
def Command.parse (c : Command) (s : Store) (line : List String) : Except UsageFault Line := do
  let words ← scan (c.options.map OptionSpec.besideHelp ++ [OptionSpec.help]) false line
  if words.uses.any fun u => u.1.long = "help" then return .help
  -- A required option that is missing is told only after the values that are there were read.
  let settings ← readUses s (settledUses words.uses)
  let (argument, rest) ← takeArgument c words.arguments
  match firstMissing (c.options.map OptionSpec.besideHelp) words.uses with
  | some o => .error (.missingOption o.hint)
  | none =>
      if rest ≠ [] then .error (.extraWords rest)
      else .ok (.request (.ofSettings (settings.filterMap id) argument c))

end BootSeal.CommandLine
