import BootSeal.Builder.Write
import BootSeal.CommandLine.Dialogue
import BootSeal.CommandLine.Request
import BootSeal.Image.File
import BootSeal.Key.Listing
import BootSeal.Report.File
/-!
# What commands do

A request is carried out in a store, with the answers that the user will give and with random
bytes. A command that makes an image first gathers all that goes into it and the key; only then is
its output opened.
-/

namespace BootSeal.CommandLine

/-- What a command did. -/
structure Action where
  store : Store
  output : Bytes := []
  events : List Event := []
  prompts : List String := []
  failure : Option Failure := none

namespace Action

def print (s : Store) (text : String) : Action := { store := s, output := Utf8.encode text }

def fail (s : Store) (f : Failure) : Action := { store := s, failure := some f }

def after (a : Action) (prompts : List String) : Action :=
  { a with prompts := prompts ++ a.prompts }

/-- Gives content out to a file, or else shows it. -/
def giveOut (s : Store) (path : Option String) (content : Bytes) : Action :=
  match path with
  | none => { store := s, output := content }
  | some path =>
      match s.write path content with
      | .error e => fail s (.crash (.file e))
      | .ok s => { store := s }

def lockedNote : String := "Invalid passphrase\n"

variable [KeyLibrary]

/-- Uses the key in a file; `locked` is what is done when the file gives no key. -/
def withKey (s : Store) (path : String) (answers : List String) (locked : Action)
    (use : Key → Action) : Action :=
  let asked := unlock s path answers
  match asked.result with
  | .error f => (fail s f).after asked.prompts
  | .ok none => locked.after asked.prompts
  | .ok (some key) => (use key).after asked.prompts

/-! ## Keys -/

def saveKey (s : Store) (path : String) (k : PrivateKey) (passphrase : Option Bytes)
    (entropy : Bytes) : Action :=
  match k.toPem? passphrase entropy with
  | none => fail s (.crash .emptyPassphrase)
  | some text => giveOut s (some path) (Utf8.encode text)

def secretSize : Nat := 64

/-- Makes a key and saves it, under a passphrase if it is to be protected. -/
def newKey (s : Store) (path : String) (isProtected : Bool) (answers : List String)
    (entropy : Bytes) : Action :=
  let k := PrivateKey.ofEntropy (entropy.take secretSize)
  let rest := entropy.drop secretSize
  if isProtected then
    let (asked, mismatches) := choosePassphrase answers
    let notes := (List.replicate mismatches "Passwords do not match, try again\n").foldr (· ++ ·) ""
    let a := match asked.result with
      | .error f => fail s f
      | .ok passphrase => saveKey s path k (some (Utf8.encode passphrase)) rest
    { a.after asked.prompts with output := Utf8.encode notes ++ a.output }
  else saveKey s path k none rest

def publicContent (k : PublicKey) : PublicForm → Bytes
  | .listing => Utf8.encode (Listing.ofPublicKey k)
  | .pem => Utf8.encode k.toPem
  | .raw => k.toBytes

def fingerprintContent (k : PublicKey) : PublicForm → Bytes
  | .raw => k.fingerprint
  | _ => Utf8.encode (Listing.ofFingerprint k)

def publicKey (s : Store) (path : String) (form : PublicForm) (output : Option String)
    (answers : List String) : Action :=
  withKey s path answers (print s lockedNote) fun key =>
    giveOut s output (publicContent key.publicKey form)

def fingerprint (s : Store) (path : String) (form : PublicForm) (output : Option String)
    (answers : List String) : Action :=
  withKey s path answers (print s lockedNote) fun key =>
    giveOut s output (fingerprintContent key.publicKey form)

def privateKey (s : Store) (path : String) (format : PrivateFormat) (answers : List String) :
    Action :=
  withKey s path answers { print s lockedNote with failure := some .refused } fun key =>
    match key.privateBytes false (some format.name) with
    | .error e => fail s (.usage (.privateKeyNeeded e.message))
    | .ok b => print s (Listing.ofPrivateBytes b)

/-! ## Images -/

def acceptance (img : Image) (isKeyed : Bool) : String :=
  Verdict.ok.explanation ++ "\n"
    ++ "Image length: " ++ Numeral.decimal img.header.imageLength ++ "\n"
    ++ "Image chunks: " ++ Numeral.decimal img.chunks.length ++ " ("
    ++ Numeral.decimal img.ziChunks.length ++ " ZI)\n"
    ++ "Header CRC: 0x" ++ Numeral.hexFilled 8 img.header.headerCrc ++ "\n"
    ++ (if isKeyed then "Image digest: " ++ img.header.digest.toHex ++ "\n" else "")

def tellVerdict (s : Store) (isKeyed : Bool) : Verdict × Option Image → Action
  | (.ok, some img) => print s (acceptance img isKeyed)
  | (v, _) => { print s (v.explanation ++ "\n") with failure := some .refused }

/-- Verifies an image, under the key in a file if one is named. -/
def verify (s : Store) (image : String) (keyPath : Option String) (answers : List String) :
    Action :=
  let asked := unlockNamed s keyPath answers
  match asked.result with
  | .error f => (fail s f).after asked.prompts
  | .ok key =>
      -- A key file that stays locked has given no key, and none is asked of the image then.
      match Image.verifyFile s image (key.map Key.publicKey) with
      | .error (.missing path) =>
          (fail s (.reported (ImageFileError.missing path).message)).after asked.prompts
      | .error (.unreadable e) => (fail s (.crash (.file e))).after asked.prompts
      | .ok r => (tellVerdict s key.isSome r).after asked.prompts

def writtenNote (outfile : String) (b : Builder) : String :=
  "Wrote " ++ outfile ++ " (" ++ Numeral.decimal b.header.imageLength ++ " bytes, "
    ++ Numeral.decimal b.chunks.length ++ " chunks, " ++ Numeral.decimal b.ziChunks.length
    ++ " ZI chunks)\n"

def assemble (s : Store) (r : CreateRequest) : Except BuildError Builder :=
  match Builder.named r.order r.setName with
  | .error e => .error e
  | .ok b => b.addAll s r.additions

def assembleEvents (s : Store) (r : CreateRequest) : List Event :=
  match Builder.named r.order r.setName with
  | .error _ => []
  | .ok b => b.addAllEvents s r.additions

def writeImage (s : Store) (outfile : String) (b : Builder) (key : Option Key) : Action :=
  let w := b.write s outfile key
  match w.error with
  | some e => { store := w.store, events := w.events, failure := some (.ofBuildError e) }
  | none => { print w.store (writtenNote outfile w.builder) with events := w.events }

/-- Makes an image, signed with the key in a file if one is named. A key file that stays locked
counts as none. -/
def create (s : Store) (r : CreateRequest) (answers : List String) : Action :=
  let events := assembleEvents s r
  match assemble s r with
  | .error e => { fail s (.ofBuildError e) with events := events }
  | .ok b =>
      -- The passphrase is asked for only when all inputs are in order.
      let asked := unlockNamed s r.key answers
      let a := match asked.result with
        | .error f => fail s f
        | .ok key => writeImage s r.outfile b key
      { a.after asked.prompts with events := events ++ a.events }

def report (s : Store) (image : String) (outfile : Option String) (silent : Bool) : Action :=
  match Report.ofFile s image outfile silent with
  | .error (.file (.missing path)) => fail s (.usage (.missingImage path))
  | .error (.file (.unreadable e)) => fail s (.crash (.file e))
  | .error (.image e) => fail s (.reported e.message)
  | .error (.output e) => fail s (.crash (.file e))
  | .ok (s, text) => print s (if silent then text else text ++ "dumpinfo has run successfully\n")

def programVersion : String := "1.0.0"

def ofRequest (s : Store) (answers : List String) (entropy : Bytes) : Request → Action
  | .newKey path isProtected => newKey s path isProtected answers entropy
  | .publicKey path form output => publicKey s path form output answers
  | .fingerprint path form output => fingerprint s path form output answers
  | .privateKey path format => privateKey s path format answers
  | .verify image key => verify s image key answers
  | .create r => create s r answers
  | .version => print s (programVersion ++ "\n")
  | .report image outfile silent => report s image outfile silent

end Action

end BootSeal.CommandLine
