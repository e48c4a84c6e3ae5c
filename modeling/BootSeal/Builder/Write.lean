import BootSeal.Builder.Draft
import BootSeal.Key.File
/-!
# Writing an image

A builder is written once. What is wrong with the call is found before the file is opened; from
then on the builder is closed, whatever becomes of the writing, and the file holds what the draft
had when it stopped.
-/

namespace BootSeal.Builder

/-- What is left after an attempt to write. -/
structure Written where
  builder : Builder
  store : Store
  events : List Event
  error : Option BuildError := none
deriving DecidableEq, Repr

/-- The key for signing, if one is given: it has to be a private key. -/
def signer? : Option Key → Except BuildError (Option PrivateKey)
  | none => .ok none
  | some (.signing k) => .ok (some k)
  | some (.verifying _) => .error .notSigningKey

def accept (b : Builder) (key : Option Key) :
    Except BuildError (List Payload × Option PrivateKey) :=
  match b.queue with
  | none => .error .closed
  | some payloads =>
      match signer? key with
      | .error e => .error e
      | .ok signer => .ok (payloads, signer)

/-- The builder after a draft: closed, and with the header and the chunks of the draft. -/
def closedWith (b : Builder) (d : Draft) : Builder :=
  { b with header := d.header, chunks := d.chunks, queue := none }

def settle : Draft.Step → Draft × Option BuildError
  | .ok d => (d, none)
  | .error s => (s.draft, some s.error)

/-- The draft when a device without room is asked to take the output, which is when the header is
written again. -/
def refusedDraft (b : Builder) (payloads : List Payload) : Draft :=
  match b.layOut payloads with
  | .error s => s.draft
  | .ok d =>
      match d.setChecksum b.order with
      | .error s => s.draft
      | .ok d => d.tell [.header]

section Library

variable [KeyLibrary]

/-- Writes to a target. What becomes of a device is told for an output that goes to it in one piece, as
one of up to a few thousand bytes does. -/
def writeTo (b : Builder) (s : Store) (path : String) (target : Store.Target)
    (payloads : List Payload) (signer : Option PrivateKey) : Written :=
  match target with
  | .regular route =>
      -- What was put out before a fault stays in the file.
      let (d, error) := settle (b.finish payloads signer id)
      ⟨b.closedWith d, s.putFile route d.out, .output path :: d.events, error⟩
  | .sink =>
      -- Nothing can be read back here, so there is nothing to sign.
      let (d, error) := settle (b.finish payloads signer fun _ => [])
      ⟨b.closedWith d, s, .output path :: d.events, error⟩
  | .full =>
      let d := b.refusedDraft payloads
      ⟨b.closedWith d, s, .output path :: d.events, some (.unwritable path .noSpace)⟩

/-- Writes the image, signed if a key is given. -/
def write (b : Builder) (s : Store) (path : String) (key : Option Key) : Written :=
  match b.accept key with
  | .error e => ⟨b, s, [], some e⟩
  | .ok (payloads, signer) =>
      match s.target path with
      -- The builder is spent from here on, although nothing was written.
      | .error e => ⟨{ b with queue := none }, s, [.output path], some (.unwritable path e)⟩
      | .ok target => b.writeTo s path target payloads signer

/-- The key in a file, which has to be usable without asking anyone. -/
def readKey (s : Store) (path : String) (passphrase : Option Bytes) : Except BuildError Key :=
  match Key.load s path passphrase with
  | .ok (some key) => .ok key
  | .ok none => .error (.protectedKey path)
  | .error (.file (.missing _)) => .error (.missingKey path)
  | .error (.file e) => .error (.unreadableKey e)
  | .error (.key e) => .error (.unusableKey path e)

def writeWithKeyFile (b : Builder) (s : Store) (path : String) (keyPath : Option String)
    (passphrase : Option Bytes) : Written :=
  match keyPath with
  | none => b.write s path none
  | some keyPath =>
      match readKey s keyPath passphrase with
      | .error e => ⟨b, s, [], some e⟩
      | .ok key => b.write s path (some key)

end Library

end BootSeal.Builder
