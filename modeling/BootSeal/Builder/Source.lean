import BootSeal.Builder.Basic
import BootSeal.IntelHex.Basic
/-!
# Chunks from files

A raw file is one chunk. An Intel HEX file is one chunk for each segment of used addresses, all of one
owner. The segments are queued one after the other, and nothing is taken back when one is refused.
-/

namespace BootSeal.Builder

def readInput (s : Store) (path : String) : Except BuildError Bytes :=
  match s.read path with
  | .ok b => .ok b
  | .error (.missing _) => .error (.missingInput path)
  | .error e => .error (.unreadableInput e)

def readMap (s : Store) (path : String) : Except BuildError AddressMap :=
  match readInput s path with
  | .error e => .error e
  | .ok b =>
      match IntelHex.read b with
      | .error .notText => .error .hexNotText
      | .error (.malformed e) => .error (.malformedHex path e)
      | .ok m => .ok m

def readRuns (s : Store) (path : String) : Except BuildError (List Run) :=
  (readMap s path).map AddressMap.runs

def queueFile (b : Builder) (s : Store) (owner execAddr : Int) (path : String) : Attempt :=
  match readInput s path with
  | .error e => ⟨b, some e⟩
  | .ok content => b.queueBytes owner execAddr content

def addFile (b : Builder) (s : Store) (owner execAddr : Int) (path : String) :
    Except BuildError Builder :=
  (b.queueFile s owner execAddr path).outcome

/-- Queues the bytes of segments as chunks at their addresses, up to one that is refused. -/
def queueSegments (b : Builder) (owner : Int) (m : AddressMap) : List (Nat × Nat) → Attempt
  | [] => ⟨b, none⟩
  | (start, stop) :: rest =>
      -- The end of a segment is not in it, but that of a window is.
      let a := b.queueBytes owner start (m.window start (stop - 1))
      match a.refusal with
      | some _ => a
      | none => a.builder.queueSegments owner m rest

def queueHexFile (b : Builder) (s : Store) (owner : Int) (path : String) : Attempt :=
  match readMap s path with
  | .error e => ⟨b, some e⟩
  | .ok m => b.queueSegments owner m m.segments

def addHexFile (b : Builder) (s : Store) (owner : Int) (path : String) :
    Except BuildError Builder :=
  (b.queueHexFile s owner path).outcome

end BootSeal.Builder
