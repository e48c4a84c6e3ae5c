import BootSeal.Builder.Source
import BootSeal.Builder.Write
/-!
# Calls on a builder

All that can be asked of a builder in a store, as data, so that histories of calls can be spoken of.
-/

namespace BootSeal.Builder

inductive Call where
  | addChunk (owner execAddr size crc32 : Int) (payload : Option Payload)
  | addZiChunk (owner execAddr size : Int)
  | addFile (owner execAddr : Int) (path : String)
  | addHexFile (owner : Int) (path : String)
  | write (path : String) (key : Option Key)
  | writeWithKeyFile (path : String) (keyPath : Option String) (passphrase : Option Bytes)
deriving DecidableEq, Repr

inductive Reply where
  /-- The number of regions that are now queued in the table that the call is about. -/
  | count (n : Nat)
  | done
deriving DecidableEq, Repr

/-- A builder and the store it works on. -/
structure Bench where
  builder : Builder
  store : Store := {}
deriving DecidableEq, Repr

namespace Bench

/-- The bench after a row of additions, of which those before a refused one have been made. -/
def queued (w : Bench) (count : Builder → Nat) (a : Attempt) : Bench × Except BuildError Reply :=
  ({ w with builder := a.builder }, a.outcome.map fun b => .count (count b))

def ofWritten (r : Written) : Bench × Except BuildError Reply :=
  (⟨r.builder, r.store⟩, match r.error with | none => .ok .done | some e => .error e)

variable [KeyLibrary]

def perform (w : Bench) : Call → Bench × Except BuildError Reply
  | .addChunk owner execAddr size crc32 payload =>
      w.queued (·.chunks.length) (w.builder.queueChunk owner execAddr size crc32 payload)
  | .addZiChunk owner execAddr size =>
      w.queued (·.ziChunks.length) (w.builder.queueZiChunk owner execAddr size)
  | .addFile owner execAddr path =>
      w.queued (·.chunks.length) (w.builder.queueFile w.store owner execAddr path)
  | .addHexFile owner path =>
      w.queued (·.chunks.length) (w.builder.queueHexFile w.store owner path)
  | .write path key => ofWritten (w.builder.write w.store path key)
  | .writeWithKeyFile path keyPath passphrase =>
      ofWritten (w.builder.writeWithKeyFile w.store path keyPath passphrase)

/-- Carries out calls one after the other, going on after refused ones. -/
def performAll (w : Bench) (calls : List Call) : Bench :=
  calls.foldl (fun w c => (w.perform c).1) w

end Bench

end BootSeal.Builder
