import BootSeal.Builder.Source
/-!
# Additions

What a builder is to be given, as data. Additions are made in order until one is refused.
-/

namespace BootSeal.Builder

inductive Addition where
  | file (owner execAddr : Int) (path : String)
  | hexFile (owner : Int) (path : String)
  | ziChunk (owner execAddr size : Int)
deriving DecidableEq, Repr

def add (b : Builder) (s : Store) : Addition → Except BuildError Builder
  | .file owner execAddr path => b.addFile s owner execAddr path
  | .hexFile owner path => b.addHexFile s owner path
  | .ziChunk owner execAddr size => b.addZiChunk owner execAddr size

def contentEvent (execAddr : Int) (content : Bytes) : Event :=
  chunkEvent execAddr content.length (some (.ofBytes content))

def Addition.events (s : Store) : Addition → List Event
  | .file _ execAddr path =>
      match readInput s path with
      | .error _ => []
      | .ok content => [contentEvent execAddr content]
  | .hexFile _ path =>
      match readRuns s path with
      | .error _ => []
      | .ok runs => runs.map fun r => contentEvent r.start r.bytes
  | .ziChunk _ execAddr size => [.queuedZiChunk execAddr size]

/-- Makes additions until one is refused. -/
def addAll (b : Builder) (s : Store) : List Addition → Except BuildError Builder
  | [] => .ok b
  | a :: rest =>
      match b.add s a with
      | .error e => .error e
      | .ok b => b.addAll s rest

def addAllEvents (b : Builder) (s : Store) : List Addition → List Event
  | [] => []
  | a :: rest =>
      match b.add s a with
      | .error _ => []
      | .ok b => a.events s ++ b.addAllEvents s rest

end BootSeal.Builder
