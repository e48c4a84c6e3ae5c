/-!
# The layout planner

Offsets of the parts of an image, computed from the sizes alone: a record at the front, two tables
of descriptors that end in a sentinel, and the blobs, each part filled up to a multiple of eight.
Sizes and counts are integers, and division rounds down for negative ones too.
-/

namespace BootSeal.Layout

/-- Parts of an image start at multiples of this. -/
def boundary : Int := 8

def chunkEntrySize : Nat := 40

def ziEntrySize : Nat := 24

/-- A multiple of zero cannot be reached. -/
inductive BoundaryError where
  | zero
deriving DecidableEq, Repr

def BoundaryError.message : BoundaryError → String
  | .zero => "padding boundary must be non-zero"

/-- What brings a size up to a multiple of `step`. -/
def paddingTo (step size : Int) : Int :=
  (size + (step - 1)).fdiv step * step - size

def paddedTo (step size : Int) : Int := size + paddingTo step size

/-- Runs a computation on a step that must not be zero. -/
def withStep (f : Int → Int → Int) (step size : Int) : Except BoundaryError Int :=
  if step = 0 then .error .zero else .ok (f step size)

def padding (size : Int) : Int := paddingTo boundary size

def padded (size : Int) : Int := size + padding size

/-- The size of a table of `count` entries and a sentinel. -/
def tableSize (entrySize count : Int) : Int := padded (entrySize * (count + 1))

/-- Where the chunk table starts, behind a record of `headerSize` bytes. -/
def chunkTableOffset (headerSize : Int) : Int := padded headerSize

/-- Where the table of zero-initialised regions starts, behind `chunks` chunk descriptors. -/
def ziTableOffset (headerSize chunks : Int) : Int :=
  chunkTableOffset headerSize + tableSize chunkEntrySize chunks

def blobOffset (headerSize chunks ziChunks : Int) : Int :=
  ziTableOffset headerSize chunks + tableSize ziEntrySize ziChunks

/-- The offsets of blobs of the given sizes, laid one behind the other from `start` on. -/
def loadAddressesFrom (start : Int) : List Int → List Int
  | [] => []
  | size :: rest => start :: loadAddressesFrom (start + padded size) rest

def loadAddresses (headerSize : Int) (sizes : List Int) (ziChunks : Int) : List Int :=
  loadAddressesFrom (blobOffset headerSize sizes.length ziChunks) sizes

def blobsLength : List Int → Int
  | [] => 0
  | size :: rest => padded size + blobsLength rest

def imageLength (headerSize : Int) (sizes : List Int) (ziChunks : Int) : Int :=
  blobOffset headerSize sizes.length ziChunks + blobsLength sizes

@[simp] theorem length_loadAddressesFrom (start : Int) (sizes : List Int) :
    (loadAddressesFrom start sizes).length = sizes.length := by
  induction sizes generalizing start with
  | nil => rfl
  | cons size rest ih => simp [loadAddressesFrom, ih]

end BootSeal.Layout
