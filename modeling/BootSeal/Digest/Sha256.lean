import BootSeal.Bytes.Integer
/-!
# SHA-256

The message is padded to whole blocks of 64 bytes, each block is expanded to a schedule of 64 words,
and the state of eight words takes the schedule in 64 rounds.
-/

namespace BootSeal.Sha256

def constants : List UInt32 :=
  [0x428a2f98, 0x71374491, 0xb5c0fbcf, 0xe9b5dba5, 0x3956c25b, 0x59f111f1, 0x923f82a4, 0xab1c5ed5,
   0xd807aa98, 0x12835b01, 0x243185be, 0x550c7dc3, 0x72be5d74, 0x80deb1fe, 0x9bdc06a7, 0xc19bf174,
   0xe49b69c1, 0xefbe4786, 0x0fc19dc6, 0x240ca1cc, 0x2de92c6f, 0x4a7484aa, 0x5cb0a9dc, 0x76f988da,
   0x983e5152, 0xa831c66d, 0xb00327c8, 0xbf597fc7, 0xc6e00bf3, 0xd5a79147, 0x06ca6351, 0x14292967,
   0x27b70a85, 0x2e1b2138, 0x4d2c6dfc, 0x53380d13, 0x650a7354, 0x766a0abb, 0x81c2c92e, 0x92722c85,
   0xa2bfe8a1, 0xa81a664b, 0xc24b8b70, 0xc76c51a3, 0xd192e819, 0xd6990624, 0xf40e3585, 0x106aa070,
   0x19a4c116, 0x1e376c08, 0x2748774c, 0x34b0bcb5, 0x391c0cb3, 0x4ed8aa4a, 0x5b9cca4f, 0x682e6ff3,
   0x748f82ee, 0x78a5636f, 0x84c87814, 0x8cc70208, 0x90befffa, 0xa4506ceb, 0xbef9a3f7, 0xc67178f2]

structure State where
  a : UInt32
  b : UInt32
  c : UInt32
  d : UInt32
  e : UInt32
  f : UInt32
  g : UInt32
  h : UInt32

def initial : State :=
  ⟨0x6a09e667, 0xbb67ae85, 0x3c6ef372, 0xa54ff53a, 0x510e527f, 0x9b05688c, 0x1f83d9ab, 0x5be0cd19⟩

def rotate (x : UInt32) (n : UInt32) : UInt32 := (x >>> n) ||| (x <<< (32 - n))

/-- One round with a word of the schedule and its constant. -/
def round (s : State) (kw : UInt32 × UInt32) : State :=
  let choice := (s.e &&& s.f) ^^^ ((~~~ s.e) &&& s.g)
  let majority := (s.a &&& s.b) ^^^ (s.a &&& s.c) ^^^ (s.b &&& s.c)
  let upper0 := rotate s.a 2 ^^^ rotate s.a 13 ^^^ rotate s.a 22
  let upper1 := rotate s.e 6 ^^^ rotate s.e 11 ^^^ rotate s.e 25
  let t1 := s.h + upper1 + choice + kw.1 + kw.2
  let t2 := upper0 + majority
  ⟨t1 + t2, s.a, s.b, s.c, s.d + t1, s.e, s.f, s.g⟩

/-- Appends the next word of the schedule, made of four earlier ones. -/
def extend (w : Array UInt32) : Array UInt32 :=
  let x := w.getD (w.size - 15) 0
  let y := w.getD (w.size - 2) 0
  let lower0 := rotate x 7 ^^^ rotate x 18 ^^^ (x >>> 3)
  let lower1 := rotate y 17 ^^^ rotate y 19 ^^^ (y >>> 10)
  w.push (w.getD (w.size - 16) 0 + lower0 + w.getD (w.size - 7) 0 + lower1)

def extendBy : Nat → Array UInt32 → Array UInt32
  | 0, w => w
  | n + 1, w => extendBy n (extend w)

def words : Bytes → List UInt32
  | b0 :: b1 :: b2 :: b3 :: rest =>
      ((b0.toUInt32 <<< 24) ||| (b1.toUInt32 <<< 16) ||| (b2.toUInt32 <<< 8) ||| b3.toUInt32)
        :: words rest
  | _ => []

def compress (s : State) (block : Bytes) : State :=
  let schedule := extendBy 48 (words block).toArray
  let t := (constants.zip schedule.toList).foldl round s
  ⟨s.a + t.a, s.b + t.b, s.c + t.c, s.d + t.d, s.e + t.e, s.f + t.f, s.g + t.g, s.h + t.h⟩

/-- The message followed by a set bit, zeros, and its length in bits at the end of a block. -/
def padMessage (b : Bytes) : Bytes :=
  b ++ 0x80 :: Bytes.zeros ((119 - b.length % 64) % 64) ++ Bytes.ofNatBE 8 (b.length * 8)

def State.toList (s : State) : List UInt32 := [s.a, s.b, s.c, s.d, s.e, s.f, s.g, s.h]

end BootSeal.Sha256

namespace BootSeal

def sha256 (b : Bytes) : Bytes :=
  ((Bytes.pieces 63 (Sha256.padMessage b)).foldl Sha256.compress Sha256.initial).toList.flatMap
    fun w => Bytes.ofNatBE 4 w.toNat

@[simp] theorem length_sha256 (b : Bytes) : (sha256 b).length = 32 := by
  simp [sha256, Sha256.State.toList]

end BootSeal
