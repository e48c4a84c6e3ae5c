import BootSeal.Bytes.Basic
/-!
# AES with 256-bit keys

Bytes are elements of the field of 256 elements. A block is a list of sixteen bytes, column by
column; a round substitutes the bytes, rotates the rows, mixes the columns, and adds a round key.
-/

namespace BootSeal.Aes

def double (a : UInt8) : UInt8 :=
  if a &&& 0x80 = 0 then a <<< 1 else (a <<< 1) ^^^ 0x1B

/-- Multiplication in the field, over the lowest `n` bits of the second factor. -/
def mulBits : Nat → UInt8 → UInt8 → UInt8
  | 0, _, _ => 0
  | n + 1, a, b => (if b &&& 1 = 1 then a else 0) ^^^ mulBits n (double a) (b >>> 1)

def mul (a b : UInt8) : UInt8 := mulBits 8 a b

/-- The multiplicative inverse, which is the power with exponent 254; zero is sent to zero. -/
def inverse (a : UInt8) : UInt8 :=
  let a2 := mul a a
  let a4 := mul a2 a2
  let a8 := mul a4 a4
  let a16 := mul a8 a8
  let a32 := mul a16 a16
  let a64 := mul a32 a32
  let a128 := mul a64 a64
  mul a2 (mul a4 (mul a8 (mul a16 (mul a32 (mul a64 a128)))))

def rotate (a : UInt8) (n : UInt8) : UInt8 := (a <<< n) ||| (a >>> (8 - n))

def substitution (a : UInt8) : UInt8 :=
  let b := inverse a
  b ^^^ rotate b 1 ^^^ rotate b 2 ^^^ rotate b 3 ^^^ rotate b 4 ^^^ 0x63

def box : Array UInt8 :=
  ((List.range 256).map fun n => substitution (UInt8.ofNat n)).toArray

def inverseBox : Array UInt8 :=
  ((List.range 256).map fun n => UInt8.ofNat (box.toList.idxOf (UInt8.ofNat n))).toArray

def substitute (a : UInt8) : UInt8 := box.getD a.toNat 0

def unsubstitute (a : UInt8) : UInt8 := inverseBox.getD a.toNat 0

/-- Where each byte of a block comes from when row `r` rotates by `r` places to the left. -/
def rowOrder : List Nat := [0, 5, 10, 15, 4, 9, 14, 3, 8, 13, 2, 7, 12, 1, 6, 11]

def rowOrderBack : List Nat := [0, 13, 10, 7, 4, 1, 14, 11, 8, 5, 2, 15, 12, 9, 6, 3]

def rearrange (order : List Nat) (block : Bytes) : Bytes := order.map fun i => block.getD i 0

/-- Multiplies every column by the circulant matrix whose first row is given. -/
def mixColumns (m0 m1 m2 m3 : UInt8) : Bytes → Bytes
  | a :: b :: c :: d :: rest =>
      (mul m0 a ^^^ mul m1 b ^^^ mul m2 c ^^^ mul m3 d)
        :: (mul m3 a ^^^ mul m0 b ^^^ mul m1 c ^^^ mul m2 d)
        :: (mul m2 a ^^^ mul m3 b ^^^ mul m0 c ^^^ mul m1 d)
        :: (mul m1 a ^^^ mul m2 b ^^^ mul m3 c ^^^ mul m0 d)
        :: mixColumns m0 m1 m2 m3 rest
  | _ => []

def add (a b : Bytes) : Bytes := List.zipWith (· ^^^ ·) a b

/-- Word `i` of the key schedule, from the word eight places back and the word before it. -/
def scheduleWord (i : Nat) (back last : Bytes) (power : UInt8) : Bytes :=
  if i % 8 = 0 then
    add back (add ((last.drop 1 ++ last.take 1).map substitute) [power, 0, 0, 0])
  else if i % 8 = 4 then add back (last.map substitute)
  else add back last

/-- Extends a key schedule by `n` words; `power` is the constant of the next group of eight. -/
def extendSchedule : Nat → UInt8 → Array Bytes → Array Bytes
  | 0, _, w => w
  | n + 1, power, w =>
      let i := w.size
      let next := scheduleWord i (w.getD (i - 8) []) (w.getD (i - 1) []) power
      extendSchedule n (if i % 8 = 0 then double power else power) (w.push next)

def roundKeys (key : Bytes) : List Bytes :=
  Bytes.pieces 15 (extendSchedule 52 1 (Bytes.pieces 3 key).toArray).toList.flatten

/-- The rounds after the first addition; the last round does not mix the columns. -/
def encryptRounds : List Bytes → Bytes → Bytes
  | [], block => block
  | [k], block => add (rearrange rowOrder (block.map substitute)) k
  | k :: rest, block =>
      encryptRounds rest
        (add (mixColumns 2 3 1 1 (rearrange rowOrder (block.map substitute))) k)

def encryptBlock (key block : Bytes) : Bytes :=
  match roundKeys key with
  | [] => block
  | k :: rest => encryptRounds rest (add block k)

def decryptRounds : List Bytes → Bytes → Bytes
  | [], block => block
  | [k], block => add ((rearrange rowOrderBack block).map unsubstitute) k
  | k :: rest, block =>
      decryptRounds rest
        (mixColumns 14 11 13 9 (add ((rearrange rowOrderBack block).map unsubstitute) k))

def decryptBlock (key block : Bytes) : Bytes :=
  match (roundKeys key).reverse with
  | [] => block
  | k :: rest => decryptRounds rest (add block k)

end BootSeal.Aes
