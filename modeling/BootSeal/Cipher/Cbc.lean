import BootSeal.Cipher.Aes
/-!
# Chained blocks

Cipher block chaining over blocks of sixteen bytes: every block is combined with the encrypted block
before it. The padding fills the last block with bytes that say how many they are.
-/

namespace BootSeal.Cbc

def blockSize : Nat := 16

/-- Encrypts blocks in a chain that starts at `previous`. -/
def encryptBlocks (key : Bytes) : Bytes → List Bytes → List Bytes
  | _, [] => []
  | previous, block :: rest =>
      let sealed := Aes.encryptBlock key (Aes.add previous block)
      sealed :: encryptBlocks key sealed rest

def decryptBlocks (key : Bytes) : Bytes → List Bytes → List Bytes
  | _, [] => []
  | previous, block :: rest =>
      Aes.add previous (Aes.decryptBlock key block) :: decryptBlocks key block rest

/-- Fills the last block; a message of whole blocks gets a block of padding. -/
def padMessage (b : Bytes) : Bytes :=
  let n := blockSize - b.length % blockSize
  b ++ List.replicate n (UInt8.ofNat n)

def unpad? (b : Bytes) : Option Bytes :=
  match b.getLast? with
  | none => none
  | some x =>
      let n := x.toNat
      let message := b.take (b.length - n)
      if 0 < n ∧ n ≤ blockSize ∧ n ≤ b.length ∧ b = message ++ List.replicate n x then some message
      else none

def encrypt (key start message : Bytes) : Bytes :=
  (encryptBlocks key start (Bytes.pieces 15 (padMessage message))).flatten

/-- Decrypts a message, or gives `none` if the padding is not in order. -/
def decrypt? (key start b : Bytes) : Option Bytes :=
  if b.length % blockSize = 0 then
    unpad? (decryptBlocks key start (Bytes.pieces 15 b)).flatten
  else none

end BootSeal.Cbc
