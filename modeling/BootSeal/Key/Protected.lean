import BootSeal.Cipher.Cbc
import BootSeal.Digest.Pbkdf2
import BootSeal.Encoding.Der
/-!
# Protected key structures

A key structure encrypted under a passphrase: the cipher's key is derived from the passphrase with a
salt, and the structure is encrypted in chained blocks. There are other schemes, derivations and
ciphers. A structure that is protected in one of these ways is read as well, but not opened.
-/

namespace BootSeal

structure Protection where
  salt : Bytes
  iterations : Nat
  start : Bytes

/-- An encrypted structure; `none` is a protection that is read but cannot be taken off here. -/
structure ProtectedKey where
  protection : Option Protection
  data : Bytes

namespace ProtectedKey

/-- The identifier of protection with a derived key. -/
def schemeIdentifier : List Nat := [1, 2, 840, 113549, 1, 5, 13]

def derivationIdentifier : List Nat := [1, 2, 840, 113549, 1, 5, 12]

def digestIdentifier : List Nat := [1, 2, 840, 113549, 2, 9]

def cipherIdentifier : List Nat := [2, 16, 840, 1, 101, 3, 4, 1, 42]

def cipherKeySize : Nat := 32

/-- The rounds of the derivation for new files. -/
def newIterations : Nat := 2048

def algorithm (identifier : List Nat) (parameters : Bytes) : Bytes :=
  Der.sequence [Der.identifier identifier, parameters]

def encodeProtection (p : Protection) : Bytes :=
  Der.sequence
    [algorithm derivationIdentifier (Der.sequence
      [Der.octets p.salt, Der.natural p.iterations, algorithm digestIdentifier Der.null]),
     algorithm cipherIdentifier (Der.octets p.start)]

/-! ## Reading

The parameters of known derivations and ciphers have to be in order. Each reader gives what is needed
for opening, or `none` where opening is not supported. -/

def scryptIdentifier : List Nat := [1, 3, 6, 1, 4, 1, 11591, 4, 11]

/-- The identifiers of other ciphers, with the sizes of their blocks. -/
def otherCiphers : List (List Nat × Nat) :=
  [([2, 16, 840, 1, 101, 3, 4, 1, 2], 16), ([2, 16, 840, 1, 101, 3, 4, 1, 22], 16),
   ([1, 2, 840, 113549, 3, 7], 8)]

/-- Parameters of a kind that is not looked into: at most one element. -/
def isUnknownParameters (b : Bytes) : Bool :=
  b == [] || ((Der.read? b).map fun r => r.2.2) == some []

/-- Whether the digest behind the other parameters of a derivation is the supported one. Without one,
it is another. -/
def digest? (b : Bytes) : Option Bool :=
  if b = [] then some false
  else do
    let digest ← Der.only? 0x30 b
    let (identifier, parameters) ← Der.identifier? digest
    guard (isUnknownParameters parameters)
    return identifier = digestIdentifier ∧ (parameters = Der.null ∨ parameters = [])

/-- The salt and the number of rounds. -/
def rounds? (b : Bytes) : Option (Option (Bytes × Nat)) := do
  let b ← Der.only? 0x30 b
  let (salt, b) ← Der.expect? 0x04 b
  let (iterations, b) ← Der.natural? b
  let b ← if b.head? = some 0x02 then (Der.natural? b).map Prod.snd else some b
  let isSupported ← digest? b
  return if isSupported then some (salt, iterations) else none

def isScryptParameters (b : Bytes) : Bool :=
  (do
    let b ← Der.only? 0x30 b
    let (_, b) ← Der.expect? 0x04 b
    let (_, b) ← Der.natural? b
    let (_, b) ← Der.natural? b
    let (_, b) ← Der.natural? b
    let b ← if b = [] then some b else (Der.natural? b).map Prod.snd
    guard (b = [])).isSome

def derivation? (b : Bytes) : Option (Option (Bytes × Nat)) := do
  let (identifier, parameters) ← Der.identifier? b
  if identifier = derivationIdentifier then rounds? parameters
  else
    guard (if identifier = scryptIdentifier then isScryptParameters parameters
      else isUnknownParameters parameters)
    return none

/-- The start of the chain. -/
def cipher? (b : Bytes) : Option (Option Bytes) := do
  let (identifier, parameters) ← Der.identifier? b
  if identifier = cipherIdentifier then
    let start ← Der.only? 0x04 parameters
    guard (start.length = Cbc.blockSize)
    return some start
  else
    match otherCiphers.lookup identifier with
    | some size =>
        let start ← Der.only? 0x04 parameters
        guard (start.length = size)
    | none => guard (isUnknownParameters parameters)
    return none

def protection? (b : Bytes) : Option (Option Protection) := do
  let b ← Der.only? 0x30 b
  let (kdf, b) ← Der.expect? 0x30 b
  let derivation ← derivation? kdf
  let start ← cipher? (← Der.only? 0x30 b)
  return do
    let (salt, iterations) ← derivation
    return ⟨salt, iterations, ← start⟩

def read? (b : Bytes) : Option ProtectedKey := do
  let b ← Der.only? 0x30 b
  let (scheme, b) ← Der.expect? 0x30 b
  let data ← Der.only? 0x04 b
  let (identifier, parameters) ← Der.identifier? scheme
  if identifier = schemeIdentifier then
    return ⟨← protection? parameters, data⟩
  else return ⟨none, data⟩

def cipherKey (p : Protection) (passphrase : Bytes) : Bytes :=
  Pbkdf2.derive Digest.sha256 32 passphrase p.salt p.iterations cipherKeySize

/-- The structure inside, as far as the passphrase opens it. -/
def openWith? (k : ProtectedKey) (passphrase : Bytes) : Option Bytes := do
  let p ← k.protection
  Cbc.decrypt? (cipherKey p passphrase) p.start k.data

def encode (p : Protection) (passphrase plain : Bytes) : Bytes :=
  Der.sequence
    [algorithm schemeIdentifier (encodeProtection p),
     Der.octets (Cbc.encrypt (cipherKey p passphrase) p.start plain)]

end ProtectedKey

end BootSeal
