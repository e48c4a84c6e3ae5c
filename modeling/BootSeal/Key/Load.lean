import BootSeal.Encoding.Pem
import BootSeal.Key.Library
import BootSeal.Key.Protected
/-!
# The standard library of keys

Key files are text with labelled blocks. Of the private keys in a file the first one counts, and of
the public keys. A private key and a passphrase have to go together. Structures that are protected in
other ways than those this library writes, and blocks that are encrypted as a whole, are told from
unprotected ones, but no passphrase opens them here. The secret numbers of signatures are derived
from the key and the digest.
-/

namespace BootSeal

namespace KeyFile

def privateLabels : List String :=
  ["PRIVATE KEY", "ENCRYPTED PRIVATE KEY", "RSA PRIVATE KEY", "EC PRIVATE KEY", "DSA PRIVATE KEY"]

def publicLabel : String := "PUBLIC KEY"

/-- The structures of private keys that lie open. -/
inductive OpenForm where
  | info
  | ec
  | rsa
  | dsa
deriving DecidableEq, Repr

namespace OpenForm

def ofLabel? (label : String) : Option OpenForm :=
  if label = "PRIVATE KEY" then some info
  else if label = "EC PRIVATE KEY" then some ec
  else if label = "RSA PRIVATE KEY" then some rsa
  else if label = "DSA PRIVATE KEY" then some dsa
  else none

def read : OpenForm → Bytes → Except KeyError KeyMaterial
  | info => KeyMaterial.ofPrivateInfo
  | ec => KeyMaterial.ofEcPrivate none
  | rsa => KeyMaterial.ofRsaPrivate
  | dsa => KeyMaterial.ofDsaPrivate

end OpenForm

/-- A passphrase counts as missing when it is empty. -/
def givenPassphrase? (passphrase : Option Bytes) : Option Bytes :=
  passphrase.filter (· ≠ [])

/-- What a protected block gives, where a passphrase is needed and `opened` is what it opens. -/
def ofProtected (passphrase : Option Bytes) (opened : Bytes → Except KeyError KeyMaterial) :
    Except PrivateKeyFault KeyMaterial :=
  match givenPassphrase? passphrase with
  | none => .error .passphrase
  | some p => (opened p).mapError .key

/-- What an unprotected block gives: a passphrase must not be given, not even an empty one. -/
def ofUnprotected (passphrase : Option Bytes) (m : Except KeyError KeyMaterial) :
    Except PrivateKeyFault KeyMaterial :=
  match m with
  | .error e => .error (.key e)
  | .ok m => if passphrase.isSome then .error .passphrase else .ok m

/-- What a passphrase opens. -/
def opening (k : ProtectedKey) (passphrase : Bytes) : Except KeyError KeyMaterial :=
  match k.openWith? passphrase with
  | none => .error .unreadable
  | some plain => KeyMaterial.ofPrivateInfo plain

/-- A block that is encrypted as a whole names its cipher in front of a comma. -/
def namesCipher (b : Pem.Block) : Bool :=
  (b.header? "DEK-Info").any fun info => info.toList.contains ','

def ofPrivateBlock (b : Pem.Block) (passphrase : Option Bytes) :
    Except PrivateKeyFault KeyMaterial :=
  match b.header? "Proc-Type" with
  | some "4,ENCRYPTED" =>
      if namesCipher b then ofProtected passphrase fun _ => .error .unreadable
      else .error (.key .unreadable)
  | some _ => .error (.key .unreadable)
  | none =>
      match OpenForm.ofLabel? b.label with
      | some form => ofUnprotected passphrase (form.read b.data)
      | none =>
          match ProtectedKey.read? b.data with
          | none => .error (.key .unreadable)
          | some k => ofProtected passphrase (opening k)

/-- The block of a file that is read as a private key. -/
def privateBlock? (text : Bytes) : Option Pem.Block :=
  (Pem.blocks? text).bind fun blocks => blocks.find? fun b => privateLabels.contains b.label

def publicBlock? (text : Bytes) : Option Pem.Block :=
  (Pem.blocks? text).bind fun blocks => blocks.find? fun b => b.label = publicLabel

def privateKey (text : Bytes) (passphrase : Option Bytes) : Except PrivateKeyFault KeyMaterial :=
  match privateBlock? text with
  | none => .error (.key .unreadable)
  | some b => ofPrivateBlock b passphrase

def publicKey (text : Bytes) : Except KeyError KeyMaterial :=
  match publicBlock? text with
  | none => .error .unreadable
  | some b => KeyMaterial.ofPublicInfo b.data

end KeyFile

instance KeyLibrary.standard : KeyLibrary where
  privateKey := KeyFile.privateKey
  publicKey := KeyFile.publicKey
  sign k digest := Ecdsa.sign Curve.p384 k.secret (Bytes.toNatBE digest)

end BootSeal
