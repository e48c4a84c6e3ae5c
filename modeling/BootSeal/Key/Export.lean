import BootSeal.Encoding.Pem
import BootSeal.Key.Basic
import BootSeal.Key.Material
import BootSeal.Key.Protected
/-!
# Keys as bytes and as files

A public key is given out in one structure. A private key has two, chosen by name, and is saved in
the first of them, protected if there is a passphrase.
-/

namespace BootSeal

def p384Algorithm : Bytes :=
  Der.sequence [Der.identifier KeyMaterial.ecIdentifier, Der.identifier [1, 3, 132, 0, 34]]

namespace PublicKey

def pointBytes (k : PublicKey) : Bytes := Curve.p384.encodePoint k.x k.y

def toBytes (k : PublicKey) : Bytes := Der.sequence [p384Algorithm, Der.bits k.pointBytes]

def toPem (k : PublicKey) : String := Pem.render "PUBLIC KEY" k.toBytes

/-- The fingerprint of a public key: the digest of its structure. -/
def fingerprint (k : PublicKey) : Bytes := sha256 k.toBytes

end PublicKey

inductive PrivateFormat where
  /-- The algorithm in front of the elliptic curve structure. -/
  | pkcs8
  /-- The elliptic curve structure with the identifier of the curve inside. -/
  | openssl
deriving DecidableEq, Repr

def PrivateFormat.name : PrivateFormat → String
  | .pkcs8 => "pkcs8"
  | .openssl => "openssl"

/-- The structure of a name; the first one if no name is given. -/
def PrivateFormat.ofName? : Option String → Option PrivateFormat
  | none => some .pkcs8
  | some "pkcs8" => some .pkcs8
  | some "openssl" => some .openssl
  | some _ => none

namespace PrivateKey

def ecStructure (k : PrivateKey) (parameters : List Bytes) : Bytes :=
  Der.sequence
    ([Der.natural 1, Der.octets (Bytes.ofNatBE Curve.p384.scalarSize k.secret)] ++ parameters
      ++ [Der.explicit 1 (Der.bits k.publicKey.pointBytes)])

def toBytes (k : PrivateKey) : PrivateFormat → Bytes
  | .pkcs8 => Der.sequence [Der.natural 0, p384Algorithm, Der.octets (k.ecStructure [])]
  | .openssl => k.ecStructure [Der.explicit 0 (Der.identifier [1, 3, 132, 0, 34])]

def saltSize : Nat := 16

/-- A protection for a new file from random bytes: the salt and the start of the chain. -/
def newProtection (entropy : Bytes) : Protection where
  salt := Bytes.fit saltSize entropy
  iterations := ProtectedKey.newIterations
  start := Bytes.fit Cbc.blockSize (entropy.drop saltSize)

/-- The file of a private key, protected if a passphrase is given. An empty passphrase cannot
protect a key. -/
def toPem? (k : PrivateKey) (passphrase : Option Bytes) (entropy : Bytes) : Option String :=
  match passphrase with
  | none => some (Pem.render "PRIVATE KEY" (k.toBytes .pkcs8))
  | some [] => none
  | some p =>
      some (Pem.render "ENCRYPTED PRIVATE KEY"
        (ProtectedKey.encode (newProtection entropy) p (k.toBytes .pkcs8)))

end PrivateKey

def Key.privateBytes (k : Key) (minimal : Bool) (format : Option String) :
    Except KeyUsageError Bytes :=
  match k with
  | .verifying _ => .error (.needsPrivateKey .encode)
  | .signing k =>
      if minimal then .error (.noMinimalForm Key.kindName)
      else
        match PrivateFormat.ofName? format with
        | none => .error (.unknownFormat Key.kindName (format.getD ""))
        | some f => .ok (k.toBytes f)

end BootSeal
