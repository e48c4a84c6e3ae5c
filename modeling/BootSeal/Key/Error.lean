/-!
# Unusable keys

Why a key file cannot be used, and why a key cannot do what is asked of it.
-/

namespace BootSeal

/-- The kinds of keys that are recognised but not used. -/
inductive ForeignAlgorithm where
  | rsa
  | ed25519
  | dsa
deriving DecidableEq, Repr

structure ForeignKey where
  algorithm : ForeignAlgorithm
  isPrivate : Bool
deriving DecidableEq, Repr

def ForeignKey.description (k : ForeignKey) : String :=
  let half := if k.isPrivate then "PrivateKey" else "PublicKey"
  let name := match k.algorithm with
    | .rsa => "rsa.RSA"
    | .ed25519 => "ed25519.Ed25519"
    | .dsa => "dsa.DSA"
  "<class 'cryptography.hazmat.bindings._rust.openssl." ++ name ++ half ++ "'>"

inductive KeyError where
  /-- The file holds no key that can be read, or the passphrase is wrong. -/
  | unreadable
  | unknownCurve (identifier : List Nat)
  /-- The key is on a curve that images are not signed on. -/
  | otherCurve (name : String)
  | otherKind (k : ForeignKey)
deriving DecidableEq, Repr

def KeyError.message : KeyError → String
  | .unreadable => "no key can be read from the file"
  | .unknownCurve identifier =>
      "unknown curve " ++ ".".intercalate (identifier.map toString)
  | .otherCurve name =>
      "Unsupported ECDSA curve: " ++ name ++ " (only secp384r1 is accepted)"
  | .otherKind k => "Unknown key type: " ++ k.description

inductive PrivateOperation where
  | encode
  | save
deriving DecidableEq, Repr

def PrivateOperation.name : PrivateOperation → String
  | .encode => "get_private_bytes"
  | .save => "export_private"

inductive KeyUsageError where
  | needsPrivateKey (operation : PrivateOperation)
  | noMinimalForm (kind : String)
  | unknownFormat (kind format : String)
deriving DecidableEq, Repr

def KeyUsageError.message : KeyUsageError → String
  | .needsPrivateKey operation => "Operation " ++ operation.name ++ " requires private key"
  | .noMinimalForm kind => kind ++ " does not support minimal private keys"
  | .unknownFormat kind format => kind ++ " does not support " ++ format

end BootSeal
