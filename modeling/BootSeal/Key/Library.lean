import BootSeal.Key.Basic
import BootSeal.Key.Material
/-!
# Libraries of keys

Keys are read from text, and digests are signed, by a library that the rest does not look into. A
passphrase that is missing and one that is not needed are the same fault to a library. The two
numbers of a signature are its own choice; only their code is fixed here.
-/

namespace BootSeal

/-- Why a library gives no private key for a text and a passphrase. -/
inductive PrivateKeyFault where
  /-- The key is protected and there is no passphrase, or there is one and the key lies open. -/
  | passphrase
  | key (e : KeyError)
deriving DecidableEq, Repr

class KeyLibrary where
  privateKey : Bytes → Option Bytes → Except PrivateKeyFault KeyMaterial
  publicKey : Bytes → Except KeyError KeyMaterial
  /-- The signature that is made of a digest. A library may make another one every time; this is the
  one it makes in the run that is spoken of. -/
  sign : PrivateKey → Bytes → Signature

namespace PrivateKey

variable [KeyLibrary]

def sign (k : PrivateKey) (digest : Bytes) : Bytes := (KeyLibrary.sign k digest).toBytes

@[simp] theorem length_sign (k : PrivateKey) (digest : Bytes) :
    (k.sign digest).length = signatureSize := by
  simp [sign]

end PrivateKey

end BootSeal
