import BootSeal.Key.Load
import BootSeal.Store
/-!
# Loading a key

The text of a key file is tried as a private key. If it cannot be read as one it is read as a public
key, but a fault with the passphrase ends the loading: the outcome is `none`, and not an error, when a
protected key comes without a passphrase and also when a passphrase comes with a key that lies open.
A key file that cannot be read and a file that holds no usable key are told apart, since only the
latter is a matter of keys.
-/

namespace BootSeal

variable [KeyLibrary]

def KeyFile.material (text : Bytes) (passphrase : Option Bytes) :
    Except KeyError (Option KeyMaterial) :=
  match KeyLibrary.privateKey text passphrase with
  | .ok m => .ok (some m)
  | .error .passphrase => .ok none
  | .error (.key .unreadable) => (KeyLibrary.publicKey text).map some
  | .error (.key e) => .error e

def KeyMaterial.toKey : KeyMaterial → Except KeyError Key
  | .privateValue c value =>
      if c.name = Curve.p384.name then .ok (.signing ⟨value⟩) else .error (.otherCurve c.name)
  | .publicPoint c x y =>
      if c.name = Curve.p384.name then .ok (.verifying ⟨x, y⟩) else .error (.otherCurve c.name)
  | .foreign k => .error (.otherKind k)

namespace Key

/-- The key in the text of a file; `none` when key and passphrase do not go together. -/
def ofFile (text : Bytes) (passphrase : Option Bytes) : Except KeyError (Option Key) :=
  match KeyFile.material text passphrase with
  | .error e => .error e
  | .ok none => .ok none
  | .ok (some m) => m.toKey.map some

end Key

inductive KeyFileError where
  | file (e : FileFault)
  | key (e : KeyError)
deriving DecidableEq, Repr

/-- The key in the file at a path; `none` when key and passphrase do not go together. -/
def Key.load (s : Store) (path : String) (passphrase : Option Bytes) :
    Except KeyFileError (Option Key) :=
  match s.read path with
  | .error e => .error (.file e)
  | .ok text =>
      match Key.ofFile text passphrase with
      | .error e => .error (.key e)
      | .ok key => .ok key

end BootSeal
