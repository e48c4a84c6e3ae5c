import BootSeal.Image.Verify
import BootSeal.Store
/-!
# Image files

An image that is to be looked at comes from a file. That the file is missing is told in the words of
images, and any other trouble in the words of files.
-/

namespace BootSeal

inductive ImageFileError where
  | missing (path : String)
  | unreadable (e : FileFault)
deriving DecidableEq, Repr

def ImageFileError.message : ImageFileError → String
  | .missing path => "Image file not found (" ++ path ++ ")"
  | .unreadable e => e.message

namespace Image

def readFile (s : Store) (path : String) : Except ImageFileError Bytes :=
  match s.read path with
  | .ok b => .ok b
  | .error (.missing _) => .error (.missing path)
  | .error e => .error (.unreadable e)

def verifyFile (s : Store) (path : String) (key : Option PublicKey) :
    Except ImageFileError (Verdict × Option Image) :=
  match readFile s path with
  | .error e => .error e
  | .ok b => .ok (verify b key)

end Image

end BootSeal
