import BootSeal.Image.File
import BootSeal.Report.Text
/-!
# Reports on image files

A file is read and parsed first, so that a report on something that is no image is never begun. Then
the outline is saved if that is asked for, and only then is the text given out.
-/

namespace BootSeal.Report

inductive ReportError where
  | file (e : ImageFileError)
  | image (e : ImageError)
  | output (e : FileFault)
deriving DecidableEq, Repr

def ReportError.message : ReportError → String
  | .file e => e.message
  | .image e => e.message
  | .output e => e.message

def imageAt (s : Store) (path : String) : Except ReportError Image :=
  match Image.readFile s path with
  | .error e => .error (.file e)
  | .ok b =>
      match Image.read b with
      | .error e => .error (.image e)
      | .ok img => .ok img

def saveOutline (s : Store) (outfile : Option String) (img : Image) : Except ReportError Store :=
  match outfile with
  | none => .ok s
  | some path =>
      match s.write path (Utf8.encode (Yaml.render img.outline)) with
      | .error e => .error (.output e)
      | .ok s => .ok s

/-- Reports on the image in a file: the store with the outline saved, and the text, which is empty
in silence. -/
def ofFile (s : Store) (path : String) (outfile : Option String) (silent : Bool) :
    Except ReportError (Store × String) :=
  match imageAt s path with
  | .error e => .error e
  | .ok img =>
      match saveOutline s outfile img with
      | .error e => .error e
      | .ok s => .ok (s, if silent then "" else ofImage path img)

end BootSeal.Report
