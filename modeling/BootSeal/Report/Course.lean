import BootSeal.Report.File
/-!
# Reports step by step

A report reads its image, saves the outline, and shows its text. Each step may stop it, and what was done
before stays done; a file is emptied when it is opened, and filled later.
-/

namespace BootSeal.Report

/-- What a report has done so far: the store as it has left it, and what it has shown. -/
structure Progress where
  store : Store
  shown : String
deriving DecidableEq, Repr

/-- A step of a report, which may stop it. What was done before stays done. -/
abbrev Step (α : Type) := EStateM ReportError Progress α

namespace Step

def ofExcept {α : Type} : Except ReportError α → Step α
  | .error e => throw e
  | .ok a => return a

/-- Gives a file that was opened its content. -/
def fillFile (content : Bytes) : Store.Target → Step Unit
  | .regular route => modify fun p => { p with store := p.store.putFile route content }
  | .sink => return
  | .full => if content = [] then return else throw (.output .noSpace)

/-- Opens a file for writing. A regular file is empty then, whether it was there before or not. -/
def openFile (path : String) : Step Store.Target := do
  let p ← get
  let target ← ofExcept ((p.store.target path).mapError .output)
  fillFile [] target
  return target

def parseImage (path : String) : Step Image := do
  let p ← get
  ofExcept (imageAt p.store path)

def saveOutline (outfile : Option String) (img : Image) : Step Unit :=
  match outfile with
  | none => return
  | some out => do
      let target ← openFile out
      fillFile (Utf8.encode (Yaml.render img.outline)) target

def tell (text : String) : Step Unit := modify fun p => { p with shown := p.shown ++ text }

end Step

/-- A report from its beginning to its end. -/
def steps (path : String) (outfile : Option String) (silent : Bool) : Step Unit := do
  let img ← Step.parseImage path
  Step.saveOutline outfile img
  if silent then return else Step.tell (ofImage path img)

end BootSeal.Report
