import BootSeal.Proofs.Store.ReadBack
import BootSeal.Report.Course
/-!
# The course of a report

A report reads its image, saves the outline, and shows its text. Taken step by step, with a file that is
emptied when it is opened, each step may stop the report, and what was done before it stays done. Since the
image is read and parsed before anything else, a report on something that is no image does nothing at all;
and the steps together do what the report is said to do.
-/

namespace BootSeal.Report

/-! ## Faults -/

/-- Why there is no image to report on: its file is missing, cannot be read, or holds no image. -/
inductive ImageFault (s : Store) (path : String) : ReportError → Prop where
  | missing {named : String} (h : s.read path = .error (.missing named)) :
      ImageFault s path (.file (.missing path))
  | unreadable {fault : FileFault} (h : s.read path = .error fault)
      (hne : ∀ named, fault ≠ .missing named) : ImageFault s path (.file (.unreadable fault))
  | rejected {b : Bytes} {e : ImageError} (hread : s.read path = .ok b) (h : Image.read b = .error e) :
      ImageFault s path (.image e)

/-- Why an outline cannot be saved: its file cannot be opened, or takes nothing. -/
inductive OutlineFault (s : Store) (out : String) : ReportError → Prop where
  | unopened {fault : FileFault} (h : s.target out = .error fault) : OutlineFault s out (.output fault)
  | unfilled (h : s.target out = .ok .full) : OutlineFault s out (.output .noSpace)

variable {s : Store} {path out : String} {outfile : Option String} {silent : Bool} {img : Image}
  {e : ReportError}

theorem imageAt_eq_ok_iff :
    imageAt s path = .ok img ↔ ∃ b, s.read path = .ok b ∧ Image.read b = .ok img := by
  unfold imageAt Image.readFile
  cases s.read path with
  | error fault => cases fault <;> simp
  | ok b => cases h : Image.read b <;> simp [h]

theorem imageAt_eq_error_iff : imageAt s path = .error e ↔ ImageFault s path e := by
  constructor
  · intro h
    unfold imageAt Image.readFile at h
    cases hread : s.read path with
    | error fault =>
        rw [hread] at h
        cases fault with
        | missing named =>
            cases h
            exact .missing hread
        | _ =>
            cases h
            exact .unreadable hread nofun
    | ok b =>
        rw [hread] at h
        dsimp only at h
        split at h
        next hparse =>
          cases h
          exact .rejected hread hparse
        next => cases h
  · intro h
    unfold imageAt Image.readFile
    cases h with
    | missing hread => rw [hread]
    | @unreadable fault hread hne =>
        rw [hread]
        cases fault with
        | missing named => exact absurd rfl (hne named)
        | _ => rfl
    | rejected hread hparse => simp [hread, hparse]

theorem encode_render_ne_nil (img : Image) : Utf8.encode (Yaml.render img.outline) ≠ [] := by
  unfold Utf8.encode Yaml.render
  simp [Image.outline, Yaml.namedSection, Yaml.field]

theorem saveOutline_eq_error_iff :
    saveOutline s outfile img = .error e ↔ ∃ out, outfile = some out ∧ OutlineFault s out e := by
  cases outfile with
  | none => simp [saveOutline]
  | some out =>
      simp only [Option.some.injEq, exists_eq_left']
      constructor
      · intro h
        unfold saveOutline Store.write at h
        dsimp only at h
        cases htarget : s.target out with
        | error fault =>
            rw [htarget] at h
            cases h
            exact .unopened htarget
        | ok target =>
            rw [htarget] at h
            cases target with
            | full =>
                rw [if_neg (encode_render_ne_nil img)] at h
                cases h
                exact .unfilled htarget
            | _ => cases h
      · intro h
        unfold saveOutline Store.write
        cases h with
        | unopened htarget => simp [htarget]
        | unfilled htarget => simp [htarget, encode_render_ne_nil]

/-- A report fails just if there is no image to report on, or its outline is to be saved and cannot be. -/
theorem ofFile_eq_error_iff :
    ofFile s path outfile silent = .error e ↔
      ImageFault s path e ∨ ∃ b img out, s.read path = .ok b ∧ Image.read b = .ok img ∧
        outfile = some out ∧ OutlineFault s out e := by
  have hsave : (∃ b img out, s.read path = .ok b ∧ Image.read b = .ok img ∧ outfile = some out ∧
      OutlineFault s out e) ↔ ∃ img, imageAt s path = .ok img ∧ saveOutline s outfile img = .error e := by
    simp only [imageAt_eq_ok_iff, saveOutline_eq_error_iff]
    constructor
    · rintro ⟨b, img, out, hread, hparse, hout, hfault⟩
      exact ⟨img, ⟨b, hread, hparse⟩, out, hout, hfault⟩
    · rintro ⟨img, ⟨b, hread, hparse⟩, out, hout, hfault⟩
      exact ⟨b, img, out, hread, hparse, hout, hfault⟩
  rw [hsave, ← imageAt_eq_error_iff]
  unfold ofFile
  cases himage : imageAt s path with
  | error e' => simp
  | ok img => cases hsaved : saveOutline s outfile img <;> simp [hsaved]

/-! ## Steps -/

namespace Step

open EStateM

theorem run_parseImage (p : Progress) (path : String) :
    (parseImage path).run p = match imageAt p.store path with
      | .error e => .error e p
      | .ok img => .ok img p := by
  rw [parseImage, run_bind, run_get]
  dsimp only
  cases imageAt p.store path <;> rfl

theorem run_openFile (p : Progress) (path : String) :
    (openFile path).run p = match p.store.target path with
      | .error e => .error (.output e) p
      | .ok (.regular route) => .ok (.regular route) { p with store := p.store.putFile route [] }
      | .ok target => .ok target p := by
  rw [openFile, run_bind, run_get]
  dsimp only
  rw [run_bind]
  cases p.store.target path with
  | error e => rfl
  | ok target => cases target <;> rfl

/-- A file that was emptied and then filled holds what it was filled with. -/
theorem run_saveOutline (p : Progress) (outfile : Option String) (img : Image) :
    (Step.saveOutline outfile img).run p = match Report.saveOutline p.store outfile img with
      | .error e => .error e p
      | .ok saved => .ok () { p with store := saved } := by
  cases outfile with
  | none => rfl
  | some out =>
      rw [Step.saveOutline, run_bind, run_openFile, Report.saveOutline, Store.write]
      cases p.store.target out with
      | error e => rfl
      | ok target =>
          cases target with
          | regular route =>
              dsimp only
              rw [fillFile, run_modify]
              dsimp only
              rw [Store.putFile_putFile]
          | sink => rfl
          | full =>
              dsimp only
              rw [fillFile, if_neg (encode_render_ne_nil img), if_neg (encode_render_ne_nil img)]
              rfl

end Step

/-- The steps do what the report is said to do, and a report that fails has done nothing. -/
theorem run_steps (p : Progress) (path : String) (outfile : Option String) (silent : Bool) :
    (steps path outfile silent).run p =
      match ofFile p.store path outfile silent with
      | .error e => .error e p
      | .ok (saved, text) => .ok () ⟨saved, p.shown ++ text⟩ := by
  rw [steps, EStateM.run_bind, Step.run_parseImage, ofFile]
  cases imageAt p.store path with
  | error e => rfl
  | ok img =>
      dsimp only
      rw [EStateM.run_bind, Step.run_saveOutline]
      cases saveOutline p.store outfile img with
      | error e => rfl
      | ok saved =>
          cases silent with
          | true =>
              dsimp only
              rw [if_pos rfl, if_pos rfl, EStateM.run_pure, String.append_empty]
          | false => rfl

end BootSeal.Report
