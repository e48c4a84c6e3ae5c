import BootSeal.CommandLine.Action
import BootSeal.Proofs.Report.Course
import BootSeal.Proofs.Report.Sections
/-!
# What a report tells

A report tells its image: the tables and the byte fields are read back from its text. And it tells nothing
of anything else, since it fails before it shows or saves anything if there is no image to report on.
-/

namespace BootSeal

namespace CommandLine.Action

variable {s : Store} {image : String} {outfile : Option String} {silent : Bool}

/-- The command fails just if its report does, and then it has shown nothing and leaves the store as it
was. -/
theorem report_failed_iff :
    (report s image outfile silent).failure ≠ none ↔
      ∃ e, Report.ofFile s image outfile silent = .error e ∧
        (report s image outfile silent).output = [] ∧ (report s image outfile silent).store = s := by
  unfold report
  cases h : Report.ofFile s image outfile silent with
  | error e =>
      rcases e with (path | fault) | e | fault
      all_goals exact iff_of_true (Option.some_ne_none _) ⟨_, rfl, rfl, rfl⟩
  | ok r => exact iff_of_false (fun hfailed => hfailed rfl) nofun

end CommandLine.Action

namespace Report

/-- The text of a table determines the table: between its rules it has a block for each entry, numbered
from zero on, with every field once, in order, as a hexadecimal literal that converts back. Bytes are shown
under their name in order, eight to a line, and no line behind the first is empty; a line ends behind every
eighth byte but the last. A whole report shows its tables and its signature like that, whatever else it
shows. And a report fails just if its image is missing, cannot be read or is none, or if its outline is to be
saved and cannot be; whoever watches it step by step sees it fail before anything is saved or shown, and so
does the command. -/
theorem report_faithful :
    (∀ chunks : List Chunk, blocks? (descriptors (chunks.map Chunk.fields)) =
      some (chunks.zipIdx.map fun (c, i) => ⟨i, [("owner", c.owner), ("load_addr", c.loadAddr),
        ("exec_addr", c.execAddr), ("size", c.size), ("crc32", c.crc32)]⟩)) ∧
    (∀ regions : List ZiChunk, blocks? (descriptors (regions.map ZiChunk.fields)) =
      some (regions.zipIdx.map fun (c, i) =>
        ⟨i, [("owner", c.owner), ("exec_addr", c.execAddr), ("size", c.size)]⟩)) ∧
    (Function.Injective fun chunks : List Chunk => descriptors (chunks.map Chunk.fields)) ∧
    (Function.Injective fun regions : List ZiChunk => descriptors (regions.map ZiChunk.fields)) ∧
    (∀ (name : String) (b : Bytes), ShowsBytes name b (hexBlock name b) ∧
      hexBlock name b = label name ++ String.ofList (brokenBytes name b) ++ "\n") ∧
    (∀ (path : String) (img : Image), Shows (ofImage path img) img) ∧
    ∀ (p : Progress) (path : String) (outfile : Option String) (silent : Bool),
      (∀ e, ofFile p.store path outfile silent = .error e ↔
        ImageFault p.store path e ∨ ∃ b img out, p.store.read path = .ok b ∧ Image.read b = .ok img ∧
          outfile = some out ∧ OutlineFault p.store out e) ∧
      (steps path outfile silent).run p = (match ofFile p.store path outfile silent with
        | .error e => .error e p
        | .ok (saved, text) => .ok () ⟨saved, p.shown ++ text⟩) ∧
      ((CommandLine.Action.report p.store path outfile silent).failure ≠ none ↔
        ∃ e, ofFile p.store path outfile silent = .error e ∧
          (CommandLine.Action.report p.store path outfile silent).output = [] ∧
          (CommandLine.Action.report p.store path outfile silent).store = p.store) := by
  refine ⟨fun chunks => blocks?_descriptors_map isName_of_mem_chunkFields chunks,
    fun regions => blocks?_descriptors_map isName_of_mem_ziChunkFields regions,
    descriptors_map_injective isName_of_mem_chunkFields chunkFields_injective,
    descriptors_map_injective isName_of_mem_ziChunkFields ziChunkFields_injective,
    fun name b => ⟨showsBytes_hexBlock name b, hexBlock_eq_brokenBytes name b⟩,
    shows_ofImage,
    fun p path outfile silent => ⟨fun e => ofFile_eq_error_iff, run_steps p path outfile silent,
      CommandLine.Action.report_failed_iff⟩⟩

/-- A file that is too short for an image, and an outline that was saved before. -/
def spoiltInput : Store where
  files := [(["img"], [0xDE, 0xC0]), (["img.yaml"], [0x2D])]

theorem report_faithful_spoilt_image :
    spoiltInput.read "img.yaml" = .ok [0x2D] ∧
      (steps "img" (some "img.yaml") false).run ⟨spoiltInput, "$ "⟩ =
        .error (.image .magicMismatch) ⟨spoiltInput, "$ "⟩ := by
  obtain ⟨-, -, -, -, -, -, hcourse⟩ := report_faithful
  obtain ⟨hfails, hrun, -⟩ := hcourse ⟨spoiltInput, "$ "⟩ "img" (some "img.yaml") false
  have hread : spoiltInput.read "img" = .ok [0xDE, 0xC0] := by cbv
  have hparse : Image.read [0xDE, 0xC0] = .error .magicMismatch := by cbv
  have hfault := (hfails (.image .magicMismatch)).mpr (.inl (.rejected hread hparse))
  rw [hfault] at hrun
  exact ⟨by cbv, hrun⟩

end Report

end BootSeal
