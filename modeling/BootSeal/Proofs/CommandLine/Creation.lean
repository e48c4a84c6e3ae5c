import BootSeal.Proofs.Builder.Assembling
import BootSeal.Proofs.CommandLine.Entries
import BootSeal.Proofs.CommandLine.KeyUse
import BootSeal.Proofs.Image.Binding
/-!
# What a creation puts into its file

A creation that succeeds has read all its input files. Its file contains what they hold: the raw files that
are not empty, then the segments of the Intel HEX files, and in the other table the zero-initialised
regions, each kind in the order of the command line. Nothing else of the command line is in the file, but
for the signature block.
-/

namespace BootSeal.CommandLine

open Builder (Addition)

namespace CreateRequest

variable {s s' : Store} {r r' : CreateRequest}

/-- The regions of a raw file: one, or none if it is empty. -/
def fileSources (s : Store) (f : Int × Int × String) : List Source :=
  Addition.sources s (.file f.1 f.2.1 f.2.2)

/-- The regions of an Intel HEX file, which are its segments. -/
def hexSources (s : Store) (f : Int × String) : List Source := Addition.sources s (.hexFile f.1 f.2)

/-- All regions with bytes, first those of raw files. -/
def sources (s : Store) (r : CreateRequest) : List Source :=
  r.files.flatMap (fileSources s) ++ r.hexFiles.flatMap (hexSources s)

def ziRegions (r : CreateRequest) : List ZiChunk := r.ziChunks.map fun f => ⟨f.1, f.2.1, f.2.2⟩

/-- The paths of all input files. -/
def inputs (r : CreateRequest) : List String :=
  r.files.map (fun f => f.2.2) ++ r.hexFiles.map fun f => f.2

/-- The input files of a request are read, and this is what their regions are. -/
structure Gathers (s : Store) (r : CreateRequest) : Prop where
  files : ∀ f ∈ r.files, ∃ content, s.read f.2.2 = .ok content ∧
    fileSources s f = if content = [] then [] else [⟨f.1, f.2.1, content⟩]
  hexFiles : ∀ f ∈ r.hexFiles, ∃ content m runs, s.read f.2 = .ok content ∧
    IntelHex.read content = .ok m ∧ AddressMap.Segmented m runs ∧
    hexSources s f = runs.map fun run => ⟨f.1, run.start, run.bytes⟩

/-- Requests that ask for one image, under any key and in any file. -/
structure Alike (r r' : CreateRequest) : Prop where
  order_eq : r'.order = r.order
  setName_eq : r'.setName = r.setName
  files_eq : r'.files = r.files
  hexFiles_eq : r'.hexFiles = r.hexFiles
  ziChunks_eq : r'.ziChunks = r.ziChunks

/-- No key is named, or the key file gives none. -/
def Unkeyed [KeyLibrary] (s : Store) (r : CreateRequest) (answers : List String) : Prop :=
  (unlockNamed s r.key answers).result = .ok none

/-- The file that is to be made when there is no key. -/
def imageFile (s : Store) (r : CreateRequest) : Bytes :=
  Builder.assembledFile r.order r.setName (r.sources s) r.ziRegions

/-- The options that decide what goes into an image. -/
def contentOptions : List String := ["endian", "set-name", "chunk", "hex-chunk", "zi-chunk"]

theorem flatMap_additions {β : Type} (r : CreateRequest) (f : Addition → List β) :
    r.additions.flatMap f =
      r.files.flatMap (fun x => f (.file x.1 x.2.1 x.2.2))
        ++ r.hexFiles.flatMap (fun x => f (.hexFile x.1 x.2))
        ++ r.ziChunks.flatMap fun x => f (.ziChunk x.1 x.2.1 x.2.2) := by
  simp only [additions, List.flatMap_append, List.flatMap_map]

theorem flatMap_sources_additions (s : Store) (r : CreateRequest) :
    r.additions.flatMap (Addition.sources s) = r.sources s := by
  have hnone : (r.ziChunks.flatMap fun x => Addition.sources s (.ziChunk x.1 x.2.1 x.2.2)) = [] :=
    List.flatMap_eq_nil_iff.mpr fun _ _ => rfl
  rw [flatMap_additions, hnone, List.append_nil]
  rfl

theorem flatMap_ziRegions_additions (r : CreateRequest) :
    r.additions.flatMap Addition.ziRegions = r.ziRegions := by
  have hfiles : (r.files.flatMap fun x => (Addition.file x.1 x.2.1 x.2.2).ziRegions) = [] :=
    List.flatMap_eq_nil_iff.mpr fun _ _ => rfl
  have hhexFiles : (r.hexFiles.flatMap fun x => (Addition.hexFile x.1 x.2).ziRegions) = [] :=
    List.flatMap_eq_nil_iff.mpr fun _ _ => rfl
  rw [flatMap_additions, hfiles, hhexFiles, List.append_nil, List.nil_append]
  exact List.map_eq_flatMap.symm

/-- The regions depend on the input files only. -/
theorem Alike.sources_eq (h : r.Alike r') (hread : ∀ path ∈ r.inputs, s'.read path = s.read path) :
    r'.sources s' = r.sources s := by
  have hinput : ∀ path ∈ r.inputs, Builder.readInput s' path = Builder.readInput s path := by
    intro path hpath
    rw [Builder.readInput, Builder.readInput, hread path hpath]
  have hfiles : r.files.flatMap (fileSources s') = r.files.flatMap (fileSources s) := by
    refine List.flatMap_congr fun f hf => ?_
    rw [fileSources, fileSources, Addition.sources, Addition.sources,
      hinput f.2.2 (List.mem_append_left _ (List.mem_map_of_mem hf))]
  have hhexFiles : r.hexFiles.flatMap (hexSources s') = r.hexFiles.flatMap (hexSources s) := by
    refine List.flatMap_congr fun f hf => ?_
    rw [hexSources, hexSources, Addition.sources, Addition.sources, Builder.readRuns,
      Builder.readRuns, Builder.readMap, Builder.readMap,
      hinput f.2 (List.mem_append_right _ (List.mem_map_of_mem hf))]
  rw [sources, sources, h.files_eq, h.hexFiles_eq, hfiles, hhexFiles]

theorem Alike.imageFile_eq (h : r.Alike r')
    (hread : ∀ path ∈ r.inputs, s'.read path = s.read path) : r'.imageFile s' = r.imageFile s := by
  rw [imageFile, imageFile, h.sources_eq hread, h.order_eq, h.setName_eq, ziRegions, h.ziChunks_eq,
    ziRegions]

/-- What is given on two command lines decides whether they ask for one image. -/
theorem Given.alike {uses uses' : List (Use (Option Setting))} (h : r.Given uses)
    (h' : r'.Given uses')
    (hsame : ∀ long ∈ contentOptions, usesOf long uses' = usesOf long uses) : r.Alike r' := by
  simp only [contentOptions, List.forall_mem_cons] at hsame
  obtain ⟨horder, hsetName, hfiles, hhexFiles, hziChunks, _⟩ := hsame
  have hinjective : ∀ {β : Type}, Function.Injective (List.map (some : β → Option β)) := fun {β} =>
    List.map_injective_iff.mpr (Option.some_injective β)
  refine ⟨?_, ?_, hinjective ?_, hinjective ?_, hinjective ?_⟩
  · rw [h'.order_eq, h.order_eq, horder]
  · rw [h'.setName_eq, h.setName_eq, hsetName]
  · rw [← h'.files_eq, ← h.files_eq, hfiles]
  · rw [← h'.hexFiles_eq, ← h.hexFiles_eq, hhexFiles]
  · rw [← h'.ziChunks_eq, ← h.ziChunks_eq, hziChunks]

end CreateRequest

/-! ## Assembling -/

namespace Action

variable {s : Store} {r : CreateRequest} {b : Builder}

theorem grown_of_assemble (h : assemble s r = .ok b) :
    Builder.Grown r.order r.setName (Builder.Call.ofAdditions s r.additions) b := by
  obtain ⟨new, hnew, hadded⟩ := assemble_eq_ok h
  have hgrown := (Builder.Grown.new hnew).addAll hadded
  rwa [List.nil_append] at hgrown

theorem gathers_of_assemble (h : assemble s r = .ok b) : r.Gathers s := by
  obtain ⟨new, _, hadded⟩ := assemble_eq_ok h
  have hread := Builder.isRead_of_addAll hadded
  constructor
  · intro f hf
    have hmem : Addition.file f.1 f.2.1 f.2.2 ∈ r.additions := by
      simp only [CreateRequest.additions, List.mem_append, List.mem_map]
      exact Or.inl (Or.inl ⟨f, hf, rfl⟩)
    obtain ⟨content, hcontent⟩ := hread _ hmem
    refine ⟨content, hcontent, ?_⟩
    rw [CreateRequest.fileSources, Addition.sources, Builder.readInput_eq_ok_iff.mpr hcontent]
  · intro f hf
    have hmem : Addition.hexFile f.1 f.2 ∈ r.additions := by
      simp only [CreateRequest.additions, List.mem_append, List.mem_map]
      exact Or.inl (Or.inr ⟨f, hf, rfl⟩)
    obtain ⟨content, m, hcontent, hmap⟩ := hread _ hmem
    refine ⟨content, m, AddressMap.runs m, hcontent, hmap, AddressMap.segmented_runs m, ?_⟩
    rw [CreateRequest.hexSources, Addition.sources,
      Builder.readRuns_eq_ok_iff.mpr ⟨content, m, hcontent, hmap, rfl⟩]

end Action

/-! ## The file -/

section Created

variable [KeyLibrary] {s s' : Store} {line line' : List String} {settings settings' : List Setting}
  {outfile outfile' : String} {answers answers' : List String} {entropy entropy' : Bytes}

/-- A creation that succeeds has written what it assembled. -/
theorem Asks.exists_written (h : Asks s line .create settings outfile)
    (hstatus : (run s line answers entropy).status = 0) :
    ∃ b key, Action.assemble s (Request.ofCreateSettings settings outfile) = .ok b ∧
      (unlockNamed s (Request.ofCreateSettings settings outfile).key answers).result = .ok key ∧
      (b.write s outfile key).error = none ∧
      (run s line answers entropy).store = (b.write s outfile key).store := by
  obtain ⟨name, verbosity, hrun⟩ := h.run_eq answers entropy
  obtain ⟨b, key, hassemble, hresult, hwritten, hstore⟩ :=
    Action.create_eq_none (h.status_eq_zero_iff.mp hstatus)
  obtain ⟨herror, hleft⟩ := Action.writeImage_eq_none hwritten
  refine ⟨b, key, hassemble, hresult, herror, ?_⟩
  rw [hrun]
  exact hstore.trans hleft

/-- The file that a creation leaves. -/
theorem Asks.exists_created (h : Asks s line .create settings outfile)
    (hstatus : (run s line answers entropy).status = 0) (hsink : s.target outfile ≠ .ok .sink) :
    let r := Request.ofCreateSettings settings outfile
    ∃ file, (run s line answers entropy).store.read outfile = .ok file ∧
      headerSize ≤ file.length ∧ Image.Contains r.order file (r.sources s) r.ziRegions ∧
      Image.unsigned file = r.imageFile s ∧ (r.Unkeyed s answers → file = r.imageFile s) := by
  intro r
  obtain ⟨b, key, hassemble, hresult, herror, hstore⟩ := h.exists_written hstatus
  obtain ⟨file, hread, hlength, hcontains, hunsigned, hnone⟩ :=
    (Action.grown_of_assemble hassemble).assembled hsink herror
  rw [CreateRequest.flatMap_sources_additions, CreateRequest.flatMap_ziRegions_additions]
    at hcontains hunsigned hnone
  refine ⟨file, by rw [hstore, hread], hlength, hcontains, hunsigned, fun hunkeyed => ?_⟩
  rw [CreateRequest.Unkeyed, hresult, Except.ok.injEq] at hunkeyed
  exact hnone hunkeyed

/-- A creation without a key succeeds if its additions are accepted and the planned length fits. -/
theorem Asks.status_eq_zero {b : Builder} {route : Route} (h : Asks s line .create settings outfile)
    (hassemble : Action.assemble s (Request.ofCreateSettings settings outfile) = .ok b)
    (hunkeyed : (Request.ofCreateSettings settings outfile).Unkeyed s answers)
    (htarget : s.target outfile = .ok (.regular route))
    (hlength : Layout.imageLength headerSize
      (((Request.ofCreateSettings settings outfile).sources s).map fun r => (r.content.length : Int))
      (Request.ofCreateSettings settings outfile).ziRegions.length < 2 ^ 64) :
    (run s line answers entropy).status = 0 := by
  have hgrown := Action.grown_of_assemble hassemble
  have hplain : Builder.Call.Plain (Builder.Call.ofAdditions s
      (Request.ofCreateSettings settings outfile).additions) := by
    refine ⟨Builder.isPlain_ofAdditions s _, ?_⟩
    rw [Builder.chunks_ofAdditions, Builder.ziChunks_ofAdditions, List.map_map,
      CreateRequest.flatMap_sources_additions, CreateRequest.flatMap_ziRegions_additions]
    exact hlength
  have herror := (hgrown.write_eq hplain htarget).1
  exact h.status_eq_zero_iff.mpr (Action.create_of_result hassemble hunkeyed herror).1

/-- The file of a creation that succeeds contains the regions of its input files, by kinds, and lists the
zero-initialised regions, all in the order of the command line. Another creation that is given the same
for each option, and finds the same in the input files, makes the same file but for the signature block,
however the options are interleaved, and the very same file if neither has a key. On the device that holds
nothing there is no file, and the store stays as it was. -/
theorem create_contains (h : Asks s line .create settings outfile)
    (hstatus : (run s line answers entropy).status = 0) :
    let r := Request.ofCreateSettings settings outfile
    (∃ uses, Command.create.Uses line uses ∧ r.Given uses ∧
      ∀ {r' : CreateRequest} {uses' : List (Use (Option Setting))}, r'.Given uses' →
        (∀ long ∈ CreateRequest.contentOptions, usesOf long uses' = usesOf long uses) →
          r.Alike r') ∧
      r.Gathers s ∧
      (s.target outfile = .ok .sink → (run s line answers entropy).store = s) ∧
      (s.target outfile ≠ .ok .sink →
        ∃ file, (run s line answers entropy).store.read outfile = .ok file ∧
          Image.Contains r.order file (r.sources s) r.ziRegions ∧
          ∀ {s' : Store} {line' : List String} {settings' : List Setting} {outfile' : String}
            {answers' : List String} {entropy' : Bytes},
            Asks s' line' .create settings' outfile' →
              (run s' line' answers' entropy').status = 0 → s'.target outfile' ≠ .ok .sink →
                let r' := Request.ofCreateSettings settings' outfile'
                r.Alike r' → (∀ path ∈ r.inputs, s'.read path = s.read path) →
                  ∃ file', (run s' line' answers' entropy').store.read outfile' = .ok file' ∧
                    Image.AgreeOutsideBlock file file' ∧
                    (r.Unkeyed s answers → r'.Unkeyed s' answers' → file' = file)) := by
  intro r
  obtain ⟨uses, huses, hgiven⟩ := h.exists_given
  obtain ⟨b, key, hassemble, _, _, hstore⟩ := h.exists_written hstatus
  refine ⟨⟨uses, huses, hgiven, hgiven.alike⟩, Action.gathers_of_assemble hassemble,
    fun hsink => hstore.trans (Builder.store_of_write_sink hsink), fun hsink => ?_⟩
  obtain ⟨file, hread, hlength, hcontains, hunsigned, hunkeyed⟩ := h.exists_created hstatus hsink
  refine ⟨file, hread, hcontains, ?_⟩
  intro s' line' settings' outfile' answers' entropy' h' hstatus' hsink' r' halike hinputs
  obtain ⟨file', hread', hlength', _, hunsigned', hunkeyed'⟩ := h'.exists_created hstatus' hsink'
  have hsame : r'.imageFile s' = r.imageFile s := halike.imageFile_eq hinputs
  refine ⟨file', hread', ?_, fun hnone hnone' => ?_⟩
  · rw [← Image.unsigned_eq_iff hlength hlength', hunsigned, hunsigned']
    exact hsame
  · rw [hunkeyed hnone, hunkeyed' hnone']
    exact hsame

end Created

/-! ## Two orders of options -/

/-- A raw file, and an Intel HEX file with one segment. -/
def twoInputs : Store where
  files := [(["a"], [1, 2, 3]), (["h"], Utf8.encode ":02000000010AF3\n:00000001FF\n")]

def hexFirst : List String :=
  ["create", "-x", "7", "h", "-z", "2", "32", "64", "-c", "1", "16", "a", "out.bin"]

def rawFirst : List String :=
  ["create", "-c", "1", "16", "a", "-x", "7", "h", "-z", "2", "32", "64", "out.bin"]

def rawUse : Use (Option Setting) := (chunkOption.besideHelp, ["1", "16", "a"])

def hexUse : Use (Option Setting) := (hexOption.besideHelp, ["7", "h"])

def ziUse : Use (Option Setting) := (ziOption.besideHelp, ["2", "32", "64"])

theorem scan_create (rest : List String) : scan programOptions true ("create" :: rest) =
    .ok { arguments := "create" :: rest } := by
  rw [scan]
  rfl

theorem asks_hexFirst : Asks twoInputs hexFirst .create
    [.addition (.hexFile 7 "h"), .addition (.ziChunk 2 32 64), .addition (.file 1 16 "a")]
    "out.bin" := by
  have hwords : scan Command.create.specs false hexFirst.tail =
      .ok { uses := [hexUse, ziUse, rawUse], arguments := ["out.bin"] } := by
    change scan _ _ ("-x" :: (hexUse.2 ++ "-z" :: (ziUse.2 ++ "-c" :: (rawUse.2 ++ ["out.bin"])))) = _
    rw [scan_use rfl (by decide) rfl rfl, scan_use rfl (by decide) rfl rfl,
      scan_use rfl (by decide) rfl rfl, scan_argument rfl (by decide)]
    rfl
  have hsettings : readUses twoInputs (settledUses [hexUse, ziUse, rawUse]) =
      .ok [some (.addition (.hexFile 7 "h")), some (.addition (.ziChunk 2 32 64)),
        some (.addition (.file 1 16 "a"))] := by cbv
  exact .intro (scan_create _) rfl rfl rfl (.intro hwords rfl hsettings rfl rfl)

theorem asks_rawFirst : Asks twoInputs rawFirst .create
    [.addition (.file 1 16 "a"), .addition (.hexFile 7 "h"), .addition (.ziChunk 2 32 64)]
    "out.bin" := by
  have hwords : scan Command.create.specs false rawFirst.tail =
      .ok { uses := [rawUse, hexUse, ziUse], arguments := ["out.bin"] } := by
    change scan _ _ ("-c" :: (rawUse.2 ++ "-x" :: (hexUse.2 ++ "-z" :: (ziUse.2 ++ ["out.bin"])))) = _
    rw [scan_use rfl (by decide) rfl rfl, scan_use rfl (by decide) rfl rfl,
      scan_use rfl (by decide) rfl rfl, scan_argument rfl (by decide)]
    rfl
  have hsettings : readUses twoInputs (settledUses [rawUse, hexUse, ziUse]) =
      .ok [some (.addition (.file 1 16 "a")), some (.addition (.hexFile 7 "h")),
        some (.addition (.ziChunk 2 32 64))] := by cbv
  exact .intro (scan_create _) rfl rfl rfl (.intro hwords rfl hsettings rfl rfl)

/-- What both lines ask for. -/
def twoInputsRequest : CreateRequest where
  outfile := "out.bin"
  files := [(1, 16, "a")]
  hexFiles := [(7, "h")]
  ziChunks := [(2, 32, 64)]

theorem sources_twoInputs :
    twoInputsRequest.sources twoInputs = [⟨1, 16, [1, 2, 3]⟩, ⟨7, 0, [1, 10]⟩] := by
  cbv

theorem target_twoInputs : twoInputs.target "out.bin" = .ok (.regular ["out.bin"]) := by cbv

theorem exists_assemble_twoInputs : ∃ b, Action.assemble twoInputs twoInputsRequest = .ok b := by
  have haccepted : (Action.assemble twoInputs twoInputsRequest).isOk = true := by cbv
  cases hassemble : Action.assemble twoInputs twoInputsRequest with
  | ok b => exact ⟨b, rfl⟩
  | error e =>
      rw [hassemble] at haccepted
      cases haccepted

theorem status_twoInputs {line : List String} {settings : List Setting}
    (h : Asks twoInputs line .create settings "out.bin")
    (hrequest : Request.ofCreateSettings settings "out.bin" = twoInputsRequest) :
    (run twoInputs line [] []).status = 0 := by
  obtain ⟨b, hassemble⟩ := exists_assemble_twoInputs
  rw [← hrequest] at hassemble
  refine h.status_eq_zero hassemble (by rw [hrequest]; rfl) target_twoInputs ?_
  rw [hrequest, sources_twoInputs]
  decide

theorem create_contains_interleaved :
    ∃ file, (run twoInputs hexFirst [] []).store.read "out.bin" = .ok file ∧
      (run twoInputs rawFirst [] []).store.read "out.bin" = .ok file ∧
      Image.Contains .little file [⟨1, 16, [1, 2, 3]⟩, ⟨7, 0, [1, 10]⟩] [⟨2, 32, 64⟩] := by
  have hsink : twoInputs.target "out.bin" ≠ .ok .sink := by
    rw [target_twoInputs]
    intro h
    cases h
  obtain ⟨_, _, _, hfile⟩ := create_contains asks_hexFirst (status_twoInputs asks_hexFirst rfl)
  obtain ⟨file, hread, hcontains, hsame⟩ := hfile hsink
  obtain ⟨file', hread', _, hequal⟩ := hsame asks_rawFirst (status_twoInputs asks_rawFirst rfl) hsink
    ⟨rfl, rfl, rfl, rfl, rfl⟩ fun _ _ => rfl
  rw [hequal rfl rfl] at hread'
  exact ⟨file, hread, hread', sources_twoInputs ▸ hcontains⟩

end BootSeal.CommandLine
