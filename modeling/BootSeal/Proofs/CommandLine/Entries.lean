import BootSeal.Proofs.CommandLine.Line
import BootSeal.Proofs.CommandLine.Uses
/-!
# What a creation is given

A creation is given raw files, Intel HEX files and zero-initialised regions by three options that can be
used any number of times. The uses of each option come out as entries in the order of the command line, and
the byte order and the set name are those of the last use of their options.
-/

namespace BootSeal.CommandLine

/-- A command line names a command, and these are its uses of the options of the command. -/
inductive Command.Uses (c : Command) : List String → List (Use (Option Setting)) → Prop
  | intro {line rest : List String} {name : String} {program : Words (Option ProgramSetting)}
      {words : Words (Option Setting)} (hprogram : scan programOptions true line = .ok program)
      (harguments : program.arguments = name :: rest) (hname : Command.ofName? name = some c)
      (hwords : scan c.specs false rest = .ok words) : c.Uses line words.uses

/-! ## Entries -/

/-- Owner, address and path of a raw file. -/
def fileOf? (words : List String) : Option (Int × Int × String) := do
  let owner ← IntegerLiteral.parse? (words.getD 0 "")
  let execAddr ← IntegerLiteral.parse? (words.getD 1 "")
  return (owner, execAddr, words.getD 2 "")

/-- Owner and path of an Intel HEX file. -/
def hexFileOf? (words : List String) : Option (Int × String) := do
  let owner ← IntegerLiteral.parse? (words.getD 0 "")
  return (owner, words.getD 1 "")

/-- Owner, address and size of a zero-initialised region. -/
def ziChunkOf? (words : List String) : Option (Int × Int × Int) := do
  let owner ← IntegerLiteral.parse? (words.getD 0 "")
  let execAddr ← IntegerLiteral.parse? (words.getD 1 "")
  let size ← IntegerLiteral.parse? (words.getD 2 "")
  return (owner, execAddr, size)

/-- A request has what the uses of options give: one entry for each use of a repeated option, in their
order, and else what the last use says. -/
structure CreateRequest.Given (r : CreateRequest) (uses : List (Use (Option Setting))) : Prop where
  files_eq : (usesOf "chunk" uses).map (fun u => fileOf? u.2) = r.files.map some
  hexFiles_eq : (usesOf "hex-chunk" uses).map (fun u => hexFileOf? u.2) = r.hexFiles.map some
  ziChunks_eq : (usesOf "zi-chunk" uses).map (fun u => ziChunkOf? u.2) = r.ziChunks.map some
  order_eq : r.order = ((usesOf "endian" uses).getLast?.bind
    fun u => ByteOrder.ofName? (u.2.headD "")).getD .little
  setName_eq : r.setName = ((usesOf "set-name" uses).getLast?.bind
    fun u => some (u.2.headD "")).getD ""

/-! ## Settings -/

/-- What the words of an option of a creation set, by the long name of the option. -/
inductive CreateSets : String → List String → Option Setting → Prop
  | key {words : List String} : CreateSets "key" words (some (.key (words.headD "")))
  | endian {words : List String} {order : ByteOrder}
      (h : ByteOrder.ofName? (words.headD "") = some order) :
      CreateSets "endian" words (some (.order (some order)))
  | setName {words : List String} : CreateSets "set-name" words (some (.setName (words.headD "")))
  | file {words : List String} {owner execAddr : Int} {path : String}
      (h : fileOf? words = some (owner, execAddr, path)) :
      CreateSets "chunk" words (some (.addition (.file owner execAddr path)))
  | hexFile {words : List String} {owner : Int} {path : String}
      (h : hexFileOf? words = some (owner, path)) :
      CreateSets "hex-chunk" words (some (.addition (.hexFile owner path)))
  | ziChunk {words : List String} {owner execAddr size : Int}
      (h : ziChunkOf? words = some (owner, execAddr, size)) :
      CreateSets "zi-chunk" words (some (.addition (.ziChunk owner execAddr size)))
  | help {words : List String} : CreateSets "help" words none

section Reading

variable {s : Store} {words : List String}

theorem readInteger_eq_ok {word : String} {v : Int} (h : readInteger word = .ok v) :
    IntegerLiteral.parse? word = some v := by
  unfold readInteger at h
  split at h
  next heq =>
    cases h
    exact heq
  next => cases h

theorem readFilePath_eq_ok {word path : String} (h : readFilePath s word = .ok path) :
    path = word := by
  unfold readFilePath at h
  split at h
  next => cases h
  next =>
    cases h
    rfl

theorem readChoice_eq_ok {choices : List String} {word choice : String}
    (h : readChoice choices word = .ok choice) : choice = word ∧ word ∈ choices := by
  unfold readChoice at h
  split at h
  next hmem =>
    cases h
    exact ⟨rfl, List.contains_iff_mem.mp hmem⟩
  next => cases h

theorem chunkOption_read {x : Setting} (h : chunkOption.read s words = .ok x) :
    CreateSets "chunk" words (some x) := by
  obtain ⟨owner, howner, h⟩ := bind_eq_ok h
  obtain ⟨execAddr, hexec, h⟩ := bind_eq_ok h
  obtain ⟨path, hpath, h⟩ := bind_eq_ok h
  cases h
  refine .file ?_
  rw [fileOf?, readInteger_eq_ok howner, readInteger_eq_ok hexec, readFilePath_eq_ok hpath]
  rfl

theorem hexOption_read {x : Setting} (h : hexOption.read s words = .ok x) :
    CreateSets "hex-chunk" words (some x) := by
  obtain ⟨owner, howner, h⟩ := bind_eq_ok h
  obtain ⟨path, hpath, h⟩ := bind_eq_ok h
  cases h
  refine .hexFile ?_
  rw [hexFileOf?, readInteger_eq_ok howner, readFilePath_eq_ok hpath]
  rfl

theorem ziOption_read {x : Setting} (h : ziOption.read s words = .ok x) :
    CreateSets "zi-chunk" words (some x) := by
  obtain ⟨owner, howner, h⟩ := bind_eq_ok h
  obtain ⟨execAddr, hexec, h⟩ := bind_eq_ok h
  obtain ⟨size, hsize, h⟩ := bind_eq_ok h
  cases h
  refine .ziChunk ?_
  rw [ziChunkOf?, readInteger_eq_ok howner, readInteger_eq_ok hexec, readInteger_eq_ok hsize]
  rfl

theorem endianOption_read {x : Setting} (h : endianOption.read s words = .ok x) :
    CreateSets "endian" words (some x) := by
  dsimp only [endianOption] at h
  cases hchoice : readChoice ["little", "big"] (words.headD "") with
  | error e =>
      rw [hchoice] at h
      cases h
  | ok choice =>
      obtain ⟨rfl, hmem⟩ := readChoice_eq_ok hchoice
      rw [hchoice] at h
      cases h
      have hname : ∃ order, ByteOrder.ofName? (words.headD "") = some order := by
        simp only [List.mem_cons, List.not_mem_nil, or_false] at hmem
        rcases hmem with heq | heq
        · exact ⟨.little, by rw [heq]; rfl⟩
        · exact ⟨.big, by rw [heq]; rfl⟩
      obtain ⟨order, horder⟩ := hname
      dsimp only
      rw [horder]
      exact .endian horder

/-- Every option sets what its name says. -/
theorem createSets_of_read {o : OptionSpec (Option Setting)} (ho : o ∈ Command.create.specs)
    {x : Option Setting} (h : o.read s words = .ok x) : CreateSets o.long words x := by
  have hbeside : ∀ {o : OptionSpec Setting}, (o.besideHelp.read s words = .ok x) →
      ∃ y, o.read s words = .ok y ∧ x = some y := by
    intro o h
    change (o.read s words).map some = _ at h
    cases hread : o.read s words with
    | error e =>
        rw [hread] at h
        cases h
    | ok y =>
        rw [hread] at h
        cases h
        exact ⟨y, rfl, rfl⟩
  simp only [Command.specs, Command.options, List.map_cons, List.map_nil, List.cons_append,
    List.nil_append, List.mem_cons, List.not_mem_nil, or_false] at ho
  rcases ho with rfl | rfl | rfl | rfl | rfl | rfl | rfl
  · obtain ⟨y, hread, rfl⟩ := hbeside h
    cases hread
    exact .key
  · obtain ⟨y, hread, rfl⟩ := hbeside h
    exact endianOption_read hread
  · obtain ⟨y, hread, rfl⟩ := hbeside h
    cases hread
    exact .setName
  · obtain ⟨y, hread, rfl⟩ := hbeside h
    exact chunkOption_read hread
  · obtain ⟨y, hread, rfl⟩ := hbeside h
    exact hexOption_read hread
  · obtain ⟨y, hread, rfl⟩ := hbeside h
    exact ziOption_read hread
  · cases h
    exact .help

end Reading

/-! ## Settings of one kind -/

/-- A kind of settings: the long name of its option, the entry that the words of the option give, and the
entry that is taken from a setting. -/
structure SettingKind (β : Type) where
  long : String
  given? : List String → Option β
  taken? : Option Setting → Option β
  of_sets : ∀ {name words x}, CreateSets name words x →
    (∃ e, name = long ∧ given? words = some e ∧ taken? x = some e) ∨ name ≠ long ∧ taken? x = none

def fileKind : SettingKind (Int × Int × String) where
  long := "chunk"
  given? := fileOf?
  taken?
    | some (.addition (.file owner execAddr path)) => some (owner, execAddr, path)
    | _ => none
  of_sets h := by
    cases h with
    | file h => exact Or.inl ⟨_, rfl, h, rfl⟩
    | _ => exact Or.inr ⟨by decide, rfl⟩

def hexFileKind : SettingKind (Int × String) where
  long := "hex-chunk"
  given? := hexFileOf?
  taken?
    | some (.addition (.hexFile owner path)) => some (owner, path)
    | _ => none
  of_sets h := by
    cases h with
    | hexFile h => exact Or.inl ⟨_, rfl, h, rfl⟩
    | _ => exact Or.inr ⟨by decide, rfl⟩

def ziChunkKind : SettingKind (Int × Int × Int) where
  long := "zi-chunk"
  given? := ziChunkOf?
  taken?
    | some (.addition (.ziChunk owner execAddr size)) => some (owner, execAddr, size)
    | _ => none
  of_sets h := by
    cases h with
    | ziChunk h => exact Or.inl ⟨_, rfl, h, rfl⟩
    | _ => exact Or.inr ⟨by decide, rfl⟩

def orderKind : SettingKind ByteOrder where
  long := "endian"
  given? words := ByteOrder.ofName? (words.headD "")
  taken?
    | some (.order order) => order
    | _ => none
  of_sets h := by
    cases h with
    | endian h => exact Or.inl ⟨_, rfl, h, rfl⟩
    | _ => exact Or.inr ⟨by decide, rfl⟩

def setNameKind : SettingKind String where
  long := "set-name"
  given? words := some (words.headD "")
  taken?
    | some (.setName name) => some name
    | _ => none
  of_sets h := by
    cases h with
    | setName => exact Or.inl ⟨_, rfl, rfl, rfl⟩
    | _ => exact Or.inr ⟨by decide, rfl⟩

namespace SettingKind

variable {β : Type} (k : SettingKind β) {s : Store} {uses : List (Use (Option Setting))}
  {settings : List (Option Setting)}

/-- The settings of one kind come from the uses of its option, in their order. -/
theorem map_usesOf (h : List.Forall₂ (fun u x => CreateSets u.1.long u.2 x) uses settings) :
    (usesOf k.long uses).map (fun u => k.given? u.2) = (settings.filterMap k.taken?).map some := by
  induction h with
  | nil => rfl
  | @cons u x rest settings hux _ ih =>
      rcases k.of_sets hux with ⟨e, hlong, hentry, htaken⟩ | ⟨hlong, htaken⟩
      · rw [usesOf_cons, if_pos hlong, List.map_cons, hentry, List.filterMap_cons_some htaken,
          List.map_cons, ih]
      · rw [usesOf_cons, if_neg hlong, List.filterMap_cons_none htaken, ih]

theorem forall₂_createSets (huses : ∀ u ∈ uses, u.1 ∈ Command.create.specs)
    (hsettings : readUses s (settledUses uses) = .ok settings) :
    List.Forall₂ (fun u x => CreateSets u.1.long u.2 x) (settledUses uses) settings := by
  have hreads := (List.forall₂_and_left _ _).mpr
    ⟨fun u hu => huses u (mem_settledUses hu), readUses_eq_ok hsettings⟩
  exact hreads.imp fun u x h => createSets_of_read h.1 h.2

/-- Options of one name are used alike. -/
theorem isRepeated_eq {o other : OptionSpec (Option Setting)} (ho : o ∈ Command.create.specs)
    (hother : other ∈ Command.create.specs) (hlong : other.long = o.long) :
    other.isRepeated = o.isRepeated := by
  have hall : ∀ o ∈ Command.create.specs, ∀ other ∈ Command.create.specs,
      other.long = o.long → other.isRepeated = o.isRepeated := by decide
  exact hall o ho other hother hlong

theorem map_countingUses (huses : ∀ u ∈ uses, u.1 ∈ Command.create.specs)
    (hsettings : readUses s (settledUses uses) = .ok settings) {o : OptionSpec (Option Setting)}
    (ho : o ∈ Command.create.specs) (hlong : o.long = k.long) :
    (countingUses o uses).map (fun u => k.given? u.2) = (settings.filterMap k.taken?).map some := by
  rw [← usesOf_settledUses fun u hu => isRepeated_eq ho (huses u hu), hlong]
  exact k.map_usesOf (forall₂_createSets huses hsettings)

/-- Words that set nothing have no setting of the kind. -/
theorem filterMap_taken? (f : Setting → Option β) (hnone : k.taken? none = none)
    (hf : ∀ x, f x = k.taken? (some x)) :
    (settings.filterMap id).filterMap f = settings.filterMap k.taken? := by
  rw [List.filterMap_filterMap]
  congr 1
  funext x
  cases x with
  | none => exact hnone.symm
  | some x => exact hf x

end SettingKind

theorem head?_of_map_getLast? {β : Type} {uses : List (Use (Option Setting))}
    {given? : List String → Option β} {entries : List β}
    (h : uses.getLast?.toList.map (fun u => given? u.2) = entries.map some) :
    entries.head? = uses.getLast?.bind fun u => given? u.2 := by
  cases hlast : uses.getLast? with
  | none =>
      rw [hlast] at h
      rw [List.map_eq_nil_iff.mp h.symm]
      rfl
  | some u =>
      rw [hlast] at h
      obtain ⟨e, rest, rfl, he, hrest⟩ := List.map_eq_cons_iff.mp h.symm
      exact he

section Requests

variable {settings : List (Option Setting)} {outfile : String}

theorem files_ofCreateSettings :
    (Request.ofCreateSettings (settings.filterMap id) outfile).files =
      settings.filterMap fileKind.taken? := by
  refine List.filterMap_filterMap.trans (fileKind.filterMap_taken? _ rfl fun x => ?_)
  cases x with
  | addition a => cases a <;> rfl
  | _ => rfl

theorem hexFiles_ofCreateSettings :
    (Request.ofCreateSettings (settings.filterMap id) outfile).hexFiles =
      settings.filterMap hexFileKind.taken? := by
  refine List.filterMap_filterMap.trans (hexFileKind.filterMap_taken? _ rfl fun x => ?_)
  cases x with
  | addition a => cases a <;> rfl
  | _ => rfl

theorem ziChunks_ofCreateSettings :
    (Request.ofCreateSettings (settings.filterMap id) outfile).ziChunks =
      settings.filterMap ziChunkKind.taken? := by
  refine List.filterMap_filterMap.trans (ziChunkKind.filterMap_taken? _ rfl fun x => ?_)
  cases x with
  | addition a => cases a <;> rfl
  | _ => rfl

theorem order_ofCreateSettings :
    (Request.ofCreateSettings (settings.filterMap id) outfile).order =
      (settings.filterMap orderKind.taken?).head?.getD .little := by
  change (List.findSome? _ (settings.filterMap id)).getD _ = _
  rw [← List.head?_filterMap, orderKind.filterMap_taken? _ rfl fun x => ?_]
  cases x <;> rfl

theorem setName_ofCreateSettings :
    (Request.ofCreateSettings (settings.filterMap id) outfile).setName =
      (settings.filterMap setNameKind.taken?).head?.getD "" := by
  change (List.findSome? _ (settings.filterMap id)).getD _ = _
  rw [← List.head?_filterMap, setNameKind.filterMap_taken? _ rfl fun x => ?_]
  cases x <;> rfl

/-- The settings of uses make a request of what the uses give. -/
theorem given_ofCreateSettings {s : Store} {uses : List (Use (Option Setting))}
    (huses : ∀ u ∈ uses, u.1 ∈ Command.create.specs)
    (hsettings : readUses s (settledUses uses) = .ok settings) :
    (Request.ofCreateSettings (settings.filterMap id) outfile).Given uses where
  files_eq := by
    rw [files_ofCreateSettings]
    exact fileKind.map_countingUses huses hsettings (o := chunkOption.besideHelp)
      (by simp [Command.specs, Command.options]) rfl
  hexFiles_eq := by
    rw [hexFiles_ofCreateSettings]
    exact hexFileKind.map_countingUses huses hsettings (o := hexOption.besideHelp)
      (by simp [Command.specs, Command.options]) rfl
  ziChunks_eq := by
    rw [ziChunks_ofCreateSettings]
    exact ziChunkKind.map_countingUses huses hsettings (o := ziOption.besideHelp)
      (by simp [Command.specs, Command.options]) rfl
  order_eq := by
    have hlast := orderKind.map_countingUses huses hsettings (o := endianOption.besideHelp)
      (by simp [Command.specs, Command.options]) rfl
    rw [order_ofCreateSettings, head?_of_map_getLast? hlast]
    rfl
  setName_eq := by
    have hlast := setNameKind.map_countingUses huses hsettings (o := setNameOption.besideHelp)
      (by simp [Command.specs, Command.options]) rfl
    rw [setName_ofCreateSettings, head?_of_map_getLast? hlast]
    rfl

end Requests

/-- A creation is given what its command line says. -/
theorem Asks.exists_given {s : Store} {line : List String} {settings : List Setting}
    {outfile : String} (h : Asks s line .create settings outfile) :
    ∃ uses, Command.create.Uses line uses ∧
      (Request.ofCreateSettings settings outfile).Given uses := by
  cases h with
  | intro hprogram _ harguments hname hreads =>
    cases hreads with
    | @intro words settings _ hwords _ hsettings _ _ =>
      exact ⟨words.uses, .intro hprogram harguments hname hwords,
        given_ofCreateSettings (mem_specs_of_scan hwords) hsettings⟩

end BootSeal.CommandLine
