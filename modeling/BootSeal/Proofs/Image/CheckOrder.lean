import BootSeal.Proofs.Image.Intact
import BootSeal.Proofs.Image.ReadBack
/-!
# The order of the checks

The checks of a verification are specified as a list, and the verdict is that of the first one that a
file fails. The reader of the tables runs before the length is compared, though. So a file of the wrong
length whose tables cannot be read, as one that was cut inside them, is told to have the wrong layout;
on every other file the order is kept.
-/

namespace BootSeal

open Image (HasMagic detectOrder?_eq_some_iff)

/-- The checks of a verification. The last three are for verifications under a key. -/
inductive Check where
  | magic
  | length
  | layout
  | checksum
  | signed
  | digest
  | signature
deriving DecidableEq, Repr

namespace Check

/-- All checks, in the order in which they are specified. -/
def all : List Check := [magic, length, layout, checksum, signed, digest, signature]

/-- The verdict on a file that fails a check and passes all before it. -/
def verdict : Check → Verdict
  | magic => .invalidMagic
  | length => .invalidLength
  | layout => .invalidLayout
  | checksum => .invalidCrc
  | signed => .unsigned
  | digest => .invalidHash
  | signature => .invalidSignature

/-- What holds of the header of a file, read in the byte order of its magic number. -/
def OfHeader (b : Bytes) (p : ByteOrder → Header → Prop) : Prop :=
  ∀ order, HasMagic order b → p order (Header.decode order b)

/-- What a check asks of a file. A file that is too short for a header has the wrong length, and tables
that cannot be read are not laid out. -/
def Passes (b : Bytes) (key : Option PublicKey) : Check → Prop
  | magic => ∃ order, HasMagic order b
  | length => headerSize ≤ b.length ∧ OfHeader b fun _ h => h.imageLength = b.length
  | layout => OfHeader b fun order h =>
      ∃ img, Image.readTables order h b = .ok img ∧ img.FollowsLayout
  | checksum => OfHeader b fun _ h => (headerCrc b : Int) = h.headerCrc
  | signed => OfHeader b fun _ h => key.isSome → h.isSigned
  | digest => OfHeader b fun _ h => key.isSome → imageDigest b h.imageLength = h.digest
  | signature => OfHeader b fun _ h => ∀ k ∈ key, k.accepts h.signature h.digest

/-- The verdict of the first check in a row that fails, which is `ok` if none does. -/
inductive FirstFailing (passes : Check → Prop) : List Check → Verdict → Prop
  | none : FirstFailing passes [] .ok
  | here {c : Check} {rest : List Check} (h : ¬passes c) : FirstFailing passes (c :: rest) c.verdict
  | later {c : Check} {rest : List Check} {v : Verdict} (h : passes c)
      (hrest : FirstFailing passes rest v) : FirstFailing passes (c :: rest) v

/-- The verdict that the specification gives. -/
def Specified (b : Bytes) (key : Option PublicKey) (v : Verdict) : Prop :=
  FirstFailing (Passes b key) all v

/-- A file of the wrong length, with a whole header, whose tables cannot be read. -/
def CutTables (b : Bytes) : Prop :=
  ∃ order, HasMagic order b ∧ headerSize ≤ b.length ∧
    (Header.decode order b).imageLength ≠ b.length ∧
      ∀ img, Image.readTables order (Header.decode order b) b ≠ .ok img

namespace FirstFailing

variable {passes : Check → Prop} {c : Check} {rest : List Check} {v v' : Verdict}

/-- There is one such verdict only. -/
theorem unique (h : FirstFailing passes rest v) (h' : FirstFailing passes rest v') : v = v' := by
  induction h with
  | none =>
      cases h'
      rfl
  | here hfails =>
      cases h' with
      | here => rfl
      | later hpasses => exact absurd hpasses hfails
  | later hpasses _ ih =>
      cases h' with
      | here hfails => exact absurd hpasses hfails
      | later _ hrest => exact ih hrest

/-- A check is made by a branch that gives its verdict, with the later checks behind it. -/
theorem branch {p : Prop} [Decidable p] (hfails : p ↔ ¬passes c)
    (hrest : ¬p → FirstFailing passes rest v) :
    FirstFailing passes (c :: rest) (if p then c.verdict else v) := by
  by_cases hp : p
  · rw [if_pos hp]
    exact .here (hfails.mp hp)
  · rw [if_neg hp]
    exact .later (not_not.mp fun hnot => hp (hfails.mpr hnot)) (hrest hp)

end FirstFailing

section Header

variable {b : Bytes} {order : ByteOrder} {key : Option PublicKey}

theorem ofHeader_iff (h : HasMagic order b) {p : ByteOrder → Header → Prop} :
    OfHeader b p ↔ p order (Header.decode order b) := by
  constructor
  · intro hall
    exact hall order h
  · intro hp other hother
    -- No file starts with the magic number in both byte orders.
    have hsame := (detectOrder?_eq_some_iff.mpr h).symm.trans (detectOrder?_eq_some_iff.mpr hother)
    cases hsame
    exact hp

variable {img : Image}

/-- The fields of an image are those of the header in its file. -/
theorem ofHeader_read_iff (hread : Image.read b = .ok img) {p : ByteOrder → Header → Prop} :
    OfHeader b p ↔ p img.order img.header := by
  obtain ⟨_, horder, hheader⟩ := Image.read_eq_ok hread
  rw [ofHeader_iff (detectOrder?_eq_some_iff.mp horder), hheader]

theorem firstFailing_signatureVerdict (hread : Image.read b = .ok img) (k : PublicKey) :
    FirstFailing (Passes b (some k)) [signed, digest, signature] (img.signatureVerdict b k) := by
  unfold Image.signatureVerdict
  refine .branch (c := signed) ?_ fun _ => .branch (c := digest) ?_ fun _ =>
    .branch (c := signature) ?_ fun _ => .none
  · rw [Passes, ofHeader_read_iff hread]
    simp
  · rw [Passes, ofHeader_read_iff hread]
    simp
  · rw [Passes, ofHeader_read_iff hread]
    simp

/-- Once the tables are read, the checks are made in their order. -/
theorem firstFailing_verdict (hread : Image.read b = .ok img) :
    FirstFailing (Passes b key) [length, layout, checksum, signed, digest, signature]
      (img.verdict b key) := by
  obtain ⟨hlong, _, _⟩ := Image.read_eq_ok hread
  unfold Image.verdict
  refine .branch (c := length) ?_ fun _ => .branch (c := layout) ?_ fun _ =>
    .branch (c := checksum) ?_ fun _ => ?_
  · rw [Passes, ofHeader_read_iff hread]
    simp [hlong]
  · rw [Passes, ofHeader_read_iff hread]
    rw [Image.readTables_of_read hread]
    simp
  · rw [Passes, ofHeader_read_iff hread]
  · cases key with
    | some k => exact firstFailing_signatureVerdict hread k
    | none =>
        -- Without a key the last three checks ask for nothing.
        exact .later (fun _ _ h => nomatch h) (.later (fun _ _ h => nomatch h)
          (.later (fun _ _ _ h => nomatch h) .none))

theorem verify_of_cutTables (h : CutTables b) : (Image.verify b key).1 = .invalidLayout := by
  obtain ⟨order, hmagic, hlong, _, htables⟩ := h
  have horder := detectOrder?_eq_some_iff.mpr hmagic
  rw [← Image.read_eq_readTables horder hlong] at htables
  unfold Image.verify
  rw [horder]
  dsimp only
  rw [if_neg (by omega)]
  cases hread : Image.read b with
  | error e => rfl
  | ok img => exact absurd hread (htables img)

/-- Behind the magic number the length is specified to decide, whatever follows the header. -/
theorem specified_invalidLength (hmagic : HasMagic order b)
    (hlength : (Header.decode order b).imageLength ≠ b.length) : Specified b key .invalidLength := by
  refine .later ⟨order, hmagic⟩ (.here fun hpasses => hlength ?_)
  exact (ofHeader_iff hmagic).mp hpasses.2

/-- If the tables cannot be read although the length is right, the layout is the first to fail. -/
theorem specified_of_not_cutTables (h : ¬CutTables b) : Specified b key (Image.verify b key).1 := by
  unfold Image.verify
  cases horder : Image.detectOrder? b with
  | none =>
      refine .here ?_
      rintro ⟨order, hmagic⟩
      rw [detectOrder?_eq_some_iff.mpr hmagic] at horder
      cases horder
  | some order =>
      have hmagic := detectOrder?_eq_some_iff.mp horder
      dsimp only
      by_cases hshort : b.length < headerSize
      · rw [if_pos hshort]
        exact .later ⟨order, hmagic⟩ (.here fun hpasses => absurd hpasses.1 (by omega))
      · have hread := Image.read_eq_readTables horder (by omega)
        rw [if_neg hshort]
        cases hcase : Image.read b with
        | ok img => exact .later ⟨order, hmagic⟩ (firstFailing_verdict hcase)
        | error e =>
            have htables : ∀ img, Image.readTables order (Header.decode order b) b ≠ .ok img := by
              intro img hok
              rw [← hread, hcase] at hok
              cases hok
            have hlength : (Header.decode order b).imageLength = b.length :=
              not_not.mp fun hne => h ⟨order, hmagic, by omega, hne, htables⟩
            refine .later ⟨order, hmagic⟩ (.later ⟨by omega, ?_⟩ (.here ?_))
            · exact (ofHeader_iff hmagic).mpr hlength
            · intro hpasses
              rw [Passes, ofHeader_iff hmagic] at hpasses
              obtain ⟨img, hok, _⟩ := hpasses
              exact htables img hok

end Header

/-- The verdict is the specified one just if the tables are not cut; if they are, it is that of the
layout, although the length is wrong. So a wrong length is told just if the tables can be read. -/
theorem verify_specified_iff (b : Bytes) (key : Option PublicKey) :
    (Specified b key (Image.verify b key).1 ↔ ¬CutTables b) ∧
      (CutTables b → (Image.verify b key).1 = .invalidLayout) ∧
      ∀ order, HasMagic order b → headerSize ≤ b.length →
        (Header.decode order b).imageLength ≠ b.length →
          ((Image.verify b key).1 = .invalidLength ↔
            ∃ img, Image.readTables order (Header.decode order b) b = .ok img) := by
  have hcut : CutTables b → ¬Specified b key (Image.verify b key).1 := by
    intro h hspecified
    have ⟨_, hmagic, _, hlength, _⟩ := h
    have hsame := hspecified.unique (specified_invalidLength hmagic hlength)
    rw [verify_of_cutTables h] at hsame
    cases hsame
  refine ⟨⟨fun hspecified h => hcut h hspecified, specified_of_not_cutTables⟩,
    verify_of_cutTables, ?_⟩
  intro order hmagic hlong hlength
  constructor
  · intro hverdict
    by_contra hnone
    have htables : ∀ img, Image.readTables order (Header.decode order b) b ≠ .ok img :=
      fun img hok => hnone ⟨img, hok⟩
    rw [verify_of_cutTables ⟨order, hmagic, hlong, hlength, htables⟩] at hverdict
    cases hverdict
  · rintro ⟨img, hok⟩
    have hkept : ¬CutTables b := by
      rintro ⟨other, hother, _, _, htables⟩
      have hread := Image.read_eq_readTables (detectOrder?_eq_some_iff.mpr hmagic) hlong
      rw [← Image.read_eq_readTables (detectOrder?_eq_some_iff.mpr hother) hlong, hread] at htables
      exact htables img hok
    exact (specified_of_not_cutTables hkept).unique (specified_invalidLength hmagic hlength)

/-- The file of an image without regions, cut inside its first table. -/
def cutFile : Bytes := ((Image.canonical .little [] [] []).encode []).take 460

theorem verify_cutFile :
    HasMagic .little cutFile ∧ headerSize ≤ cutFile.length ∧
      (Header.decode .little cutFile).imageLength ≠ cutFile.length ∧
      Specified cutFile none .invalidLength ∧ (Image.verify cutFile none).1 = .invalidLayout := by
  have hmagic : HasMagic .little cutFile := by decide +kernel
  have hlength : (Header.decode .little cutFile).imageLength ≠ cutFile.length := by decide +kernel
  exact ⟨hmagic, by decide +kernel, hlength, specified_invalidLength hmagic hlength,
    by decide +kernel⟩

end Check

end BootSeal
