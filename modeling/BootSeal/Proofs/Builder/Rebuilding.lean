import BootSeal.Proofs.Builder.Writing
import BootSeal.Proofs.Image.Reencoding
import BootSeal.Proofs.Text.Utf8
/-!
# Building an image again from its file

The regions of an accepted file can be added to a new builder one by one, and no addition is refused.
If nothing stands in the file where nothing is stored, writing this builder gives the file again: no
offset, address, length or checksum can have been different.
-/

namespace BootSeal.Builder

open Bytes

/-! ## Additions that are not refused -/

/-- An addition that every open builder accepts. -/
def Call.Admissible : Call → Prop
  | .addChunk owner execAddr size crc32 payload =>
      (Chunk.mk owner 0 execAddr size crc32).Fits ∧
        ∃ p, payload = some p ∧ p.IsReadable ∧ (p.itemCount : Int) = size
  | .addZiChunk owner execAddr size => (ZiChunk.mk owner execAddr size).Fits
  | _ => False

variable {order : ByteOrder} {setName : String} {calls : List Call} {b : Builder}

namespace Grown

theorem exists_step (hb : Grown order setName calls b) {call : Call} (h : call.Admissible) :
    ∃ next, Grown order setName (calls ++ [call]) next := by
  have hqueue := hb.filled.queue_eq
  cases call with
  | addChunk owner execAddr size crc32 payload =>
      obtain ⟨hfits, p, rfl, hreadable, hcount⟩ := h
      obtain ⟨next, hnext⟩ := exists_addChunk hqueue hfits hreadable hcount
      exact ⟨next, hb.chunk hnext⟩
  | addZiChunk owner execAddr size =>
      obtain ⟨next, hnext⟩ := exists_addZiChunk hqueue h
      exact ⟨next, hb.ziChunk hnext⟩
  | addFile | addHexFile | write | writeWithKeyFile => exact h.elim

/-- A builder goes on growing through any number of admissible additions. -/
theorem exists_append (hb : Grown order setName calls b) {more : List Call}
    (h : ∀ call ∈ more, call.Admissible) : ∃ next, Grown order setName (calls ++ more) next := by
  induction more generalizing calls b with
  | nil => exact ⟨b, by rwa [List.append_nil]⟩
  | cons call more ih =>
      obtain ⟨next, hnext⟩ := hb.exists_step (h call List.mem_cons_self)
      obtain ⟨last, hlast⟩ := ih hnext (fun c hc => h c (List.mem_cons_of_mem _ hc))
      rw [List.append_assoc] at hlast
      exact ⟨last, hlast⟩

end Grown

/-- Admissible additions to a new builder with a short name. -/
theorem exists_grown (hname : (Utf8.encode setName).length < setNameSize)
    (h : ∀ call ∈ calls, call.Admissible) : ∃ b, Grown order setName calls b := by
  have hnamed : named order setName = .ok (empty order (Utf8.encode setName)) :=
    if_neg (Nat.not_le.mpr hname)
  have hgrown := (Grown.new hnamed).exists_append h
  rwa [List.nil_append] at hgrown

end BootSeal.Builder

/-! ## The additions that a file gives -/

namespace BootSeal.Image

open Builder Bytes

/-- The call that adds a chunk of a file with its blob. -/
def chunkCall (b : Bytes) (c : Chunk) : Call :=
  .addChunk c.owner c.execAddr c.size c.crc32 (some (.ofBytes (c.content b)))

def ziChunkCall (c : ZiChunk) : Call := .addZiChunk c.owner c.execAddr c.size

/-- The calls that add all regions of a file in their order. -/
def calls (b : Bytes) (img : Image) : List Call :=
  img.chunks.map (chunkCall b) ++ img.ziChunks.map ziChunkCall

variable {b : Bytes} {img : Image}

theorem filterMap_region?_calls (hpos : ∀ c ∈ img.chunks, 0 < c.size) :
    (img.calls b).filterMap Call.region? =
      img.chunks.map fun c => (c.unplaced, .ofBytes (c.content b)) := by
  have hchunks : (img.chunks.map (chunkCall b)).filterMap Call.region? =
      img.chunks.map fun c => (c.unplaced, .ofBytes (c.content b)) := by
    rw [List.filterMap_map, List.filterMap_eq_map_iff_forall_eq_some]
    intro c hc
    have hsize := hpos c hc
    exact if_neg (by omega)
  have hziChunks : (img.ziChunks.map ziChunkCall).filterMap Call.region? = [] := by
    simp [ziChunkCall, Call.region?]
  rw [calls, List.filterMap_append, hchunks, hziChunks, List.append_nil]

theorem chunks_calls (hpos : ∀ c ∈ img.chunks, 0 < c.size) :
    Call.chunks (img.calls b) = img.chunks.map Chunk.unplaced := by
  rw [Call.chunks, filterMap_region?_calls hpos, List.map_map]
  rfl

theorem payloads_calls (hpos : ∀ c ∈ img.chunks, 0 < c.size) :
    Call.payloads (img.calls b) = img.chunks.map fun c => .ofBytes (c.content b) := by
  rw [Call.payloads, filterMap_region?_calls hpos, List.map_map]
  rfl

theorem blobs_calls (hpos : ∀ c ∈ img.chunks, 0 < c.size) :
    Call.blobs (img.calls b) = img.chunks.map (Chunk.content b) := by
  rw [Call.blobs, payloads_calls hpos, List.map_map]
  rfl

theorem ziChunks_calls : Call.ziChunks (img.calls b) = img.ziChunks := by
  have hchunks : (img.chunks.map (chunkCall b)).filterMap Call.ziRegion? = [] := by
    simp [chunkCall, Call.ziRegion?]
  have hziChunks : (img.ziChunks.map ziChunkCall).filterMap Call.ziRegion? = img.ziChunks := by
    simp [ziChunkCall, Call.ziRegion?, Function.comp_def]
  rw [Call.ziChunks, calls, List.filterMap_append, hchunks, hziChunks, List.nil_append]

namespace Intact

theorem calls_admissible (h : Intact b img) : ∀ call ∈ img.calls b, call.Admissible := by
  intro call hcall
  rcases List.mem_append.mp hcall with hchunk | hziChunk
  · obtain ⟨c, hc, rfl⟩ := List.mem_map.mp hchunk
    obtain ⟨howner, _, hexec, hsize, hcrc⟩ := h.chunks_fit c hc
    exact ⟨⟨howner, FitsWidth.zero 8, hexec, hsize, hcrc⟩, _, rfl,
      Payload.isReadable_ofBytes (c.content b), h.length_content hc⟩
  · obtain ⟨c, hc, rfl⟩ := List.mem_map.mp hziChunk
    exact h.ziChunks_fit c hc

theorem calls_plain (h : Intact b img) (hpos : ∀ c ∈ img.chunks, 0 < c.size) :
    Call.Plain (img.calls b) where
  payloads_plain := by
    rw [payloads_calls hpos]
    intro p hp
    obtain ⟨c, _, rfl⟩ := List.mem_map.mp hp
    exact Payload.isPlain_ofBytes (c.content b)
  length_lt := by
    have hsizes : (img.chunks.map Chunk.unplaced).map Chunk.size = img.sizes := List.map_map
    have hfits : FitsWidth 8 img.header.imageLength := by
      rw [h.header_eq]
      exact FitsWidth.decode img.order
        (length_slice_of_le (Nat.le_trans (by decide) h.headerSize_le_length))
    have hlt := hfits.2
    rw [fieldValues_eq_pow] at hlt
    rw [chunks_calls hpos, ziChunks_calls, hsizes, ← h.follows.2.2.2.1]
    exact hlt

/-- What the calls add is planned as it stands in the file. -/
theorem plannedFile_calls (h : Intact b img) (hrep : img.Reproducible b) {setName : String}
    (hname : Utf8.encode setName = img.header.setName) :
    plannedFile img.order setName (img.calls b) = b := by
  have hplanned : plannedImage img.order setName (img.calls b) = img := by
    rw [plannedImage, chunks_calls hrep.size_pos, ziChunks_calls, hname]
    exact (h.eq_canonical hrep).symm
  rw [plannedFile, hplanned, blobs_calls hrep.size_pos]
  exact h.encode_eq hrep.reserved

end Intact

end BootSeal.Image

namespace BootSeal.Builder

open Image

/-- Building the image of an accepted file again and writing it gives the file, if the file holds
nothing that a builder would not write. -/
theorem write_calls_reproduces [KeyLibrary] {b : Bytes} {img : Image} {setName : String}
    (hverify : verify b none = (.ok, some img)) (hrep : img.Reproducible b)
    (hname : Utf8.decode? img.header.setName = some setName)
    (hshort : img.header.setName.length < setNameSize) {s : Store} {path : String} {route : Route}
    (htarget : s.target path = .ok (.regular route)) :
    (∃ builder, Grown img.order setName (img.calls b) builder) ∧
      ∀ builder, Grown img.order setName (img.calls b) builder →
        (builder.write s path none).error = none ∧
          (builder.write s path none).store = s.putFile route b ∧
          (builder.write s path none).store.read path = .ok b := by
  have hintact := verify_none_eq_ok_iff.mp hverify
  have hencode := Utf8.encode_of_decode?_eq_some hname
  constructor
  · apply exists_grown _ hintact.calls_admissible
    rwa [hencode]
  · intro builder hbuilder
    obtain ⟨herror, hstore, _⟩ :=
      hbuilder.write_eq (hintact.calls_plain hrep.size_pos) htarget
    rw [hintact.plannedFile_calls hrep hencode] at hstore
    refine ⟨herror, hstore, ?_⟩
    rw [hstore]
    exact Store.read_putFile htarget b

theorem twoParts_reproducible :
    (twoParts .big).restored.Reproducible ((twoParts .big).encode [[1, 2, 3]]) where
  version_eq := rfl
  signatureBlock_eq := by decide +kernel
  size_pos := by decide
  reserved :=
    { header_eq := by decide +kernel
      chunkSlots_eq := by decide +kernel
      ziSlots_eq := by decide +kernel
      fillings_eq := by decide +kernel }

theorem write_calls_reproduces_twoParts :
    let file := (twoParts .big).encode [[1, 2, 3]]
    ∃ builder, Grown .big "" ((twoParts .big).restored.calls file) builder ∧
      (builder.write {} "out.bin" none).store.read "out.bin" = .ok file := by
  obtain ⟨⟨builder, hbuilder⟩, hwrite⟩ := write_calls_reproduces (verify_twoParts .big)
    twoParts_reproducible (by decide : _ = some "") (by decide) target_out
  exact ⟨builder, hbuilder, (hwrite builder hbuilder).2.2⟩

end BootSeal.Builder
