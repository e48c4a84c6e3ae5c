import BootSeal.Image.File
import BootSeal.Proofs.Builder.Writing
import BootSeal.Proofs.Image.ReadBack
/-!
# Reading and verifying what was written

A file that was written without a key is read back as the builder left it, and it is accepted, unless a
zero-initialised region was queued that looks like the sentinel of its table.
-/

namespace BootSeal.Builder

variable {order : ByteOrder} {setName : String} {calls : List Call} {b : Builder}

namespace Grown

theorem storable (hb : Grown order setName calls b) (hplain : Call.Plain calls) :
    (plannedImage order setName calls).Storable (Call.blobs calls) := by
  have hsizes := hb.filled.sizes_eq_blobs (hb.isPlain hplain)
  have hchunks := hb.filled.chunks_queued
  have hziChunks := hb.filled.ziChunks_fit
  rw [hb.regions_eq.1, hb.blobs_eq] at hsizes
  rw [hb.regions_eq.1] at hchunks
  rw [hb.ziRegions_eq] at hziChunks
  exact Image.canonical_storable (fun c hc => (hchunks c hc).fits)
    (fun c hc => (hchunks c hc).size_pos) hziChunks hsizes hplain.length_lt

theorem restored_plannedImage (hb : Grown order setName calls b) :
    (plannedImage order setName calls).restored =
      { (plannedImage order setName calls).shown with
        ziChunks := (Call.ziChunks calls).takeWhile (· ≠ ZiChunk.sentinel) } :=
  Image.restored_canonical (Nat.le_of_lt hb.filled.name_short)

/-- Reading and verifying the planned file. -/
theorem restored_eq_shown (hb : Grown order setName calls b)
    (hsentinel : ZiChunk.sentinel ∉ Call.ziChunks calls) :
    (plannedImage order setName calls).restored = (plannedImage order setName calls).shown := by
  rw [hb.restored_plannedImage, Image.takeWhile_ne_eq_self_iff.mpr hsentinel]
  rfl

theorem restored_eq_cut (hb : Grown order setName calls b) {k : Nat}
    (hk : (Call.ziChunks calls)[k]? = some ZiChunk.sentinel)
    (hfirst : ∀ j < k, (Call.ziChunks calls)[j]? ≠ some ZiChunk.sentinel) :
    (plannedImage order setName calls).restored =
      { (plannedImage order setName calls).shown with
        ziChunks := (Call.ziChunks calls).take k } := by
  rw [hb.restored_plannedImage, Image.takeWhile_ne_eq_take hk hfirst]

theorem read_plannedFile (hb : Grown order setName calls b) (hplain : Call.Plain calls) :
    Image.read (plannedFile order setName calls) =
        .ok (plannedImage order setName calls).restored ∧
      Image.verify (plannedFile order setName calls) none =
        (if ZiChunk.sentinel ∈ Call.ziChunks calls then .invalidLayout else .ok,
          some (plannedImage order setName calls).restored) :=
  ⟨(hb.storable hplain).read_encode, (hb.storable hplain).verify_encode⟩

end Grown

/-- What was written without a key is read back as the builder left it, up to the first region of zeros
among the zero-initialised ones, and it is accepted just if there is no such region. -/
theorem verifyFile_write [KeyLibrary] (hb : Grown order setName calls b) (hplain : Call.Plain calls)
    {s : Store} {path : String} {route : Route} (htarget : s.target path = .ok (.regular route)) :
    let w := b.write s path none
    let img := w.builder.image.shown
    ∃ file, w.store.read path = .ok file ∧
      (ZiChunk.sentinel ∉ Call.ziChunks calls →
        Image.read file = .ok img ∧ img.FollowsLayout ∧
          Image.verifyFile w.store path none = .ok (.ok, some img)) ∧
      (∀ k, (Call.ziChunks calls)[k]? = some ZiChunk.sentinel →
        (∀ j < k, (Call.ziChunks calls)[j]? ≠ some ZiChunk.sentinel) →
        Image.read file = .ok { img with ziChunks := (Call.ziChunks calls).take k } ∧
          Image.verifyFile w.store path none =
            .ok (.invalidLayout, some { img with ziChunks := (Call.ziChunks calls).take k })) ∧
      ((Image.verify file none).1 = .ok ↔ ZiChunk.sentinel ∉ Call.ziChunks calls) := by
  intro w img
  obtain ⟨_, hstore, himage⟩ := hb.write_eq hplain htarget
  obtain ⟨hread, hverify⟩ := hb.read_plannedFile hplain
  have hfile : w.store.read path = .ok (plannedFile order setName calls) := by
    rw [hstore]
    exact Store.read_putFile htarget _
  have hverifyFile : Image.verifyFile w.store path none =
      .ok (Image.verify (plannedFile order setName calls) none) := by
    rw [Image.verifyFile, Image.readFile, hfile]
  have himg : img = (plannedImage order setName calls).shown := congrArg Image.shown himage
  refine ⟨_, hfile, ?_, ?_, ?_⟩
  · intro hsentinel
    have hshown := hb.restored_eq_shown hsentinel
    rw [← himg] at hshown
    rw [hverifyFile, hread, hverify, if_neg hsentinel, hshown]
    refine ⟨rfl, ?_, rfl⟩
    rw [← hshown]
    exact (hb.storable hplain).restored_followsLayout_iff.mpr hsentinel
  · intro k hk hfirst
    rw [hverifyFile, hread, hverify, if_pos (List.mem_of_getElem? hk),
      hb.restored_eq_cut hk hfirst, ← himg]
    exact ⟨rfl, rfl⟩
  · rw [hverify]
    by_cases hsentinel : ZiChunk.sentinel ∈ Call.ziChunks calls
    · rw [if_pos hsentinel]
      exact ⟨fun hok => Verdict.noConfusion hok, fun hnot => absurd hsentinel hnot⟩
    · rw [if_neg hsentinel]
      exact ⟨fun _ => hsentinel, fun _ => rfl⟩

/-- Three zero-initialised regions, the second of which looks like the sentinel. -/
def cutRegions : List Call := [.addZiChunk 1 0 0, .addZiChunk 0 0 0, .addZiChunk 2 0 0]

theorem exists_grown_cutRegions : ∃ b, Grown .little "" cutRegions b :=
  ⟨_, .ziChunk (.ziChunk (.ziChunk (.new rfl) rfl) rfl) rfl⟩

theorem verifyFile_write_both_ways :
    (∃ b img, Grown .big "demo" twoRegions b ∧
      Image.verifyFile (b.write {} "out.bin" none).store "out.bin" none = .ok (.ok, some img)) ∧
    ∃ b img, Grown .little "" cutRegions b ∧ img.ziChunks = [⟨1, 0, 0⟩] ∧
      Image.verifyFile (b.write {} "out.bin" none).store "out.bin" none =
        .ok (.invalidLayout, some img) := by
  constructor
  · obtain ⟨b, hb⟩ := exists_grown_twoRegions
    obtain ⟨_, _, haccepted, _, _⟩ := verifyFile_write hb twoRegions_plain target_out
    exact ⟨b, _, hb, (haccepted (by decide)).2.2⟩
  · obtain ⟨b, hb⟩ := exists_grown_cutRegions
    obtain ⟨_, _, _, hrefused, _⟩ := verifyFile_write hb ⟨by decide, by decide⟩ target_out
    exact ⟨b, _, hb, rfl, (hrefused 1 rfl (by decide)).2⟩

end BootSeal.Builder
