import BootSeal.Proofs.Builder.Assembling
import BootSeal.Proofs.Builder.Missized
import BootSeal.Proofs.Image.Cutting
/-!
# Written files, cut and extended

A writing that goes through leaves an intact file, whatever the key: its payloads have the right sizes,
or the writing would have stopped. So no part of the file is accepted, and neither is anything that
begins with it.
-/

namespace BootSeal.Builder

variable {order : ByteOrder} {setName : String} {calls : List Call} {b : Builder} {s : Store}
  {path : String} {key : Option Key}

namespace Grown

/-- What was written, and not to the device that holds nothing, had payloads of the right sizes. -/
theorem isPlain_of_write [KeyLibrary] (hb : Grown order setName calls b) (hsink : s.target path ≠ .ok .sink)
    (h : (b.write s path key).error = none) : ∀ p ∈ Call.payloads calls, p.IsPlain := by
  obtain ⟨signer, hsigner⟩ := exists_signer_of_write h
  obtain ⟨route, htarget⟩ := exists_route_of_write h hsink
  obtain ⟨hplain, _⟩ := (compose_ok_iff hb.filled).mp (hb.compose_of_write hsigner htarget h)
  rwa [IsPlain, hb.regions_eq.2] at hplain

theorem exists_intact [KeyLibrary] (hb : Grown order setName calls b)
    (hsentinel : ZiChunk.sentinel ∉ Call.ziChunks calls) (hsink : s.target path ≠ .ok .sink)
    (h : (b.write s path key).error = none) :
    ∃ file img, (b.write s path key).store.read path = .ok file ∧ Image.Intact file img := by
  obtain ⟨hplain, digest, signature, hread, _⟩ :=
    hb.exists_file (hb.isPlain_of_write hsink h) hsink h
  have hstorable : ((plannedImage order setName calls).withBlock digest signature).Storable
      (Call.blobs calls) := (hb.storable hplain).withBlock
  have hnone : ZiChunk.sentinel ∉
      ((plannedImage order setName calls).withBlock digest signature).ziChunks := hsentinel
  have hverify := hstorable.verify_encode
  rw [if_neg hnone] at hverify
  exact ⟨_, _, hread, Image.verify_none_eq_ok_iff.mp hverify⟩

end Grown

/-- A written file is accepted without a key, and no key, nor none, makes anything that is cut from its
end or put behind it acceptable. -/
theorem written_unresizable [KeyLibrary] (hb : Grown order setName calls b)
    (hsentinel : ZiChunk.sentinel ∉ Call.ziChunks calls) (hsink : s.target path ≠ .ok .sink)
    (h : (b.write s path key).error = none) :
    ∃ file img, (b.write s path key).store.read path = .ok file ∧
      Image.verify file none = (.ok, some img) ∧
      ∀ checker, Image.Unresizable file img checker := by
  obtain ⟨file, img, hread, hintact⟩ := hb.exists_intact hsentinel hsink h
  exact ⟨file, img, hread, Image.verify_none_eq_ok_iff.mpr hintact, hintact.unresizable⟩

theorem written_unresizable_two_regions :
    ∃ b file, Grown .big "demo" twoRegions b ∧
      (b.write {} "out.bin" (some (.signing ⟨1⟩))).store.read "out.bin" = .ok file ∧
      (Image.verify (file.take 447) none).1 = .invalidLength ∧
      (Image.verify (file ++ [0]) none).1 = .invalidLength := by
  obtain ⟨b, hb⟩ := exists_grown_twoRegions
  have hsink : Store.target {} "out.bin" ≠ .ok .sink := by
    rw [target_out]
    intro h
    cases h
  have herror := (hb.write_signing_ok (k := ⟨1⟩) twoRegions_plain target_out).1
  obtain ⟨file, _, hread, _, hfile⟩ := written_unresizable hb (by decide) hsink herror
  exact ⟨b, file, hb, hread, (hfile none).cut_in_header 447 (by decide) (by decide),
    (hfile none).extended [0] (by decide)⟩

end BootSeal.Builder
