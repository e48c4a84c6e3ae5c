import BootSeal.Proofs.Builder.Composition
import BootSeal.Proofs.Store.ReadBack
/-!
# Writing without a key

The file that is written without a key is the file of the canonical image of what was added. The
cursor of the output, the sums that the writer makes and the planner agree, whatever was added.
-/

namespace BootSeal.Builder

variable {order : ByteOrder} {setName : String} {calls : List Call} {b : Builder}

/-- The header and the tables of a builder as an image. -/
def image (b : Builder) : Image := ⟨b.order, b.header, b.chunks, b.ziChunks⟩

/-- The image that the planner gives for what calls add. -/
def plannedImage (order : ByteOrder) (setName : String) (calls : List Call) : Image :=
  Image.canonical order (Utf8.encode setName) (Call.chunks calls) (Call.ziChunks calls)

def plannedFile (order : ByteOrder) (setName : String) (calls : List Call) : Bytes :=
  (plannedImage order setName calls).encode (Call.blobs calls)

/-- What calls add has plain payloads, and the planned length fits the header. -/
structure Call.Plain (calls : List Call) : Prop where
  payloads_plain : ∀ p ∈ Call.payloads calls, p.IsPlain
  length_lt : Layout.imageLength headerSize ((Call.chunks calls).map Chunk.size)
    (Call.ziChunks calls).length < 2 ^ 64

theorem settle_error_eq_none_iff {step : Draft.Step} : (settle step).2 = none ↔ ∃ d, step = .ok d := by
  cases step <;> simp [settle]

theorem settle_error_eq_some_iff {step : Draft.Step} {e : BuildError} :
    (settle step).2 = some e ↔ ∃ stopped, step = .error stopped ∧ stopped.error = e := by
  cases step <;> simp [settle]

namespace Unwritten

variable {setName : Bytes} {s : Store} {path : String} {route : Route} {key : Option Key}
  {signer : Option PrivateKey}

/-- Writing to an ordinary file: the file is opened, and holds what the draft had when it ended. -/
theorem write_eq_writeTo [KeyLibrary] (hb : Unwritten order setName b) (hsigner : signer? key = .ok signer)
    (htarget : s.target path = .ok (.regular route)) :
    b.write s path key = b.writeTo s path (.regular route) b.payloads signer := by
  have haccept : b.accept key = .ok (b.payloads, signer) := by
    rw [accept, hb.queue_eq]
    dsimp only
    rw [hsigner]
  rw [write, haccept]
  dsimp only
  rw [htarget]

/-- File and error are those of the draft, wherever it stopped. -/
theorem write_settles [KeyLibrary] (hb : Unwritten order setName b) (hsigner : signer? key = .ok signer)
    (htarget : s.target path = .ok (.regular route)) :
    (b.write s path key).store.read path = .ok (settle (b.finish b.payloads signer id)).1.out ∧
      (b.write s path key).error = (settle (b.finish b.payloads signer id)).2 := by
  rw [hb.write_eq_writeTo hsigner htarget]
  exact ⟨Store.read_putFile htarget _, rfl⟩

theorem write_of_reaches [KeyLibrary] (hb : Unwritten order setName b) (hsigner : signer? key = .ok signer)
    (htarget : s.target path = .ok (.regular route)) {h : Header} {chunks : List Chunk} {out : Bytes}
    (hfinish : Draft.Reaches (b.finish b.payloads signer id) h chunks out) :
    (b.write s path key).error = none ∧
      (b.write s path key).store = s.putFile route out ∧
      (b.write s path key).builder.image = ⟨order, h, chunks, b.ziChunks⟩ := by
  obtain ⟨d, hfinish, rfl, rfl, rfl⟩ := hfinish
  rw [hb.write_eq_writeTo hsigner htarget, ← hb.order_eq]
  dsimp only [writeTo]
  rw [hfinish]
  exact ⟨rfl, rfl, rfl⟩

end Unwritten

namespace Grown

theorem image_eq (hb : Grown order setName calls b) :
    hb.filled.image = plannedImage order setName calls := by
  rw [plannedImage, ← hb.regions_eq.1, ← hb.ziRegions_eq]

theorem blobs_eq (hb : Grown order setName calls b) : b.blobs = Call.blobs calls := by
  rw [Builder.blobs, hb.regions_eq.2, Call.blobs]

theorem isPlain (hb : Grown order setName calls b) (hplain : Call.Plain calls) : b.IsPlain := by
  rw [IsPlain, hb.regions_eq.2]
  exact hplain.payloads_plain

theorem compose_reaches (hb : Grown order setName calls b) (hplain : Call.Plain calls) :
    Draft.Reaches (b.compose b.payloads) (plannedImage order setName calls).header
      (plannedImage order setName calls).chunks (plannedFile order setName calls) := by
  have hlength : Layout.imageLength headerSize (b.chunks.map Chunk.size) b.ziChunks.length
      < 2 ^ 64 := by
    rw [hb.regions_eq.1, hb.ziRegions_eq]
    exact hplain.length_lt
  have hreached := Builder.compose_reaches hb.filled (hb.isPlain hplain) hlength
  rwa [hb.image_eq, hb.blobs_eq] at hreached

theorem write_eq [KeyLibrary] (hb : Grown order setName calls b) (hplain : Call.Plain calls) {s : Store}
    {path : String} {route : Route} (htarget : s.target path = .ok (.regular route)) :
    (b.write s path none).error = none ∧
      (b.write s path none).store = s.putFile route (plannedFile order setName calls) ∧
      (b.write s path none).builder.image = plannedImage order setName calls := by
  have hwrite := hb.filled.write_of_reaches (rfl : signer? none = .ok none) htarget
    (hb.compose_reaches hplain)
  rw [hb.ziRegions_eq] at hwrite
  exact hwrite

theorem length_plannedFile (hb : Grown order setName calls b) (hplain : Call.Plain calls) :
    ((plannedFile order setName calls).length : Int) =
      (plannedImage order setName calls).header.imageLength := by
  have hsizes := hb.filled.sizes_eq_blobs (hb.isPlain hplain)
  rw [hb.regions_eq.1, hb.blobs_eq] at hsizes
  exact Image.length_encode_canonical hsizes

end Grown

/-- Writing without a key to an ordinary file goes through, and file and builder are the planned ones:
the offsets in the header, the addresses of the blobs and the length are those of the planner. -/
theorem write_eq_planned [KeyLibrary] (hb : Grown order setName calls b) (hplain : Call.Plain calls)
    {s : Store} {path : String} {route : Route} (htarget : s.target path = .ok (.regular route)) :
    let file := plannedFile order setName calls
    let w := b.write s path none
    w.error = none ∧
      w.store = s.putFile route file ∧
      w.store.read path = .ok file ∧
      w.builder.image = plannedImage order setName calls ∧
      w.builder.image.FollowsLayout ∧
      w.builder.header.imageLength = file.length := by
  intro file w
  obtain ⟨herror, hstore, himage⟩ := hb.write_eq hplain htarget
  refine ⟨herror, hstore, ?_, himage, ?_, ?_⟩
  · rw [hstore]
    exact Store.read_putFile htarget file
  · rw [himage]
    exact Image.canonical_followsLayout
  · have hheader : w.builder.header = (plannedImage order setName calls).header :=
      congrArg Image.header himage
    rw [hheader]
    exact (hb.length_plannedFile hplain).symm

def twoRegions : List Call :=
  [.addChunk 1 16 3 7 (some (.ofBytes [1, 2, 3])), .addZiChunk 2 32 64]

theorem twoRegions_plain : Call.Plain twoRegions := ⟨by decide, by decide⟩

theorem exists_grown_twoRegions : ∃ b, Grown .big "demo" twoRegions b :=
  ⟨_, .ziChunk (.chunk (.new rfl) rfl) rfl⟩

theorem target_out : Store.target {} "out.bin" = .ok (.regular ["out.bin"]) := by cbv

theorem write_eq_planned_two_regions :
    ∃ b, Grown .big "demo" twoRegions b ∧
      (b.write {} "out.bin" none).error = none ∧
      (b.write {} "out.bin" none).store.read "out.bin" =
        .ok (plannedFile .big "demo" twoRegions) := by
  obtain ⟨b, hb⟩ := exists_grown_twoRegions
  obtain ⟨herror, _, hread, _⟩ := write_eq_planned hb twoRegions_plain target_out
  exact ⟨b, hb, herror, hread⟩

end BootSeal.Builder
