import BootSeal.Proofs.Builder.Signing
/-!
# How a writing can stop

The steps in front of the signature keep the sizes of the chunks, and they stop only where a value
does not fit its field, where a payload does not give its bytes out, or where the output is not at its
place in the layout. So a writing that comes to its end has put out as much as the planner says, and what
is signed can be read back in full.
-/

namespace BootSeal

namespace Draft

/-- Errors of a draft: a value that does not fit its field, a payload that does not give its bytes out,
or a place that is not that of the layout. -/
inductive IsFault : BuildError → Prop
  | overflow : IsFault .overflow
  | unreadablePayload : IsFault .unreadablePayload
  | layout (f : LayoutFault) : IsFault (.layout f)

/-- A step that keeps the sizes of the chunks and stops only for a fault. -/
structure Orderly (d : Draft) (step : Step) : Prop where
  sizes_eq : ∀ next, step = .ok next → next.chunks.map Chunk.size = d.chunks.map Chunk.size
  isFault : ∀ s, step = .error s → IsFault s.error

namespace Orderly

variable {d next : Draft} {step : Step}

theorem ok (h : next.chunks.map Chunk.size = d.chunks.map Chunk.size) : d.Orderly (.ok next) where
  sizes_eq e he := by
    cases he
    exact h
  isFault s hs := by cases hs

theorem fault {e : BuildError} (h : IsFault e) : d.Orderly (.error ⟨next, e⟩) where
  sizes_eq e he := by cases he
  isFault s hs := by
    cases hs
    exact h

theorem bind {f : Draft → Step} (h : d.Orderly step) (hf : ∀ e : Draft, e.Orderly (f e)) :
    d.Orderly (step >>= f) := by
  cases step with
  | error s =>
      constructor
      · intro last hlast
        cases hlast
      · intro s' hs'
        cases hs'
        exact h.isFault s rfl
  | ok e =>
      constructor
      · intro last hlast
        rw [(hf e).sizes_eq last hlast, h.sizes_eq e rfl]
      · exact (hf e).isFault

end Orderly

section Steps

variable (d : Draft) (order : ByteOrder) (ziChunks : List ZiChunk)

theorem putHeader_orderly : d.Orderly (d.putHeader order) := by
  unfold putHeader
  dsimp only
  split
  next => exact .fault .overflow
  next => exact .ok rfl

theorem map_size_locate (address : Int) (chunks : List Chunk) :
    (locate address chunks).map Chunk.size = chunks.map Chunk.size := by
  rw [locate_eq_place]
  apply Chunk.map_size_place
  rw [Layout.length_loadAddressesFrom, List.length_map]

theorem putChunkTable_orderly : d.Orderly (d.putChunkTable order ziChunks) := by
  unfold putChunkTable
  dsimp only
  split
  next => exact .fault (.layout _)
  next =>
    split
    next => exact .ok (map_size_locate _ _)
    next => exact .fault .overflow

theorem putZiTable_orderly : d.Orderly (d.putZiTable order ziChunks) := by
  unfold putZiTable
  dsimp only
  split
  next => exact .fault (.layout _)
  next =>
    split
    next => exact .ok rfl
    next => exact .fault .overflow

theorem endHeader_orderly : d.Orderly d.endHeader := by
  unfold endHeader
  dsimp only
  split
  next => exact .fault (.layout _)
  next => exact .ok rfl

theorem putBlob_orderly (index : Nat) (c : Chunk) (p : Payload) :
    d.Orderly (d.putBlob index c p) := by
  unfold putBlob
  dsimp only
  split
  next => exact .fault (.layout _)
  next =>
    split
    next => exact .fault .unreadablePayload
    next => exact .ok rfl

theorem putBlobs_cons (index : Nat) (r : Chunk × Payload) (rest : List (Chunk × Payload)) :
    d.putBlobs index (r :: rest) = d.putBlob index r.1 r.2 >>= putBlobs (index + 1) rest := by
  rw [putBlobs]
  cases d.putBlob index r.1 r.2 with
  | error s => rfl
  | ok e => rfl

theorem putBlobs_orderly (index : Nat) (blobs : List (Chunk × Payload)) :
    d.Orderly (d.putBlobs index blobs) := by
  induction blobs generalizing d index with
  | nil => exact .ok rfl
  | cons x rest ih =>
      rw [putBlobs_cons]
      exact (putBlob_orderly d index x.1 x.2).bind fun e => ih e (index + 1)

theorem endImage_orderly : d.Orderly (d.endImage ziChunks) := by
  unfold endImage
  dsimp only
  split
  next => exact .fault (.layout _)
  next => exact .ok rfl

theorem setChecksum_orderly : d.Orderly (d.setChecksum order) := by
  unfold setChecksum
  split
  next => exact .fault .overflow
  next => exact .ok rfl

theorem imageLength_of_endImage {next : Draft} (h : d.endImage ziChunks = .ok next) :
    next.header.imageLength =
      Layout.imageLength headerSize (next.chunks.map Chunk.size) ziChunks.length := by
  unfold endImage at h
  dsimp only at h
  split at h
  next => cases h
  next hlength =>
    cases h
    exact Decidable.not_not.mp hlength

theorem fits_of_putHeader {next : Draft} (h : d.putHeader order = .ok next) : d.header.Fits := by
  unfold putHeader at h
  dsimp only [tell] at h
  split at h
  next => cases h
  next hcode => exact (Header.encode?_eq_some_iff.mp hcode).1

end Steps

end Draft

namespace Builder

open Draft

variable (b : Builder) (payloads : List Payload)

theorem layOut_orderly : b.blank.Orderly (b.layOut payloads) := by
  unfold layOut
  refine (putHeader_orderly b.blank b.order).bind fun d₁ => ?_
  refine (putChunkTable_orderly d₁ b.order b.ziChunks).bind fun d₂ => ?_
  refine (putZiTable_orderly d₂ b.order b.ziChunks).bind fun d₃ => ?_
  refine (endHeader_orderly d₃).bind fun d₄ => ?_
  -- What a draft has told does not count among its chunks.
  have hblobs := putBlobs_orderly (d₄.tell [.blobs]) 0 ((d₄.tell [.blobs]).chunks.zip payloads)
  have htold : d₄.Orderly (putBlobs 0 ((d₄.tell [.blobs]).chunks.zip payloads) (d₄.tell [.blobs])) :=
    ⟨hblobs.sizes_eq, hblobs.isFault⟩
  exact htold.bind fun d₅ => endImage_orderly d₅ b.ziChunks

theorem compose_orderly : b.blank.Orderly (b.compose payloads) := by
  unfold compose
  refine (layOut_orderly b payloads).bind fun d₁ => ?_
  refine (setChecksum_orderly d₁ b.order).bind fun d₂ => ?_
  exact putHeader_orderly d₂ b.order

variable {b payloads}

theorem imageLength_of_layOut {d : Draft} (h : b.layOut payloads = .ok d) :
    d.header.imageLength =
      Layout.imageLength headerSize (b.chunks.map Chunk.size) b.ziChunks.length := by
  have hsizes := (layOut_orderly b payloads).sizes_eq d h
  unfold layOut at h
  obtain ⟨d₁, _, h⟩ := bind_eq_ok h
  obtain ⟨d₂, _, h⟩ := bind_eq_ok h
  obtain ⟨d₃, _, h⟩ := bind_eq_ok h
  obtain ⟨d₄, _, h⟩ := bind_eq_ok h
  obtain ⟨d₅, _, h⟩ := bind_eq_ok h
  rw [imageLength_of_endImage d₅ b.ziChunks h, hsizes]
  rfl

/-- A writing that comes to its end has the planned length, which fits the header. -/
theorem imageLength_of_compose {d : Draft} (h : b.compose payloads = .ok d) :
    Layout.imageLength headerSize (b.chunks.map Chunk.size) b.ziChunks.length < 2 ^ 64 := by
  unfold compose at h
  obtain ⟨d₁, hlayOut, h⟩ := bind_eq_ok h
  obtain ⟨d₂, hchecksum, h⟩ := bind_eq_ok h
  obtain ⟨_, hsame, _⟩ := setChecksum_eq_ok hchecksum
  have hfits := (fits_of_putHeader d₂ b.order h).2.2.2.2.2.2.2
  rw [fieldValues_eq_pow, hsame, imageLength_of_layOut hlayOut] at hfits
  exact hfits

theorem fits_of_compose {d : Draft} (h : b.compose payloads = .ok d) : d.header.Fits := by
  unfold compose at h
  obtain ⟨_, _, h⟩ := bind_eq_ok h
  obtain ⟨d₂, _, h⟩ := bind_eq_ok h
  rw [(putHeader_eq_ok h).1]
  exact fits_of_putHeader d₂ b.order h

theorem exists_compose_of_finish [KeyLibrary] {signer : Option PrivateKey} {readBack : Bytes → Bytes}
    {d : Draft} (h : b.finish payloads signer readBack = .ok d) : ∃ e, b.compose payloads = .ok e := by
  cases signer with
  | none => exact ⟨d, h⟩
  | some k =>
      unfold finish at h
      obtain ⟨e, hcompose, _⟩ := bind_eq_ok h
      exact ⟨e, hcompose⟩

/-- Signing a complete output cannot stop: it can be read back, and the block fits any header. -/
theorem compose_eq_error_of_finish [KeyLibrary] {signer : Option PrivateKey} {s : Stopped}
    (h : b.finish payloads signer id = .error s) : b.compose payloads = .error s := by
  cases signer with
  | none => exact h
  | some k =>
      unfold finish at h
      dsimp only at h
      cases hcompose : b.compose payloads with
      | error stopped =>
          rw [hcompose] at h
          cases h
          rfl
      | ok d =>
          rw [hcompose] at h
          obtain ⟨_, _, hlength, _⟩ := compose_eq_ok hcompose
          obtain ⟨_, hsign, _⟩ := sign_reaches ⟨rfl, rfl, rfl⟩ (fits_of_compose hcompose) hlength
            b.order k
          change d.sign b.order k d.out = _ at h
          rw [hsign] at h
          cases h

/-- So a writing with a key stops for a fault too. -/
theorem isFault_of_finish [KeyLibrary] {k : PrivateKey} {s : Stopped}
    (h : b.finish payloads (some k) id = .error s) : IsFault s.error :=
  (compose_orderly b payloads).isFault s (compose_eq_error_of_finish h)

end Builder

end BootSeal
