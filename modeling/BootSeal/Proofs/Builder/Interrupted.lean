import BootSeal.Proofs.Builder.Refusal
import BootSeal.Proofs.Builder.SignedAcceptance
import BootSeal.Proofs.Image.Slot
/-!
# Writings that were interrupted

The header that is written first gives its region no length, and until it is written again every step
only appends to the output. So there is no room for a table in any cut output, wherever it was cut and
whatever the payloads hold. Between the complete header and the signature the signature block is still
empty, and no key accepts that.
-/

namespace BootSeal

open Bytes

namespace Image

/-- No verification accepts the file or finds an image in it. -/
def Rejected (b : Bytes) : Prop :=
  ∀ key, (verify b key).1 ≠ .ok ∧ (verify b key).2 = none

/-- A header region without a length has no room for the first table. -/
theorem readTables_ne_ok (order : ByteOrder) {h : Header} (hzero : h.headerLength = 0) (b : Bytes)
    (img : Image) : readTables order h b ≠ .ok img := by
  intro hread
  unfold readTables at hread
  dsimp only at hread
  split at hread
  next => cases hread
  next chunks hchunks =>
    obtain ⟨_, hroom⟩ := Table.read_eq_ok_iff.mp hchunks
    have hsize : 0 < Chunk.format.size * (chunks.length + 1) :=
      Nat.mul_pos Chunk.format.size_pos (Nat.succ_pos _)
    rw [hzero, Int.toNat_zero] at hroom
    omega

/-- Eight zeros are the length zero in either byte order. -/
theorem rejected_of_slice {b : Bytes} (h : headerSize ≤ b.length → b.slice 8 16 = zeros 8) :
    Rejected b := by
  intro key
  unfold verify
  split
  next => exact ⟨by decide, rfl⟩
  next order horder =>
    split
    next => exact ⟨by decide, rfl⟩
    next hlong =>
      have hzero : (Header.decode order b).headerLength = 0 := by
        rw [Header.decode, h (by omega)]
        cases order <;> rfl
      have hread := readTables_ne_ok order hzero b
      rw [← read_eq_readTables horder (by omega)] at hread
      cases hcase : read b with
      | error e =>
          dsimp only
          exact ⟨by decide, rfl⟩
      | ok img => exact absurd hcase (hread img)

theorem slice_headerLength (order : ByteOrder) (h : Header) (rest : Bytes) :
    slice (h.encode order ++ rest) 8 16 = order.encode 8 h.headerLength.toNat := by
  simp only [Header.encode, slice_append, List.length_append, ByteOrder.length_encode, length_zeros,
    length_fit, setNameSize]
  simp [slice_of_le_length, slice_of_length_le]

/-- What starts with a header whose region has no length is rejected, however it is cut. -/
theorem rejected_take {order : ByteOrder} {h : Header} (hzero : h.headerLength = 0) {out : Bytes}
    (hout : h.encode order <+: out) (n : Nat) : Rejected (out.take n) := by
  obtain ⟨rest, rfl⟩ := hout
  apply rejected_of_slice
  intro hlong
  have hcut : 16 ≤ n := by
    have hsize : headerSize = 448 := rfl
    rw [List.length_take] at hlong
    omega
  have hslice : slice ((h.encode order ++ rest).take n) 8 16 =
      slice (h.encode order ++ rest) 8 16 := by
    rw [slice, slice, List.take_take, Nat.min_eq_left hcut]
  rw [hslice, slice_headerLength, hzero]
  exact ByteOrder.encode_zero order 8

end Image

namespace Draft

open Builder (settle)

/-- A step that only appends to the output, also when it stops. -/
def Appends (d : Draft) (step : Step) : Prop := d.out <+: (settle step).1.out

theorem Appends.bind {d : Draft} {step : Step} {f : Draft → Step} (h : d.Appends step)
    (hf : ∀ e : Draft, e.Appends (f e)) : d.Appends (step >>= f) := by
  cases step with
  | error s => exact h
  | ok e => exact h.trans (hf e)

section Steps

variable (d : Draft) (order : ByteOrder) (ziChunks : List ZiChunk)

theorem putChunkTable_appends : d.Appends (d.putChunkTable order ziChunks) := by
  unfold putChunkTable
  dsimp only
  split
  next => exact List.prefix_refl _
  next =>
    split
    next => exact List.prefix_append _ _
    -- Of a table that does not fit, only the front is put out.
    next => exact List.prefix_append _ _

theorem putZiTable_appends : d.Appends (d.putZiTable order ziChunks) := by
  unfold putZiTable
  dsimp only
  split
  next => exact List.prefix_refl _
  next =>
    split
    next => exact List.prefix_append _ _
    next => exact List.prefix_refl _

theorem endHeader_appends : d.Appends d.endHeader := by
  unfold endHeader
  dsimp only
  split
  next => exact List.prefix_refl _
  next => exact List.prefix_refl _

theorem putBlob_appends (index : Nat) (c : Chunk) (p : Payload) :
    d.Appends (d.putBlob index c p) := by
  unfold putBlob
  dsimp only
  split
  next => exact List.prefix_refl _
  next =>
    split
    next => exact List.prefix_refl _
    next => exact List.prefix_append _ _

theorem putBlobs_appends (index : Nat) (blobs : List (Chunk × Payload)) :
    d.Appends (d.putBlobs index blobs) := by
  induction blobs generalizing d index with
  | nil => exact List.prefix_refl _
  | cons x rest ih =>
      rw [putBlobs_cons]
      exact (putBlob_appends d index x.1 x.2).bind fun e => ih e (index + 1)

theorem endImage_appends : d.Appends (d.endImage ziChunks) := by
  unfold endImage
  dsimp only
  split
  next => exact List.prefix_refl _
  next => exact List.prefix_refl _

end Steps

end Draft

namespace Builder

open Draft

variable {order : ByteOrder} {b : Builder} {payloads : List Payload}

/-- What is put out first stays at the front until the header is written again. -/
theorem layOut_starts_initial {setName : Bytes} (hb : Unwritten order setName b)
    (payloads : List Payload) :
    Header.encode order { setName := setName } <+: (settle (b.layOut payloads)).1.out := by
  obtain ⟨d, hput, hd⟩ := putHeader_blank_reaches hb
  rw [← hd.out_eq, layOut, hb.order_eq, hput]
  change d.Appends _
  refine (putChunkTable_appends d order b.ziChunks).bind fun d₁ => ?_
  refine (putZiTable_appends d₁ order b.ziChunks).bind fun d₂ => ?_
  refine (endHeader_appends d₂).bind fun d₃ => ?_
  have hblobs := putBlobs_appends (d₃.tell [.blobs]) 0 ((d₃.tell [.blobs]).chunks.zip payloads)
  exact Appends.bind (d := d₃) hblobs fun d₄ => endImage_appends d₄ b.ziChunks

/-- A writing that stops before the header is complete leaves what the first writing put out. -/
theorem out_of_compose_error {s : Stopped} (h : b.compose payloads = .error s) :
    s.draft.out = (settle (b.layOut payloads)).1.out := by
  unfold compose at h
  cases hlayOut : b.layOut payloads with
  | error stopped =>
      rw [hlayOut] at h
      cases h
      rfl
  | ok d =>
      rw [hlayOut] at h
      change d.setChecksum b.order >>= _ = _ at h
      cases hchecksum : d.setChecksum b.order with
      | error stopped =>
          rw [hchecksum] at h
          cases h
          unfold setChecksum at hchecksum
          split at hchecksum
          next =>
            cases hchecksum
            rfl
          next => cases hchecksum
      | ok e =>
          rw [hchecksum] at h
          change e.putHeader b.order = _ at h
          obtain ⟨_, _, hout⟩ := setChecksum_eq_ok hchecksum
          unfold putHeader at h
          dsimp only at h
          split at h
          next =>
            cases h
            exact hout
          next => cases h

/-- A complete output that is not signed yet is accepted under no key. -/
theorem verify_compose_ne_ok {setName : Bytes} (hb : Unwritten order setName b) {d : Draft}
    (h : b.compose payloads = .ok d) (k : PublicKey) : (Image.verify d.out (some k)).1 ≠ .ok := by
  intro haccepted
  obtain ⟨img, hverify⟩ := Image.exists_of_verify_fst_eq_ok haccepted
  have haccepts := (Image.verify_some_eq_ok_iff.mp hverify).2.accepts_signature
  obtain ⟨_, hsignature, _, hout⟩ := compose_eq_ok h
  have hempty : Image.signatureField d.out = zeros 96 := by
    rw [hout, Image.signatureField_encode, hsignature, hb.header_eq]
    exact fit_of_length_eq (length_zeros 96)
  have hsigned := Image.any_ne_zero_of_accepts haccepts
  rw [hempty] at hsigned
  exact absurd hsigned (by decide)

/-! ## Builders that additions of all kinds make -/

section Library

variable [KeyLibrary]

/-- The builders that additions make of a new one, accepted or refused, each from a store of its own. -/
inductive Gathered (order : ByteOrder) (setName : String) : Builder → Prop
  | new {b : Builder} (h : named order setName = .ok b) : Gathered order setName b
  | add {b : Builder} (hb : Gathered order setName b) (s : Store) (call : Call)
      (hcall : call.IsAddition) : Gathered order setName (Bench.perform ⟨b, s⟩ call).1.builder

namespace Gathered

variable {setName : String}

/-- Whether an addition is refused or not, its attempt leaves the header alone. -/
theorem unwritten (hb : Gathered order setName b) : Unwritten order (Utf8.encode setName) b := by
  induction hb with
  | new h =>
      obtain ⟨rfl, hshort⟩ := named_eq_ok h
      exact (Filled.empty hshort).toUnwritten
  | add _ s call hcall ih =>
      cases call with
      | addChunk => exact ih.queueChunk ..
      | addZiChunk => exact ih.queueZiChunk ..
      | addFile => exact ih.queueFile ..
      | addHexFile => exact ih.queueHexFile ..
      | write | writeWithKeyFile => exact hcall.elim

end Gathered

theorem Grown.gathered {setName : String} {calls : List Call} (hb : Grown order setName calls b) :
    Gathered order setName b := by
  induction hb with
  | new h => exact .new h
  | @chunk calls b next owner execAddr size crc32 payload _ h ih =>
      obtain ⟨_, rfl⟩ := Attempt.outcome_eq_ok_iff.mp h
      exact ih.add {} (.addChunk owner execAddr size crc32 payload) trivial
  | @ziChunk calls b next owner execAddr size _ h ih =>
      obtain ⟨_, rfl⟩ := Attempt.outcome_eq_ok_iff.mp h
      exact ih.add {} (.addZiChunk owner execAddr size) trivial

/-- No cut of what is put out before the header is complete is accepted, and neither is the file that
a fault leaves, under any key or without one, and no image is found in it, whatever was queued by whatever
additions. The complete output that is still to be signed is accepted under no key. -/
theorem interrupted_rejected {setName : String} (hb : Gathered order setName b) :
    (∀ n, Image.Rejected ((settle (b.layOut b.payloads)).1.out.take n)) ∧
      (∀ {s : Store} {path : String} {route : Route} {key : Option Key} {signer : Option PrivateKey},
        s.target path = .ok (.regular route) → signer? key = .ok signer →
          (b.write s path key).error ≠ none →
            ∃ file, (b.write s path key).store.read path = .ok file ∧ Image.Rejected file) ∧
      ∀ d, b.compose b.payloads = .ok d → ∀ k, (Image.verify d.out (some k)).1 ≠ .ok := by
  have hcut : ∀ n, Image.Rejected ((settle (b.layOut b.payloads)).1.out.take n) := fun n =>
    Image.rejected_take rfl (layOut_starts_initial hb.unwritten b.payloads) n
  refine ⟨hcut, ?_, fun d hd k => verify_compose_ne_ok hb.unwritten hd k⟩
  intro s path route key signer htarget hsigner herror
  rw [hb.unwritten.write_eq_writeTo hsigner htarget] at herror ⊢
  dsimp only [writeTo] at herror ⊢
  cases hfinish : b.finish b.payloads signer id with
  | ok d =>
      rw [hfinish] at herror
      exact absurd rfl herror
  | error stopped =>
      refine ⟨stopped.draft.out, Store.read_putFile htarget _, ?_⟩
      -- The whole of an output is one of its cuts.
      have hwhole := hcut stopped.draft.out.length
      rwa [← out_of_compose_error (compose_eq_error_of_finish hfinish), List.take_length] at hwhole

end Library

/-- Two items of four bytes each, which are queued as a chunk of two bytes. -/
def wideItems : List Call := [.addChunk 1 16 2 7 (some ⟨some [1, 2, 3, 4, 5, 6, 7, 8], 2⟩)]

/-- A new builder after the attempt to add four characters as a chunk of four bytes. -/
def withText : Builder :=
  (Bench.perform ⟨empty .big (Utf8.encode "demo"), {}⟩ (.addChunk 0 0 4 0 (some ⟨none, 4⟩))).1.builder

theorem interrupted_rejected_wide_items :
    (∃ b, Gathered .big "demo" b ∧
      (b.write {} "out.bin" none).error = some (.layout (.imageLength 566)) ∧
      ∃ file, (b.write {} "out.bin" none).store.read "out.bin" = .ok file ∧
        Image.Rejected file) ∧
      (Gathered .big "demo" withText ∧
        (withText.write {} "out.bin" none).error = some .unreadablePayload ∧
        ∃ file, (withText.write {} "out.bin" none).store.read "out.bin" = .ok file ∧
          Image.Rejected file) ∧
      ∃ b d, Gathered .big "demo" b ∧ b.compose b.payloads = .ok d ∧
        ∀ k, (Image.verify d.out (some k)).1 ≠ .ok := by
  refine ⟨?_, ?_, ?_⟩
  · have hgrown : ∃ b, Grown .big "demo" wideItems b ∧
        (settle (b.finish b.payloads none id)).2 = some (.layout (.imageLength 566)) :=
      ⟨_, .chunk (.new rfl) rfl, by decide +kernel⟩
    obtain ⟨b, hb, hstopped⟩ := hgrown
    have herror : (b.write {} "out.bin" none).error = some (.layout (.imageLength 566)) := by
      rw [hb.filled.write_eq_writeTo rfl target_out]
      exact hstopped
    obtain ⟨_, hleft, _⟩ := interrupted_rejected hb.gathered
    exact ⟨b, hb.gathered, herror, hleft target_out rfl (herror ▸ Option.some_ne_none _)⟩
  · have hnew : Gathered .big "demo" (empty .big (Utf8.encode "demo")) := .new rfl
    have hb : Gathered .big "demo" withText := hnew.add {} _ trivial
    have herror : (withText.write {} "out.bin" none).error = some .unreadablePayload := by
      decide +kernel
    obtain ⟨_, hleft, _⟩ := interrupted_rejected hb
    exact ⟨hb, herror, hleft target_out rfl (herror ▸ Option.some_ne_none _)⟩
  · obtain ⟨b, hb⟩ := exists_grown_twoRegions
    obtain ⟨d, hcompose, _⟩ := hb.compose_reaches twoRegions_plain
    obtain ⟨_, _, hunsigned⟩ := interrupted_rejected hb.gathered
    exact ⟨b, d, hb.gathered, hcompose, hunsigned d hcompose⟩

end Builder

end BootSeal
