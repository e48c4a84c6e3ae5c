import BootSeal.Proofs.Builder.Interrupted
import BootSeal.Proofs.Image.Binding
/-!
# What signing changes

Writing with a private key goes through the same steps as writing without one, and then once more over
the header. So the two files of one builder are the same but for the signature block, and the unsigned
one is the signed one with its block cleared. Where a writing stops, it stops before anything is signed.
-/

namespace BootSeal

open Bytes

/-- What starts with a header that is not signed has a cleared block. -/
theorem Image.unsigned_of_starts {order : ByteOrder} {h : Header} {out : Bytes}
    (hdigest : h.digest = zeros 48) (hsignature : h.signature = zeros 96)
    (hout : h.encode order <+: out) : headerSize ≤ out.length ∧ Image.unsigned out = out := by
  obtain ⟨rest, rfl⟩ := hout
  constructor
  · rw [List.length_append, Header.length_encode]
    omega
  · rw [unsigned_encode, Header.encode_eq_front_zeros order hdigest hsignature, List.append_assoc]

/-- Files that agree outside their blocks store one checksum. -/
theorem Image.AgreeOutsideBlock.storedCrc_eq {b b' : Bytes} (h : AgreeOutsideBlock b b')
    (order : ByteOrder) :
    (Header.decode order b').headerCrc = (Header.decode order b).headerCrc := by
  have hfield : b'.slice 16 20 = b.slice 16 20 := by
    refine slice_congr fun i _ hi => h.outside_eq i (Or.inl ?_)
    exact Nat.lt_of_lt_of_le hi (by decide)
  rw [Header.decode, Header.decode, hfield]

namespace Builder

open Draft

/-- Both outputs of a builder, the one that is to be signed and the one that is not. -/
theorem Unwritten.unsigned_finish [KeyLibrary] {order : ByteOrder} {setName : Bytes} {b : Builder}
    (hb : Unwritten order setName b) (k : PrivateKey) :
    let plain := settle (b.finish b.payloads none id)
    let signed := settle (b.finish b.payloads (some k) id)
    signed.2 = plain.2 ∧ headerSize ≤ signed.1.out.length ∧
      Image.unsigned signed.1.out = plain.1.out := by
  have hdigest : b.header.digest = zeros 48 := by rw [hb.header_eq]
  have hsignature : b.header.signature = zeros 96 := by rw [hb.header_eq]
  cases hcompose : b.compose b.payloads with
  | error stopped =>
      -- Nothing is signed then, and the first header is still at the front.
      have hplain : b.finish b.payloads none id = .error stopped := hcompose
      have hsigned : b.finish b.payloads (some k) id = .error stopped := by
        dsimp only [finish]
        rw [hcompose]
        rfl
      have hstarts := layOut_starts_initial hb b.payloads
      rw [← out_of_compose_error hcompose] at hstarts
      rw [hplain, hsigned]
      exact ⟨rfl, Image.unsigned_of_starts rfl rfl hstarts⟩
  | ok e =>
      have hplain : b.finish b.payloads none id = .ok e := hcompose
      cases hfinish : b.finish b.payloads (some k) id with
      | error stopped =>
          rw [compose_eq_error_of_finish hfinish] at hcompose
          cases hcompose
      | ok d =>
          have hsign : e.sign b.order k e.out = .ok d := by
            unfold finish at hfinish
            rwa [hcompose] at hfinish
          have hout := out_of_sign hcompose hsign
          rw [hplain]
          refine ⟨rfl, ?_, ?_⟩
          · dsimp only [settle]
            rw [hout, List.length_append, Header.length_encode]
            omega
          · dsimp only [settle]
            rw [hout]
            exact unsigned_of_compose hdigest hsignature hcompose _ _

/-- A builder that is written with a private key leaves the file that it leaves without a key, but for
the signature block, and it stops for the same error if it stops. Clearing the block undoes the signing. -/
theorem signing_changes_block_only [KeyLibrary] {order : ByteOrder} {setName : String} {calls : List Call}
    {b : Builder} (hb : Grown order setName calls b) (k : PrivateKey) {s s' : Store}
    {path path' : String} {route route' : Route} (htarget : s.target path = .ok (.regular route))
    (htarget' : s'.target path' = .ok (.regular route')) :
    let plain := b.write s path none
    let signed := b.write s' path' (some (.signing k))
    signed.error = plain.error ∧ (Call.Plain calls → plain.error = none) ∧
      ∃ file file', plain.store.read path = .ok file ∧ signed.store.read path' = .ok file' ∧
        Image.AgreeOutsideBlock file file' ∧
        (Header.decode order file').headerCrc = (Header.decode order file).headerCrc ∧
        file'.splice signatureOffset headerSize (zeros signatureBlockSize) = file := by
  obtain ⟨herror, hlength, hunsigned⟩ := hb.filled.unsigned_finish k
  intro plain signed
  have hplain : plain = b.writeTo s path (.regular route) b.payloads none :=
    hb.filled.write_eq_writeTo rfl htarget
  have hsigned : signed = b.writeTo s' path' (.regular route') b.payloads (some k) :=
    hb.filled.write_eq_writeTo (signer?_signing k) htarget'
  refine ⟨by rw [hplain, hsigned]; exact herror, fun h => (hb.write_eq h htarget).1, ?_⟩
  rw [hplain, hsigned]
  refine ⟨_, _, Store.read_putFile htarget _, Store.read_putFile htarget' _, ?_⟩
  have hzeros : (zeros signatureBlockSize).length = signatureBlockSize := length_zeros _
  have hcleared := Image.agreeOutsideBlock_splice hlength hzeros
  rw [← Image.unsigned, hunsigned] at hcleared
  have hagree := hcleared.symm
  exact ⟨hagree, hagree.storedCrc_eq order, hunsigned⟩

theorem signing_changes_block_only_two_regions :
    ∃ b file file', Grown .big "demo" twoRegions b ∧
      (b.write {} "out.bin" (some (.signing ⟨1⟩))).error = none ∧
      (b.write {} "out.bin" none).store.read "out.bin" = .ok file ∧
      (b.write {} "out.bin" (some (.signing ⟨1⟩))).store.read "out.bin" = .ok file' ∧
      Image.AgreeOutsideBlock file file' ∧ Image.unsigned file' = file := by
  obtain ⟨b, hb⟩ := exists_grown_twoRegions
  obtain ⟨herror, hwritten, file, file', hread, hread', hagree, _, hunsigned⟩ :=
    signing_changes_block_only hb ⟨1⟩ target_out target_out
  rw [hwritten twoRegions_plain] at herror
  exact ⟨b, file, file', hb, herror, hread, hread', hagree, hunsigned⟩

end Builder

end BootSeal
