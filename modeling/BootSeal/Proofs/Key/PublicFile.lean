import BootSeal.Proofs.Bytes.Field
import BootSeal.Proofs.Encoding.Der
import BootSeal.Proofs.Encoding.Pem
import BootSeal.Proofs.Key.Library
import BootSeal.Proofs.Store.ReadBack
/-!
# Public keys are loaded as they were given out

The structure of a point on the curve is read back to the point, and the file with that structure holds
nothing that could be taken for a private key. So the file of a public key gives the key, whatever
passphrase comes with it.
-/

namespace BootSeal

/-- Coordinates that fit their fields are read back from the uncompressed form of a point, if the point
lies on the curve. -/
theorem Curve.decodePoint?_encodePoint {c : Curve} {x y : Nat} (hx : x < fieldValues c.coordinateSize)
    (hy : y < fieldValues c.coordinateSize) :
    c.decodePoint? (c.encodePoint x y) = if c.OnCurve x y then some (.affine x y) else none := by
  have hfirst : (Bytes.ofNatBE c.coordinateSize x ++ Bytes.ofNatBE c.coordinateSize y).take
      c.coordinateSize = Bytes.ofNatBE c.coordinateSize x :=
    List.take_left' (Bytes.length_ofNatBE _ _)
  have hsecond : (Bytes.ofNatBE c.coordinateSize x ++ Bytes.ofNatBE c.coordinateSize y).drop
      c.coordinateSize = Bytes.ofNatBE c.coordinateSize y :=
    List.drop_left' (Bytes.length_ofNatBE _ _)
  have hlength : (Bytes.ofNatBE c.coordinateSize x ++ Bytes.ofNatBE c.coordinateSize y).length =
      2 * c.coordinateSize := by
    rw [List.length_append, Bytes.length_ofNatBE, Bytes.length_ofNatBE, Nat.two_mul]
  rw [encodePoint, List.cons_append, decodePoint?, if_pos rfl, hfirst, hsecond,
    Bytes.toNatBE_ofNatBE _ _ hx, Bytes.toNatBE_ofNatBE _ _ hy]
  simp only [hlength, true_and]

namespace PublicKey

variable {k : PublicKey}

theorem fits_of_lt (hx : k.x < Curve.p384.p) (hy : k.y < Curve.p384.p) : k.Fits := by
  have hfield : Curve.p384.p < fieldValues Curve.p384.coordinateSize := by
    rw [fieldValues_eq_pow]
    decide +kernel
  exact ⟨Nat.lt_trans hx hfield, Nat.lt_trans hy hfield⟩

theorem length_pointBytes (k : PublicKey) : k.pointBytes.length = 97 := by
  rw [pointBytes, Curve.encodePoint, List.length_append, List.length_cons, Bytes.length_ofNatBE,
    Bytes.length_ofNatBE]
  rfl

/-- The content of the algorithm: the kind of the key and the curve. -/
theorem p384Algorithm_eq :
    p384Algorithm = Der.element 0x30 (Der.identifier KeyMaterial.ecIdentifier
      ++ Der.identifier [1, 3, 132, 0, 34]) := by
  simp [p384Algorithm, Der.sequence]

theorem algorithm?_p384Algorithm (rest : Bytes) :
    KeyMaterial.algorithm? (p384Algorithm ++ rest) =
      some (⟨KeyMaterial.ecIdentifier, Der.identifier [1, 3, 132, 0, 34]⟩, rest) := by
  have hidentifier : Der.identifier? (Der.identifier KeyMaterial.ecIdentifier
      ++ Der.identifier [1, 3, 132, 0, 34]) =
      some (KeyMaterial.ecIdentifier, Der.identifier [1, 3, 132, 0, 34]) := by cbv
  rw [KeyMaterial.algorithm?, p384Algorithm_eq, Der.expect?_element (by decide) (by decide +kernel)]
  simp [hidentifier]

theorem fields?_toBytes (k : PublicKey) :
    KeyMaterial.ofPublicInfo.fields? k.toBytes =
      some (⟨KeyMaterial.ecIdentifier, Der.identifier [1, 3, 132, 0, 34]⟩, k.pointBytes) := by
  have hpoint : k.pointBytes.length < 127 := by
    rw [length_pointBytes]
    decide
  have hbits : (Der.bits k.pointBytes).length = 100 := by
    rw [Der.length_bits hpoint, length_pointBytes]
  have halgorithm : p384Algorithm.length = 18 := by decide +kernel
  have hparts : [p384Algorithm, Der.bits k.pointBytes].flatten =
      p384Algorithm ++ (Der.bits k.pointBytes ++ []) := by simp
  rw [KeyMaterial.ofPublicInfo.fields?, toBytes, Der.sequence, hparts,
    Der.only?_element (by decide) (by simp [hbits, halgorithm])]
  simp only [Option.bind_eq_bind, Option.bind_some, algorithm?_p384Algorithm, Der.bits?_bits hpoint]
  rfl

/-- The structure of a public key is read back if its point lies on the curve. -/
theorem ofPublicInfo_toBytes (h : k.Fits) :
    KeyMaterial.ofPublicInfo k.toBytes =
      if Curve.p384.OnCurve k.x k.y then .ok (.publicPoint Curve.p384 k.x k.y)
      else .error .unreadable := by
  have hparameters : KeyMaterial.curveParameters? (Der.identifier [1, 3, 132, 0, 34]) =
      some (.named [1, 3, 132, 0, 34]) := by cbv
  have hcurve : (KeyMaterial.CurveParameters.named [1, 3, 132, 0, 34]).curve = .ok Curve.p384 := rfl
  rw [KeyMaterial.ofPublicInfo, fields?_toBytes]
  dsimp only
  rw [if_pos rfl, hparameters]
  dsimp only
  rw [hcurve]
  dsimp only
  rw [pointBytes, Curve.decodePoint?_encodePoint h.1 h.2]
  by_cases hpoint : Curve.p384.OnCurve k.x k.y
  · rw [if_pos hpoint, if_pos hpoint]
  · rw [if_neg hpoint, if_neg hpoint]

theorem isLabel_publicLabel : Pem.IsLabel KeyFile.publicLabel :=
  ⟨by decide, by simp [KeyFile.publicLabel, Utf8.IsAscii], by decide⟩

theorem blocks?_toPem (k : PublicKey) :
    Pem.blocks? (Utf8.encode k.toPem) = some [⟨KeyFile.publicLabel, [], k.toBytes⟩] :=
  Pem.blocks?_render k.toBytes isLabel_publicLabel

end PublicKey

/-- The coordinates of a multiple are reduced, so the public half of any private key fits. -/
theorem PrivateKey.publicKey_fits (k : PrivateKey) : k.publicKey.Fits := by
  have hpos : 0 < Curve.p384.p := by decide
  unfold publicKey Curve.baseMultiple Curve.Jacobian.toPoint
  split
  next => exact PublicKey.fits_of_lt hpos hpos
  next x y heq =>
    split at heq
    next => cases heq
    next =>
      cases heq
      exact PublicKey.fits_of_lt (Nat.mod_lt _ hpos) (Nat.mod_lt _ hpos)

/-- The file of a public key has one block, and that is no private one. -/
theorem KeyLibrary.restores_standard : KeyLibrary.Restores where
  privateKey_toPem {k} _ passphrase := by
    change KeyFile.privateKey _ _ = _
    rw [KeyFile.privateKey, KeyFile.privateBlock?, k.blocks?_toPem]
    rfl
  publicKey_toPem {k} h hcurve := by
    change KeyFile.publicKey _ = _
    rw [KeyFile.publicKey, KeyFile.publicBlock?, k.blocks?_toPem]
    change KeyMaterial.ofPublicInfo k.toBytes = _
    rw [PublicKey.ofPublicInfo_toBytes h, if_pos hcurve]
  publicKey_offCurve {k} h hcurve := by
    change ∃ e, KeyFile.publicKey _ = _
    refine ⟨.unreadable, ?_⟩
    rw [KeyFile.publicKey, KeyFile.publicBlock?, k.blocks?_toPem]
    change KeyMaterial.ofPublicInfo k.toBytes = _
    rw [PublicKey.ofPublicInfo_toBytes h, if_neg hcurve]

namespace Key

/-- The file of a public key gives that key, if its point lies on the curve, or none at all. -/
theorem load_toPem_iff [KeyLibrary] (hlib : KeyLibrary.Restores) {k : PublicKey} {s : Store}
    {path : String} (h : k.Fits) (hread : s.read path = .ok (Utf8.encode k.toPem))
    (passphrase : Option Bytes) (key : Key) :
    load s path passphrase = .ok (some key) ↔
      key = .verifying k ∧ Curve.p384.OnCurve k.x k.y := by
  rw [load_of_read hread, ofFile, KeyFile.material, hlib.privateKey_toPem h]
  dsimp only
  by_cases hcurve : Curve.p384.OnCurve k.x k.y
  · rw [hlib.publicKey_toPem h hcurve]
    simp [Except.map, KeyMaterial.toKey, hcurve, eq_comm]
  · obtain ⟨e, he⟩ := hlib.publicKey_offCurve h hcurve
    simp [he, Except.map, hcurve]

end Key

end BootSeal
