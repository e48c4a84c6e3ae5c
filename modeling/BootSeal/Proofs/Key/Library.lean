import Mathlib
import BootSeal.Key.Export
import BootSeal.Key.File
import BootSeal.Proofs.Except
/-!
# What is relied on of a library of keys

A library of keys is not looked into. What is relied on is stated here in four laws: how a library treats
passphrases, what it reads from the files of public keys, and which numbers it takes for secrets and for
signatures. They are kept apart, since no result needs all of them. Results about keys hold of every library
that meets the laws they name, whatever else it does.
-/

namespace BootSeal

/-- What a text holds in the place of its private key. -/
inductive PrivateContent where
  /-- A private key that lies open. -/
  | plain (m : KeyMaterial)
  /-- A private key under a passphrase. -/
  | locked
  | absent

/-- What is given does not go together with what is there: a passphrase is missing, or there is one too
many. -/
def PrivateContent.Mismatched (c : PrivateContent) (passphrase : Option Bytes) : Prop :=
  c = .locked ∧ (passphrase = none ∨ passphrase = some []) ∨ (∃ m, c = .plain m) ∧ passphrase ≠ none

theorem PrivateContent.mismatched_none_iff {c : PrivateContent} : c.Mismatched none ↔ c = .locked := by
  simp [Mismatched]

theorem PrivateContent.mismatched_locked_iff {p : Bytes} : Mismatched .locked (some p) ↔ p = [] := by
  simp [Mismatched]

/-- A private value is a secret of a known curve. -/
def KeyMaterial.InRange : KeyMaterial → Prop
  | .privateValue c value => (∃ oid, Curve.ofIdentifier? oid = some c) ∧ 0 < value ∧ value < c.order
  | .publicPoint .. => True
  | .foreign _ => True

/-- Both coordinates have room in their fields. -/
def PublicKey.Fits (k : PublicKey) : Prop :=
  k.x < fieldValues Curve.p384.coordinateSize ∧ k.y < fieldValues Curve.p384.coordinateSize

variable [KeyLibrary]

namespace KeyLibrary

/-- A library guards what texts hold if a passphrase is at fault just where one is needed and missing, or
empty, and where one is given that nothing needs. -/
structure Guards (content : Bytes → PrivateContent) : Prop where
  privateKey_locked {text : Bytes} (h : content text = .locked) (passphrase : Option Bytes) :
    privateKey text passphrase = .error .passphrase ↔ passphrase = none ∨ passphrase = some []
  privateKey_plain {text : Bytes} {m : KeyMaterial} (h : content text = .plain m) :
    privateKey text none = .ok m
  privateKey_plain_some {text : Bytes} {m : KeyMaterial} (h : content text = .plain m) (p : Bytes) :
    privateKey text (some p) = .error .passphrase
  privateKey_absent {text : Bytes} (h : content text = .absent) (passphrase : Option Bytes) :
    ∃ e, privateKey text passphrase = .error (.key e)

/-- The file of a public key holds that key, if its point lies on the curve, and no private one. -/
structure Restores : Prop where
  privateKey_toPem {k : PublicKey} (h : k.Fits) (passphrase : Option Bytes) :
    privateKey (Utf8.encode k.toPem) passphrase = .error (.key .unreadable)
  publicKey_toPem {k : PublicKey} (h : k.Fits) (hcurve : Curve.p384.OnCurve k.x k.y) :
    publicKey (Utf8.encode k.toPem) = .ok (.publicPoint Curve.p384 k.x k.y)
  publicKey_offCurve {k : PublicKey} (h : k.Fits) (hcurve : ¬Curve.p384.OnCurve k.x k.y) :
    ∃ e, publicKey (Utf8.encode k.toPem) = .error e

/-- Every private value that is read is a secret of a curve. -/
structure ReadsInRange : Prop where
  privateKey_inRange {text : Bytes} {passphrase : Option Bytes} {m : KeyMaterial}
    (h : privateKey text passphrase = .ok m) : m.InRange
  publicKey_inRange {text : Bytes} {m : KeyMaterial} (h : publicKey text = .ok m) : m.InRange

/-- The numbers of every signature lie below the order of the curve's group. -/
structure SignsInRange : Prop where
  sign_lt (k : PrivateKey) (digest : Bytes) :
    (sign k digest).r < Curve.p384.order ∧ (sign k digest).s < Curve.p384.order

/-- A passphrase is at fault just if it does not go together with what the text holds. -/
theorem Guards.privateKey_eq_passphrase_iff {content : Bytes → PrivateContent} (hlib : Guards content)
    {text : Bytes} {passphrase : Option Bytes} :
    privateKey text passphrase = .error .passphrase ↔ (content text).Mismatched passphrase := by
  cases h : content text with
  | plain m =>
      cases passphrase with
      | none => simp [hlib.privateKey_plain h, PrivateContent.Mismatched]
      | some p => simp [hlib.privateKey_plain_some h, PrivateContent.Mismatched]
  | locked => simp [hlib.privateKey_locked h, PrivateContent.Mismatched]
  | absent =>
      obtain ⟨e, he⟩ := hlib.privateKey_absent h passphrase
      simp [he, PrivateContent.Mismatched]

end KeyLibrary

/-! ## Loading -/

open KeyLibrary

variable {text : Bytes} {passphrase : Option Bytes} {s : Store} {path : String}
  {content : Bytes → PrivateContent}

theorem KeyFile.material_eq_none_iff :
    material text passphrase = .ok none ↔
      KeyLibrary.privateKey text passphrase = .error .passphrase := by
  unfold material
  split
  next heq => simp [heq]
  next heq => simp [heq]
  next heq => simp [heq, map_some_ne_none]
  next heq => simp [heq]

/-- What is in range is all that is read, from either kind of block. -/
theorem KeyFile.material_inRange (hlib : ReadsInRange) {m : KeyMaterial}
    (h : material text passphrase = .ok (some m)) : m.InRange := by
  unfold material at h
  split at h
  next heq =>
    cases h
    exact hlib.privateKey_inRange heq
  next => cases h
  next =>
    obtain ⟨_, hpublic, heq⟩ := map_eq_ok h
    cases heq
    exact hlib.publicKey_inRange hpublic
  next => cases h

namespace Key

theorem ofFile_eq_none_iff :
    ofFile text passphrase = .ok none ↔
      KeyLibrary.privateKey text passphrase = .error .passphrase := by
  rw [← KeyFile.material_eq_none_iff]
  unfold ofFile
  split
  next heq => simp [heq]
  next heq => simp [heq]
  next heq => simp [heq, map_some_ne_none]

theorem load_of_read (hread : s.read path = .ok text) (passphrase : Option Bytes) (key : Option Key) :
    load s path passphrase = .ok key ↔ ofFile text passphrase = .ok key := by
  rw [load, hread]
  dsimp only
  cases ofFile text passphrase with
  | error e => simp
  | ok key' => simp

theorem exists_read_of_load {key : Option Key} (h : load s path passphrase = .ok key) :
    ∃ text, s.read path = .ok text ∧ ofFile text passphrase = .ok key := by
  cases hread : s.read path with
  | error e =>
      rw [load, hread] at h
      cases h
  | ok text => exact ⟨text, rfl, (load_of_read hread passphrase key).mp h⟩

/-- The file at a path holds a private key under a passphrase. -/
def LockedAt (content : Bytes → PrivateContent) (s : Store) (path : String) : Prop :=
  ∃ text, s.read path = .ok text ∧ content text = .locked

/-- Loading ends without a key and without a fault just if the passphrase does not go together with what
the file holds. -/
theorem load_eq_none_iff (hlib : Guards content) :
    load s path passphrase = .ok none ↔
      ∃ text, s.read path = .ok text ∧ (content text).Mismatched passphrase := by
  constructor
  · intro h
    obtain ⟨text, hread, hfile⟩ := exists_read_of_load h
    exact ⟨text, hread, hlib.privateKey_eq_passphrase_iff.mp (ofFile_eq_none_iff.mp hfile)⟩
  · rintro ⟨text, hread, hmismatched⟩
    rw [load_of_read hread, ofFile_eq_none_iff, hlib.privateKey_eq_passphrase_iff]
    exact hmismatched

/-- Without a passphrase this is so just for a locked file. -/
theorem load_none_eq_none_iff (hlib : Guards content) :
    load s path none = .ok none ↔ LockedAt content s path := by
  rw [load_eq_none_iff hlib]
  simp only [PrivateContent.mismatched_none_iff, LockedAt]

/-- What a locked file gives for a passphrase: no key just if the passphrase is empty. -/
theorem LockedAt.load_eq_none_iff (hlib : Guards content) (h : LockedAt content s path) (p : Bytes) :
    load s path (some p) = .ok none ↔ p = [] := by
  obtain ⟨text, hread, hlocked⟩ := h
  rw [load_of_read hread, ofFile_eq_none_iff, hlib.privateKey_eq_passphrase_iff, hlocked,
    PrivateContent.mismatched_locked_iff]

end Key

end BootSeal
