import BootSeal.Proofs.Key.BlockContent
/-!
# What key files hold

Every private value that is read from a key file is a secret of one of the known curves: it is positive and
below the order of the curve's group. Only one of the known curves has the name of the curve for images,
so a private key that is loaded is a secret of that curve.
-/

namespace BootSeal

/-- Only one curve that a key file may name has the name of the curve for images. -/
theorem Curve.eq_p384_of_name {oid : List Nat} {c : Curve} (h : ofIdentifier? oid = some c)
    (hname : c.name = p384.name) : c = p384 := by
  have hmem : c ∈ named.map Prod.snd := by
    obtain ⟨rest, rest', heq, -⟩ := List.lookup_eq_some_iff.mp h
    rw [heq]
    simp
  simp only [named, List.map_cons, List.map_nil, List.mem_cons, List.not_mem_nil, or_false] at hmem
  rcases hmem with rfl | rfl | rfl | rfl | rfl | rfl
  · rfl
  · exact absurd hname (by decide)
  · exact absurd hname (by decide)
  · exact absurd hname (by decide)
  · exact absurd hname (by decide)
  · exact absurd hname (by decide)

namespace KeyMaterial

variable {m : KeyMaterial} {b : Bytes}

theorem CurveParameters.curve_eq_ok {p : CurveParameters} {c : Curve} (h : p.curve = .ok c) :
    ∃ oid, Curve.ofIdentifier? oid = some c := by
  unfold CurveParameters.curve at h
  split at h
  next oid =>
    split at h
    next heq =>
      cases h
      exact ⟨oid, heq⟩
    next => cases h
  next => cases h

theorem finish_inRange {f : EcFields} {p : CurveParameters} (h : ofEcPrivate.finish f p = .ok m) :
    m.InRange := by
  unfold ofEcPrivate.finish at h
  split at h
  next => cases h
  next c hcurve =>
    obtain ⟨⟨-, hpos, hlt, -⟩, hvalue⟩ := ite_error_eq_ok h
    cases hvalue
    exact ⟨CurveParameters.curve_eq_ok hcurve, hpos, hlt⟩

theorem ofEcPrivate_inRange {outer : Option CurveParameters} (h : ofEcPrivate outer b = .ok m) :
    m.InRange := by
  unfold ofEcPrivate at h
  split at h
  next => cases h
  next =>
    split at h
    next => cases h
    next =>
      split at h
      next => cases h
      next => exact finish_inRange h
      next => exact finish_inRange h
      next => exact finish_inRange (ite_error_eq_ok h).2

theorem ofRsaPrivate_inRange (h : ofRsaPrivate b = .ok m) : m.InRange := by
  unfold ofRsaPrivate at h
  split at h
  next =>
    cases h
    trivial
  next => cases h

theorem ofDsaPrivate_inRange (h : ofDsaPrivate b = .ok m) : m.InRange := by
  unfold ofDsaPrivate at h
  split at h
  next =>
    cases h
    trivial
  next => cases h

/-- A check with a key of another kind behind it gives only such a key. -/
theorem foreign_inRange {p : Prop} [Decidable p] {k : ForeignKey} {e : KeyError}
    (h : (if p then .ok (.foreign k) else .error e) = Except.ok m) : m.InRange := by
  obtain ⟨-, hforeign⟩ := ite_error_eq_ok h
  cases hforeign
  trivial

theorem ofPrivateInfo_inRange (h : ofPrivateInfo b = .ok m) : m.InRange := by
  unfold ofPrivateInfo at h
  split at h
  next => cases h
  next =>
    split at h
    next => cases h
    next =>
      split at h
      next =>
        split at h
        next => cases h
        next => exact ofEcPrivate_inRange h
      next =>
        split at h
        next => exact ofRsaPrivate_inRange (ite_error_eq_ok h).2
        next =>
          split at h
          next => exact foreign_inRange h
          next => exact foreign_inRange (ite_error_eq_ok h).2

theorem ofPublicInfo_inRange (h : ofPublicInfo b = .ok m) : m.InRange := by
  unfold ofPublicInfo at h
  split at h
  next => cases h
  next =>
    split at h
    next =>
      split at h
      next => cases h
      next =>
        split at h
        next => cases h
        next =>
          split at h
          next =>
            cases h
            trivial
          next => cases h
    next =>
      split at h
      next => exact foreign_inRange h
      next =>
        split at h
        next => exact foreign_inRange h
        next => exact foreign_inRange (ite_error_eq_ok h).2

end KeyMaterial

namespace KeyFile

open KeyMaterial

variable {b : Pem.Block} {passphrase : Option Bytes} {m : KeyMaterial}

theorem ofProtected_eq_ok {opened : Bytes → Except KeyError KeyMaterial}
    (h : ofProtected passphrase opened = .ok m) : ∃ p, opened p = .ok m := by
  unfold ofProtected at h
  split at h
  next => cases h
  next p _ =>
    refine ⟨p, ?_⟩
    cases hopened : opened p with
    | error e =>
        rw [hopened] at h
        cases h
    | ok m' =>
        rw [hopened] at h
        cases h
        rfl

theorem ofUnprotected_eq_ok {r : Except KeyError KeyMaterial}
    (h : ofUnprotected passphrase r = .ok m) : r = .ok m := by
  unfold ofUnprotected at h
  split at h
  next => cases h
  next =>
    split at h
    next => cases h
    next =>
      cases h
      rfl

theorem opening_inRange {k : ProtectedKey} {p : Bytes} (h : opening k p = .ok m) : m.InRange := by
  unfold opening at h
  split at h
  next => cases h
  next => exact ofPrivateInfo_inRange h

theorem OpenForm.read_inRange {form : OpenForm} {data : Bytes} (h : form.read data = .ok m) :
    m.InRange := by
  cases form with
  | info => exact ofPrivateInfo_inRange h
  | ec => exact ofEcPrivate_inRange h
  | rsa => exact ofRsaPrivate_inRange h
  | dsa => exact ofDsaPrivate_inRange h

theorem ofPrivateBlock_inRange (h : ofPrivateBlock b passphrase = .ok m) : m.InRange := by
  cases hkind : b.header? "Proc-Type" with
  | some kind =>
      -- A block that is encrypted as a whole is never opened.
      rw [ofPrivateBlock_whole hkind] at h
      split at h
      next =>
        obtain ⟨p, hopened⟩ := ofProtected_eq_ok h
        cases hopened
      next => cases h
  | none =>
      rw [ofPrivateBlock_structured hkind] at h
      split at h
      next => exact OpenForm.read_inRange (ofUnprotected_eq_ok h)
      next =>
        split at h
        next => cases h
        next =>
          obtain ⟨p, hopened⟩ := ofProtected_eq_ok h
          exact opening_inRange hopened

end KeyFile

/-- Whatever the standard library reads is in range. -/
theorem KeyLibrary.readsInRange_standard : KeyLibrary.ReadsInRange where
  privateKey_inRange {text passphrase m} h := by
    change KeyFile.privateKey text passphrase = _ at h
    unfold KeyFile.privateKey at h
    split at h
    next => cases h
    next => exact KeyFile.ofPrivateBlock_inRange h
  publicKey_inRange {text m} h := by
    change KeyFile.publicKey text = _ at h
    unfold KeyFile.publicKey at h
    split at h
    next => cases h
    next => exact KeyMaterial.ofPublicInfo_inRange h

/-- A private key comes of a secret of the curve for images. -/
theorem KeyMaterial.toKey_signing {m : KeyMaterial} {k : PrivateKey} (hm : m.InRange)
    (h : m.toKey = .ok (.signing k)) :
    m = .privateValue Curve.p384 k.secret ∧ 0 < k.secret ∧ k.secret < Curve.p384.order := by
  unfold toKey at h
  split at h
  next c value =>
    obtain ⟨hname, hkey⟩ := ite_error_eq_ok h
    cases hkey
    obtain ⟨⟨oid, hoid⟩, hpos, hlt⟩ := hm
    have hcurve := Curve.eq_p384_of_name hoid hname
    subst hcurve
    exact ⟨rfl, hpos, hlt⟩
  next =>
    obtain ⟨-, hkey⟩ := ite_error_eq_ok h
    cases hkey
  next => cases h

/-- Whatever file a private key is loaded from, it holds a secret of the curve for images. -/
theorem Key.load_signing [KeyLibrary] (hlib : KeyLibrary.ReadsInRange) {s : Store} {path : String}
    {passphrase : Option Bytes} {k : PrivateKey}
    (h : load s path passphrase = .ok (some (.signing k))) :
    (∃ text, s.read path = .ok text ∧
      KeyFile.material text passphrase = .ok (some (.privateValue Curve.p384 k.secret))) ∧
    0 < k.secret ∧ k.secret < Curve.p384.order := by
  obtain ⟨text, hread, hfile⟩ := exists_read_of_load h
  unfold ofFile at hfile
  split at hfile
  next => cases hfile
  next => cases hfile
  next m hmaterial =>
    obtain ⟨key, hkey, hsome⟩ := map_eq_ok hfile
    cases hsome
    obtain ⟨rfl, hsecret⟩ :=
      KeyMaterial.toKey_signing (KeyFile.material_inRange hlib hmaterial) hkey
    exact ⟨⟨text, hread, hmaterial⟩, hsecret⟩

end BootSeal
