import BootSeal.Proofs.Builder.Acceptance
import BootSeal.Proofs.CommandLine.Line
import BootSeal.Proofs.CommandLine.Unlocking
import BootSeal.Proofs.Image.Authenticity
import BootSeal.Proofs.Key.BlockContent
/-!
# Verifying with a key

A verification that names a key file succeeds for an image that is authentic under the key of the file,
and also, whatever the signature of the image, when the key file is withheld. This is so of every library
of keys that guards what key files hold.
-/

namespace BootSeal

namespace Image

theorem verifyFile_eq_ok_iff {s : Store} {path : String} {key : Option PublicKey}
    {r : Verdict × Option Image} :
    verifyFile s path key = .ok r ↔ ∃ b, s.read path = .ok b ∧ verify b key = r := by
  unfold verifyFile readFile
  cases hread : s.read path with
  | error e =>
      cases e with
      | missing p => simp
      | isDirectory p => simp
      | notDirectory p => simp
      | noSpace => simp
  | ok b => simp

end Image

namespace CommandLine

section Library

variable {content : Bytes → PrivateContent} {s : Store} {line : List String} {settings : List Setting}
  {keyPath image : String} {answers : List String} {entropy : Bytes}

/-- The image file passes the checks that need no key. -/
def Intact (s : Store) (image : String) : Prop :=
  ∃ img, Image.verifyFile s image none = .ok (.ok, some img)

/-- Under a key the image passes just if it passes without one and is authentic. -/
theorem verifyFile_some_iff {key : Key} :
    (∃ img, Image.verifyFile s image (some key.publicKey) = .ok (.ok, some img)) ↔
      Intact s image ∧ ∃ b, s.read image = .ok b ∧ Image.Authentic b key.publicKey := by
  simp only [Intact, Image.verifyFile_eq_ok_iff, Image.verify_some_eq_ok_iff]
  constructor
  · rintro ⟨img, b, hread, hplain, hauthentic⟩
    exact ⟨⟨img, b, hread, hplain⟩, b, hread, hauthentic⟩
  · rintro ⟨⟨img, b, hread, hplain⟩, b', hread', hauthentic⟩
    rw [hread] at hread'
    cases hread'
    exact ⟨img, b, hread, hplain, hauthentic⟩

theorem Action.tellVerdict_failure_eq_none_iff {isKeyed : Bool} {r : Verdict × Option Image} :
    (tellVerdict s isKeyed r).failure = none ↔ ∃ img, r = (.ok, some img) := by
  unfold tellVerdict
  split
  next img => exact ⟨fun _ => ⟨img, rfl⟩, fun _ => rfl⟩
  next v img? hne =>
    constructor
    · intro h
      cases h
    · rintro ⟨img, h⟩
      cases h
      exact absurd rfl (hne img rfl)

variable [KeyLibrary]

/-- The key file gives a key, and the image file is authentic under it. -/
def Validated (s : Store) (keyPath : String) (answers : List String) (image : String) : Prop :=
  ∃ key b, Unlocks s keyPath answers key ∧ s.read image = .ok b ∧ Image.Authentic b key.publicKey

theorem Action.verify_failure_eq_none_iff {path : Option String} :
    (verify s image path answers).failure = none ↔
      ∃ key img, (unlockNamed s path answers).result = .ok key ∧
        Image.verifyFile s image (key.map Key.publicKey) = .ok (.ok, some img) := by
  unfold verify
  dsimp only
  cases (unlockNamed s path answers).result with
  | error f => simp [fail, after]
  | ok key =>
      dsimp only
      cases hfile : Image.verifyFile s image (key.map Key.publicKey) with
      | error e =>
          cases e with
          | missing path => simp [fail, after, hfile]
          | unreadable e => simp [fail, after, hfile]
      | ok r =>
          dsimp only [after]
          rw [tellVerdict_failure_eq_none_iff]
          simp [hfile]

/-- The two ways in which a verification that names a key file succeeds. -/
theorem verify_status_eq_zero_iff (hlib : KeyLibrary.Guards content)
    (h : Asks s line .verify settings image) (hkey : Setting.key? settings = some keyPath) :
    (run s line answers entropy).status = 0 ↔
      Intact s image ∧ (Withheld content s keyPath answers ∨ Validated s keyPath answers image) := by
  rw [h.status_eq_zero_iff]
  change (Action.verify s image (Request.given? (Setting.key? settings)) answers).failure = none ↔ _
  rw [hkey, Action.verify_failure_eq_none_iff]
  constructor
  · rintro ⟨key, img, hresult, haccepted⟩
    cases key with
    | none => exact ⟨⟨img, haccepted⟩, Or.inl ((unlockNamed_eq_none_iff hlib).mp hresult)⟩
    | some key =>
        obtain ⟨hintact, b, hread, hauthentic⟩ := verifyFile_some_iff.mp ⟨img, haccepted⟩
        exact ⟨hintact, Or.inr ⟨key, b, unlockNamed_eq_some_iff.mp hresult, hread, hauthentic⟩⟩
  · rintro ⟨hintact, hwithheld | ⟨key, b, hunlocks, hread, hauthentic⟩⟩
    · obtain ⟨img, haccepted⟩ := hintact
      exact ⟨none, img, (unlockNamed_eq_none_iff hlib).mpr hwithheld, haccepted⟩
    · obtain ⟨img, haccepted⟩ := verifyFile_some_iff.mpr ⟨hintact, b, hread, hauthentic⟩
      exact ⟨some key, img, unlockNamed_eq_some_iff.mpr hunlocks, haccepted⟩

theorem Withheld.not_validated (hlib : KeyLibrary.Guards content)
    (h : Withheld content s keyPath answers) : ¬Validated s keyPath answers image := by
  rintro ⟨key, _, hunlocks, _⟩
  exact h.not_unlocks hlib key hunlocks

/-- A verification that names a key file is sound as long as the key file is not withheld: it
succeeds just if the image is intact and validated under the key of the file. When the key file is
withheld, nothing is validated, and it succeeds on the checks that need no key. -/
theorem verify_sound_unless_withheld (hlib : KeyLibrary.Guards content)
    (h : Asks s line .verify settings image) (hkey : Setting.key? settings = some keyPath) :
    (¬Withheld content s keyPath answers →
      ((run s line answers entropy).status = 0 ↔
        Intact s image ∧ Validated s keyPath answers image)) ∧
    (Withheld content s keyPath answers →
      ¬Validated s keyPath answers image ∧
        ((run s line answers entropy).status = 0 ↔ Intact s image)) := by
  rw [verify_status_eq_zero_iff hlib h hkey]
  constructor
  · intro hnot
    constructor
    · rintro ⟨hintact, hwithheld | hvalidated⟩
      · exact absurd hwithheld hnot
      · exact ⟨hintact, hvalidated⟩
    · rintro ⟨hintact, hvalidated⟩
      exact ⟨hintact, Or.inr hvalidated⟩
  · intro hwithheld
    exact ⟨hwithheld.not_validated hlib, fun hstatus => hstatus.1,
      fun hintact => ⟨hintact, Or.inl hwithheld⟩⟩

end Library

/-! ## A locked key file -/

/-- A locked key file beside an image that nobody signed. -/
def lockedStore : Store where
  files := [(["k"], KeyFile.lockedFile),
    (["img"], Builder.plannedFile .big "demo" Builder.twoRegions)]

theorem read_two_files (a b : Bytes) :
    Store.read { files := [(["k"], a), (["img"], b)] } "k" = .ok a ∧
      Store.read { files := [(["k"], a), (["img"], b)] } "img" = .ok b := by
  constructor
  · cbv
  · cbv

theorem lockedStore_lockedAt : Key.LockedAt KeyFile.content lockedStore "k" :=
  ⟨KeyFile.lockedFile, (read_two_files _ _).1, KeyFile.content_lockedFile⟩

theorem lockedStore_withheld : Withheld KeyFile.content lockedStore "k" [""] :=
  Or.inr ⟨lockedStore_lockedAt, rfl⟩

theorem lockedStore_intact : Intact lockedStore "img" := by
  obtain ⟨b, hb⟩ := Builder.exists_grown_twoRegions
  obtain ⟨_, hverify⟩ := hb.read_plannedFile Builder.twoRegions_plain
  rw [if_neg (by decide)] at hverify
  exact ⟨_, Image.verifyFile_eq_ok_iff.mpr ⟨_, (read_two_files _ _).2, hverify⟩⟩

theorem asks_verify_img :
    Asks lockedStore ["verify", "-k", "k", "img"] .verify [.key "k"] "img" :=
  asks_keyed (Or.inl rfl) "k" (by rfl)

/-- An empty answer to the question for the passphrase, and the image passes without a signature. -/
theorem verify_accepts_unsigned_when_locked :
    Asks lockedStore ["verify", "-k", "k", "img"] .verify [.key "k"] "img" ∧
      (run lockedStore ["verify", "-k", "k", "img"] [""] []).status = 0 ∧
      ¬Validated lockedStore "k" [""] "img" := by
  refine ⟨asks_verify_img, ?_, lockedStore_withheld.not_validated KeyLibrary.guards_standard⟩
  exact (verify_status_eq_zero_iff KeyLibrary.guards_standard asks_verify_img rfl).mpr
    ⟨lockedStore_intact, Or.inl lockedStore_withheld⟩

/-- Nobody answers, or the answer is empty: the same command line is refused and accepted. -/
theorem verify_sound_unless_withheld_img :
    KeyLibrary.Guards KeyFile.content ∧
      (run lockedStore ["verify", "-k", "k", "img"] [] []).status ≠ 0 ∧
      (run lockedStore ["verify", "-k", "k", "img"] [""] []).status = 0 := by
  refine ⟨KeyLibrary.guards_standard, ?_, ?_⟩
  · intro hstatus
    have hnot : ¬Withheld KeyFile.content lockedStore "k" [] := by
      rintro (hname | ⟨_, hanswer⟩)
      · exact absurd hname (by decide)
      · cases hanswer
    obtain ⟨_, key, _, hunlocks, _⟩ :=
      ((verify_sound_unless_withheld KeyLibrary.guards_standard asks_verify_img rfl).1 hnot).mp hstatus
    have hlocked := (Key.load_none_eq_none_iff KeyLibrary.guards_standard).mpr lockedStore_lockedAt
    unfold Unlocks unlock at hunlocks
    rw [tryKey_eq_ok_iff.mpr hlocked] at hunlocks
    cases hunlocks
  · exact ((verify_sound_unless_withheld KeyLibrary.guards_standard asks_verify_img rfl).2
      lockedStore_withheld).2.mpr lockedStore_intact

end CommandLine

end BootSeal
