import Mathlib
import BootSeal.CommandLine.Action
import BootSeal.Proofs.Key.Library
/-!
# When a key file that is named gives no key

A key file that is named on a command line comes to nothing in two cases only: its name is empty, or
it is locked and the answer to the question for its passphrase is empty. In every other case there is
a key or the command fails.
-/

namespace BootSeal

theorem Utf8.encode_eq_nil_iff {text : String} : Utf8.encode text = [] ↔ text = "" := by
  constructor
  · intro h
    have hnil : text.toList = [] := by
      refine List.eq_nil_iff_forall_not_mem.mpr fun c hc => ?_
      exact String.utf8EncodeChar_ne_nil (List.flatMap_eq_nil_iff.mp h c hc)
    exact String.toList_eq_nil_iff.mp hnil
  · rintro rfl
    rfl

namespace CommandLine

variable {content : Bytes → PrivateContent} {s : Store} {keyPath : String} {answers : List String}

/-- The key file that is named is not used: its name is empty, or what it holds is locked and stays so. -/
def Withheld (content : Bytes → PrivateContent) (s : Store) (keyPath : String) (answers : List String) :
    Prop :=
  keyPath = "" ∨ Key.LockedAt content s keyPath ∧ answers.head? = some ""

theorem given?_some (h : keyPath ≠ "") : Request.given? (some keyPath) = some keyPath := by
  simp [Request.given?, h]

variable [KeyLibrary]

/-- The key file gives a key for the answers. -/
def Unlocks (s : Store) (keyPath : String) (answers : List String) (key : Key) : Prop :=
  (unlock s keyPath answers).result = .ok (some key)

theorem tryKey_eq_ok_iff {passphrase : Option Bytes} {key : Option Key} :
    tryKey s keyPath passphrase = .ok key ↔ Key.load s keyPath passphrase = .ok key := by
  unfold tryKey
  split
  next heq => simp [heq]
  next heq => simp [heq]
  next heq => simp [heq]
  next heq => simp [heq]
  next heq => simp [heq]

/-- Unlocking ends without a key and without a failure just for an empty answer. -/
theorem unlock_eq_none_iff (hlib : KeyLibrary.Guards content) :
    (unlock s keyPath answers).result = .ok none ↔
      Key.LockedAt content s keyPath ∧ answers.head? = some "" := by
  unfold unlock
  split
  next hlocked =>
    rw [tryKey_eq_ok_iff, Key.load_none_eq_none_iff hlib] at hlocked
    cases answers with
    | nil => simp
    | cons answer rest =>
        -- The second try is on the same file, and it gives no key only for an empty passphrase.
        dsimp only
        rw [tryKey_eq_ok_iff, hlocked.load_eq_none_iff hlib, Utf8.encode_eq_nil_iff]
        simp [hlocked]
  next hne =>
    constructor
    · intro h
      exact absurd h hne
    · rintro ⟨hlocked, _⟩
      exact absurd (tryKey_eq_ok_iff.mpr ((Key.load_none_eq_none_iff hlib).mpr hlocked)) hne

/-- No file has an empty name. -/
theorem unlock_empty : (unlock s "" answers).result = .error (.usage (.missingKey "")) := by
  have hread : s.read "" = .error (.missing "") := rfl
  have htry : tryKey s "" none = .error (.usage (.missingKey "")) := by
    rw [tryKey, Key.load, hread]
  unfold unlock
  rw [htry]

/-- A key that is named is dropped just if it is withheld. -/
theorem unlockNamed_eq_none_iff (hlib : KeyLibrary.Guards content) :
    (unlockNamed s (Request.given? (some keyPath)) answers).result = .ok none ↔
      Withheld content s keyPath answers := by
  -- An empty name counts as none at all.
  by_cases hempty : keyPath = ""
  · subst hempty
    exact ⟨fun _ => Or.inl rfl, fun _ => rfl⟩
  · rw [given?_some hempty, unlockNamed, unlock_eq_none_iff hlib, Withheld]
    exact ⟨Or.inr, fun h => h.resolve_left hempty⟩

theorem unlockNamed_eq_some_iff {key : Key} :
    (unlockNamed s (Request.given? (some keyPath)) answers).result = .ok (some key) ↔
      Unlocks s keyPath answers key := by
  by_cases hempty : keyPath = ""
  · subst hempty
    rw [Unlocks, unlock_empty]
    constructor
    · intro h
      cases h
    · intro h
      cases h
  · rw [given?_some hempty, unlockNamed, Unlocks]

theorem Withheld.not_unlocks (hlib : KeyLibrary.Guards content) (h : Withheld content s keyPath answers)
    (key : Key) : ¬Unlocks s keyPath answers key := by
  intro hkey
  rw [← unlockNamed_eq_none_iff hlib] at h
  rw [← unlockNamed_eq_some_iff, h] at hkey
  cases hkey

end CommandLine

end BootSeal
