import BootSeal.Proofs.Builder.Additions
import BootSeal.Proofs.Builder.SignedAcceptance
import BootSeal.Proofs.CommandLine.Verification
import BootSeal.Proofs.Key.Passphrase
/-!
# What becomes of a key that is named

A command that makes or shows something with a key does so whenever it succeeds, unless the key file
was withheld. Only the listing of a private key never succeeds then.
-/

namespace BootSeal.CommandLine

section Library

variable {content : Bytes → PrivateContent} {s : Store} {line : List String} {c : Command}
  {settings : List Setting} {keyPath argument : String} {answers : List String} {entropy : Bytes}

/-- Content was shown, or it was written to the file that is set. -/
def GivenOut (s : Store) (o : Outcome) (content : Bytes) : Option String → Prop
  | none => o.output = content
  | some path => s.write path content = .ok o.store

namespace Action

theorem giveOut_givenOut {path : Option String} {content : Bytes}
    (h : (giveOut s path content).failure = none) (called : Option (String × Command))
    (verbosity : Nat) (prompts : List String) :
    GivenOut s (.ofAction called verbosity ((giveOut s path content).after prompts)) content
      path := by
  cases path with
  | none => rfl
  | some path =>
      unfold giveOut at h ⊢
      dsimp only at h ⊢
      cases hwrite : s.write path content with
      | error e =>
          rw [hwrite] at h
          cases h
      | ok next => exact hwrite

theorem privateBytes_signing (k : PrivateKey) (format : PrivateFormat) :
    (Key.signing k).privateBytes false (some format.name) = .ok (k.toBytes format) := by
  have hname : PrivateFormat.ofName? (some format.name) = some format := by
    cases format with
    | pkcs8 => rfl
    | openssl => rfl
  rw [Key.privateBytes, if_neg Bool.false_ne_true, hname]

theorem assemble_eq_ok {r : CreateRequest} {b : Builder} (h : assemble s r = .ok b) :
    ∃ new, Builder.named r.order r.setName = .ok new ∧ new.addAll s r.additions = .ok b := by
  unfold assemble at h
  split at h
  next => cases h
  next new hnew => exact ⟨new, hnew, h⟩

/-- An image that is assembled has an empty signature block. -/
theorem assemble_header {r : CreateRequest} {b : Builder} (h : assemble s r = .ok b) :
    b.header.digest = Bytes.zeros 48 ∧ b.header.signature = Bytes.zeros 96 := by
  obtain ⟨new, hnew, hadded⟩ := assemble_eq_ok h
  have hgrown : Builder.HasGrown r.order r.setName new := ⟨[], .new hnew⟩
  obtain ⟨calls, hb⟩ := hgrown.addAll hadded
  rw [hb.filled.header_eq]
  exact ⟨rfl, rfl⟩

end Action

variable [KeyLibrary]

/-- What a command has done with a key, for the settings and the argument of its line. -/
inductive UsesKey (s : Store) (o : Outcome) (settings : List Setting) (argument : String) :
    Command → Key → Prop
  | create {k : PrivateKey} {file : Bytes} (hread : o.store.read argument = .ok file)
      (hsigned : Image.SignedBy file k) : UsesKey s o settings argument .create (.signing k)
  | publicKey {key : Key}
      (hgiven : GivenOut s o (Action.publicContent key.publicKey (Setting.publicForm settings))
        (Request.given? (Setting.output? settings))) :
      UsesKey s o settings argument .publicKey key
  | fingerprint {key : Key}
      (hgiven : GivenOut s o
        (Action.fingerprintContent key.publicKey (Setting.publicForm settings))
        (Request.given? (Setting.output? settings))) :
      UsesKey s o settings argument .fingerprint key
  | privateKey {k : PrivateKey}
      (hshown : o.output =
        Utf8.encode (Listing.ofPrivateBytes (k.toBytes (Setting.privateFormat settings)))) :
      UsesKey s o settings argument .privateKey (.signing k)

def keyCommands : List Command := [.create, .publicKey, .fingerprint, .privateKey]

namespace Action

theorem withKey_eq_none {path : String} {locked : Action} {use : Key → Action}
    (h : (withKey s path answers locked use).failure = none) :
    ((unlock s path answers).result = .ok none ∧ locked.failure = none) ∨
      ∃ key, Unlocks s path answers key ∧ (use key).failure = none ∧
        withKey s path answers locked use = (use key).after (unlock s path answers).prompts := by
  unfold withKey at h ⊢
  dsimp only at h ⊢
  unfold Unlocks
  cases hresult : (unlock s path answers).result with
  | error f =>
      rw [hresult] at h
      cases h
  | ok key =>
      rw [hresult] at h
      cases key with
      | none => exact Or.inl ⟨rfl, h⟩
      | some key => exact Or.inr ⟨key, rfl, h, rfl⟩

/-- A command that gives something out has done so, or its key file stayed locked. -/
theorem withKey_giveOut (hlib : KeyLibrary.Guards content) {path : String} {output : Option String}
    {given : Key → Bytes}
    (h : (withKey s path answers (print s lockedNote) fun key =>
      giveOut s output (given key)).failure = none)
    (called : Option (String × Command)) (verbosity : Nat) :
    Withheld content s path answers ∨ ∃ key, Unlocks s path answers key ∧
      GivenOut s (.ofAction called verbosity (withKey s path answers (print s lockedNote) fun key =>
        giveOut s output (given key))) (given key) output := by
  rcases withKey_eq_none h with ⟨hnone, _⟩ | ⟨key, hunlocks, hgiven, heq⟩
  · exact Or.inl (Or.inr ((unlock_eq_none_iff hlib).mp hnone))
  · rw [heq]
    exact Or.inr ⟨key, hunlocks, giveOut_givenOut hgiven called verbosity _⟩

/-- The listing of a private key is never told from a key file that stays locked. -/
theorem privateKey_eq_none {path : String} {format : PrivateFormat}
    (h : (privateKey s path format answers).failure = none) :
    ∃ k, Unlocks s path answers (.signing k) ∧
      (privateKey s path format answers).output =
        Utf8.encode (Listing.ofPrivateBytes (k.toBytes format)) := by
  unfold privateKey at h ⊢
  rcases withKey_eq_none h with ⟨_, hlocked⟩ | ⟨key, hunlocks, hshown, heq⟩
  · cases hlocked
  · rw [heq]
    cases key with
    | signing k =>
        refine ⟨k, hunlocks, ?_⟩
        rw [privateBytes_signing]
        dsimp only [after, print]
    | verifying k =>
        dsimp only [Key.privateBytes] at hshown
        cases hshown

theorem writeImage_eq_none {outfile : String} {b : Builder} {key : Option Key}
    (h : (writeImage s outfile b key).failure = none) :
    (b.write s outfile key).error = none ∧
      (writeImage s outfile b key).store = (b.write s outfile key).store := by
  unfold writeImage at h ⊢
  dsimp only at h ⊢
  cases herror : (b.write s outfile key).error with
  | some e =>
      rw [herror] at h
      cases h
  | none => exact ⟨rfl, rfl⟩

/-- A writing with a key that ended well was one with a private key, and its file is signed. -/
theorem writeImage_some_eq_none {outfile : String} {b : Builder} {key : Key}
    (hdigest : b.header.digest = Bytes.zeros 48) (hsignature : b.header.signature = Bytes.zeros 96)
    (h : (writeImage s outfile b (some key)).failure = none) :
    ∃ k file, key = .signing k ∧
      (writeImage s outfile b (some key)).store.read outfile = .ok file ∧
      Image.SignedBy file k := by
  obtain ⟨herror, hstore⟩ := writeImage_eq_none h
  cases key with
  | signing k =>
      obtain ⟨file, hread, hsigned⟩ := Builder.write_signed hdigest hsignature herror
      rw [← hstore] at hread
      exact ⟨k, file, rfl, hread, hsigned⟩
  | verifying k =>
      obtain ⟨signer, hsigner⟩ := Builder.exists_signer_of_write herror
      cases hsigner

theorem create_eq_none {r : CreateRequest} (h : (create s r answers).failure = none) :
    ∃ b key, assemble s r = .ok b ∧ (unlockNamed s r.key answers).result = .ok key ∧
      (writeImage s r.outfile b key).failure = none ∧
      (create s r answers).store = (writeImage s r.outfile b key).store := by
  unfold create at h ⊢
  dsimp only at h ⊢
  cases hassemble : assemble s r with
  | error e =>
      rw [hassemble] at h
      cases h
  | ok b =>
      rw [hassemble] at h
      dsimp only at h ⊢
      cases hresult : (unlockNamed s r.key answers).result with
      | error f =>
          rw [hresult] at h
          cases h
      | ok key =>
          rw [hresult] at h
          exact ⟨b, key, rfl, rfl, h, rfl⟩

/-- A creation goes on with what the key file gives. -/
theorem create_of_result {r : CreateRequest} {b : Builder} {key : Option Key}
    (hassemble : assemble s r = .ok b) (hresult : (unlockNamed s r.key answers).result = .ok key)
    (herror : (b.write s r.outfile key).error = none) :
    (create s r answers).failure = none ∧
      (create s r answers).store = (b.write s r.outfile key).store := by
  unfold create writeImage
  dsimp only
  rw [hassemble]
  dsimp only
  rw [hresult]
  dsimp only
  rw [herror]
  exact ⟨rfl, rfl⟩

end Action

/-! ## Commands -/

/-- A key command that succeeds had its key file withheld, or it has used the key. -/
theorem withheld_or_usesKey (hlib : KeyLibrary.Guards content) (hc : c ∈ keyCommands)
    (h : Asks s line c settings argument) (hkey : Setting.key? settings = some keyPath)
    (hstatus : (run s line answers entropy).status = 0) :
    Withheld content s keyPath answers ∨
      ∃ key, Unlocks s keyPath answers key ∧
        UsesKey s (run s line answers entropy) settings argument c key := by
  rw [h.status_eq_zero_iff] at hstatus
  obtain ⟨name, verbosity, hrun⟩ := h.run_eq answers entropy
  rw [hrun]
  simp only [keyCommands, List.mem_cons, List.not_mem_nil, or_false] at hc
  rcases hc with rfl | rfl | rfl | rfl
  · obtain ⟨b, key, hassemble, hresult, hwritten, hstore⟩ := Action.create_eq_none hstatus
    rw [show (Request.ofCreateSettings settings argument).key =
      Request.given? (Setting.key? settings) from rfl, hkey] at hresult
    cases key with
    | none => exact Or.inl ((unlockNamed_eq_none_iff hlib).mp hresult)
    | some key =>
        obtain ⟨hdigest, hsignature⟩ := Action.assemble_header hassemble
        obtain ⟨k, file, rfl, hread, hsigned⟩ :=
          Action.writeImage_some_eq_none hdigest hsignature hwritten
        rw [← hstore] at hread
        exact Or.inr ⟨_, unlockNamed_eq_some_iff.mp hresult, .create hread hsigned⟩
  -- The other commands take the path as it is set, an empty one too.
  all_goals obtain rfl : (Setting.key? settings).getD "" = keyPath := by rw [hkey, Option.getD_some]
  · rcases Action.withKey_giveOut hlib hstatus (some (name, .publicKey)) verbosity with
      hwithheld | ⟨key, hunlocks, hgiven⟩
    · exact Or.inl hwithheld
    · exact Or.inr ⟨key, hunlocks, .publicKey hgiven⟩
  · rcases Action.withKey_giveOut hlib hstatus (some (name, .fingerprint)) verbosity with
      hwithheld | ⟨key, hunlocks, hgiven⟩
    · exact Or.inl hwithheld
    · exact Or.inr ⟨key, hunlocks, .fingerprint hgiven⟩
  · obtain ⟨k, hunlocks, hshown⟩ := Action.privateKey_eq_none hstatus
    exact Or.inr ⟨_, hunlocks, .privateKey hshown⟩

/-- A creation succeeds as the writing does with the key that the key file gives, or without one. -/
theorem create_of_unlockNamed {b : Builder} {key : Option Key}
    (h : Asks s line .create settings argument) (hkey : Setting.key? settings = some keyPath)
    (hresult : (unlockNamed s (Request.given? (some keyPath)) answers).result = .ok key)
    (hassemble : Action.assemble s (Request.ofCreateSettings settings argument) = .ok b)
    (herror : (b.write s argument key).error = none) :
    (run s line answers entropy).status = 0 ∧
      (run s line answers entropy).store = (b.write s argument key).store := by
  obtain ⟨name, verbosity, hrun⟩ := h.run_eq answers entropy
  rw [← hkey] at hresult
  obtain ⟨hfailure, hstore⟩ := Action.create_of_result hassemble hresult herror
  exact ⟨h.status_eq_zero_iff.mpr hfailure, by rw [hrun]; exact hstore⟩

/-- A key command that succeeds has used the key in the file that it names, unless the key file was
withheld. The listing of a private key does not succeed then. -/
theorem key_used_unless_withheld (hlib : KeyLibrary.Guards content) (hc : c ∈ keyCommands)
    (h : Asks s line c settings argument) (hkey : Setting.key? settings = some keyPath)
    (hstatus : (run s line answers entropy).status = 0) :
    ((∃ key, Unlocks s keyPath answers key ∧
        UsesKey s (run s line answers entropy) settings argument c key) ↔
      ¬Withheld content s keyPath answers) ∧
    (c = .privateKey → ¬Withheld content s keyPath answers) := by
  refine ⟨⟨?_, ?_⟩, ?_⟩
  · rintro ⟨key, hunlocks, _⟩ hwithheld
    exact hwithheld.not_unlocks hlib key hunlocks
  · intro hnot
    exact (withheld_or_usesKey hlib hc h hkey hstatus).resolve_left hnot
  · rintro rfl hwithheld
    obtain ⟨k, hunlocks, _⟩ := Action.privateKey_eq_none (h.status_eq_zero_iff.mp hstatus)
    rw [hkey, Option.getD_some] at hunlocks
    exact hwithheld.not_unlocks hlib _ hunlocks

end Library

/-! ## A creation with a locked key file, and with an open one -/

theorem target_beside_two_files (a b : Bytes) :
    Store.target { files := [(["k"], a), (["img"], b)] } "out.bin" =
      .ok (.regular ["out.bin"]) := by
  cbv

theorem grown_nothing : Builder.Grown .little "" [] (Builder.empty .little []) := .new rfl

theorem plain_nothing : Builder.Call.Plain [] := ⟨by decide, by decide⟩

theorem assemble_nothing (s : Store) (keyPath outfile : String) :
    Action.assemble s (Request.ofCreateSettings [.key keyPath] outfile) =
      .ok (Builder.empty .little []) := by
  rfl

theorem asks_create_out (s : Store) :
    Asks s ["create", "-k", "k", "out.bin"] .create [.key "k"] "out.bin" :=
  asks_keyed (Or.inr rfl) "k" (by rfl)

theorem create_locked :
    (run lockedStore ["create", "-k", "k", "out.bin"] [""] []).status = 0 ∧
      (run lockedStore ["create", "-k", "k", "out.bin"] [""] []).store.read "out.bin" =
        .ok (Builder.plannedFile .little "" []) := by
  have htarget : lockedStore.target "out.bin" = .ok (.regular ["out.bin"]) :=
    target_beside_two_files _ _
  have hnone := (unlockNamed_eq_none_iff KeyLibrary.guards_standard).mpr lockedStore_withheld
  obtain ⟨herror, hstore, _⟩ := grown_nothing.write_eq plain_nothing htarget
  obtain ⟨hstatus, hcreated⟩ := create_of_unlockNamed (asks_create_out lockedStore) rfl
    hnone (assemble_nothing _ _ _) herror
  refine ⟨hstatus, ?_⟩
  rw [hcreated, hstore]
  exact Store.read_putFile htarget _

/-- A file that is written without a key has an empty signature block. -/
theorem plannedFile_unsigned (order : ByteOrder) (setName : String) (calls : List Builder.Call) :
    Image.digestField (Builder.plannedFile order setName calls) = Bytes.zeros digestSize ∧
      Image.signatureField (Builder.plannedFile order setName calls) =
        Bytes.zeros signatureSize := by
  unfold Builder.plannedFile
  rw [Image.encode_eq_body, Image.digestField_encode, Image.signatureField_encode]
  exact ⟨Bytes.fit_of_length_eq (Bytes.length_zeros 48),
    Bytes.fit_of_length_eq (Bytes.length_zeros 96)⟩

/-- The creation ends well, and neither a digest nor a signature is in the file. -/
theorem create_unsigned_when_locked :
    Asks lockedStore ["create", "-k", "k", "out.bin"] .create [.key "k"] "out.bin" ∧
      (run lockedStore ["create", "-k", "k", "out.bin"] [""] []).status = 0 ∧
      (¬∃ key, Unlocks lockedStore "k" [""] key) ∧
      ∃ file, (run lockedStore ["create", "-k", "k", "out.bin"] [""] []).store.read "out.bin" =
          .ok file ∧
        Image.digestField file = Bytes.zeros digestSize ∧
        Image.signatureField file = Bytes.zeros signatureSize := by
  obtain ⟨hstatus, hread⟩ := create_locked
  refine ⟨asks_create_out lockedStore, hstatus, ?_, _, hread, plannedFile_unsigned .little "" []⟩
  rintro ⟨key, hunlocks⟩
  exact lockedStore_withheld.not_unlocks KeyLibrary.guards_standard key hunlocks

/-- A key file that lies open. -/
def openStore : Store where
  files := [(["k"], Key.openFile), (["img"], [])]

theorem openStore_unlocks : Unlocks openStore "k" [] (.signing ⟨1⟩) := by
  have hread : openStore.read "k" = .ok Key.openFile := (read_two_files _ _).1
  have hload : Key.load openStore "k" none = .ok (some (.signing ⟨1⟩)) :=
    Key.load_plain KeyLibrary.guards_standard hread Key.content_openFile none
  unfold Unlocks unlock
  rw [tryKey_eq_ok_iff.mpr hload]

theorem create_open : (run openStore ["create", "-k", "k", "out.bin"] [] []).status = 0 := by
  have htarget : openStore.target "out.bin" = .ok (.regular ["out.bin"]) :=
    target_beside_two_files _ _
  exact (create_of_unlockNamed (asks_create_out openStore) rfl
    (unlockNamed_eq_some_iff.mpr openStore_unlocks) (assemble_nothing _ _ _)
    (grown_nothing.write_signing_ok plain_nothing htarget).1).1

/-- The locked key is not used, and the open one is. -/
theorem key_used_unless_withheld_out :
    KeyLibrary.Guards KeyFile.content ∧
      (run lockedStore ["create", "-k", "k", "out.bin"] [""] []).status = 0 ∧
      (¬∃ key, Unlocks lockedStore "k" [""] key ∧
        UsesKey lockedStore (run lockedStore ["create", "-k", "k", "out.bin"] [""] [])
          [.key "k"] "out.bin" .create key) ∧
      (run openStore ["create", "-k", "k", "out.bin"] [] []).status = 0 ∧
      ∃ key, Unlocks openStore "k" [] key ∧
        UsesKey openStore (run openStore ["create", "-k", "k", "out.bin"] [] [])
          [.key "k"] "out.bin" .create key := by
  have hlocked := (key_used_unless_withheld KeyLibrary.guards_standard (by decide)
    (asks_create_out lockedStore) rfl create_locked.1).1
  have hopen := (key_used_unless_withheld KeyLibrary.guards_standard (by decide)
    (asks_create_out openStore) rfl create_open).1
  refine ⟨KeyLibrary.guards_standard, create_locked.1, ?_, create_open, hopen.mpr ?_⟩
  · exact fun hused => hlocked.mp hused lockedStore_withheld
  · exact fun hwithheld =>
      hwithheld.not_unlocks KeyLibrary.guards_standard _ openStore_unlocks

end BootSeal.CommandLine
