import BootSeal.Proofs.Builder.Faulty
import BootSeal.Proofs.CommandLine.Creation
/-!
# Creations that do not come to their file

A creation looks at its command line, at the set name, at all additions and at the key before it opens its
file. A fault in any of them makes it fail and leaves the store as it was, whatever else is in order.
Without such a fault it comes to the writing.
-/

namespace BootSeal.CommandLine

section Library

variable {s : Store} {line : List String} {settings : List Setting} {keyPath outfile : String}
  {answers : List String} {entropy : Bytes} {r : CreateRequest}

/-! ## Faults -/

/-- What keeps a key file from giving a private key: it cannot be read; there is no key in it that can be
used, or one on another curve; it is locked, and nobody answers or the answer does not unlock it; or its
key is a public one. -/
inductive KeyFault [KeyLibrary] (s : Store) (keyPath : String) (answers : List String) : Prop
  | unread {e : FileFault} (h : s.read keyPath = .error e)
  | unusable {e : KeyError} (h : Key.load s keyPath none = .error (.key e))
  | unanswered (hlocked : Key.load s keyPath none = .ok none) (h : answers = [])
  | wronglyUnlocked {answer : String} {rest : List String} {e : KeyError}
      (hlocked : Key.load s keyPath none = .ok none) (hanswers : answers = answer :: rest)
      (h : Key.load s keyPath (some (Utf8.encode answer)) = .error (.key e))
  | publicOnly {k : PublicKey} (h : Unlocks s keyPath answers (.verifying k))

/-- What keeps the image of a request from being written. -/
inductive CreateRequest.Fault [KeyLibrary] (s : Store) (answers : List String) (r : CreateRequest) : Prop
  | setName (h : setNameSize ≤ (Utf8.encode r.setName).length)
  | addition {a : Builder.Addition} (hmem : a ∈ r.additions) (h : a.Faulty s)
  | key {keyPath : String} (hkey : r.key = some keyPath) (h : KeyFault s keyPath answers)

/-- What a creation fails for before it opens its file: options that do not parse, in front of the name of
the command or behind it, or a fault of what it is asked for. -/
inductive CreateFault [KeyLibrary] (s : Store) (answers : List String) : List String → Prop
  | switches {line : List String} {f : UsageFault}
      (h : scan programOptions true line = .error f) : CreateFault s answers line
  | words {line rest : List String} {f : UsageFault} (hcalls : Calls line .create rest)
      (h : Command.create.parse s rest = .error f) : CreateFault s answers line
  | request {line : List String} {settings : List Setting} {outfile : String}
      (hasks : Asks s line .create settings outfile)
      (h : (Request.ofCreateSettings settings outfile).Fault s answers) : CreateFault s answers line

/-! ## Requests and keys -/

namespace Action

theorem assemble_eq_error_iff :
    (∃ e, assemble s r = .error e) ↔
      setNameSize ≤ (Utf8.encode r.setName).length ∨ ∃ a ∈ r.additions, a.Faulty s := by
  by_cases hlong : setNameSize ≤ (Utf8.encode r.setName).length
  · simp [assemble, Builder.named, hlong]
  · have hnamed : Builder.named r.order r.setName =
        .ok (Builder.empty r.order (Utf8.encode r.setName)) := if_neg hlong
    rw [assemble, hnamed]
    exact (Builder.Grown.new hnamed).addAll_eq_error_iff.trans (or_iff_right hlong).symm

/-- An open builder takes any key but a public one. -/
theorem accept_eq_error_iff {b : Builder} {queue : List Payload} {key : Option Key}
    (hqueue : b.queue = some queue) :
    (∃ e, b.accept key = .error e) ↔ ∃ k, key = some (.verifying k) := by
  rw [Builder.accept, hqueue]
  rcases key with _ | k | k <;> simp [Builder.signer?]

end Action

variable [KeyLibrary]

theorem tryKey_eq_error_iff {passphrase : Option Bytes} :
    (∃ f, tryKey s keyPath passphrase = .error f) ↔
      ∃ e, Key.load s keyPath passphrase = .error e :=
  exists_error_congr tryKey_eq_ok_iff

/-- Loading fails on a file that cannot be read, and else on what is in it. -/
theorem load_eq_error {passphrase : Option Bytes} {e : KeyFileError}
    (h : Key.load s keyPath passphrase = .error e) :
    (∃ fault, s.read keyPath = .error fault) ∨ ∃ fault, e = .key fault := by
  unfold Key.load at h
  split at h
  next fault hread => exact Or.inl ⟨fault, hread⟩
  next =>
    split at h
    next fault _ =>
      cases h
      exact Or.inr ⟨fault, rfl⟩
    next => cases h

/-- Unlocking fails when the first try fails, and for a locked file when nobody answers or the second try
fails. -/
theorem unlock_eq_error_iff :
    (∃ f, (unlock s keyPath answers).result = .error f) ↔
      (∃ e, Key.load s keyPath none = .error e) ∨ Key.load s keyPath none = .ok none ∧
        (answers = [] ∨ ∃ answer rest, answers = answer :: rest ∧
          ∃ e, Key.load s keyPath (some (Utf8.encode answer)) = .error e) := by
  unfold unlock
  cases htry : tryKey s keyPath none with
  | error f =>
      obtain ⟨e, hload⟩ := tryKey_eq_error_iff.mp ⟨f, htry⟩
      simp [hload]
  | ok key =>
      rw [tryKey_eq_ok_iff] at htry
      cases key with
      | some key => simp [htry]
      | none =>
          cases answers with
          | nil => simp [htry]
          | cons answer rest => simp [htry, ← tryKey_eq_error_iff]

/-- A key file is at fault when unlocking fails, and when it gives a key that cannot sign. -/
theorem keyFault_iff :
    KeyFault s keyPath answers ↔ (∃ f, (unlock s keyPath answers).result = .error f) ∨
      ∃ k, Unlocks s keyPath answers (.verifying k) := by
  rw [unlock_eq_error_iff]
  constructor
  · intro h
    cases h with
    | unread hread => exact Or.inl (Or.inl ⟨_, by rw [Key.load, hread]⟩)
    | unusable hload => exact Or.inl (Or.inl ⟨_, hload⟩)
    | unanswered hlocked hanswers => exact Or.inl (Or.inr ⟨hlocked, Or.inl hanswers⟩)
    | wronglyUnlocked hlocked hanswers hload =>
        exact Or.inl (Or.inr ⟨hlocked, Or.inr ⟨_, _, hanswers, _, hload⟩⟩)
    | publicOnly hkey => exact Or.inr ⟨_, hkey⟩
  · rintro ((⟨e, hload⟩ | ⟨hlocked, hanswers | ⟨answer, rest, hanswers, e, hload⟩⟩) | ⟨k, hkey⟩)
    · rcases load_eq_error hload with ⟨fault, hread⟩ | ⟨fault, rfl⟩
      · exact .unread hread
      · exact .unusable hload
    · exact .unanswered hlocked hanswers
    · rcases load_eq_error hload with ⟨fault, hread⟩ | ⟨fault, rfl⟩
      · exact .unread hread
      · exact .wronglyUnlocked hlocked hanswers hload
    · exact .publicOnly hkey

namespace Action

/-- The faults are what stops a creation before its builder takes the key. -/
theorem fault_iff :
    r.Fault s answers ↔ (∃ e, assemble s r = .error e) ∨
      (∃ f, (unlockNamed s r.key answers).result = .error f) ∨
        ∃ k, (unlockNamed s r.key answers).result = .ok (some (.verifying k)) := by
  rw [assemble_eq_error_iff]
  constructor
  · intro h
    cases h with
    | setName hlong => exact Or.inl (Or.inl hlong)
    | addition hmem hfaulty => exact Or.inl (Or.inr ⟨_, hmem, hfaulty⟩)
    | key hkey hfault =>
        rw [hkey]
        exact Or.inr (keyFault_iff.mp hfault)
  · rintro ((hlong | ⟨a, hmem, hfaulty⟩) | hkey)
    · exact .setName hlong
    · exact .addition hmem hfaulty
    · cases hnamed : r.key with
      | none =>
          rw [hnamed] at hkey
          simp [unlockNamed] at hkey
      | some keyPath =>
          rw [hnamed] at hkey
          exact .key hnamed (keyFault_iff.mpr hkey)

theorem writeImage_store (s : Store) (outfile : String) (b : Builder) (key : Option Key) :
    (writeImage s outfile b key).store = (b.write s outfile key).store := by
  unfold writeImage
  dsimp only
  cases (b.write s outfile key).error <;> rfl

/-- A request with a fault fails, and nothing is left of it. -/
theorem create_of_fault (h : r.Fault s answers) :
    (create s r answers).failure ≠ none ∧ (create s r answers).store = s := by
  unfold create
  dsimp only
  cases hassemble : assemble s r with
  | error e => exact ⟨Option.some_ne_none _, rfl⟩
  | ok b =>
      rcases fault_iff.mp h with ⟨e, hrefused⟩ | ⟨f, hresult⟩ | ⟨k, hresult⟩
      · rw [hassemble] at hrefused
        cases hrefused
      · rw [hresult]
        exact ⟨Option.some_ne_none _, rfl⟩
      · -- The builder refuses the key before it opens the file.
        have hqueue := (grown_of_assemble hassemble).filled.queue_eq
        obtain ⟨e, hrefused⟩ := (accept_eq_error_iff hqueue).mpr ⟨k, rfl⟩
        have hwrite : b.write s r.outfile (some (.verifying k)) = ⟨b, s, [], some e⟩ := by
          rw [Builder.write, hrefused]
        rw [hresult]
        dsimp only
        rw [writeImage, hwrite]
        exact ⟨Option.some_ne_none _, rfl⟩

/-- A request without a fault comes to the writing: the builder takes the key, and opens the file. -/
theorem create_of_not_fault (h : ¬r.Fault s answers) :
    ∃ b key accepted, assemble s r = .ok b ∧ (unlockNamed s r.key answers).result = .ok key ∧
      b.accept key = .ok accepted ∧
      (create s r answers).store = (b.write s r.outfile key).store := by
  rw [fault_iff, not_or, not_or] at h
  obtain ⟨hassembled, hunlocked, hsigning⟩ := h
  cases hassemble : assemble s r with
  | error e => exact absurd ⟨e, hassemble⟩ hassembled
  | ok b =>
      cases hresult : (unlockNamed s r.key answers).result with
      | error f => exact absurd ⟨f, hresult⟩ hunlocked
      | ok key =>
          have hqueue := (grown_of_assemble hassemble).filled.queue_eq
          cases haccept : b.accept key with
          | error e =>
              obtain ⟨k, rfl⟩ := (accept_eq_error_iff hqueue).mp ⟨e, haccept⟩
              exact absurd ⟨k, hresult⟩ hsigning
          | ok accepted =>
              refine ⟨b, key, accepted, rfl, rfl, haccept, ?_⟩
              rw [← writeImage_store, create, hassemble]
              dsimp only
              rw [hresult]
              rfl

end Action

/-! ## Command lines -/

/-- What has a fault fails and leaves the store as it was. -/
theorem CreateFault.untouched (h : CreateFault s answers line) (entropy : Bytes) :
    (run s line answers entropy).status ≠ 0 ∧ (run s line answers entropy).store = s := by
  cases h with
  | switches hwords =>
      rw [run, hwords]
      exact ⟨Outcome.ofAction_status_eq_zero_iff.not.mpr (Option.some_ne_none _), rfl⟩
  | words hcalls hparse =>
      obtain ⟨name, verbosity, hrun⟩ := hcalls.run_eq s answers entropy
      rw [hrun, runCommand, hparse]
      exact ⟨Outcome.ofAction_status_eq_zero_iff.not.mpr (Option.some_ne_none _), rfl⟩
  | request hasks hfault =>
      obtain ⟨hfailed, hstore⟩ := Action.create_of_fault hfault
      refine ⟨fun hstatus => hfailed (hasks.status_eq_zero_iff.mp hstatus), ?_⟩
      obtain ⟨name, verbosity, hrun⟩ := hasks.run_eq answers entropy
      rw [hrun]
      exact hstore

/-- A creation with a fault fails and leaves the store as it was, so its file is neither made nor changed.
There are no other such faults: without one the builder takes the key and opens its file, and what is left
is what the writing leaves. -/
theorem create_untouched (s : Store) (line answers : List String) (entropy : Bytes) :
    (CreateFault s answers line →
      (run s line answers entropy).status ≠ 0 ∧ (run s line answers entropy).store = s) ∧
    ∀ settings outfile, Asks s line .create settings outfile →
      CreateFault s answers line ∨ ∃ b key accepted,
        Action.assemble s (Request.ofCreateSettings settings outfile) = .ok b ∧
        (unlockNamed s (Request.ofCreateSettings settings outfile).key answers).result = .ok key ∧
        b.accept key = .ok accepted ∧
        (run s line answers entropy).store = (b.write s outfile key).store := by
  refine ⟨fun h => h.untouched entropy, fun settings outfile hasks => ?_⟩
  by_cases hfault : (Request.ofCreateSettings settings outfile).Fault s answers
  · exact Or.inl (.request hasks hfault)
  · obtain ⟨b, key, accepted, hassemble, hresult, haccept, hstore⟩ :=
      Action.create_of_not_fault hfault
    obtain ⟨name, verbosity, hrun⟩ := hasks.run_eq answers entropy
    refine Or.inr ⟨b, key, accepted, hassemble, hresult, haccept, ?_⟩
    rw [hrun]
    exact hstore

end Library

/-! ## A good input in front of a bad one -/

def rawInput : Store where
  files := [(["a"], [1, 2, 3]), (["out.bin"], [9])]

def rawTwice : List String := ["create", "-c", "1", "16", "a", "-x", "7", "a", "out.bin"]

def rawAsHexUse : Use (Option Setting) := (hexOption.besideHelp, ["7", "a"])

theorem asks_rawTwice : Asks rawInput rawTwice .create
    [.addition (.file 1 16 "a"), .addition (.hexFile 7 "a")] "out.bin" := by
  have hwords : scan Command.create.specs false rawTwice.tail =
      .ok { uses := [rawUse, rawAsHexUse], arguments := ["out.bin"] } := by
    change scan _ _ ("-c" :: (rawUse.2 ++ "-x" :: (rawAsHexUse.2 ++ ["out.bin"]))) = _
    rw [scan_use rfl (by decide) rfl rfl, scan_use rfl (by decide) rfl rfl,
      scan_argument rfl (by decide)]
    rfl
  have hsettings : readUses rawInput (settledUses [rawUse, rawAsHexUse]) =
      .ok [some (.addition (.file 1 16 "a")), some (.addition (.hexFile 7 "a"))] := by cbv
  exact .intro (scan_create _) rfl rfl rfl (.intro hwords rfl hsettings rfl rfl)

theorem create_untouched_hex_behind_raw :
    (run rawInput rawTwice [] []).status ≠ 0 ∧
      (run rawInput rawTwice [] []).store.read "out.bin" = .ok [9] := by
  have hread : rawInput.read "a" = .ok [1, 2, 3] := by cbv
  have hout : rawInput.read "out.bin" = .ok [9] := by cbv
  have hmalformed : IntelHex.read [1, 2, 3] = .error (.malformed (.invalidRecord 1)) := by cbv
  have hfault : CreateFault rawInput [] rawTwice := by
    refine .request asks_rawTwice (.addition (a := .hexFile 7 "a") ?_ (.notHex hread hmalformed))
    decide
  obtain ⟨hstatus, hstore⟩ := (create_untouched rawInput rawTwice [] []).1 hfault
  exact ⟨hstatus, by rw [hstore, hout]⟩

end BootSeal.CommandLine
