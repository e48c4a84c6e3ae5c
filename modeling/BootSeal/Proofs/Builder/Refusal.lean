import BootSeal.Proofs.Builder.Additions
import BootSeal.Proofs.Builder.Stopping
import BootSeal.Proofs.IntelHex.Extent
/-!
# Refused calls

A call that is refused leaves the builder and the store as they were, unless it gives a chunk whose payload
is found to be unreadable when it has been queued. For the runs of a file, which are queued one after the
other, nothing changes because all of them fit: only the owner and a closed builder can be refused, and
then the first run is. A writing is refused when it ends before its file is opened.
-/

namespace BootSeal

/-- What a writing is refused for before its file is opened: the builder is closed, the key cannot be
loaded, or it cannot sign. -/
def BuildError.IsEarly : BuildError → Prop
  | .closed => True
  | .missingKey _ => True
  | .unreadableKey _ => True
  | .unusableKey _ _ => True
  | .protectedKey _ => True
  | .notSigningKey => True
  | _ => False

namespace Builder

variable {b next : Builder}

/-! ## Runs of a file -/

section Runs

variable {owner : Int} {queue : List Payload}

/-- A run fits, so it is accepted if its owner fits too. -/
theorem exists_addBytes (hqueue : b.queue = some queue) (howner : FitsWidth 4 owner) {r : Run}
    (hr : r.Within IntelHex.addressLimit) : ∃ next, b.addBytes owner r.start r.bytes = .ok next := by
  have hend := hr.end_le
  have hcrc := crc32_lt r.bytes
  have hfits : (Chunk.mk owner 0 r.start r.bytes.length (crc32 r.bytes)).Fits := by
    simp only [Chunk.Fits, FitsWidth, fieldValues_eq_pow, IntelHex.addressLimit, UInt32.size]
      at howner hend hcrc ⊢
    omega
  exact exists_addChunk hqueue hfits (Payload.isReadable_ofBytes r.bytes) rfl

theorem queue_of_addBytes {execAddr : Int} {content : Bytes}
    (h : b.addBytes owner execAddr content = .ok next) :
    FitsWidth 4 owner ∧ ∃ queue, next.queue = some queue := by
  obtain ⟨queue, hqueue, hfits, ⟨_, rfl⟩ | ⟨_, p, _, _, _, rfl⟩⟩ := addChunk_eq_ok h
  · exact ⟨hfits.1, queue, hqueue⟩
  · exact ⟨hfits.1, _, rfl⟩

theorem queueRuns_refusal_eq_none (hqueue : b.queue = some queue) (howner : FitsWidth 4 owner)
    {runs : List Run} (hruns : ∀ r ∈ runs, r.Within IntelHex.addressLimit) :
    (b.queueRuns owner runs).refusal = none := by
  induction runs generalizing b queue with
  | nil => rfl
  | cons r rest ih =>
      obtain ⟨hfirst, hrest⟩ := List.forall_mem_cons.mp hruns
      obtain ⟨next, hadded⟩ := exists_addBytes hqueue howner hfirst
      obtain ⟨_, queue, hnext⟩ := queue_of_addBytes hadded
      rw [queueRuns, hadded]
      exact ih hnext hrest

/-- A row of runs that is refused is refused at its first run. -/
theorem queueRuns_builder_of_refusal {runs : List Run}
    (hruns : ∀ r ∈ runs, r.Within IntelHex.addressLimit) {e : BuildError}
    (h : (b.queueRuns owner runs).refusal = some e) : (b.queueRuns owner runs).builder = b := by
  cases runs with
  | nil => rfl
  | cons r rest =>
      rw [queueRuns] at h ⊢
      split at h
      next => rfl
      next next hadded =>
        obtain ⟨howner, queue, hqueue⟩ := queue_of_addBytes hadded
        rw [queueRuns_refusal_eq_none hqueue howner (List.forall_mem_cons.mp hruns).2] at h
        cases h

theorem runs_within_of_readRuns {s : Store} {path : String} {runs : List Run}
    (h : readRuns s path = .ok runs) : ∀ r ∈ runs, r.Within IntelHex.addressLimit := by
  obtain ⟨content, m, _, hmap, rfl⟩ := readRuns_eq_ok_iff.mp h
  exact IntelHex.runs_within_of_read hmap

theorem queueHexFile_builder_of_refusal {s : Store} {path : String} {e : BuildError}
    (h : (b.queueHexFile s owner path).refusal = some e) :
    (b.queueHexFile s owner path).builder = b := by
  rw [queueHexFile_eq_queueRuns] at h ⊢
  split at h
  next => rfl
  next runs hruns => exact queueRuns_builder_of_refusal (runs_within_of_readRuns hruns) h

end Runs

/-! ## Writings -/

section Writings

variable {s : Store} {path : String} {key : Option Key} {payloads : List Payload}
  {signer : Option PrivateKey} {e : BuildError}

theorem not_isEarly_of_isFault (h : Draft.IsFault e) : ¬e.IsEarly := by
  cases h with
  | overflow | unreadablePayload | layout => exact id

/-- What is refused before the file is opened is refused with an early error. -/
theorem isEarly_of_accept (h : b.accept key = .error e) : e.IsEarly := by
  unfold accept at h
  split at h
  next =>
    cases h
    trivial
  next =>
    split at h
    next hsigner =>
      cases h
      unfold signer? at hsigner
      split at hsigner
      next => cases hsigner
      next => cases hsigner
      next =>
        cases hsigner
        trivial
    next => cases h

variable [KeyLibrary]

theorem not_isEarly_of_finish {readBack : Bytes → Bytes} {stopped : Stopped}
    (h : b.finish payloads signer readBack = .error stopped) : ¬stopped.error.IsEarly := by
  have hcomposed : ∀ {stopped : Stopped}, b.compose payloads = .error stopped →
      ¬stopped.error.IsEarly := fun h =>
    not_isEarly_of_isFault ((compose_orderly b payloads).isFault _ h)
  cases signer with
  | none => exact hcomposed h
  | some k =>
      unfold finish at h
      dsimp only at h
      cases hcompose : b.compose payloads with
      | error other =>
          rw [hcompose] at h
          cases h
          exact hcomposed hcompose
      | ok d =>
          rw [hcompose] at h
          change d.sign b.order k (readBack d.out) = _ at h
          unfold Draft.sign at h
          dsimp only at h
          split at h
          next =>
            cases h
            exact id
          next => exact not_isEarly_of_isFault ((Draft.putHeader_orderly _ b.order).isFault _ h)

theorem not_isEarly_of_writeTo {target : Store.Target}
    (h : (b.writeTo s path target payloads signer).error = some e) : ¬e.IsEarly := by
  have hsettled : ∀ readBack, (settle (b.finish payloads signer readBack)).2 = some e →
      ¬e.IsEarly := by
    intro readBack herror
    cases hfinish : b.finish payloads signer readBack with
    | ok d =>
        rw [hfinish] at herror
        cases herror
    | error stopped =>
        rw [hfinish] at herror
        cases herror
        exact not_isEarly_of_finish hfinish
  cases target with
  | regular route => exact hsettled id h
  | sink => exact hsettled (fun _ => []) h
  | full =>
      cases h
      exact id

/-- An early error comes from before the file is opened, and nothing has happened then. -/
theorem write_of_isEarly (h : (b.write s path key).error = some e) (he : e.IsEarly) :
    b.write s path key = ⟨b, s, [], some e⟩ := by
  unfold write at h ⊢
  cases haccept : b.accept key with
  | error refusal =>
      rw [haccept] at h
      cases h
      rfl
  | ok accepted =>
      rw [haccept] at h
      dsimp only at h
      cases htarget : s.target path with
      | error fault =>
          rw [htarget] at h
          cases h
          exact he.elim
      | ok target =>
          rw [htarget] at h
          exact absurd he (not_isEarly_of_writeTo h)

theorem writeWithKeyFile_of_isEarly {keyPath : Option String} {passphrase : Option Bytes}
    (h : (b.writeWithKeyFile s path keyPath passphrase).error = some e) (he : e.IsEarly) :
    b.writeWithKeyFile s path keyPath passphrase = ⟨b, s, [], some e⟩ := by
  unfold writeWithKeyFile at h ⊢
  cases keyPath with
  | none => exact write_of_isEarly h he
  | some keyPath =>
      dsimp only at h ⊢
      cases hread : readKey s keyPath passphrase with
      | error refusal =>
          rw [hread] at h
          cases h
          rfl
      | ok key =>
          rw [hread] at h
          exact write_of_isEarly h he

theorem isEarly_of_readKey {passphrase : Option Bytes} (h : readKey s path passphrase = .error e) :
    e.IsEarly := by
  unfold readKey at h
  split at h
  next => cases h
  all_goals
    cases h
    trivial

end Writings

/-! ## Calls -/

/-- Whether a call adds something to the tables. -/
def Call.IsAddition : Call → Prop
  | .addChunk .. => True
  | .addZiChunk .. => True
  | .addFile .. => True
  | .addHexFile .. => True
  | .write .. => False
  | .writeWithKeyFile .. => False

/-- An open builder is given a chunk whose values fit, and a payload that has as many items as the chunk is
long but does not give its bytes out. The chunk is queued before this is found. -/
inductive Call.LeavesChunk (b : Builder) : Call → Prop
  | addChunk {owner execAddr size crc32 : Int} {p : Payload} (hopen : b.queue ≠ none)
      (hfits : (Chunk.mk owner 0 execAddr size crc32).Fits) (hsize : size ≠ 0)
      (hcount : (p.itemCount : Int) = size) (hunreadable : ¬p.IsReadable) :
      LeavesChunk b (.addChunk owner execAddr size crc32 (some p))

section Calls

variable {owner execAddr size crc32 : Int} {payload : Option Payload} {e : BuildError}

/-- A chunk that is refused is not queued, unless its payload turns out to be unreadable. -/
theorem queueChunk_of_refusal (h : (b.queueChunk owner execAddr size crc32 payload).refusal = some e)
    (hleaves : ¬(Call.addChunk owner execAddr size crc32 payload).LeavesChunk b) :
    (b.queueChunk owner execAddr size crc32 payload).builder = b := by
  have hqueues := queueChunk_queues b owner execAddr size crc32 payload
  generalize b.queueChunk owner execAddr size crc32 payload = a at h hqueues
  cases hqueues with
  | refused => rfl
  | leftOut => rfl
  | @queued queue p hqueue hfits hsize hpayload hcount =>
      have hunreadable : ¬p.IsReadable := by
        intro hreadable
        rw [if_pos hreadable] at h
        cases h
      subst hpayload
      exact absurd (.addChunk (hqueue ▸ Option.some_ne_none queue) hfits hsize hcount hunreadable)
        hleaves

theorem queueZiChunk_of_refusal (h : (b.queueZiChunk owner execAddr size).refusal = some e) :
    (b.queueZiChunk owner execAddr size).builder = b := by
  unfold queueZiChunk at h ⊢
  split at h
  next => rfl
  next =>
    split at h
    next => rfl
    next => cases h

theorem queueFile_of_refusal {s : Store} {path : String}
    (h : (b.queueFile s owner execAddr path).refusal = some e) :
    (b.queueFile s owner execAddr path).builder = b := by
  unfold queueFile at h ⊢
  split at h
  next => rfl
  next => rw [queueBytes_of_refusal h]

end Calls

namespace Bench

variable {w : Bench} {e : BuildError}

theorem queued_of_error {count : Builder → Nat} {a : Attempt}
    (h : (w.queued count a).2 = .error e) : a.refusal = some e := by
  rw [← Attempt.outcome_eq_error_iff]
  exact map_eq_error h

theorem ofWritten_error {r : Written} (h : (ofWritten r).2 = .error e) :
    r.error = some e := by
  unfold ofWritten at h
  split at h
  next => cases h
  next herror =>
    cases h
    exact herror

end Bench

variable [KeyLibrary]

/-- A call is refused: an addition by any error, and a writing by an early one. -/
def Bench.Refuses (w : Bench) (call : Call) : Prop :=
  ∃ e, (w.perform call).2 = .error e ∧ (call.IsAddition ∨ e.IsEarly)

namespace Bench

variable {w : Bench} {call : Call}

/-- A refused call leaves the builder and the store as they were, unless it leaves its chunk behind. -/
theorem perform_of_refuses (h : w.Refuses call) (hleaves : ¬call.LeavesChunk w.builder) :
    (w.perform call).1 = w := by
  obtain ⟨e, herror, hkind⟩ := h
  cases call with
  | addChunk => rw [perform, queued, queueChunk_of_refusal (queued_of_error herror) hleaves]
  | addZiChunk => rw [perform, queued, queueZiChunk_of_refusal (queued_of_error herror)]
  | addFile => rw [perform, queued, queueFile_of_refusal (queued_of_error herror)]
  | addHexFile => rw [perform, queued, queueHexFile_builder_of_refusal (queued_of_error herror)]
  | write path key =>
      have hearly := hkind.resolve_left id
      rw [perform, write_of_isEarly (ofWritten_error herror) hearly]
      rfl
  | writeWithKeyFile path keyPath passphrase =>
      have hearly := hkind.resolve_left id
      rw [perform, writeWithKeyFile_of_isEarly (ofWritten_error herror) hearly]
      rfl

end Bench

end Builder

end BootSeal
