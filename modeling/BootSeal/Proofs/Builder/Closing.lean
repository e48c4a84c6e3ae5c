import BootSeal.Proofs.Builder.Refusal
import BootSeal.Proofs.IntelHex.Segment
/-!
# Builders that were written

A writing that passes the checks takes the queue out of the builder before it can fail, so the builder is
closed behind it, however it ends. A closed builder has nothing more to give: no call changes it or the
store, and none succeeds but one, which is to load the runs of a file that has no runs.
-/

namespace BootSeal.Builder

variable {b : Builder} {s : Store}

/-- A HEX file is loaded, and it holds no byte of data. -/
def Call.LoadsNothing (s : Store) : Call → Prop
  | .addHexFile _ path => ∃ content m, s.read path = .ok content ∧
      IntelHex.read content = .ok m ∧ ∀ address, address ∉ m
  | _ => False

section Library

variable [KeyLibrary]

/-- A writing passes the checks on the builder and on the key. It opens its file then, and this closes
the builder. -/
def Bench.Spends (w : Bench) : Call → Prop
  | .write _ key => ∃ accepted, w.builder.accept key = .ok accepted
  | .writeWithKeyFile _ none _ => ∃ accepted, w.builder.accept none = .ok accepted
  | .writeWithKeyFile _ (some keyPath) passphrase => ∃ key accepted,
      readKey w.store keyPath passphrase = .ok key ∧ w.builder.accept (some key) = .ok accepted
  | _ => False

/-! ## Writings that close the builder -/

theorem queue_of_write {path : String} {key : Option Key}
    {accepted : List Payload × Option PrivateKey} (h : b.accept key = .ok accepted) :
    (b.write s path key).builder.queue = none := by
  rw [write, h]
  dsimp only
  cases s.target path with
  | error e => rfl
  | ok target => cases target <;> rfl

theorem queue_of_spends {w : Bench} {call : Call} (h : w.Spends call) :
    (w.perform call).1.builder.queue = none := by
  cases call with
  | addChunk | addZiChunk | addFile | addHexFile => exact h.elim
  | write path key =>
      obtain ⟨accepted, haccept⟩ := h
      exact queue_of_write haccept
  | writeWithKeyFile path keyPath passphrase =>
      cases keyPath with
      | none =>
          obtain ⟨accepted, haccept⟩ := h
          exact queue_of_write haccept
      | some keyPath =>
          obtain ⟨key, accepted, hread, haccept⟩ := h
          rw [Bench.perform, writeWithKeyFile, hread]
          exact queue_of_write haccept

/-- What is not an addition either closes the builder or is refused. -/
theorem Bench.spends_or_refuses (w : Bench) {call : Call} (h : ¬call.IsAddition) :
    w.Spends call ∨ w.Refuses call := by
  have hwrite : ∀ path key, w.Spends (.write path key) ∨ w.Refuses (.write path key) := by
    intro path key
    cases haccept : w.builder.accept key with
    | ok accepted => exact Or.inl ⟨accepted, haccept⟩
    | error e =>
        refine Or.inr ⟨e, ?_, Or.inr (isEarly_of_accept haccept)⟩
        rw [perform, write, haccept]
        rfl
  cases call with
  | addChunk | addZiChunk | addFile | addHexFile => exact absurd trivial h
  | write path key => exact hwrite path key
  | writeWithKeyFile path keyPath passphrase =>
      cases keyPath with
      | none => exact hwrite path none
      | some keyPath =>
          cases hread : readKey w.store keyPath passphrase with
          | error e =>
              refine Or.inr ⟨e, ?_, Or.inr (isEarly_of_readKey hread)⟩
              rw [perform, writeWithKeyFile, hread]
              rfl
          | ok key =>
              rcases hwrite path (some key) with ⟨accepted, haccept⟩ | ⟨e, herror, he⟩
              · exact Or.inl ⟨key, accepted, hread, haccept⟩
              · refine Or.inr ⟨e, ?_, he⟩
                rw [perform, writeWithKeyFile, hread]
                exact herror

end Library

/-! ## Calls on a closed builder -/

theorem loadsNothing_iff {owner : Int} {path : String} :
    (Call.addHexFile owner path).LoadsNothing s ↔ readRuns s path = .ok [] := by
  simp only [readRuns_eq_ok_iff, AddressMap.runs_eq_nil_iff, Call.LoadsNothing]

section Closed

variable (hclosed : b.queue = none)
include hclosed

theorem queueChunk_of_closed (owner execAddr size crc32 : Int) (payload : Option Payload) :
    b.queueChunk owner execAddr size crc32 payload = ⟨b, some .closed⟩ := by
  rw [queueChunk, hclosed]

theorem queueZiChunk_of_closed (owner execAddr size : Int) :
    b.queueZiChunk owner execAddr size = ⟨b, some .closed⟩ := by
  rw [queueZiChunk, hclosed]

theorem queueFile_of_closed (owner execAddr : Int) (path : String) :
    ∃ e, b.queueFile s owner execAddr path = ⟨b, some e⟩ := by
  unfold queueFile
  split
  next e _ => exact ⟨e, rfl⟩
  next => exact ⟨.closed, queueChunk_of_closed hclosed ..⟩

theorem queueRuns_of_closed (owner : Int) (runs : List Run) :
    b.queueRuns owner runs = ⟨b, if runs = [] then none else some .closed⟩ := by
  cases runs with
  | nil => rfl
  | cons r rest =>
      rw [queueRuns, addBytes, queueBytes, queueChunk_of_closed hclosed, if_neg (List.cons_ne_nil _ _)]
      rfl

theorem queueHexFile_of_closed (owner : Int) (path : String) :
    (b.queueHexFile s owner path).builder = b ∧
      ((b.queueHexFile s owner path).refusal = none ↔ readRuns s path = .ok []) := by
  rw [queueHexFile_eq_queueRuns]
  cases readRuns s path with
  | error e => simp
  | ok runs => simp [queueRuns_of_closed hclosed]

variable [KeyLibrary]

theorem write_of_closed (path : String) (key : Option Key) :
    b.write s path key = ⟨b, s, [], some .closed⟩ := by
  rw [write, accept, hclosed]

theorem writeWithKeyFile_of_closed (path : String) (keyPath : Option String)
    (passphrase : Option Bytes) :
    ∃ e, b.writeWithKeyFile s path keyPath passphrase = ⟨b, s, [], some e⟩ := by
  unfold writeWithKeyFile
  cases keyPath with
  | none => exact ⟨.closed, write_of_closed hclosed path none⟩
  | some keyPath =>
      dsimp only
      cases readKey s keyPath passphrase with
      | error e => exact ⟨e, rfl⟩
      | ok key => exact ⟨.closed, write_of_closed hclosed path (some key)⟩

end Closed

section Library

variable [KeyLibrary]

namespace Bench

variable {w : Bench}

/-- No call changes a closed builder or its store, and only loading nothing is not refused. -/
theorem perform_of_closed (hclosed : w.builder.queue = none) (call : Call) :
    (w.perform call).1 = w ∧
      ((∃ e, (w.perform call).2 = .error e) ↔ ¬call.LoadsNothing w.store) := by
  have herror : ∀ {outcome : Bench × Except BuildError Reply} {e : BuildError},
      outcome = (w, .error e) → ¬call.LoadsNothing w.store →
        outcome.1 = w ∧ ((∃ e, outcome.2 = .error e) ↔ ¬call.LoadsNothing w.store) := by
    rintro _ e rfl hcall
    exact ⟨rfl, fun _ => hcall, fun _ => ⟨e, rfl⟩⟩
  cases call with
  | addChunk =>
      refine herror (e := .closed) ?_ id
      rw [perform, queued, queueChunk_of_closed hclosed]
      rfl
  | addZiChunk =>
      refine herror (e := .closed) ?_ id
      rw [perform, queued, queueZiChunk_of_closed hclosed]
      rfl
  | addFile owner execAddr path =>
      obtain ⟨e, he⟩ := queueFile_of_closed (s := w.store) hclosed owner execAddr path
      refine herror (e := e) ?_ id
      rw [perform, queued, he]
      rfl
  | addHexFile owner path =>
      obtain ⟨hbuilder, hrefusal⟩ := queueHexFile_of_closed (s := w.store) hclosed owner path
      rw [loadsNothing_iff, ← hrefusal, perform, queued, hbuilder]
      refine ⟨rfl, ?_⟩
      unfold Attempt.outcome
      cases (w.builder.queueHexFile w.store owner path).refusal <;> simp [Except.map]
  | write path key =>
      refine herror (e := .closed) ?_ id
      rw [perform, write_of_closed hclosed, ofWritten]
  | writeWithKeyFile path keyPath passphrase =>
      obtain ⟨e, he⟩ := writeWithKeyFile_of_closed (s := w.store) hclosed path keyPath passphrase
      refine herror (e := e) ?_ id
      rw [perform, he, ofWritten]

theorem performAll_of_closed (hclosed : w.builder.queue = none) (calls : List Call) :
    w.performAll calls = w := by
  induction calls with
  | nil => rfl
  | cons call rest ih =>
      change (w.perform call).1.performAll rest = w
      rw [(perform_of_closed hclosed call).1, ih]

end Bench

/-- A builder is written once. When a writing has passed the checks, then however it ended, and whatever
is in the store by then, all later calls leave the builder and the store as they are, and all of them are
refused but those that load a HEX file without data. -/
theorem written_once {w : Bench} {call : Call} (h : w.Spends call) :
    let b := (w.perform call).1.builder
    b.isWritten = true ∧ b.queue = none ∧
      (∀ s calls, Bench.performAll ⟨b, s⟩ calls = ⟨b, s⟩) ∧
      ∀ s later, (Bench.perform ⟨b, s⟩ later).1 = ⟨b, s⟩ ∧
        ((∃ e, (Bench.perform ⟨b, s⟩ later).2 = .error e) ↔ ¬later.LoadsNothing s) := by
  intro b
  have hclosed : b.queue = none := queue_of_spends h
  refine ⟨?_, hclosed, fun s calls => Bench.performAll_of_closed (w := ⟨b, s⟩) hclosed calls,
    fun s later => Bench.perform_of_closed (w := ⟨b, s⟩) hclosed later⟩
  rw [isWritten, hclosed]
  rfl

end Library

/-- A chunk of two bytes that is given two items of four bytes each. -/
def wideChunk : Call := .addChunk 1 16 2 7 (some ⟨some [1, 2, 3, 4, 5, 6, 7, 8], 2⟩)

/-- The chunk is queued, its writing ends with a fault in the layout, and the builder is closed. -/
theorem written_once_layout_fault :
    let w := (Bench.perform ⟨empty .big (Utf8.encode "demo"), {}⟩ wideChunk).1
    let after := (w.perform (.write "out.bin" none)).1
    w.builder.chunks = [⟨1, 0, 16, 2, 7⟩] ∧
      (w.perform (.write "out.bin" none)).2 = .error (.layout (.imageLength 566)) ∧
      (∀ s calls, Bench.performAll ⟨after.builder, s⟩ calls = ⟨after.builder, s⟩) ∧
      ∃ e, (after.perform wideChunk).2 = .error e := by
  intro w after
  have hspends : w.Spends (.write "out.bin" none) := ⟨_, rfl⟩
  obtain ⟨_, _, hall, hlater⟩ := written_once hspends
  refine ⟨rfl, by decide +kernel, hall, ?_⟩
  exact (hlater after.store wideChunk).2.mpr id

end BootSeal.Builder
