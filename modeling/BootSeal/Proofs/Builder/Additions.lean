import BootSeal.Builder.Addition
import BootSeal.Proofs.Builder.Queue
import BootSeal.Proofs.Except
import BootSeal.Proofs.IntelHex.MaximalRun
/-!
# Additions from files

What is added from files is added by calls, so a builder that additions made has grown like any other.
-/

namespace BootSeal.Builder

variable {order : ByteOrder} {setName : String} {s : Store} {b next : Builder}

/-- The call for an addition. -/
def Addition.call : Addition → Call
  | .file owner execAddr path => .addFile owner execAddr path
  | .hexFile owner path => .addHexFile owner path
  | .ziChunk owner execAddr size => .addZiChunk owner execAddr size

/-- The call that adds plain bytes as a chunk. -/
def Call.ofBytes (owner execAddr : Int) (content : Bytes) : Call :=
  .addChunk owner execAddr content.length (crc32 content) (some (.ofBytes content))

/-- The additions of single regions that an addition is made of. -/
def Call.parts (s : Store) : Call → List Call
  | .addChunk owner execAddr size crc32 payload => [.addChunk owner execAddr size crc32 payload]
  | .addZiChunk owner execAddr size => [.addZiChunk owner execAddr size]
  | .addFile owner execAddr path =>
      match readInput s path with
      | .error _ => []
      | .ok content => [.ofBytes owner execAddr content]
  | .addHexFile owner path =>
      match readRuns s path with
      | .error _ => []
      | .ok runs => runs.map fun r => .ofBytes owner r.start r.bytes
  | .write .. => []
  | .writeWithKeyFile .. => []

theorem readInput_eq_ok_iff {path : String} {content : Bytes} :
    readInput s path = .ok content ↔ s.read path = .ok content := by
  unfold readInput
  split
  next heq => rw [heq, Except.ok.injEq, Except.ok.injEq]
  next heq => simp [heq]
  next heq => simp [heq]

theorem readMap_eq_ok_iff {path : String} {m : AddressMap} :
    readMap s path = .ok m ↔ ∃ content, s.read path = .ok content ∧ IntelHex.read content = .ok m := by
  simp only [← readInput_eq_ok_iff]
  unfold readMap
  cases readInput s path with
  | error e => simp
  | ok content =>
      simp only [Except.ok.injEq, exists_eq_left']
      cases hmap : IntelHex.read content with
      | error e => cases e <;> simp
      | ok m' => simp

/-- The runs of a file are read if the file is, and the map in it. -/
theorem readRuns_eq_ok_iff {path : String} {runs : List Run} :
    readRuns s path = .ok runs ↔ ∃ content m, s.read path = .ok content ∧
      IntelHex.read content = .ok m ∧ AddressMap.runs m = runs := by
  rw [readRuns]
  constructor
  · intro h
    obtain ⟨m, hm, rfl⟩ := map_eq_ok h
    obtain ⟨content, hread, hmap⟩ := readMap_eq_ok_iff.mp hm
    exact ⟨content, m, hread, hmap, rfl⟩
  · rintro ⟨content, m, hread, hmap, rfl⟩
    rw [readMap_eq_ok_iff.mpr ⟨content, hread, hmap⟩]
    rfl

/-- A file that is added was read, and is added as it was read. -/
theorem addFile_eq_ok {owner execAddr : Int} {path : String}
    (h : b.addFile s owner execAddr path = .ok next) :
    ∃ content, readInput s path = .ok content ∧ b.addBytes owner execAddr content = .ok next := by
  unfold addFile queueFile at h
  split at h
  next => cases h
  next content hread => exact ⟨content, hread, h⟩

/-- Queues runs as chunks at their addresses, up to one that is refused. -/
def queueRuns (b : Builder) (owner : Int) : List Run → Attempt
  | [] => ⟨b, none⟩
  | r :: rest =>
      match b.addBytes owner r.start r.bytes with
      | .error e => ⟨b, some e⟩
      | .ok b => b.queueRuns owner rest

/-- Bytes that are refused have changed nothing, since they can always be read. -/
theorem queueBytes_of_refusal {owner execAddr : Int} {content : Bytes} {e : BuildError}
    (h : (b.queueBytes owner execAddr content).refusal = some e) :
    b.queueBytes owner execAddr content = ⟨b, some e⟩ := by
  have hqueues := queueChunk_queues b owner execAddr content.length (crc32 content)
    (some (.ofBytes content))
  rw [queueBytes] at h ⊢
  generalize b.queueChunk owner execAddr content.length (crc32 content) (some (.ofBytes content)) = a
    at h hqueues ⊢
  cases hqueues with
  | refused =>
      cases h
      rfl
  | leftOut => cases h
  | queued _ _ _ hpayload =>
      cases hpayload
      rw [if_pos (Payload.isReadable_ofBytes content)] at h
      cases h

/-- The bytes of segments are queued as the runs that they make. -/
theorem queueSegments_eq_queueRuns (b : Builder) (owner : Int) (m : AddressMap)
    (segments : List (Nat × Nat)) :
    b.queueSegments owner m segments =
      b.queueRuns owner (segments.map fun s => ⟨s.1, m.window s.1 (s.2 - 1)⟩) := by
  induction segments generalizing b with
  | nil => rfl
  | cons segment rest ih =>
      obtain ⟨start, stop⟩ := segment
      rw [queueSegments, List.map_cons, queueRuns, addBytes, Attempt.outcome]
      cases hrefusal : (b.queueBytes owner start (m.window start (stop - 1))).refusal with
      | none => exact ih _
      | some e => exact queueBytes_of_refusal hrefusal

theorem queueHexFile_eq_queueRuns {owner : Int} {path : String} :
    b.queueHexFile s owner path = match readRuns s path with
      | .error e => ⟨b, some e⟩
      | .ok runs => b.queueRuns owner runs := by
  rw [queueHexFile, readRuns]
  cases readMap s path with
  | error e => rfl
  | ok m =>
      dsimp only [Except.map]
      rw [queueSegments_eq_queueRuns, AddressMap.runs_eq_segments]

/-- So are the runs of a file, all of them if none is refused. -/
theorem queueHexFile_of_refusal_eq_none {owner : Int} {path : String}
    (h : (b.queueHexFile s owner path).refusal = none) :
    ∃ runs, readRuns s path = .ok runs ∧
      b.queueHexFile s owner path = b.queueRuns owner runs := by
  rw [queueHexFile_eq_queueRuns] at h ⊢
  split at h
  next => cases h
  next runs hread => exact ⟨runs, hread, rfl⟩

namespace Unwritten

variable {setName : Bytes}

theorem queueFile (hb : Unwritten order setName b) (s : Store) (owner execAddr : Int) (path : String) :
    Unwritten order setName (b.queueFile s owner execAddr path).builder := by
  unfold Builder.queueFile
  split
  next => exact hb
  next => exact hb.queueChunk ..

theorem queueSegments (hb : Unwritten order setName b) (owner : Int) (m : AddressMap)
    (segments : List (Nat × Nat)) :
    Unwritten order setName (b.queueSegments owner m segments).builder := by
  induction segments generalizing b with
  | nil => exact hb
  | cons segment rest ih =>
      obtain ⟨start, stop⟩ := segment
      have hfirst : Unwritten order setName
          (b.queueBytes owner start (m.window start (stop - 1))).builder := hb.queueChunk ..
      rw [Builder.queueSegments]
      split
      next => exact hfirst
      next => exact ih hfirst

theorem queueHexFile (hb : Unwritten order setName b) (s : Store) (owner : Int) (path : String) :
    Unwritten order setName (b.queueHexFile s owner path).builder := by
  unfold Builder.queueHexFile
  split
  next => exact hb
  next => exact hb.queueSegments ..

end Unwritten

namespace Grown

variable {calls : List Call} {owner : Int}

theorem addBytes {execAddr : Int} {content : Bytes} (hb : Grown order setName calls b)
    (h : b.addBytes owner execAddr content = .ok next) :
    Grown order setName (calls ++ [.ofBytes owner execAddr content]) next :=
  hb.chunk h

theorem queueRuns {runs : List Run} (hb : Grown order setName calls b)
    (h : (b.queueRuns owner runs).refusal = none) :
    Grown order setName (calls ++ runs.map fun r => .ofBytes owner r.start r.bytes)
      (b.queueRuns owner runs).builder := by
  induction runs generalizing b calls with
  | nil =>
      rw [List.map_nil, List.append_nil]
      exact hb
  | cons r rest ih =>
      rw [Builder.queueRuns] at h ⊢
      split at h
      next => cases h
      next next hadded =>
        rw [List.map_cons, List.append_cons]
        exact ih (hb.addBytes hadded) h

theorem addFile {execAddr : Int} {path : String} (hb : Grown order setName calls b)
    (h : b.addFile s owner execAddr path = .ok next) :
    Grown order setName (calls ++ (Call.addFile owner execAddr path).parts s) next := by
  obtain ⟨content, hread, hadded⟩ := addFile_eq_ok h
  rw [Call.parts, hread]
  exact hb.addBytes hadded

theorem addHexFile {path : String} (hb : Grown order setName calls b)
    (h : b.addHexFile s owner path = .ok next) :
    Grown order setName (calls ++ (Call.addHexFile owner path).parts s) next := by
  obtain ⟨hrefusal, rfl⟩ := Attempt.outcome_eq_ok_iff.mp h
  obtain ⟨runs, hread, hqueued⟩ := queueHexFile_of_refusal_eq_none hrefusal
  rw [hqueued] at hrefusal ⊢
  rw [Call.parts, hread]
  exact hb.queueRuns hrefusal

theorem add (hb : Grown order setName calls b) {a : Addition} (h : b.add s a = .ok next) :
    Grown order setName (calls ++ a.call.parts s) next := by
  cases a with
  | file => exact hb.addFile h
  | hexFile => exact hb.addHexFile h
  | ziChunk => exact hb.ziChunk h

/-- A row of additions that goes through adds all that they are made of. -/
theorem addAll (hb : Grown order setName calls b) {additions : List Addition}
    (h : b.addAll s additions = .ok next) :
    Grown order setName (calls ++ additions.flatMap fun a => a.call.parts s) next := by
  induction additions generalizing b calls with
  | nil =>
      cases h
      rw [List.flatMap_nil, List.append_nil]
      exact hb
  | cons a rest ih =>
      rw [Builder.addAll] at h
      split at h
      next => cases h
      next hadded =>
        rw [List.flatMap_cons, ← List.append_assoc]
        exact ih (hb.add hadded) h

end Grown

/-- Some accepted calls make this builder of a new one. -/
def HasGrown (order : ByteOrder) (setName : String) (b : Builder) : Prop :=
  ∃ calls, Grown order setName calls b

theorem HasGrown.addAll (hb : HasGrown order setName b) {additions : List Addition}
    (h : b.addAll s additions = .ok next) : HasGrown order setName next := by
  obtain ⟨calls, hgrown⟩ := hb
  exact ⟨_, hgrown.addAll h⟩

end BootSeal.Builder
