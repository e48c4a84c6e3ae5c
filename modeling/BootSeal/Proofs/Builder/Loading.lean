import BootSeal.Proofs.Builder.Refusal
import BootSeal.Proofs.IntelHex.MaximalRun
import BootSeal.Proofs.IntelHex.Placement
/-!
# Loading Intel HEX files

An open builder takes a file that can be read as one chunk for each maximal run of its addresses, in
ascending order. What is queued is decided by the bytes at the addresses, however the records of the file
bring them.
-/

namespace BootSeal

/-- The chunk for a run. -/
def Run.chunk (owner : Int) (r : Run) : Chunk := ⟨owner, 0, r.start, r.bytes.length, crc32 r.bytes⟩

namespace Builder

variable {b : Builder} {owner : Int} {queue : List Payload}

/-- The builder with the chunks of runs behind those that are queued. -/
def withRuns (b : Builder) (owner : Int) (queue : List Payload) (runs : List Run) : Builder :=
  { b with
    chunks := b.chunks ++ runs.map (Run.chunk owner)
    queue := some (queue ++ runs.map fun r => .ofBytes r.bytes) }

theorem addBytes_run (hqueue : b.queue = some queue) (howner : FitsWidth 4 owner) {r : Run}
    (hr : r.Within IntelHex.addressLimit) :
    b.addBytes owner r.start r.bytes = .ok (b.withRuns owner queue [r]) := by
  obtain ⟨next, hadded⟩ := exists_addBytes hqueue howner hr
  rw [hadded]
  obtain ⟨queue', hqueue', _, ⟨hzero, _⟩ | ⟨_, p, hp, _, _, rfl⟩⟩ := addChunk_eq_ok hadded
  · exact absurd hzero (by simpa using hr.bytes_ne_nil)
  · rw [hqueue, Option.some.injEq] at hqueue'
    rw [Option.some.injEq] at hp
    subst hqueue' hp
    rfl

/-- All runs are queued, one behind the other. -/
theorem queueRuns_eq (hqueue : b.queue = some queue) (howner : FitsWidth 4 owner) {runs : List Run}
    (hruns : ∀ r ∈ runs, r.Within IntelHex.addressLimit) :
    b.queueRuns owner runs = ⟨b.withRuns owner queue runs, none⟩ := by
  induction runs generalizing b queue with
  | nil => simp [queueRuns, withRuns, ← hqueue]
  | cons r rest ih =>
      obtain ⟨hfirst, hrest⟩ := List.forall_mem_cons.mp hruns
      rw [queueRuns, addBytes_run hqueue howner hfirst]
      dsimp only
      rw [ih rfl hrest]
      simp [withRuns]

/-- A file that can be read is taken run by run. -/
theorem queueHexFile_eq {s : Store} {path : String} {content : Bytes} {m : AddressMap}
    (hqueue : b.queue = some queue) (howner : FitsWidth 4 owner) (hfile : s.read path = .ok content)
    (hread : IntelHex.read content = .ok m) :
    b.queueHexFile s owner path = ⟨b.withRuns owner queue (AddressMap.runs m), none⟩ := by
  have hruns : readRuns s path = .ok (AddressMap.runs m) :=
    readRuns_eq_ok_iff.mpr ⟨content, m, hfile, hread, rfl⟩
  rw [queueHexFile_eq_queueRuns, hruns]
  exact queueRuns_eq hqueue howner (runs_within_of_readRuns hruns)

/-- Loading a file gives one chunk for each maximal run of its map, in ascending order with addresses
between them that are not used, and these chunks hold each byte of the map once and nothing else. They
are cut from the map at the segments that span it. Another file with the same map gives the same chunks, and
the map has just the bytes that the records of the file put somewhere. -/
theorem Bench.perform_addHexFile_maximal_runs [KeyLibrary] (w : Bench) {path : String} {content : Bytes}
    {m : AddressMap} (hqueue : w.builder.queue = some queue) (howner : FitsWidth 4 owner)
    (hfile : w.store.read path = .ok content) (hread : IntelHex.read content = .ok m) :
    ∃ runs : List Run,
      w.perform (.addHexFile owner path) =
        (⟨{ w.builder with
              chunks := w.builder.chunks ++ runs.map fun r =>
                ⟨owner, 0, r.start, r.bytes.length, crc32 r.bytes⟩
              queue := some (queue ++ runs.map fun r => .ofBytes r.bytes) }, w.store⟩,
          .ok (.count (w.builder.chunks.length + runs.length))) ∧
      (∀ r, r ∈ runs ↔ r.IsMaximal m) ∧
      (runs.Pairwise fun r next => r.start + r.bytes.length < next.start) ∧
      (∀ address x, m[address]? = some x ↔ ∃! r, r ∈ runs ∧ (address, x) ∈ r.entries) ∧
      m.Spans m.segments ∧
      (∀ spans, m.Spans spans → runs = spans.map fun s => ⟨s.1, m.window s.1 (s.2 - 1)⟩) ∧
      (∀ address x, m[address]? = some x ↔ (address, x) ∈ IntelHex.fileBytes content) ∧
      ∀ s path' content' m', s.read path' = .ok content' → IntelHex.read content' = .ok m' →
        (∀ address : Nat, m'[address]? = m[address]?) →
          (Bench.mk w.builder s).perform (.addHexFile owner path') =
            (⟨(w.perform (.addHexFile owner path)).1.builder, s⟩,
              (w.perform (.addHexFile owner path)).2) := by
  have hsegmented := AddressMap.segmented_runs m
  have hloaded : ∀ {s path content m}, s.read path = .ok content → IntelHex.read content = .ok m →
      (Bench.mk w.builder s).perform (.addHexFile owner path) =
        (⟨w.builder.withRuns owner queue (AddressMap.runs m), s⟩,
          .ok (.count (w.builder.chunks.length + (AddressMap.runs m).length))) := by
    intro s path content m hfile hread
    rw [perform, queueHexFile_eq hqueue howner hfile hread, queued, Attempt.outcome]
    simp [Except.map, withRuns]
  refine ⟨AddressMap.runs m, hloaded hfile hread, fun r => hsegmented.mem_iff, hsegmented.apart, ?_,
    AddressMap.spans_segments m, fun spans hspans => hspans.runs_eq,
    IntelHex.getElem?_of_read hread, ?_⟩
  · intro address x
    rw [hsegmented.getElem?_eq_some_iff]
    refine ⟨?_, fun h => h.exists⟩
    rintro ⟨r, hr, hx⟩
    refine ⟨r, ⟨hr, hx⟩, ?_⟩
    rintro r' ⟨hr', hx'⟩
    exact (hsegmented.isMaximal hr').eq_of_mem (hsegmented.isMaximal hr) hx' hx
  · intro s path' content' m' hfile' hread' hsame
    have hfirst := hloaded hfile hread
    rw [hloaded hfile' hread', AddressMap.runs_congr hsame]
    change w.perform _ = _ at hfirst
    rw [hfirst]

/-- The second run comes first, and the first one in two records. -/
def twoRuns : Bytes :=
  Utf8.encode ":020003000B0CE4\n:0100000001FE\n:0100010002FC\n:00000001FF\n"

def twoRunsBench : Bench where
  builder := { empty .little [] with
    chunks := [⟨1, 0, 16, 1, 0xD202EF8D⟩]
    queue := some [.ofBytes [0]] }
  store := { files := [(["h"], twoRuns)] }

theorem Bench.perform_addHexFile_two_runs :
    ∃ (m : AddressMap) (runs : List Run), IntelHex.read twoRuns = .ok m ∧ runs.length = 2 ∧
      (∀ r, r ∈ runs ↔ r.IsMaximal m) ∧
      (twoRunsBench.perform (.addHexFile 4 "h")).1.builder.chunks =
        twoRunsBench.builder.chunks ++ runs.map (Run.chunk 4) := by
  have hqueue : twoRunsBench.builder.queue = some [.ofBytes [0]] := rfl
  have howner : FitsWidth 4 4 := by decide
  have hfile : twoRunsBench.store.read "h" = .ok twoRuns := by cbv
  have haccepted : (IntelHex.read twoRuns).isOk = true := by cbv
  have hcount : (twoRunsBench.perform (.addHexFile 4 "h")).2 = .ok (.count 3) := by cbv
  cases hread : IntelHex.read twoRuns with
  | error e =>
      rw [hread] at haccepted
      cases haccepted
  | ok m =>
      obtain ⟨runs, hloaded, hmaximal, _⟩ :=
        perform_addHexFile_maximal_runs twoRunsBench hqueue howner hfile hread
      refine ⟨m, runs, rfl, ?_, hmaximal, ?_⟩
      · rw [hloaded, Except.ok.injEq, Reply.count.injEq] at hcount
        exact Nat.add_left_cancel hcount
      · rw [hloaded]
        rfl

end Builder

end BootSeal
