import BootSeal.Proofs.Builder.Additions
import BootSeal.Proofs.Builder.Loading
import BootSeal.Proofs.Except
/-!
# Faulty additions

An addition is faulty when its file cannot be read, when its file is no Intel HEX file, or when a value is
out of the range of its field. A row of additions is refused just if one of them is faulty, whichever it is
and however many others stand in front of it.
-/

namespace BootSeal.Builder

variable {order : ByteOrder} {setName : String} {calls : List Call} {s : Store} {b next : Builder}
  {owner execAddr : Int}

/-- The file from which an addition is made. -/
def Addition.input? : Addition → Option String
  | .file _ _ path => some path
  | .hexFile _ path => some path
  | .ziChunk .. => none

/-- What is wrong with an addition. The owner of an Intel HEX file is looked at only when the file has
bytes to own. -/
inductive Addition.Faulty (s : Store) : Addition → Prop
  | unread {a : Addition} {path : String} {e : FileFault} (hinput : a.input? = some path)
      (h : s.read path = .error e) : Faulty s a
  | notHex {owner : Int} {path : String} {content : Bytes} {e : IntelHex.ReadError}
      (hread : s.read path = .ok content) (h : IntelHex.read content = .error e) :
      Faulty s (.hexFile owner path)
  | fileMisfit {owner execAddr : Int} {path : String} {content : Bytes}
      (hread : s.read path = .ok content)
      (h : ¬(FitsWidth 4 owner ∧ FitsWidth 8 execAddr ∧ FitsWidth 8 content.length)) :
      Faulty s (.file owner execAddr path)
  | hexMisfit {owner : Int} {path : String} {content : Bytes} {m : AddressMap} {address : Nat}
      (hread : s.read path = .ok content) (hmap : IntelHex.read content = .ok m)
      (hused : address ∈ m) (h : ¬FitsWidth 4 owner) : Faulty s (.hexFile owner path)
  | ziMisfit {owner execAddr size : Int}
      (h : ¬(FitsWidth 4 owner ∧ FitsWidth 8 execAddr ∧ FitsWidth 8 size)) :
      Faulty s (.ziChunk owner execAddr size)

/-- An Intel HEX file that can be read is faulty only for an owner of its bytes. -/
theorem Addition.faulty_hexFile_iff {path : String} {content : Bytes} {m : AddressMap}
    (hread : s.read path = .ok content) (hmap : IntelHex.read content = .ok m) :
    Faulty s (.hexFile owner path) ↔ (∃ address, address ∈ m) ∧ ¬FitsWidth 4 owner := by
  constructor
  · intro h
    cases h with
    | unread hinput hunread =>
        cases hinput
        rw [hread] at hunread
        cases hunread
    | notHex hread' hmalformed =>
        rw [hread, Except.ok.injEq] at hread'
        rw [← hread', hmap] at hmalformed
        cases hmalformed
    | hexMisfit hread' hmap' hused howner =>
        rw [hread, Except.ok.injEq] at hread'
        rw [← hread', hmap, Except.ok.injEq] at hmap'
        exact ⟨⟨_, hmap' ▸ hused⟩, howner⟩
  · rintro ⟨⟨address, hused⟩, howner⟩
    exact .hexMisfit hread hmap hused howner

theorem readInput_eq_error_iff {path : String} :
    (∃ e, readInput s path = .error e) ↔ ∃ e, s.read path = .error e :=
  exists_error_congr readInput_eq_ok_iff

theorem crc32_fits (content : Bytes) : FitsWidth 4 (crc32 content) :=
  ⟨Int.natCast_nonneg _, Int.ofNat_lt.mpr (crc32_lt content)⟩

section Open

variable {queue : List Payload} (hqueue : b.queue = some queue)
include hqueue

/-- Bytes are refused just for the values that come with them: their checksum always fits. -/
theorem addBytes_eq_error_iff {content : Bytes} :
    (∃ e, b.addBytes owner execAddr content = .error e) ↔
      ¬(FitsWidth 4 owner ∧ FitsWidth 8 execAddr ∧ FitsWidth 8 content.length) := by
  rw [exists_error_iff, not_iff_not]
  constructor
  · rintro ⟨next, hadded⟩
    obtain ⟨_, _, ⟨howner, _, hexec, hsize, _⟩, _⟩ := addChunk_eq_ok hadded
    exact ⟨howner, hexec, hsize⟩
  · rintro ⟨howner, hexec, hsize⟩
    exact exists_addChunk hqueue ⟨howner, FitsWidth.zero 8, hexec, hsize, crc32_fits content⟩
      (Payload.isReadable_ofBytes content) rfl

theorem addFile_eq_error_iff {path : String} :
    (∃ e, b.addFile s owner execAddr path = .error e) ↔
      Addition.Faulty s (.file owner execAddr path) := by
  constructor
  · intro hrefused
    cases hread : s.read path with
    | error e => exact .unread rfl hread
    | ok content =>
        rw [addFile, queueFile, readInput_eq_ok_iff.mpr hread] at hrefused
        exact .fileMisfit hread ((addBytes_eq_error_iff hqueue).mp hrefused)
  · intro h
    cases h with
    | unread hinput hread =>
        cases hinput
        obtain ⟨e, hinput⟩ := readInput_eq_error_iff.mpr ⟨_, hread⟩
        exact ⟨e, by rw [addFile, queueFile, hinput]; rfl⟩
    | fileMisfit hread hmisfit =>
        rw [addFile, queueFile, readInput_eq_ok_iff.mpr hread]
        exact (addBytes_eq_error_iff hqueue).mpr hmisfit

/-- A run fits but for its owner, so the first run decides. -/
theorem queueRuns_eq_error_iff {runs : List Run}
    (hruns : ∀ r ∈ runs, r.Within IntelHex.addressLimit) :
    (∃ e, (b.queueRuns owner runs).outcome = .error e) ↔ runs ≠ [] ∧ ¬FitsWidth 4 owner := by
  by_cases howner : FitsWidth 4 owner
  · rw [queueRuns_eq hqueue howner hruns]
    simp [Attempt.outcome, howner]
  · cases runs with
    | nil => simp [queueRuns, Attempt.outcome]
    | cons r rest =>
        have hmisfit := fun h : FitsWidth 4 owner ∧ FitsWidth 8 r.start ∧ FitsWidth 8 r.bytes.length =>
          howner h.1
        obtain ⟨e, hrefused⟩ := (addBytes_eq_error_iff hqueue).mpr hmisfit
        simp [queueRuns, hrefused, Attempt.outcome, howner]

theorem addHexFile_eq_error_iff {path : String} :
    (∃ e, b.addHexFile s owner path = .error e) ↔ Addition.Faulty s (.hexFile owner path) := by
  rw [addHexFile, queueHexFile_eq_queueRuns, readRuns, readMap]
  cases hinput : readInput s path with
  | error fault =>
      obtain ⟨e, hread⟩ := readInput_eq_error_iff.mp ⟨fault, hinput⟩
      exact ⟨fun _ => .unread rfl hread, fun _ => ⟨fault, rfl⟩⟩
  | ok content =>
      have hread := readInput_eq_ok_iff.mp hinput
      dsimp only
      cases hmap : IntelHex.read content with
      | error fault =>
          cases fault with
          | notText => exact ⟨fun _ => .notHex hread hmap, fun _ => ⟨_, rfl⟩⟩
          | malformed e => exact ⟨fun _ => .notHex hread hmap, fun _ => ⟨_, rfl⟩⟩
      | ok m =>
          dsimp only [Except.map]
          rw [queueRuns_eq_error_iff hqueue (IntelHex.runs_within_of_read hmap), Ne,
            AddressMap.runs_eq_nil_iff, not_forall_not]
          exact (Addition.faulty_hexFile_iff hread hmap).symm

theorem addZiChunk_eq_error_iff {size : Int} :
    (∃ e, b.addZiChunk owner execAddr size = .error e) ↔
      Addition.Faulty s (.ziChunk owner execAddr size) := by
  have haccepted : (∃ next, b.addZiChunk owner execAddr size = .ok next) ↔
      (ZiChunk.mk owner execAddr size).Fits := by
    refine ⟨?_, exists_addZiChunk hqueue⟩
    rintro ⟨next, hadded⟩
    exact (addZiChunk_eq_ok hadded).1
  rw [exists_error_iff, haccepted]
  constructor
  · exact .ziMisfit
  · intro h
    cases h with
    | unread hinput => cases hinput
    | ziMisfit hmisfit => exact hmisfit

theorem add_eq_error_iff {a : Addition} : (∃ e, b.add s a = .error e) ↔ a.Faulty s := by
  cases a with
  | file => exact addFile_eq_error_iff hqueue
  | hexFile => exact addHexFile_eq_error_iff hqueue
  | ziChunk => exact addZiChunk_eq_error_iff hqueue

end Open

/-- The builder is open in front of each addition, so the first faulty one is refused. -/
theorem Grown.addAll_eq_error_iff (hb : Grown order setName calls b) {additions : List Addition} :
    (∃ e, b.addAll s additions = .error e) ↔ ∃ a ∈ additions, a.Faulty s := by
  induction additions generalizing b calls with
  | nil => simp [Builder.addAll]
  | cons a rest ih =>
      rw [List.exists_mem_cons_iff, ← add_eq_error_iff hb.filled.queue_eq, Builder.addAll]
      cases hadded : b.add s a with
      | error e => simp
      | ok next => simp [ih (hb.add hadded)]

end BootSeal.Builder
