import BootSeal.IntelHex.Basic
import BootSeal.Proofs.Bytes.Field
/-!
# How far the addresses of a file reach

An offset is a number of two bytes in units of 16 bytes or of 64 KiB, and a record adds an address of
two bytes and fewer than 256 bytes of data. So all addresses that a file uses are below a bound that no
eight-byte field comes near, and so are the ends of its runs.
-/

namespace BootSeal

/-- A run that holds something and ends at or below a bound. -/
structure Run.Within (limit : Nat) (r : Run) : Prop where
  bytes_ne_nil : r.bytes ≠ []
  end_le : r.start + r.bytes.length ≤ limit

namespace AddressMap

/-- All addresses that are used are below a bound. -/
def Below (limit : Nat) (m : AddressMap) : Prop := ∀ a ∈ m, a < limit

variable {limit : Nat}

theorem Below.insertAll {m next : AddressMap} {address : Nat} {data : Bytes} (h : Below limit m)
    (hroom : address + data.length ≤ limit) (hadded : insertAll m address data = .ok next) :
    Below limit next := by
  induction data generalizing m address with
  | nil =>
      cases hadded
      exact h
  | cons b rest ih =>
      rw [AddressMap.insertAll] at hadded
      rw [List.length_cons] at hroom
      split at hadded
      next => cases hadded
      next =>
        refine ih ?_ (by omega) hadded
        intro a ha
        rcases Std.TreeMap.mem_insert.mp ha with heq | hold
        · rw [Std.LawfulEqCmp.compare_eq_iff_eq] at heq
          omega
        · exact h a hold

theorem consRun_within {address : Nat} (haddress : address < limit) (b : UInt8) {rest : List Run}
    (hrest : ∀ r ∈ rest, r.Within limit) : ∀ r ∈ consRun address b rest, r.Within limit := by
  have hsingle : Run.Within limit ⟨address, [b]⟩ := ⟨List.cons_ne_nil _ _, haddress⟩
  cases rest with
  | nil => exact List.forall_mem_singleton.mpr hsingle
  | cons r rest =>
      obtain ⟨hfirst, hmore⟩ := List.forall_mem_cons.mp hrest
      rw [consRun]
      split
      -- The byte in front of a run makes it longer and moves its start, so its end stays.
      next hnext =>
        refine List.forall_mem_cons.mpr ⟨⟨List.cons_ne_nil _ _, ?_⟩, hmore⟩
        have hend := hfirst.end_le
        dsimp only
        rw [List.length_cons]
        omega
      next => exact List.forall_mem_cons.mpr ⟨hsingle, hrest⟩

theorem runsOfList_within {entries : List (Nat × UInt8)} (h : ∀ e ∈ entries, e.1 < limit) :
    ∀ r ∈ runsOfList entries, r.Within limit := by
  induction entries with
  | nil => exact List.forall_mem_nil _
  | cons e rest ih =>
      obtain ⟨hfirst, hrest⟩ := List.forall_mem_cons.mp h
      exact consRun_within hfirst e.2 (ih hrest)

theorem runs_within {m : AddressMap} (h : Below limit m) : ∀ r ∈ runs m, r.Within limit := by
  apply runsOfList_within
  rintro ⟨a, b⟩ he
  have hget := Std.TreeMap.mem_toList_iff_getElem?_eq_some.mp he
  obtain ⟨hmem, _⟩ := Std.TreeMap.getElem?_eq_some_iff.mp hget
  exact h a hmem

end AddressMap

namespace IntelHex

/-- The largest offset that a record gives. -/
def maxOffset : Nat := 65535 * 65536

/-- No file uses an address from here on. -/
def addressLimit : Nat := 2 ^ 33

def Record.Bounded : Record → Prop
  | .data address bytes => address < 65536 ∧ bytes.length < 256
  | .offset value => value ≤ maxOffset
  | .endOfFile => True
  | .start => True

/-- The number in a field of two bytes. -/
theorem toNatBE_lt_of_length {b : Bytes} (h : b.length = 2) : Bytes.toNatBE b < 65536 := by
  have hlt := Bytes.toNatBE_lt b
  rwa [h] at hlt

theorem classify_bounded {line kind address : Nat} {data : Bytes} {r : Record}
    (haddress : address < 65536) (hdata : data.length < 256)
    (h : classify line kind address data = .ok r) : r.Bounded := by
  -- The offsets of both kinds are those of two data bytes.
  have hvalue : (data.length == 2 && address == 0) = true → Bytes.toNatBE data < 65536 := by
    intro hplain
    simp only [Bool.and_eq_true, beq_iff_eq] at hplain
    exact toNatBE_lt_of_length hplain.1
  unfold classify at h
  dsimp only at h
  split at h
  next =>
    cases h
    exact ⟨haddress, hdata⟩
  next =>
    split at h
    next =>
      cases h
      trivial
    next => cases h
  next =>
    split at h
    next hplain =>
      cases h
      have hlt := hvalue hplain
      simp only [Record.Bounded, maxOffset]
      omega
    next => cases h
  next =>
    split at h
    next =>
      cases h
      trivial
    next => cases h
  next =>
    split at h
    next hplain =>
      cases h
      have hlt := hvalue hplain
      simp only [Record.Bounded, maxOffset]
      omega
    next => cases h
  next =>
    split at h
    next =>
      cases h
      trivial
    next => cases h

theorem recordBytes?_length {s : List Char} {b : Bytes} (h : recordBytes? s = some b) :
    5 ≤ b.length := by
  unfold recordBytes? at h
  split at h
  next =>
    split at h
    next =>
      split at h
      next hlength =>
        cases h
        exact hlength
      next => cases h
    next => cases h
  next => cases h

theorem record_bounded {line : Nat} {s : List Char} {r : Record} (h : record line s = .ok r) :
    r.Bounded := by
  unfold record at h
  split at h
  next => cases h
  next b hbytes =>
    have hlength := recordBytes?_length hbytes
    dsimp only at h
    split at h
    next => cases h
    split at h
    next => cases h
    split at h
    next => cases h
    refine classify_bounded (toNatBE_lt_of_length ?_) ?_ h
    · rw [Bytes.length_slice]
      omega
    · have hcount := (b.getD 0 0).toNat_lt
      rw [Bytes.length_slice]
      omega

/-- What holds of what has been read so far. -/
structure Progress.Bounded (p : Progress) : Prop where
  offset_le : p.offset ≤ maxOffset
  bytes_below : AddressMap.Below addressLimit p.bytes

theorem Progress.Bounded.initial : Progress.Bounded {} where
  offset_le := Nat.zero_le _
  bytes_below _ ha := absurd ha Std.TreeMap.not_mem_emptyc

theorem Progress.Bounded.take {p next : Progress} (hp : p.Bounded) {line : Nat} {r : Record}
    (hr : r.Bounded) (h : p.take line r = .ok next) : next.Bounded := by
  cases r with
  | data address data =>
      rw [Progress.take] at h
      split at h
      next bytes hadded =>
        cases h
        refine ⟨hp.offset_le, hp.bytes_below.insertAll ?_ hadded⟩
        obtain ⟨haddress, hdata⟩ := hr
        have hoffset := hp.offset_le
        simp only [maxOffset, addressLimit] at hoffset ⊢
        omega
      next => cases h
  | endOfFile =>
      cases h
      exact ⟨hp.offset_le, hp.bytes_below⟩
  | offset value =>
      cases h
      exact ⟨hr, hp.bytes_below⟩
  | start =>
      rw [Progress.take] at h
      split at h
      next => cases h
      next =>
        cases h
        exact ⟨hp.offset_le, hp.bytes_below⟩

/-- Each line keeps what holds, so a whole reading does. -/
theorem Progress.Bounded.readLines {p next : Progress} (hp : p.Bounded) {line : Nat}
    {lines : List (List Char)} (h : readLines p line lines = .ok next) : next.Bounded := by
  induction lines generalizing p line with
  | nil =>
      cases h
      exact hp
  | cons s rest ih =>
      cases s with
      | nil => exact ih hp h
      | cons c cs =>
          rw [IntelHex.readLines] at h
          · split at h
            next => cases h
            next r hrecord =>
              split at h
              next => cases h
              next taken htaken =>
                have htakenBounded := hp.take (record_bounded hrecord) htaken
                split at h
                next =>
                  cases h
                  exact htakenBounded
                next => exact ih htakenBounded h
          · exact List.cons_ne_nil c cs

theorem read_below {b : Bytes} {m : AddressMap} (h : read b = .ok m) :
    AddressMap.Below addressLimit m := by
  unfold read at h
  split at h
  next =>
    split at h
    next => cases h
    next p hlines =>
      cases h
      exact (Progress.Bounded.initial.readLines hlines).bytes_below
  next =>
    split at h
    next => cases h
    next p hlines =>
      split at h
      next =>
        cases h
        exact (Progress.Bounded.initial.readLines hlines).bytes_below
      next => cases h

/-- The runs of a file hold something, and their starts and sizes are far below what fits eight bytes. -/
theorem runs_within_of_read {b : Bytes} {m : AddressMap} (h : read b = .ok m) :
    ∀ r ∈ AddressMap.runs m, r.Within addressLimit :=
  AddressMap.runs_within (read_below h)

end IntelHex

end BootSeal
