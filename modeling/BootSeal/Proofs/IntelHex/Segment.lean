import Mathlib
import BootSeal.IntelHex.AddressMap
/-!
# Runs as segments

The runs of a map are its segments by ascending address: none is empty, an address that is not used
stands between any two of them, and together they hold just the bytes of the map.
-/

namespace BootSeal

/-- The addresses of a run with the bytes at them. -/
def Run.entries (r : Run) : List (Nat × UInt8) := (r.bytes.zipIdx r.start).map Prod.swap

theorem Run.mem_entries_iff {r : Run} {address : Nat} {x : UInt8} :
    (address, x) ∈ r.entries ↔ r.start ≤ address ∧ r.bytes[address - r.start]? = some x := by
  rw [entries, List.mem_map, ← List.mk_mem_zipIdx_iff_le_and_getElem?_sub]
  constructor
  · rintro ⟨⟨y, i⟩, hmem, heq⟩
    cases heq
    exact hmem
  · intro hmem
    exact ⟨_, hmem, rfl⟩

namespace AddressMap

/-- Runs are the segments of a map, by ascending address. -/
structure Segmented (m : AddressMap) (runs : List Run) : Prop where
  bytes_ne_nil : ∀ r ∈ runs, r.bytes ≠ []
  apart : runs.Pairwise fun r next => r.start + r.bytes.length < next.start
  holds_iff : ∀ address x, m[address]? = some x ↔
    ∃ r ∈ runs, r.start ≤ address ∧ r.bytes[address - r.start]? = some x

/-! ## Runs of a list -/

theorem entries_consRun (address : Nat) (b : UInt8) (rest : List Run) :
    (consRun address b rest).flatMap Run.entries = (address, b) :: rest.flatMap Run.entries := by
  cases rest with
  | nil => rfl
  | cons r rest =>
      rw [consRun]
      split
      -- The byte is put in front of the run behind it.
      next hnext =>
        rw [List.flatMap_cons, List.flatMap_cons, Run.entries, Run.entries, List.zipIdx_cons, hnext]
        rfl
      next => rfl

/-- No entry is lost, and none comes out of its place. -/
theorem entries_runsOfList (entries : List (Nat × UInt8)) :
    (runsOfList entries).flatMap Run.entries = entries := by
  induction entries with
  | nil => rfl
  | cons e rest ih =>
      change (consRun e.1 e.2 (runsOfList rest)).flatMap Run.entries = _
      rw [entries_consRun, ih]

theorem consRun_bytes_ne_nil {address : Nat} {b : UInt8} {rest : List Run}
    (hrest : ∀ r ∈ rest, r.bytes ≠ []) : ∀ r ∈ consRun address b rest, r.bytes ≠ [] := by
  cases rest with
  | nil => exact List.forall_mem_singleton.mpr (List.cons_ne_nil _ _)
  | cons r rest =>
      rw [consRun]
      split
      next =>
        exact List.forall_mem_cons.mpr
          ⟨List.cons_ne_nil _ _, (List.forall_mem_cons.mp hrest).2⟩
      next => exact List.forall_mem_cons.mpr ⟨List.cons_ne_nil _ _, hrest⟩

theorem runsOfList_bytes_ne_nil (entries : List (Nat × UInt8)) :
    ∀ r ∈ runsOfList entries, r.bytes ≠ [] := by
  induction entries with
  | nil => exact List.forall_mem_nil _
  | cons e rest ih => exact consRun_bytes_ne_nil ih

/-- A run starts at the address of one of its entries. -/
theorem start_mem_of_mem_runsOfList {entries : List (Nat × UInt8)} {r : Run}
    (h : r ∈ runsOfList entries) : ∃ x, (r.start, x) ∈ entries := by
  have hne := runsOfList_bytes_ne_nil entries r h
  obtain ⟨x, rest, hbytes⟩ := List.exists_cons_of_ne_nil hne
  refine ⟨x, ?_⟩
  rw [← entries_runsOfList entries, List.mem_flatMap]
  refine ⟨r, h, Run.mem_entries_iff.mpr ⟨Nat.le_refl _, ?_⟩⟩
  rw [hbytes, Nat.sub_self, List.getElem?_cons_zero]

theorem consRun_apart {address : Nat} {b : UInt8} {rest : List Run}
    (hrest : rest.Pairwise fun r next => r.start + r.bytes.length < next.start)
    (hbehind : ∀ r ∈ rest, address < r.start) :
    (consRun address b rest).Pairwise fun r next => r.start + r.bytes.length < next.start := by
  cases rest with
  | nil => exact List.pairwise_singleton _ _
  | cons r rest =>
      obtain ⟨hfirst, hmore⟩ := List.pairwise_cons.mp hrest
      rw [consRun]
      split
      next hnext =>
        refine List.pairwise_cons.mpr ⟨fun next hmem => ?_, hmore⟩
        have hgap := hfirst next hmem
        dsimp only
        rw [List.length_cons]
        omega
      next hnext =>
        refine List.pairwise_cons.mpr ⟨fun next hmem => ?_, hrest⟩
        -- The run behind does not start right here, and the ones behind that start later still.
        have hstart := hbehind r List.mem_cons_self
        rcases List.mem_cons.mp hmem with rfl | hlater
        · dsimp only [List.length_singleton]
          omega
        · have hgap := hfirst next hlater
          dsimp only [List.length_singleton]
          omega

theorem runsOfList_apart {entries : List (Nat × UInt8)}
    (h : entries.Pairwise fun e next => e.1 < next.1) :
    (runsOfList entries).Pairwise fun r next => r.start + r.bytes.length < next.start := by
  induction entries with
  | nil => exact List.Pairwise.nil
  | cons e rest ih =>
      obtain ⟨hfirst, hrest⟩ := List.pairwise_cons.mp h
      refine consRun_apart (ih hrest) fun r hr => ?_
      obtain ⟨x, hx⟩ := start_mem_of_mem_runsOfList hr
      exact hfirst _ hx

/-! ## Runs of a map -/

theorem pairwise_toList (m : AddressMap) : m.toList.Pairwise fun e next => e.1 < next.1 := by
  refine Std.TreeMap.ordered_keys_toList.imp ?_
  intro e next h
  exact Nat.compare_eq_lt.mp h

/-- The runs of a map are its segments. -/
theorem segmented_runs (m : AddressMap) : Segmented m (runs m) where
  bytes_ne_nil := runsOfList_bytes_ne_nil m.toList
  apart := runsOfList_apart (pairwise_toList m)
  holds_iff address x := by
    simp only [← Run.mem_entries_iff, ← List.mem_flatMap, runs, entries_runsOfList,
      Std.TreeMap.mem_toList_iff_getElem?_eq_some]

/-- There are no runs just if no address is used. -/
theorem runs_eq_nil_iff {m : AddressMap} : runs m = [] ↔ ∀ address, address ∉ m := by
  have hlist : runs m = [] ↔ m.toList = [] := by
    rw [← entries_runsOfList m.toList]
    constructor
    · intro h
      rw [show runsOfList m.toList = [] from h]
      rfl
    · intro h
      rw [entries_runsOfList] at h
      rw [runs, h]
      rfl
  rw [hlist, ← List.isEmpty_iff, Std.TreeMap.isEmpty_toList, Std.TreeMap.isEmpty_iff_forall_not_mem]

end AddressMap

end BootSeal
