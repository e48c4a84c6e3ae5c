import BootSeal.Proofs.IntelHex.Segment
/-!
# Segments are the maximal runs

The segments of a map are its runs that cannot be made longer, each once, so the map has one list of
segments and the bytes at its addresses decide it. Ranges of addresses that span the map give the same
segments, when the bytes are taken from the start of a range up to the last address before its end.
-/

namespace BootSeal

/-- The bytes of a run are those of the map, and the run cannot be made longer at either end. -/
structure Run.IsMaximal (m : AddressMap) (r : Run) : Prop where
  bytes_ne_nil : r.bytes ≠ []
  holds : ∀ e ∈ r.entries, m[e.1]? = some e.2
  before_notMem : ∀ address, address + 1 = r.start → address ∉ m
  behind_notMem : r.start + r.bytes.length ∉ m

namespace Run

theorem mem_entries_bounds {r : Run} {address : Nat} {x : UInt8} (h : (address, x) ∈ r.entries) :
    r.start ≤ address ∧ address < r.start + r.bytes.length := by
  obtain ⟨hle, hget⟩ := mem_entries_iff.mp h
  obtain ⟨hlt, _⟩ := List.getElem?_eq_some_iff.mp hget
  omega

theorem exists_mem_entries {r : Run} {address : Nat} (hle : r.start ≤ address)
    (hlt : address < r.start + r.bytes.length) : ∃ x, (address, x) ∈ r.entries := by
  have hi : address - r.start < r.bytes.length := by omega
  exact ⟨_, mem_entries_iff.mpr ⟨hle, List.getElem?_eq_getElem hi⟩⟩

namespace IsMaximal

variable {m : AddressMap} {r r' : Run}

theorem mem {address : Nat} (h : r.IsMaximal m) (hle : r.start ≤ address)
    (hlt : address < r.start + r.bytes.length) : address ∈ m := by
  obtain ⟨x, hx⟩ := exists_mem_entries hle hlt
  obtain ⟨hmem, _⟩ := Std.TreeMap.getElem?_eq_some_iff.mp (h.holds _ hx)
  exact hmem

/-- A maximal run starts no later than another one that has an address in common with it. -/
theorem start_le {address : Nat} (h : r.IsMaximal m) (h' : r'.IsMaximal m)
    (hlt : address < r.start + r.bytes.length) (hle' : r'.start ≤ address) :
    r'.start ≤ r.start := by
  by_contra hnot
  -- The address in front of the later start is still in the run that started before.
  refine h'.before_notMem (r'.start - 1) (by omega) (h.mem ?_ ?_) <;> omega

/-- It ends no earlier either. -/
theorem stop_le {address : Nat} (h : r.IsMaximal m) (h' : r'.IsMaximal m)
    (hlt : address < r.start + r.bytes.length) (hle' : r'.start ≤ address) :
    r'.start + r'.bytes.length ≤ r.start + r.bytes.length := by
  by_contra hnot
  exact h.behind_notMem (h'.mem (by omega) (by omega))

/-- Maximal runs with an address in common are the same. -/
theorem eq_of_mem {address : Nat} {x x' : UInt8} (h : r.IsMaximal m) (h' : r'.IsMaximal m)
    (hx : (address, x) ∈ r.entries) (hx' : (address, x') ∈ r'.entries) : r = r' := by
  obtain ⟨hle, hlt⟩ := mem_entries_bounds hx
  obtain ⟨hle', hlt'⟩ := mem_entries_bounds hx'
  have hstart := Nat.le_antisymm (h'.start_le h hlt' hle) (h.start_le h' hlt hle')
  have hstop := Nat.le_antisymm (h'.stop_le h hlt' hle) (h.stop_le h' hlt hle')
  have hlength : r.bytes.length = r'.bytes.length := by omega
  have hbytes : r.bytes = r'.bytes := by
    refine List.ext_getElem hlength fun i hi hi' => ?_
    have hget := h.holds (r.start + i, r.bytes[i]) (mem_entries_iff.mpr
      ⟨Nat.le_add_right _ _, by rw [Nat.add_sub_cancel_left, List.getElem?_eq_getElem hi]⟩)
    have hget' := h'.holds (r.start + i, r'.bytes[i]) (mem_entries_iff.mpr
      ⟨by omega, by rw [hstart, Nat.add_sub_cancel_left, List.getElem?_eq_getElem hi']⟩)
    rw [hget, Option.some.injEq] at hget'
    exact hget'
  cases r
  cases r'
  congr

end IsMaximal

end Run

namespace AddressMap

namespace Segmented

variable {m : AddressMap} {runs runs' : List Run} {r r' : Run}

theorem getElem?_eq_some_iff (h : Segmented m runs) {address : Nat} {x : UInt8} :
    m[address]? = some x ↔ ∃ r ∈ runs, (address, x) ∈ r.entries := by
  simp only [h.holds_iff, Run.mem_entries_iff]

theorem exists_of_mem (h : Segmented m runs) {address : Nat} (hmem : address ∈ m) :
    ∃ r ∈ runs, r.start ≤ address ∧ address < r.start + r.bytes.length := by
  obtain ⟨r, hr, hx⟩ := h.getElem?_eq_some_iff.mp (Std.TreeMap.getElem?_eq_some_getElem hmem)
  exact ⟨r, hr, Run.mem_entries_bounds hx⟩

/-- Two segments are the same, or an address that is not used stands between them. -/
theorem eq_or_apart (h : Segmented m runs) (hr : r ∈ runs) (hr' : r' ∈ runs) :
    r = r' ∨ r.start + r.bytes.length < r'.start ∨ r'.start + r'.bytes.length < r.start := by
  refine List.Pairwise.forall_of_forall_of_flip (R := fun r r' : Run =>
    r = r' ∨ r.start + r.bytes.length < r'.start ∨ r'.start + r'.bytes.length < r.start)
    (fun r _ => Or.inl rfl) ?_ ?_ hr hr'
  · exact h.apart.imp fun hlt => Or.inr (Or.inl hlt)
  · exact h.apart.imp fun hlt => Or.inr (Or.inr hlt)

/-- A used address right in front of a segment or right behind it would belong to another segment, which
is apart from this one. -/
theorem isMaximal (h : Segmented m runs) (hr : r ∈ runs) : r.IsMaximal m := by
  have hne := List.length_pos_of_ne_nil (h.bytes_ne_nil r hr)
  refine ⟨h.bytes_ne_nil r hr, fun e he => h.getElem?_eq_some_iff.mpr ⟨r, hr, he⟩, ?_, ?_⟩
  · intro address hnext hmem
    obtain ⟨r', hr', hle, hlt⟩ := h.exists_of_mem hmem
    rcases h.eq_or_apart hr hr' with rfl | hapart
    · omega
    · omega
  · intro hmem
    obtain ⟨r', hr', hle, hlt⟩ := h.exists_of_mem hmem
    rcases h.eq_or_apart hr hr' with rfl | hapart
    · omega
    · omega

/-- The segments are the maximal runs. -/
theorem mem_iff (h : Segmented m runs) : r ∈ runs ↔ r.IsMaximal m := by
  refine ⟨h.isMaximal, fun hmaximal => ?_⟩
  have hpos := List.length_pos_of_ne_nil hmaximal.bytes_ne_nil
  obtain ⟨x, hx⟩ := Run.exists_mem_entries (Nat.le_refl r.start) (Nat.lt_add_of_pos_right hpos)
  obtain ⟨r', hr', hx'⟩ := h.getElem?_eq_some_iff.mp (hmaximal.holds _ hx)
  rwa [hmaximal.eq_of_mem (h.isMaximal hr') hx hx']

theorem sorted (h : Segmented m runs) : runs.Pairwise fun r next => r.start < next.start :=
  h.apart.imp fun hlt => Nat.lt_of_le_of_lt (Nat.le_add_right _ _) hlt

/-- A map has one list of segments. -/
theorem unique (h : Segmented m runs) (h' : Segmented m runs') : runs = runs' := by
  have hnodup : ∀ {runs}, Segmented m runs → runs.Nodup := fun h => h.sorted.imp fun hlt heq => by
    rw [heq] at hlt
    exact Nat.lt_irrefl _ hlt
  have hperm : runs.Perm runs' := (List.perm_ext_iff_of_nodup (hnodup h) (hnodup h')).mpr fun r => by
    rw [h.mem_iff, h'.mem_iff]
  refine hperm.eq_of_pairwise (fun r r' _ _ hlt hlt' => ?_) h.sorted h'.sorted
  exact absurd hlt' (Nat.lt_asymm hlt)

theorem congr {m' : AddressMap} (h : Segmented m' runs)
    (heq : ∀ address : Nat, m'[address]? = m[address]?) : Segmented m runs :=
  ⟨h.bytes_ne_nil, h.apart, fun address x => by rw [← heq, h.holds_iff]⟩

end Segmented

/-- The runs of a map are decided by the bytes at its addresses. -/
theorem runs_congr {m m' : AddressMap} (h : ∀ address : Nat, m'[address]? = m[address]?) :
    runs m' = runs m :=
  ((segmented_runs m').congr h).unique (segmented_runs m)

/-! ## Ranges of addresses -/

/-- Ranges of addresses span a map: they come in ascending order, none is empty or touches the next one,
and the addresses in them are those that are used. Each range is given by its first address and the
address behind its last one. -/
structure Spans (m : AddressMap) (spans : List (Nat × Nat)) : Prop where
  start_lt : ∀ s ∈ spans, s.1 < s.2
  apart : spans.Pairwise fun s next => s.2 < next.1
  mem_iff : ∀ address, address ∈ m ↔ ∃ s ∈ spans, s.1 ≤ address ∧ address < s.2

theorem length_window (m : AddressMap) (first last : Nat) :
    (m.window first last).length = last + 1 - first := by
  rw [window, List.length_map, List.length_range']

theorem getElem?_window {m : AddressMap} {first last i : Nat} (h : first + i ≤ last) :
    (m.window first last)[i]? = some (m.getD (first + i) 255) := by
  rw [window, List.getElem?_map, List.getElem?_range' (by omega), Nat.one_mul]
  rfl

namespace Spans

variable {m : AddressMap} {spans : List (Nat × Nat)}

/-- The bytes from the start of each range up to the last address before its end make the segments. -/
theorem segmented (h : Spans m spans) :
    Segmented m (spans.map fun s => ⟨s.1, m.window s.1 (s.2 - 1)⟩) := by
  have hlength : ∀ s ∈ spans, s.1 + (m.window s.1 (s.2 - 1)).length = s.2 := by
    intro s hs
    have hlt := h.start_lt s hs
    rw [length_window]
    omega
  refine ⟨?_, ?_, ?_⟩
  · rw [List.forall_mem_map]
    intro s hs hnil
    have hlt := h.start_lt s hs
    have hend := hlength s hs
    dsimp only at hnil
    rw [hnil, List.length_nil] at hend
    omega
  · rw [List.pairwise_map]
    refine h.apart.imp_of_mem fun hs hnext hlt => ?_
    rwa [hlength _ hs]
  · intro address x
    constructor
    · intro hget
      obtain ⟨hmem, hx⟩ := Std.TreeMap.getElem?_eq_some_iff.mp hget
      obtain ⟨s, hs, hle, hlt⟩ := (h.mem_iff address).mp hmem
      refine ⟨_, List.mem_map_of_mem hs, hle, ?_⟩
      dsimp only
      rw [getElem?_window (by omega), Nat.add_sub_cancel' hle, Std.TreeMap.getD_eq_getD_getElem?, hget]
      rfl
    · rintro ⟨_, hr, hle, hget⟩
      obtain ⟨s, hs, rfl⟩ := List.mem_map.mp hr
      dsimp only at hle hget
      have hlt : address < s.2 := by
        obtain ⟨hlt, _⟩ := List.getElem?_eq_some_iff.mp hget
        have hend := hlength s hs
        omega
      rw [getElem?_window (by omega), Nat.add_sub_cancel' hle, Option.some.injEq] at hget
      have hmem := (h.mem_iff address).mpr ⟨s, hs, hle, hlt⟩
      rw [Std.TreeMap.getElem?_eq_some_getElem hmem, ← hget,
        Std.TreeMap.getD_eq_getD_getElem?, Std.TreeMap.getElem?_eq_some_getElem hmem]
      rfl

theorem runs_eq (h : Spans m spans) : runs m = spans.map fun s => ⟨s.1, m.window s.1 (s.2 - 1)⟩ :=
  (segmented_runs m).unique h.segmented

end Spans

theorem foldr_consSegment (entries : List (Nat × UInt8)) :
    entries.foldr (fun e rest => consSegment e.1 rest) [] =
      (runsOfList entries).map fun r => (r.start, r.start + r.bytes.length) := by
  induction entries with
  | nil => rfl
  | cons e rest ih =>
      rw [List.foldr_cons, ih]
      change _ = (consRun e.1 e.2 (runsOfList rest)).map _
      cases runsOfList rest with
      | nil => rfl
      | cons r more =>
          rw [List.map_cons, consSegment, consRun]
          split
          next hnext =>
            simp only [List.map_cons, List.length_cons, hnext]
            rw [Nat.add_assoc, Nat.add_comm 1]
          next => rfl

/-- The segments of a map span it. -/
theorem spans_segments (m : AddressMap) : Spans m m.segments := by
  have h := segmented_runs m
  rw [segments, foldr_consSegment]
  change Spans m ((runs m).map fun r => (r.start, r.start + r.bytes.length))
  refine ⟨?_, List.pairwise_map.mpr h.apart, fun address => ?_⟩
  · rw [List.forall_mem_map]
    exact fun r hr => Nat.lt_add_of_pos_right (List.length_pos_of_ne_nil (h.bytes_ne_nil r hr))
  · constructor
    · intro hmem
      obtain ⟨r, hr, hbounds⟩ := h.exists_of_mem hmem
      exact ⟨_, List.mem_map_of_mem hr, hbounds⟩
    · rintro ⟨_, hs, hle, hlt⟩
      obtain ⟨r, hr, rfl⟩ := List.mem_map.mp hs
      exact (h.isMaximal hr).mem hle hlt

/-- The runs of a map are what stands in its segments. -/
theorem runs_eq_segments (m : AddressMap) :
    runs m = m.segments.map fun s => ⟨s.1, m.window s.1 (s.2 - 1)⟩ :=
  (spans_segments m).runs_eq

end AddressMap

end BootSeal
