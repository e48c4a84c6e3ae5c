import BootSeal.Proofs.Layout.Planner
/-!
# Files that are cut into tiles

A tile is a part of a file with what fills it up. Tiles that lie one behind the other cover every
offset between the first and the end of the last, and no offset twice. The planner lays blobs in
this way.
-/

namespace BootSeal.Layout

/-- A part of a file: its content, and what fills it up behind. -/
structure Tile where
  start : Int
  size : Int
  filling : Int
deriving DecidableEq, Repr

def Tile.stop (t : Tile) : Int := t.start + t.size + t.filling

/-- Tiles that lie one behind the other, from one offset to another. -/
inductive Consecutive : Int → List Tile → Int → Prop
  | nil (start : Int) : Consecutive start [] start
  | cons {start stop : Int} {t : Tile} {rest : List Tile} (hstart : t.start = start)
      (hsize : 0 ≤ t.size) (hfilling : 0 ≤ t.filling) (hrest : Consecutive t.stop rest stop) :
      Consecutive start (t :: rest) stop

/-- Tiles that make up a file of the given length: nothing is left out, and nothing is in two of
them. -/
structure Tiling (tiles : List Tile) (length : Int) : Prop where
  consecutive : Consecutive 0 tiles length
  disjoint : tiles.Pairwise fun s t => s.stop ≤ t.start
  aligned : ∀ t ∈ tiles, boundary ∣ t.start
  filling_lt : ∀ t ∈ tiles, t.filling < boundary
  covers : ∀ offset, (0 ≤ offset ∧ offset < length) ↔ ∃ t ∈ tiles, t.start ≤ offset ∧ offset < t.stop

namespace Consecutive

variable {tiles : List Tile} {start stop : Int}

theorem le (h : Consecutive start tiles stop) : start ≤ stop := by
  induction h with
  | nil => exact Int.le_refl _
  | cons hstart hsize hfilling _ ih =>
      rw [Tile.stop] at ih
      omega

theorem mem_bounds (h : Consecutive start tiles stop) {t : Tile} (ht : t ∈ tiles) :
    start ≤ t.start ∧ 0 ≤ t.size ∧ 0 ≤ t.filling ∧ t.stop ≤ stop := by
  induction h with
  | nil => simp at ht
  | @cons start stop s rest hstart hsize hfilling hrest ih =>
      rcases List.mem_cons.mp ht with rfl | htail
      · exact ⟨Int.le_of_eq hstart.symm, hsize, hfilling, hrest.le⟩
      · obtain ⟨hfirst, hbounds⟩ := ih htail
        rw [Tile.stop] at hfirst
        exact ⟨by omega, hbounds⟩

theorem pairwise (h : Consecutive start tiles stop) :
    tiles.Pairwise fun s t => s.stop ≤ t.start := by
  induction h with
  | nil => exact List.Pairwise.nil
  | cons _ _ _ hrest ih =>
      apply List.Pairwise.cons _ ih
      intro t ht
      exact (hrest.mem_bounds ht).1

theorem covers_iff (h : Consecutive start tiles stop) (offset : Int) :
    start ≤ offset ∧ offset < stop ↔ ∃ t ∈ tiles, t.start ≤ offset ∧ offset < t.stop := by
  constructor
  · induction h with
    | nil =>
        intro hoffset
        omega
    | @cons start stop s rest hstart hsize hfilling hrest ih =>
        rintro ⟨hle, hstop⟩
        by_cases hfirst : offset < s.stop
        · exact ⟨s, List.mem_cons_self, by omega, hfirst⟩
        · obtain ⟨t, ht, hin⟩ := ih ⟨by omega, hstop⟩
          exact ⟨t, List.mem_cons_of_mem _ ht, hin⟩
  · rintro ⟨t, ht, hstart, hstop⟩
    obtain ⟨hfirst, _, _, hlast⟩ := h.mem_bounds ht
    exact ⟨by omega, by omega⟩

theorem aligned (h : Consecutive start tiles stop) (hstart : boundary ∣ start)
    (hsizes : ∀ t ∈ tiles, boundary ∣ t.size + t.filling) : ∀ t ∈ tiles, boundary ∣ t.start := by
  induction h with
  | nil => simp
  | @cons start stop s rest hfirst _ _ _ ih =>
      intro t ht
      rcases List.mem_cons.mp ht with rfl | htail
      · exact hfirst ▸ hstart
      · apply ih _ (fun t ht => hsizes t (List.mem_cons_of_mem _ ht)) t htail
        rw [Tile.stop, Int.add_assoc, hfirst]
        exact Int.dvd_add hstart (hsizes s List.mem_cons_self)

/-- Tiles of whole numbers of boundaries with little filling make up a file. -/
theorem tiling {length : Int} (h : Consecutive 0 tiles length)
    (hsizes : ∀ t ∈ tiles, boundary ∣ t.size + t.filling)
    (hfillings : ∀ t ∈ tiles, t.filling < boundary) : Tiling tiles length where
  consecutive := h
  disjoint := h.pairwise
  aligned := h.aligned (Int.dvd_zero boundary) hsizes
  filling_lt := hfillings
  covers := h.covers_iff

end Consecutive

/-- Blobs at the addresses that the planner gives lie one behind the other. -/
theorem consecutive_blobs {start : Int} {tiles : List Tile}
    (hstarts : tiles.map Tile.start = loadAddressesFrom start (tiles.map Tile.size))
    (hsizes : ∀ t ∈ tiles, 0 ≤ t.size) (hfillings : ∀ t ∈ tiles, t.filling = padding t.size) :
    Consecutive start tiles (start + blobsLength (tiles.map Tile.size)) := by
  induction tiles generalizing start with
  | nil =>
      rw [List.map_nil, blobsLength, Int.add_zero]
      exact Consecutive.nil start
  | cons t rest ih =>
      simp only [List.map_cons, loadAddressesFrom, List.cons.injEq] at hstarts
      obtain ⟨rfl, hrest⟩ := hstarts
      have hfilling := hfillings t List.mem_cons_self
      have hstop : t.stop = t.start + padded t.size := by
        rw [Tile.stop, hfilling, padded, Int.add_assoc]
      rw [← hstop] at hrest
      have htail := ih hrest (fun s hs => hsizes s (List.mem_cons_of_mem _ hs))
        (fun s hs => hfillings s (List.mem_cons_of_mem _ hs))
      rw [List.map_cons, blobsLength, ← Int.add_assoc, ← hstop]
      apply Consecutive.cons rfl (hsizes t List.mem_cons_self) _ htail
      rw [hfilling]
      exact padding_nonneg _

end BootSeal.Layout
