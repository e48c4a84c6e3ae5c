import Mathlib
import BootSeal.Layout
/-!
# Arithmetic of the layout planner

What fills a part up to the boundary is less than the boundary and makes a multiple of it. The header
record and the two kinds of descriptors have sizes that are multiples already, so nothing stands
between the header, the two tables and the first blob.
-/

namespace BootSeal.Layout

theorem paddingTo_eq {step : Int} (hstep : 0 < step) (size : Int) :
    paddingTo step size = (size + (step - 1)) / step * step - size := by
  rw [paddingTo, Int.fdiv_eq_ediv_of_nonneg _ hstep.le]

theorem paddingTo_nonneg {step : Int} (hstep : 0 < step) (size : Int) : 0 ≤ paddingTo step size := by
  have hrest := Int.emod_lt_of_pos (size + (step - 1)) hstep
  have hsplit := Int.ediv_mul_add_emod (size + (step - 1)) step
  rw [paddingTo_eq hstep]
  omega

theorem paddingTo_lt {step : Int} (hstep : 0 < step) (size : Int) : paddingTo step size < step := by
  have hrest := Int.emod_nonneg (size + (step - 1)) hstep.ne'
  have hsplit := Int.ediv_mul_add_emod (size + (step - 1)) step
  rw [paddingTo_eq hstep]
  omega

theorem dvd_add_paddingTo {step : Int} (hstep : 0 < step) (size : Int) :
    step ∣ size + paddingTo step size := by
  rw [paddingTo_eq hstep, add_sub_cancel]
  exact Int.dvd_mul_left _ _

/-- No other number below the step fills a size up to a multiple of the step. -/
theorem paddingTo_eq_iff {step : Int} (hstep : 0 < step) {size p : Int} :
    paddingTo step size = p ↔ 0 ≤ p ∧ p < step ∧ step ∣ size + p := by
  constructor
  · rintro rfl
    exact ⟨paddingTo_nonneg hstep size, paddingTo_lt hstep size, dvd_add_paddingTo hstep size⟩
  · rintro ⟨hnonneg, hlt, hdvd⟩
    have hdvd' : step ∣ paddingTo step size - p := by
      have hsub := Int.dvd_sub (dvd_add_paddingTo hstep size) hdvd
      rwa [add_sub_add_left_eq_sub] at hsub
    have hnonneg' := paddingTo_nonneg hstep size
    have hlt' := paddingTo_lt hstep size
    refine sub_eq_zero.mp (Int.eq_zero_of_abs_lt_dvd hdvd' ?_)
    rw [abs_lt]
    omega

/-! ## Padding to the boundary -/

theorem padding_nonneg (size : Int) : 0 ≤ padding size := paddingTo_nonneg (by decide) size

theorem padding_lt (size : Int) : padding size < boundary := paddingTo_lt (by decide) size

theorem dvd_padded (size : Int) : boundary ∣ padded size := dvd_add_paddingTo (by decide) size

theorem padding_eq (size : Int) : padding size = (size + 7) / 8 * 8 - size :=
  paddingTo_eq (by decide) size

theorem padded_mono {size size' : Int} (h : size ≤ size') : padded size ≤ padded size' := by
  rw [padded, padded, padding_eq, padding_eq]
  omega

theorem padding_eq_zero {size : Int} (h : boundary ∣ size) : padding size = 0 := by
  rw [boundary] at h
  rw [padding_eq]
  omega

theorem padded_eq_self {size : Int} (h : boundary ∣ size) : padded size = size := by
  rw [padded, padding_eq_zero h, Int.add_zero]

theorem le_padded (size : Int) : size ≤ padded size := by
  have h := padding_nonneg size
  rw [padded]
  omega

theorem boundary_dvd_chunkTable (count : Int) : boundary ∣ chunkEntrySize * count :=
  Int.dvd_mul_of_dvd_left (by decide)

theorem boundary_dvd_ziTable (count : Int) : boundary ∣ ziEntrySize * count :=
  Int.dvd_mul_of_dvd_left (by decide)

/-! ## Offsets behind a whole number of boundaries -/

theorem chunkTableOffset_of_dvd {header : Int} (h : boundary ∣ header) :
    chunkTableOffset header = header := padded_eq_self h

theorem ziTableOffset_of_dvd {header : Int} (h : boundary ∣ header) (chunks : Int) :
    ziTableOffset header chunks = header + chunkEntrySize * (chunks + 1) := by
  rw [ziTableOffset, chunkTableOffset_of_dvd h, tableSize,
    padded_eq_self (boundary_dvd_chunkTable _)]

theorem blobOffset_of_dvd {header : Int} (h : boundary ∣ header) (chunks ziChunks : Int) :
    blobOffset header chunks ziChunks =
      header + chunkEntrySize * (chunks + 1) + ziEntrySize * (ziChunks + 1) := by
  rw [blobOffset, ziTableOffset_of_dvd h, tableSize, padded_eq_self (boundary_dvd_ziTable _)]

theorem blobsLength_nonneg {sizes : List Int} (h : ∀ size ∈ sizes, 0 ≤ size) :
    0 ≤ blobsLength sizes := by
  induction sizes with
  | nil => exact Int.le_refl 0
  | cons size rest ih =>
      have hsize := h size List.mem_cons_self
      have hrest := ih fun s hs => h s (List.mem_cons_of_mem _ hs)
      have hle := le_padded size
      rw [blobsLength]
      omega

/-- Blobs lie between the start of their region and its end. -/
theorem mem_loadAddressesFrom {start address : Int} {sizes : List Int}
    (hsizes : ∀ size ∈ sizes, 0 ≤ size) (h : address ∈ loadAddressesFrom start sizes) :
    start ≤ address ∧ address ≤ start + blobsLength sizes := by
  induction sizes generalizing start with
  | nil => simp [loadAddressesFrom] at h
  | cons size rest ih =>
      have hsize := hsizes size List.mem_cons_self
      have hrest : ∀ s ∈ rest, 0 ≤ s := fun s hs => hsizes s (List.mem_cons_of_mem _ hs)
      have hle := le_padded size
      rw [blobsLength]
      rcases List.mem_cons.mp h with rfl | htail
      · have hsum := blobsLength_nonneg hrest
        omega
      · have hbounds := ih hrest htail
        omega

end BootSeal.Layout
