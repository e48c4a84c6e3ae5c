import BootSeal.Proofs.Layout.Planner
/-!
# Where the planner places blobs

A blob starts where the padded blobs in front of it end. So the ranges of the blobs follow one another
with little between them, the place of a blob depends on the blobs in front of it and on none behind it,
and nothing that grows brings any blob forward.
-/

namespace BootSeal.Layout

/-! ## Offsets -/

theorem blobOffset_mono {header header' ziChunks ziChunks' : Int} (hheader : header ≤ header')
    (chunks : Int) (hzi : ziChunks ≤ ziChunks') :
    blobOffset header chunks ziChunks ≤ blobOffset header' chunks ziChunks' := by
  have hfront : padded header ≤ padded header' := padded_mono hheader
  have htable : padded (ziEntrySize * (ziChunks + 1)) ≤ padded (ziEntrySize * (ziChunks' + 1)) :=
    padded_mono (Int.mul_le_mul_of_nonneg_left (by omega) (Int.natCast_nonneg _))
  rw [blobOffset, blobOffset, ziTableOffset, ziTableOffset, chunkTableOffset, chunkTableOffset,
    tableSize, tableSize, tableSize]
  omega

theorem dvd_blobOffset (header chunks ziChunks : Int) :
    boundary ∣ blobOffset header chunks ziChunks := by
  rw [blobOffset, ziTableOffset, chunkTableOffset, tableSize, tableSize]
  exact Int.dvd_add (Int.dvd_add (dvd_padded _) (dvd_padded _)) (dvd_padded _)

/-! ## Blobs one behind the other -/

variable {start start' : Int} {sizes sizes' : List Int}

theorem dvd_blobsLength (sizes : List Int) : boundary ∣ blobsLength sizes := by
  induction sizes with
  | nil => exact Int.dvd_zero boundary
  | cons size rest ih => exact Int.dvd_add (dvd_padded size) ih

theorem blobsLength_append (sizes more : List Int) :
    blobsLength (sizes ++ more) = blobsLength sizes + blobsLength more := by
  induction sizes with
  | nil => rw [List.nil_append, blobsLength, Int.zero_add]
  | cons size rest ih => rw [List.cons_append, blobsLength, blobsLength, ih, Int.add_assoc]

theorem blobsLength_take_succ {i : Nat} {size : Int} (h : sizes[i]? = some size) :
    blobsLength (sizes.take (i + 1)) = blobsLength (sizes.take i) + padded size := by
  rw [List.take_add_one, h, blobsLength_append, Option.toList_some, blobsLength, blobsLength,
    Int.add_zero]

theorem blobsLength_mono (h : List.Forall₂ (· ≤ ·) sizes sizes') :
    blobsLength sizes ≤ blobsLength sizes' := by
  induction h with
  | nil => exact Int.le_refl _
  | cons hsize _ ih => exact Int.add_le_add (padded_mono hsize) ih

/-- A blob starts where the padded blobs in front of it end. -/
theorem getElem?_loadAddressesFrom (start : Int) {i : Nat} (h : i < sizes.length) :
    (loadAddressesFrom start sizes)[i]? = some (start + blobsLength (sizes.take i)) := by
  induction sizes generalizing start i with
  | nil => cases h
  | cons size rest ih =>
      cases i with
      | zero => rw [List.take_zero, blobsLength, Int.add_zero]; rfl
      | succ i =>
          rw [loadAddressesFrom, List.getElem?_cons_succ, ih _ (Nat.lt_of_succ_lt_succ h),
            List.take_succ_cons, blobsLength, Int.add_assoc]

theorem take_loadAddressesFrom (start : Int) {k : Nat} (hlength : sizes'.length = sizes.length)
    (h : sizes'.take k = sizes.take k) :
    (loadAddressesFrom start sizes').take (k + 1) = (loadAddressesFrom start sizes).take (k + 1) := by
  apply List.ext_getElem?
  intro i
  rw [List.getElem?_take, List.getElem?_take]
  split
  next hi =>
    -- The blobs in front of number `i` are among the first `k`.
    have hfront : sizes'.take i = sizes.take i := by
      rw [← Nat.min_eq_left (Nat.le_of_lt_succ hi), ← List.take_take, h, List.take_take]
    by_cases hlt : i < sizes.length
    · rw [getElem?_loadAddressesFrom start hlt,
        getElem?_loadAddressesFrom start (hlength ▸ hlt), hfront]
    · rw [List.getElem?_eq_none (by rw [length_loadAddressesFrom]; omega),
        List.getElem?_eq_none (by rw [length_loadAddressesFrom]; omega)]
  next => rfl

theorem loadAddressesFrom_mono (hstart : start ≤ start') (h : List.Forall₂ (· ≤ ·) sizes sizes') :
    List.Forall₂ (· ≤ ·) (loadAddressesFrom start sizes) (loadAddressesFrom start' sizes') := by
  induction h generalizing start start' with
  | nil => exact List.Forall₂.nil
  | cons hsize _ ih =>
      exact List.Forall₂.cons hstart (ih (Int.add_le_add hstart (padded_mono hsize)))

/-- Blobs of the given sizes have these addresses: they follow one another from `start` on, each filled
up to the boundary, and end at `stop`. -/
structure Placed (start : Int) (sizes addresses : List Int) (stop : Int) : Prop where
  length_eq : addresses.length = sizes.length
  dvd : ∀ a ∈ addresses, boundary ∣ a
  le : ∀ a ∈ addresses, start ≤ a
  first_eq : sizes ≠ [] → addresses[0]? = some start
  next_eq : ∀ i a size, addresses[i]? = some a → sizes[i]? = some size → i + 1 < sizes.length →
    addresses[i + 1]? = some (a + padded size)
  disjoint : (addresses.zip sizes).Pairwise fun blob next => blob.1 + blob.2 ≤ next.1
  gap_lt : ∀ i a size next, addresses[i]? = some a → sizes[i]? = some size →
    addresses[i + 1]? = some next → next < a + size + boundary
  stop_eq : ∀ i a size, addresses[i]? = some a → sizes[i]? = some size → i + 1 = sizes.length →
    a + padded size = stop
  stop_eq_start : sizes = [] → stop = start

theorem disjoint_loadAddressesFrom (start : Int) (hsizes : ∀ size ∈ sizes, 0 ≤ size) :
    ((loadAddressesFrom start sizes).zip sizes).Pairwise
      fun blob next => blob.1 + blob.2 ≤ next.1 := by
  induction sizes generalizing start with
  | nil => exact List.Pairwise.nil
  | cons size rest ih =>
      obtain ⟨_, hrest⟩ := List.forall_mem_cons.mp hsizes
      refine List.pairwise_cons.mpr ⟨fun next hnext => ?_, ih _ hrest⟩
      have hbounds := mem_loadAddressesFrom hrest (List.of_mem_zip hnext).1
      have hle := le_padded size
      dsimp only
      omega

theorem placed_loadAddressesFrom (hstart : boundary ∣ start) (hsizes : ∀ size ∈ sizes, 0 ≤ size) :
    Placed start sizes (loadAddressesFrom start sizes) (start + blobsLength sizes) := by
  have hat : ∀ {i : Nat} {a size : Int}, (loadAddressesFrom start sizes)[i]? = some a →
      sizes[i]? = some size → a + padded size = start + blobsLength (sizes.take (i + 1)) := by
    intro i a size ha hsize
    obtain ⟨hi, _⟩ := List.getElem?_eq_some_iff.mp hsize
    rw [getElem?_loadAddressesFrom start hi, Option.some.injEq] at ha
    rw [← ha, blobsLength_take_succ hsize, Int.add_assoc]
  have hnext : ∀ i a size, (loadAddressesFrom start sizes)[i]? = some a → sizes[i]? = some size →
      i + 1 < sizes.length → (loadAddressesFrom start sizes)[i + 1]? = some (a + padded size) := by
    intro i a size ha hsize hi
    rw [getElem?_loadAddressesFrom start hi, hat ha hsize]
  constructor
  case length_eq => exact length_loadAddressesFrom start sizes
  case dvd =>
    intro a ha
    obtain ⟨i, ha⟩ := List.mem_iff_getElem?.mp ha
    obtain ⟨hi, _⟩ := List.getElem?_eq_some_iff.mp ha
    rw [length_loadAddressesFrom] at hi
    rw [getElem?_loadAddressesFrom start hi, Option.some.injEq] at ha
    exact ha ▸ Int.dvd_add hstart (dvd_blobsLength _)
  case le => exact fun a ha => (mem_loadAddressesFrom hsizes ha).1
  case first_eq =>
    intro hne
    rw [getElem?_loadAddressesFrom start (List.length_pos_of_ne_nil hne), List.take_zero, blobsLength,
      Int.add_zero]
  case next_eq => exact hnext
  case disjoint => exact disjoint_loadAddressesFrom start hsizes
  case gap_lt =>
    intro i a size next ha hsize hsucc
    obtain ⟨hi, _⟩ := List.getElem?_eq_some_iff.mp hsucc
    rw [hnext i a size ha hsize (by rwa [length_loadAddressesFrom] at hi), Option.some.injEq] at hsucc
    have hlt := padding_lt size
    rw [← hsucc, padded]
    omega
  case stop_eq =>
    intro i a size ha hsize hi
    rw [hat ha hsize, hi, List.take_length]
  case stop_eq_start =>
    rintro rfl
    rw [blobsLength, Int.add_zero]

/-- The addresses of the planner place blobs of any sizes one behind the other between the end of the
tables and the end of the image. Those of the first blobs up to number `k` depend on the sizes in front of
number `k` only, and neither larger blobs nor more regions nor a longer header bring an address or the end
forward. All of this rests on the padding, which is the one number below the step that makes a multiple of
it. -/
theorem loadAddresses_laws {headerSize ziChunks : Int} {sizes : List Int}
    (hsizes : ∀ size ∈ sizes, 0 ≤ size) :
    Placed (blobOffset headerSize sizes.length ziChunks) sizes
      (loadAddresses headerSize sizes ziChunks) (imageLength headerSize sizes ziChunks) ∧
    (∀ k (sizes' : List Int), sizes'.length = sizes.length → sizes'.take k = sizes.take k →
      (loadAddresses headerSize sizes' ziChunks).take (k + 1) =
        (loadAddresses headerSize sizes ziChunks).take (k + 1)) ∧
    (∀ headerSize' ziChunks' (sizes' : List Int), headerSize ≤ headerSize' → ziChunks ≤ ziChunks' →
      List.Forall₂ (· ≤ ·) sizes sizes' →
        List.Forall₂ (· ≤ ·) (loadAddresses headerSize sizes ziChunks)
            (loadAddresses headerSize' sizes' ziChunks') ∧
          imageLength headerSize sizes ziChunks ≤ imageLength headerSize' sizes' ziChunks') ∧
    ∀ step size p : Int, 0 < step →
      (withStep paddingTo step size = .ok p ↔ 0 ≤ p ∧ p < step ∧ step ∣ size + p) := by
  refine ⟨placed_loadAddressesFrom (dvd_blobOffset _ _ _) hsizes, ?_, ?_, ?_⟩
  · intro k sizes' hlength htake
    rw [loadAddresses, loadAddresses, hlength]
    exact take_loadAddressesFrom _ hlength htake
  · intro headerSize' ziChunks' sizes' hheader hzi hle
    have hoffset := blobOffset_mono hheader sizes.length hzi
    rw [loadAddresses, loadAddresses, imageLength, imageLength, ← hle.length_eq]
    exact ⟨loadAddressesFrom_mono hoffset hle, Int.add_le_add hoffset (blobsLength_mono hle)⟩
  · intro step size p hstep
    rw [withStep, if_neg hstep.ne', Except.ok.injEq]
    exact paddingTo_eq_iff hstep

/-- Three blobs, one of them empty, behind a header of an odd size. -/
theorem loadAddresses_laws_three_blobs :
    (∀ size ∈ [13, 0, 8], (0 : Int) ≤ size) ∧
      loadAddresses 450 [13, 0, 8] 4 = [736, 752, 752] ∧
      Placed (blobOffset 450 3 4) [13, 0, 8] (loadAddresses 450 [13, 0, 8] 4)
        (imageLength 450 [13, 0, 8] 4) := by
  have hsizes : ∀ size ∈ [13, 0, 8], (0 : Int) ≤ size := by decide
  exact ⟨hsizes, by decide, (loadAddresses_laws hsizes).1⟩

end BootSeal.Layout
