import BootSeal.Proofs.Image.Reach
/-!
# Cut and extended files

An accepted file is as long as its header says, so it is refused as soon as it is cut or extended. Cut
behind its tables it is still read as the same image, and its length gives it away; cut inside them it
has lost its last sentinel, and cut inside the header record there is nothing to read. What is put
behind it is not looked at, but it counts in the length.
-/

namespace BootSeal.Image

variable {b : Bytes} {img : Image}

/-- The verdict on the first `n` bytes of an accepted file whose tables end at `tablesEnd`. -/
def cutVerdict (tablesEnd n : Nat) : Verdict :=
  if n < 4 then .invalidMagic
  else if n < headerSize then .invalidLength
  else if n < tablesEnd then .invalidLayout
  else .invalidLength

theorem cutVerdict_ne_ok (tablesEnd n : Nat) : cutVerdict tablesEnd n ≠ .ok := by
  unfold cutVerdict
  split_ifs <;> decide

/-- What becomes of a file with an image under a key when it is cut, by the place of the cut, and when
it is extended. -/
structure Unresizable (b : Bytes) (img : Image) (key : Option PublicKey) : Prop where
  cut_ne_ok : ∀ n < b.length, (verify (b.take n) key).1 ≠ .ok
  cut_in_magic : ∀ n < 4, (verify (b.take n) key).1 = .invalidMagic
  cut_in_header : ∀ n, 4 ≤ n → n < headerSize → (verify (b.take n) key).1 = .invalidLength
  cut_in_tables : ∀ n, headerSize ≤ n → n < img.header.headerLength →
    (verify (b.take n) key).1 = .invalidLayout
  cut_in_blobs : ∀ n < b.length, img.header.headerLength ≤ n →
    (verify (b.take n) key).1 = .invalidLength
  extended : ∀ rest ≠ [], (verify (b ++ rest) key).1 = .invalidLength

/-- A file that is read as an image of another length has the wrong length. -/
theorem verify_of_length_ne (hread : read b = .ok img) (hlength : img.header.imageLength ≠ b.length)
    (key : Option PublicKey) : (verify b key).1 = .invalidLength := by
  obtain ⟨hlong, horder, _⟩ := read_eq_ok hread
  unfold verify
  rw [horder]
  dsimp only
  rw [if_neg (by omega), hread]
  unfold verdict
  exact if_pos hlength

namespace Intact

variable {n : Nat}

theorem length_toNat (h : Intact b img) : img.header.headerLength.toNat = img.blobsStart := by
  rw [h.headerLength_eq, Int.toNat_natCast]

/-- Whatever is put behind an intact file, the file is too long then. -/
theorem verify_append (h : Intact b img) {rest : Bytes} (hrest : rest ≠ []) (key : Option PublicKey) :
    (verify (b ++ rest) key).1 = .invalidLength := by
  refine verify_of_length_ne (read_append h.read_eq rest) ?_ key
  have hpos := List.length_pos_of_ne_nil hrest
  rw [h.length_eq, List.length_append]
  omega

/-- What is left of a file that was cut is read as the file was, as long as its tables are there. -/
theorem read_take (h : Intact b img) (hn : img.blobsStart ≤ n) : read (b.take n) = .ok img := by
  have hreach : reach b img.header ≤ n := by
    rw [reach, h.length_toNat]
    exact Nat.max_le.mpr ⟨by rw [blobsStart] at hn; omega, (Nat.min_le_right _ _).trans hn⟩
  apply read_of_take_eq h.read_eq
  rw [List.take_take, Nat.min_eq_left hreach]

/-- The last sentinel stands at the end of the tables, so nothing shorter can be read. -/
theorem blobsStart_le_of_read_take (h : Intact b img) {img' : Image}
    (hread : read (b.take n) = .ok img') : img.blobsStart ≤ n := by
  -- The whole file begins with the cut one, so it is read as the same image.
  have hwhole := read_append hread (b.drop n)
  rw [List.take_append_drop, h.read_eq, Except.ok.injEq] at hwhole
  subst hwhole
  obtain ⟨_, _, _, hziChunks⟩ := readTables_eq_ok_iff.mp (readTables_of_read hread)
  obtain ⟨_, hroom⟩ := Table.read_eq_ok_iff.mp hziChunks
  change _ + 24 * (img.ziChunks.length + 1) ≤ _ at hroom
  rw [h.ziTableOffset_eq, Int.toNat_natCast, List.length_take] at hroom
  rw [blobsStart]
  omega

theorem hasMagic_take (h : Intact b img) (hn : 4 ≤ n) : HasMagic img.order (b.take n) := by
  rw [HasMagic, List.take_take, Nat.min_eq_left hn]
  exact detectOrder?_eq_some_iff.mp h.detectOrder?_eq

/-- Every cut of an intact file has its verdict, whatever the key. -/
theorem verify_take (h : Intact b img) (hn : n < b.length) (key : Option PublicKey) :
    (verify (b.take n) key).1 = cutVerdict img.blobsStart n := by
  have hlength : (b.take n).length = n := List.length_take_of_le (Nat.le_of_lt hn)
  by_cases hmagic : n < 4
  · have hnone : detectOrder? (b.take n) = none := by rw [detectOrder?, if_pos (by omega)]
    rw [cutVerdict, if_pos hmagic, verify, hnone]
  have horder := detectOrder?_eq_some_iff.mpr (h.hasMagic_take (Nat.le_of_not_lt hmagic))
  rw [cutVerdict, if_neg hmagic]
  by_cases hrecord : n < headerSize
  · rw [if_pos hrecord, verify, horder]
    dsimp only
    rw [if_pos (by omega)]
  rw [if_neg hrecord]
  by_cases htables : n < img.blobsStart
  · rw [if_pos htables, verify, horder]
    dsimp only
    rw [if_neg (by omega)]
    cases hread : read (b.take n) with
    | error e => rfl
    | ok img' =>
        have hle := h.blobsStart_le_of_read_take hread
        omega
  · rw [if_neg htables]
    refine verify_of_length_ne (h.read_take (Nat.le_of_not_lt htables)) ?_ key
    rw [h.length_eq, hlength]
    omega

theorem unresizable (h : Intact b img) (key : Option PublicKey) : Unresizable b img key where
  cut_ne_ok n hn := by
    rw [h.verify_take hn]
    exact cutVerdict_ne_ok _ _
  cut_in_magic n hn := by
    have hlong := h.headerSize_le_length
    rw [h.verify_take (by rw [headerSize] at hlong; omega), cutVerdict, if_pos hn]
  cut_in_header n hmagic hn := by
    have hlong := h.headerSize_le_length
    rw [h.verify_take (by omega), cutVerdict, if_neg (Nat.not_lt.mpr hmagic), if_pos hn]
  cut_in_tables n hrecord hn := by
    obtain ⟨_, _, htables⟩ := h.holds_tables
    rw [h.headerLength_eq, Nat.cast_lt] at hn
    rw [h.verify_take (by omega), cutVerdict, if_neg (by rw [headerSize] at hrecord; omega),
      if_neg (Nat.not_lt.mpr hrecord), if_pos hn]
  cut_in_blobs n hn htables := by
    rw [h.headerLength_eq, Nat.cast_le] at htables
    have hrecord : headerSize ≤ n := by
      rw [blobsStart] at htables
      omega
    rw [h.verify_take hn, cutVerdict, if_neg (by rw [headerSize] at hrecord; omega),
      if_neg (Nat.not_lt.mpr hrecord), if_neg (Nat.not_lt.mpr htables)]
  extended rest hrest := h.verify_append hrest key

end Intact

end BootSeal.Image
