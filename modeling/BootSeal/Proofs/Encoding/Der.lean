import Mathlib
import BootSeal.Encoding.Der
/-!
# Short elements are read back

A content of less than 128 bytes has its length in one byte. Such an element is taken off the front of a
text as it was written, whatever follows it.
-/

namespace BootSeal.Der

variable {tag : UInt8} {content : Bytes}

theorem length?_short {n : Nat} (hn : n < 128) (rest : Bytes) :
    length? (lengthBytes n ++ rest) = some (n, rest) := by
  have hbyte : (UInt8.ofNat n).toNat = n := by
    rw [UInt8.toNat_ofNat']
    omega
  rw [lengthBytes, if_pos hn, List.singleton_append, length?]
  dsimp only
  rw [hbyte, if_pos hn]

theorem read?_element (htag : tag &&& 0x1F ≠ 0x1F) (hshort : content.length < 128) (rest : Bytes) :
    read? (element tag content ++ rest) = some (tag, content, rest) := by
  rw [element, List.cons_append, List.cons_append, read?, List.append_assoc, length?_short hshort]
  simp [htag]

theorem expect?_element (htag : tag &&& 0x1F ≠ 0x1F) (hshort : content.length < 128) (rest : Bytes) :
    expect? tag (element tag content ++ rest) = some (content, rest) := by
  rw [expect?, read?_element htag hshort]
  simp

theorem only?_element (htag : tag &&& 0x1F ≠ 0x1F) (hshort : content.length < 128) :
    only? tag (element tag content) = some content := by
  rw [only?, ← List.append_nil (element tag content), expect?_element htag hshort]
  simp

/-- A bit string of whole bytes uses all of its bits. -/
theorem bitsValue?_whole (data : Bytes) : bitsValue? (0 :: data) = some data := by
  cases data with
  | nil => rfl
  | cons x rest => simp [bitsValue?, List.getLast?_cons]

theorem bits?_bits {data : Bytes} (hshort : data.length < 127) (rest : Bytes) :
    bits? (bits data ++ rest) = some (data, rest) := by
  have hcontent : (0 :: data).length < 128 := Nat.succ_lt_succ hshort
  rw [bits?, bits, expect?_element (by decide) hcontent]
  simp [bitsValue?_whole]

theorem length_bits {data : Bytes} (hshort : data.length < 127) :
    (bits data).length = data.length + 3 := by
  have hcontent : (0 :: data).length < 128 := Nat.succ_lt_succ hshort
  rw [bits, element, lengthBytes, if_pos hcontent]
  simp

end BootSeal.Der
