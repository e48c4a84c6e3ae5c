import BootSeal.Encoding.Base64
import BootSeal.Proofs.Text.Ascii
/-!
# Base64 is read back

Four characters hold the bits of three bytes, and the padding of the last group tells how many of them
there are. So reading takes a text group by group, as writing made it.
-/

namespace BootSeal.Base64

open Utf8 (IsInk)

theorem value?_char : ∀ n < 64, value? (char n) = some n := by decide

theorem char_ne_padding : ∀ n < 64, char n ≠ '=' := by decide

/-! ## Groups -/

theorem decode?_pair {m n : Nat} (hm : m < 64) (hn : n < 64) (hrest : (m * 64 + n) % 16 = 0) :
    decode? [char m, char n, '=', '='] = some [UInt8.ofNat ((m * 64 + n) / 16)] := by
  rw [decode?, value?_char m hm, value?_char n hn]
  simp [hrest]

theorem decode?_triple {l m n : Nat} (hl : l < 64) (hm : m < 64) (hn : n < 64)
    (hrest : ((l * 64 + m) * 64 + n) % 4 = 0) :
    decode? [char l, char m, char n, '='] =
      some [UInt8.ofNat (((l * 64 + m) * 64 + n) / 1024), UInt8.ofNat (((l * 64 + m) * 64 + n) / 4)] := by
  rw [decode?.eq_3 _ _ _ (char_ne_padding n hn), value?_char l hl, value?_char m hm,
    value?_char n hn]
  simp [hrest]

/-- A group without padding is read on its own. -/
theorem decode?_group {k l m n : Nat} (hk : k < 64) (hl : l < 64) (hm : m < 64) (hn : n < 64)
    {rest : List Char} {tail : Bytes} (hrest : decode? rest = some tail) :
    let bits := ((k * 64 + l) * 64 + m) * 64 + n
    decode? (char k :: char l :: char m :: char n :: rest) =
      some (UInt8.ofNat (bits / 65536) :: UInt8.ofNat (bits / 256) :: UInt8.ofNat bits :: tail) := by
  have hlast := char_ne_padding n hn
  rw [decode?.eq_4 _ _ _ _ _ (fun _ h _ => hlast h) (fun h _ => hlast h), value?_char k hk,
    value?_char l hl, value?_char m hm, value?_char n hn, hrest]
  rfl

theorem ofNat_eq_of_mod {x : UInt8} {n : Nat} (h : n % 256 = x.toNat) : UInt8.ofNat n = x := by
  rw [← UInt8.toNat_inj, UInt8.toNat_ofNat', h]

theorem decode?_encode (b : Bytes) : decode? (encode b) = some b := by
  induction b using encode.induct with
  | case1 => rfl
  | case2 a =>
      have ha := a.toNat_lt
      rw [encode, decode?_pair (by omega) (by omega) (by omega), ofNat_eq_of_mod (x := a) (by omega)]
  | case3 a b =>
      have ha := a.toNat_lt
      have hb := b.toNat_lt
      rw [encode, decode?_triple (by omega) (by omega) (by omega) (by omega),
        ofNat_eq_of_mod (x := a) (by omega), ofNat_eq_of_mod (x := b) (by omega)]
  | case4 a b c rest ih =>
      have ha := a.toNat_lt
      have hb := b.toNat_lt
      have hc := c.toNat_lt
      rw [encode, decode?_group (by omega) (by omega) (by omega) (by omega) ih,
        ofNat_eq_of_mod (x := a) (by omega), ofNat_eq_of_mod (x := b) (by omega),
        ofNat_eq_of_mod (x := c) (by omega)]

/-! ## Characters -/

theorem isInk_char (n : Nat) : IsInk (char n) := by
  by_cases hn : n < 63
  · exact (by decide : ∀ n < 63, IsInk (char n)) n hn
  · rw [char, if_neg (by omega), if_neg (by omega), if_neg (by omega)]
    split <;> decide

theorem isInk_padding : IsInk '=' := by decide

theorem isInk_of_mem_encode (b : Bytes) : ∀ c ∈ encode b, IsInk c := by
  induction b using encode.induct with
  | case1 => simp [encode]
  | case2 a => simp [encode, isInk_char, isInk_padding]
  | case3 a b => simp [encode, isInk_char, isInk_padding]
  | case4 a b c rest ih => simpa [encode, isInk_char] using ih

end BootSeal.Base64
