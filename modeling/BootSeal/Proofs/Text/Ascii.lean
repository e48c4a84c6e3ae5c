import BootSeal.Proofs.Except
import BootSeal.Proofs.Text.Utf8
/-!
# ASCII text

A character below 128 is one byte, so ASCII text is decoded to what it was. The visible characters other
than the dash are the ink of a text: they are no blanks, and no part of the marks around a block.
-/

namespace BootSeal.Utf8

open String

def IsAscii (cs : List Char) : Prop := ∀ c ∈ cs, c.toNat < 0x80

def IsInk (c : Char) : Prop := 0x20 < c.toNat ∧ c.toNat < 0x7F ∧ c ≠ '-'

instance (c : Char) : Decidable (IsInk c) :=
  inferInstanceAs (Decidable (0x20 < c.toNat ∧ c.toNat < 0x7F ∧ c ≠ '-'))

theorem IsInk.lt {c : Char} (h : IsInk c) : c.toNat < 0x80 := Nat.lt_trans h.2.1 (by decide)

@[simp] theorem isAscii_append {cs ds : List Char} : IsAscii (cs ++ ds) ↔ IsAscii cs ∧ IsAscii ds :=
  List.forall_mem_append

theorem encode_append (s t : String) : encode (s ++ t) = encode s ++ encode t := by
  simp [encode]

theorem utf8EncodeChar_ascii {c : Char} (hc : c.toNat < 0x80) :
    utf8EncodeChar c = [UInt8.ofNat c.toNat] := by
  have hbyte : (UInt8.ofNat c.toNat).toNat = c.toNat := by
    rw [UInt8.toNat_ofNat']
    omega
  have h := utf8EncodeChar_single (a := UInt8.ofNat c.toNat) (by omega)
  rwa [hbyte, Char.ofNat_toNat] at h

theorem IsAscii.flatMap_eq {cs : List Char} (h : IsAscii cs) :
    cs.flatMap utf8EncodeChar = cs.map fun c => UInt8.ofNat c.toNat := by
  induction cs with
  | nil => rfl
  | cons c cs ih =>
      rw [List.flatMap_cons, utf8EncodeChar_ascii (h c List.mem_cons_self),
        ih fun x hx => h x (List.mem_cons_of_mem _ hx), List.map_cons, List.singleton_append]

theorem IsAscii.encode_eq {s : String} (h : IsAscii s.toList) :
    encode s = s.toList.map fun c => UInt8.ofNat c.toNat :=
  h.flatMap_eq

theorem ofNat_toNat_inj {c d : Char} (hc : c.toNat < 0x80) (hd : d.toNat < 0x80) :
    UInt8.ofNat c.toNat = UInt8.ofNat d.toNat ↔ c = d := by
  refine ⟨fun h => ?_, fun h => by rw [h]⟩
  rw [← UInt8.toNat_inj, UInt8.toNat_ofNat', UInt8.toNat_ofNat'] at h
  exact Char.toNat_inj.mp (by omega)

/-- A byte of ASCII text is that of one of its characters. -/
theorem IsAscii.mem_encode_iff {s : String} (h : IsAscii s.toList) {c : Char} (hc : c.toNat < 0x80) :
    UInt8.ofNat c.toNat ∈ encode s ↔ c ∈ s.toList := by
  rw [h.encode_eq, List.mem_map]
  constructor
  · rintro ⟨d, hd, heq⟩
    rwa [← (ofNat_toNat_inj (h d hd) hc).mp heq]
  · exact fun hmem => ⟨c, hmem, rfl⟩

theorem IsAscii.scan_eq {cs : List Char} (h : IsAscii cs) :
    scan none (cs.flatMap utf8EncodeChar) = cs.map some := by
  rw [h.flatMap_eq]
  induction cs with
  | nil => rfl
  | cons c cs ih =>
      have hc := h c List.mem_cons_self
      have hbyte : (UInt8.ofNat c.toNat).toNat = c.toNat := by
        rw [UInt8.toNat_ofNat']
        omega
      have hlead : lead (UInt8.ofNat c.toNat) = .single c := by
        rw [lead, hbyte, if_pos hc, Char.ofNat_toNat]
      rw [List.map_cons, scan, hlead]
      dsimp only
      rw [ih fun x hx => h x (List.mem_cons_of_mem _ hx), List.map_cons]

theorem decode?_encode_of_isAscii {s : String} (h : IsAscii s.toList) :
    decode? (encode s) = some s := by
  have hcharacters : (s.toList.map some).mapM id = some s.toList := mapM_map_eq_some fun _ _ => rfl
  rw [decode?, encode, h.scan_eq, hcharacters, Option.map_some, String.ofList_toList]

end BootSeal.Utf8
