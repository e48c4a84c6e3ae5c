import BootSeal.Proofs.Text.Magnitude
/-!
# The grammar of integer literals

An integer literal is a magnitude behind an optional sign and between blanks. No character of a magnitude
is a blank or a sign, so the blanks and the sign that the reader takes off are those that the rules speak
of, and a text is read as the integer that it denotes.
-/

namespace BootSeal.IntegerLiteral

open DecimalDigit (toAscii)

inductive Sign : List Char → Int → Prop where
  | none : Sign [] 1
  | plus : Sign ['+'] 1
  | minus : Sign ['-'] (-1)

/-- A text consists of blanks, an optional sign, some characters, and blanks again. -/
def Frames (s : String) (sign : Int) (cs : List Char) : Prop :=
  ∃ before mark after, s.toList = before ++ (mark ++ cs) ++ after ∧ Sign mark sign ∧
    (∀ c ∈ before, isBlank c) ∧ ∀ c ∈ after, isBlank c

/-- The integer that a text denotes. -/
def Denotes (s : String) (v : Int) : Prop :=
  ∃ sign cs n, Frames s sign cs ∧ Magnitude cs n ∧ v = sign * n

/-- The text is a decimal numeral with more digits than are read. -/
def Oversized (s : String) : Prop :=
  ∃ sign cs ds, Frames s sign cs ∧ Spells 10 cs ds ∧ maxDecimalDigits < ds.length

variable {base : Nat} {c m : Char} {d n : Nat} {cs : List Char} {ds : List Nat}

/-! ## Signs and blanks -/

/-- Characters of which none is a blank or a sign. -/
def Solid (cs : List Char) : Prop :=
  cs ≠ [] ∧ ∀ c ∈ cs, isBlank c = false ∧ c ≠ '+' ∧ c ≠ '-'

theorem isBlank_decimalDigit :
    ∀ z ∈ DecimalDigit.zeros, ∀ d < 10, isBlank (Char.ofNat (z + d)) = false := by decide +kernel

theorem isBlank_letter :
    ∀ d < 6, isBlank (Char.ofNat (0x61 + d)) = false ∧ isBlank (Char.ofNat (0x41 + d)) = false := by
  decide

theorem IsDigit.isBlank_eq (hd : IsDigit base c d) : isBlank c = false := by
  obtain ⟨_, ⟨hten, z, hz, hc⟩ | ⟨hten, hsixteen, hc | hc⟩⟩ := hd
  · rw [← Char.ofNat_toNat c, hc]
    exact isBlank_decimalDigit z hz d hten
  · rw [← Char.ofNat_toNat c, hc]
    exact (isBlank_letter (d - 10) (by omega)).1
  · rw [← Char.ofNat_toNat c, hc]
    exact (isBlank_letter (d - 10) (by omega)).2

theorem IsDigit.solid (hd : IsDigit base c d) : isBlank c = false ∧ c ≠ '+' ∧ c ≠ '-' :=
  ⟨hd.isBlank_eq, hd.ne rfl, hd.ne rfl⟩

theorem Spells.solid (h : Spells base cs ds) : Solid cs := by
  have hne : cs ≠ [] := by
    obtain ⟨c, rest, rfl, _⟩ := h.exists_cons
    exact List.cons_ne_nil _ _
  refine ⟨hne, ?_⟩
  clear hne
  induction h with
  | last hd =>
      intro c hc
      rw [List.mem_singleton.mp hc]
      exact hd.solid
  | next hd _ ih =>
      intro c hc
      rcases List.mem_cons.mp hc with rfl | hc
      · exact hd.solid
      · exact ih c hc
  | separated hd _ ih =>
      intro c hc
      rcases List.mem_cons.mp hc with rfl | hc
      · exact hd.solid
      · rcases List.mem_cons.mp hc with rfl | hc
        · decide
        · exact ih c hc

theorem Marks.solid (hm : Marks m base) : isBlank m = false ∧ m ≠ '+' ∧ m ≠ '-' := by
  cases hm <;> decide

theorem Magnitude.solid (h : Magnitude cs n) : Solid cs := by
  cases h with
  | marked hz hm h =>
      refine ⟨List.cons_ne_nil _ _, fun c hc => ?_⟩
      rcases List.mem_cons.mp hc with rfl | hc
      · exact hz.solid
      rcases List.mem_cons.mp hc with rfl | hc
      · exact hm.solid
      exact h.solid.2 c hc
  | markedApart hz hm h =>
      refine ⟨List.cons_ne_nil _ _, fun c hc => ?_⟩
      rcases List.mem_cons.mp hc with rfl | hc
      · exact hz.solid
      rcases List.mem_cons.mp hc with rfl | hc
      · exact hm.solid
      rcases List.mem_cons.mp hc with rfl | hc
      · decide
      exact h.solid.2 c hc
  | decimal h => exact h.solid

theorem exists_trimBlanks (cs : List Char) :
    ∃ before after, cs = before ++ trimBlanks cs ++ after ∧ (∀ c ∈ before, isBlank c) ∧
      ∀ c ∈ after, isBlank c := by
  refine ⟨cs.takeWhile isBlank, ((cs.dropWhile isBlank).reverse.takeWhile isBlank).reverse, ?_,
    fun c hc => List.mem_takeWhile_imp hc,
    fun c hc => List.mem_takeWhile_imp (List.mem_reverse.mp hc)⟩
  have hright : cs.dropWhile isBlank = trimBlanks cs ++
      ((cs.dropWhile isBlank).reverse.takeWhile isBlank).reverse := by
    rw [trimBlanks, trimBlanksRight, ← List.reverse_append, List.takeWhile_append_dropWhile,
      List.reverse_reverse]
  rw [List.append_assoc, ← hright, List.takeWhile_append_dropWhile]

theorem dropWhile_append_eq {before body : List Char} (hbefore : ∀ c ∈ before, isBlank c)
    (hne : body ≠ []) (hbody : ∀ c ∈ body, isBlank c = false) (after : List Char) :
    (before ++ (body ++ after)).dropWhile isBlank = body ++ after := by
  rw [List.dropWhile_append_of_pos hbefore]
  cases body with
  | nil => exact absurd rfl hne
  | cons c rest =>
      have hc := hbody c List.mem_cons_self
      rw [List.cons_append, List.dropWhile_cons_of_neg (by simp [hc])]

theorem trimBlanks_eq {before body after : List Char} (hbefore : ∀ c ∈ before, isBlank c)
    (hafter : ∀ c ∈ after, isBlank c) (hne : body ≠ []) (hbody : ∀ c ∈ body, isBlank c = false) :
    trimBlanks (before ++ body ++ after) = body := by
  rw [trimBlanks, List.append_assoc, dropWhile_append_eq hbefore hne hbody, trimBlanksRight,
    List.reverse_append]
  -- The blanks behind are those in front of the text read backwards.
  have hright : ∀ c ∈ after.reverse, isBlank c := fun c hc => hafter c (List.mem_reverse.mp hc)
  have hmiddle : ∀ c ∈ body.reverse, isBlank c = false := fun c hc => hbody c (List.mem_reverse.mp hc)
  have hdrop := dropWhile_append_eq hright (List.reverse_ne_nil_iff.mpr hne) hmiddle []
  rw [List.append_nil] at hdrop
  rw [hdrop, List.reverse_reverse]

def splitSign : List Char → Int × List Char
  | '-' :: rest => (-1, rest)
  | '+' :: rest => (1, rest)
  | cs => (1, cs)

theorem splitSign_of_ne (hc : c ≠ '-') (hc' : c ≠ '+') : splitSign (c :: cs) = (1, c :: cs) := by
  unfold splitSign
  split
  next heq =>
    cases heq
    exact absurd rfl hc
  next heq =>
    cases heq
    exact absurd rfl hc'
  next => rfl

theorem exists_sign (body : List Char) :
    ∃ mark, Sign mark (splitSign body).1 ∧ body = mark ++ (splitSign body).2 := by
  unfold splitSign
  split
  next => exact ⟨['-'], .minus, rfl⟩
  next => exact ⟨['+'], .plus, rfl⟩
  next => exact ⟨[], .none, rfl⟩

theorem Sign.splitSign_append {mark : List Char} {sign : Int} (h : Sign mark sign)
    (hsolid : Solid cs) : splitSign (mark ++ cs) = (sign, cs) := by
  cases h with
  | none =>
      obtain ⟨hne, hcs⟩ := hsolid
      cases cs with
      | nil => exact absurd rfl hne
      | cons c rest =>
          obtain ⟨_, hplus, hminus⟩ := hcs c List.mem_cons_self
          exact splitSign_of_ne hminus hplus
  | plus => rfl
  | minus => rfl

theorem Sign.isBlank_eq {mark : List Char} {sign : Int} (h : Sign mark sign) :
    ∀ c ∈ mark, isBlank c = false := by
  intro c hc
  cases h with
  | none => cases hc
  | plus =>
      rw [List.mem_singleton.mp hc]
      rfl
  | minus =>
      rw [List.mem_singleton.mp hc]
      rfl

/-- A text in which something solid is framed is framed in one way only. -/
theorem frames_iff {s : String} {sign : Int} (hsolid : Solid cs) :
    Frames s sign cs ↔ splitSign (trimBlanks s.toList) = (sign, cs) := by
  constructor
  · rintro ⟨before, mark, after, hs, hmark, hbefore, hafter⟩
    have hne : mark ++ cs ≠ [] := List.append_ne_nil_of_right_ne_nil _ hsolid.1
    have hbody : ∀ c ∈ mark ++ cs, isBlank c = false := by
      intro c hc
      rcases List.mem_append.mp hc with hc | hc
      · exact hmark.isBlank_eq c hc
      · exact (hsolid.2 c hc).1
    rw [hs, trimBlanks_eq hbefore hafter hne hbody, hmark.splitSign_append hsolid]
  · intro hsplit
    obtain ⟨before, after, hs, hbefore, hafter⟩ := exists_trimBlanks s.toList
    obtain ⟨mark, hmark, hbody⟩ := exists_sign (trimBlanks s.toList)
    rw [hsplit] at hmark hbody
    exact ⟨before, mark, after, by rw [← hbody]; exact hs, hmark, hbefore, hafter⟩

theorem signed?_map (body : List Char) :
    signed? (body.map toAscii) = (magnitude? ((splitSign body).2.map toAscii)).map fun n : Nat =>
      (splitSign body).1 * (n : Int) := by
  have hlift : ∀ (sign : Int) (f : Int → Int) (m : Option Nat), (∀ v, f v = sign * v) →
      Option.map f (do let n ← m; pure (n : Int)) = m.map fun n : Nat => sign * (n : Int) := by
    intro sign f m hf
    cases m with
    | none => rfl
    | some n => exact congrArg some (hf n)
  cases body with
  | nil => rfl
  | cons c cs =>
      have hminus : toAscii c = '-' ↔ c = '-' :=
        DecimalDigit.toAscii_eq_iff (by decide) (by decide)
      have hplus : toAscii c = '+' ↔ c = '+' :=
        DecimalDigit.toAscii_eq_iff (by decide) (by decide)
      rw [List.map_cons]
      by_cases hc : c = '-'
      · rw [hminus.mpr hc, hc, signed?, splitSign]
        exact hlift _ _ _ fun v => (neg_one_mul v).symm
      by_cases hc' : c = '+'
      · rw [hplus.mpr hc', hc', signed?, splitSign]
        exact hlift _ _ _ fun v => (one_mul v).symm
      rw [splitSign_of_ne hc hc', signed?]
      · exact hlift _ _ _ fun v => (one_mul v).symm
      · intro rest heq
        exact hc (hminus.mp (List.cons.inj heq).1)
      · intro rest heq
        exact hc' (hplus.mp (List.cons.inj heq).1)

section Framed

variable {s : String} {sign : Int} (hsplit : splitSign (trimBlanks s.toList) = (sign, cs))

include hsplit

theorem denotes_iff {v : Int} : Denotes s v ↔ ∃ n, Magnitude cs n ∧ v = sign * n := by
  constructor
  · rintro ⟨sign', cs', n, hframes, hn, rfl⟩
    have hsplit' := (frames_iff hn.solid).mp hframes
    rw [hsplit] at hsplit'
    cases hsplit'
    exact ⟨n, hn, rfl⟩
  · rintro ⟨n, hn, rfl⟩
    exact ⟨sign, cs, n, (frames_iff hn.solid).mpr hsplit, hn, rfl⟩

theorem oversized_iff :
    Oversized s ↔ ∃ ds, Spells 10 cs ds ∧ maxDecimalDigits < ds.length := by
  constructor
  · rintro ⟨sign', cs', ds, hframes, hds, hlong⟩
    have hsplit' := (frames_iff hds.solid).mp hframes
    rw [hsplit] at hsplit'
    cases hsplit'
    exact ⟨ds, hds, hlong⟩
  · rintro ⟨ds, hds, hlong⟩
    exact ⟨sign, cs, ds, (frames_iff hds.solid).mpr hsplit, hds, hlong⟩

end Framed

/-- A text is read as the integer that it denotes, as far as it is read at all. -/
theorem parse?_eq_some_iff {s : String} {v : Int} :
    parse? s = some v ↔ Denotes s v ∧ ¬Oversized s := by
  obtain ⟨⟨sign, cs⟩, hsplit⟩ : ∃ r, splitSign (trimBlanks s.toList) = r := ⟨_, rfl⟩
  rw [denotes_iff hsplit, oversized_iff hsplit, parse?, signed?_map, hsplit, Option.map_eq_some_iff]
  simp only [magnitude?_eq_some_iff]
  constructor
  · rintro ⟨n, ⟨hn, hshort⟩, rfl⟩
    exact ⟨⟨n, hn, rfl⟩, hshort⟩
  · rintro ⟨⟨n, hn, rfl⟩, hshort⟩
    exact ⟨n, ⟨hn, hshort⟩, rfl⟩

/-! ## Numerals that are written -/

theorem isDigit_digitChar (hbase : base ≤ 16) (hd : d < base) :
    IsDigit base (Numeral.digitChar d) d := by
  have hcode := Numeral.toNat_digitChar (Nat.lt_of_lt_of_le hd hbase)
  refine ⟨hd, ?_⟩
  by_cases hten : d < 10
  · rw [if_pos hten] at hcode
    exact Or.inl ⟨hten, 0x30, by decide, hcode⟩
  · rw [if_neg hten] at hcode
    exact Or.inr ⟨by omega, by omega, Or.inl hcode⟩

theorem spells_map_digitChar (hbase : base ≤ 16) (hne : ds ≠ []) (hds : ∀ d ∈ ds, d < base) :
    Spells base (ds.map Numeral.digitChar) ds := by
  induction ds with
  | nil => exact absurd rfl hne
  | cons d ds ih =>
      have hd := isDigit_digitChar hbase (hds d List.mem_cons_self)
      cases ds with
      | nil => exact .last hd
      | cons e ds =>
          exact .next hd (ih (List.cons_ne_nil _ _) fun x hx => hds x (List.mem_cons_of_mem _ hx))

theorem spells_ofNat (hbase : 2 ≤ base) (hbase' : base ≤ 16) (n : Nat) :
    Spells base (Numeral.ofNat base n) (Numeral.digits base n) :=
  spells_map_digitChar hbase' (Numeral.digits_ne_nil base n) fun _ hd =>
    Numeral.lt_of_mem_digits hbase hd

theorem Marks.two_le (hm : Marks m base) : 2 ≤ base ∧ base ≤ 16 := by
  cases hm <;> decide

theorem magnitude_ofNat_marked (hm : Marks m base) (n : Nat) :
    Magnitude ('0' :: m :: Numeral.ofNat base n) n := by
  have h := Magnitude.marked (toAscii_eq_zero_iff.mp (by decide : toAscii '0' = '0')) hm
    (spells_ofNat hm.two_le.1 hm.two_le.2 n)
  rwa [Numeral.ofDigits_digits] at h

theorem magnitude_ofNat_decimal (n : Nat) : Magnitude (Numeral.ofNat 10 n) n := by
  have hzero : (Numeral.digits 10 n).head? = some 0 → ∀ d ∈ Numeral.digits 10 n, d = 0 := by
    intro hhead d hd
    rcases Nat.eq_zero_or_pos n with rfl | hpos
    · simpa [Numeral.digits] using hd
    · exact absurd hhead (Numeral.head?_digits_ne_zero (by decide) hpos)
  have h := Magnitude.decimal (spells_ofNat (by decide : 2 ≤ 10) (by decide) n) hzero
  rwa [Numeral.ofDigits_digits] at h

/-- A signed numeral frames what stands behind its sign. -/
theorem frames_signed (mark : String) (base : Nat) (v : Int) :
    Frames (Numeral.signed mark base v) (if v < 0 then -1 else 1)
      (mark.toList ++ Numeral.ofNat base v.natAbs) := by
  by_cases hv : v < 0
  · refine ⟨[], ['-'], [], ?_, by rw [if_pos hv]; exact .minus, by simp, by simp⟩
    simp [Numeral.signed, hv]
  · refine ⟨[], [], [], ?_, by rw [if_neg hv]; exact .none, by simp, by simp⟩
    simp [Numeral.signed, hv]

theorem sign_mul_natAbs (v : Int) : v = (if v < 0 then -1 else 1) * (v.natAbs : Int) := by
  split
  · omega
  · omega

theorem parse?_signed_marked (hm : Marks m base) (v : Int) :
    parse? (Numeral.signed (String.ofList ['0', m]) base v) = some v := by
  have hn := magnitude_ofNat_marked hm v.natAbs
  have hframes := frames_signed (String.ofList ['0', m]) base v
  rw [String.toList_ofList, List.cons_append, List.cons_append, List.nil_append] at hframes
  have hsplit := (frames_iff hn.solid).mp hframes
  rw [parse?_eq_some_iff, denotes_iff hsplit, oversized_iff hsplit]
  exact ⟨⟨_, hn, sign_mul_natAbs v⟩, fun ⟨_, hdecimal, _⟩ => hm.not_spells hdecimal⟩

theorem parse?_decimal_iff (v : Int) :
    parse? (Numeral.decimal v) = some v ↔ v.natAbs < 10 ^ maxDecimalDigits := by
  have hn := magnitude_ofNat_decimal v.natAbs
  have hds := spells_ofNat (by decide : 2 ≤ 10) (by decide) v.natAbs
  have hframes := frames_signed "" 10 v
  rw [String.toList_empty, List.nil_append] at hframes
  have hsplit := (frames_iff hn.solid).mp hframes
  rw [Numeral.decimal, parse?_eq_some_iff, denotes_iff hsplit, oversized_iff hsplit]
  constructor
  · rintro ⟨_, hshort⟩
    have hlength : (Numeral.digits 10 v.natAbs).length ≤ maxDecimalDigits :=
      Nat.le_of_not_lt fun hlong => hshort ⟨_, hds, hlong⟩
    have hvalue := Nat.ofDigits_lt_base_pow_length (b := 10)
      (l := (Numeral.digits 10 v.natAbs).reverse) (by decide)
      fun d hd => Numeral.lt_of_mem_digits (by decide) (List.mem_reverse.mp hd)
    rw [Numeral.ofDigits_digits, List.length_reverse] at hvalue
    exact Nat.lt_of_lt_of_le hvalue (Nat.pow_le_pow_right (by decide) hlength)
  · intro hv
    refine ⟨⟨_, hn, sign_mul_natAbs v⟩, fun ⟨ds, hds', hlong⟩ => ?_⟩
    have hlength := Numeral.length_digits_le (by decide : 0 < maxDecimalDigits) hv
    rw [hds'.unique hds] at hlong
    omega

end BootSeal.IntegerLiteral
