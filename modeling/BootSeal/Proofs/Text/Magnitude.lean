import Mathlib
import BootSeal.Proofs.Text.Numeral
import BootSeal.Text.IntegerLiteral
/-!
# Magnitudes of integer literals

What a magnitude is worth is given by rules: it is spelled by digits of all scripts, with or without a
base mark in front. The reader turns the digits into ASCII digits first, which changes nothing else, and
finds exactly the texts that follow the rules. No text spells two rows of digits in one base.
-/

namespace BootSeal.IntegerLiteral

open DecimalDigit (toAscii)

/-! ## The rules -/

/-- A digit of a base: a decimal digit of any script, or one of the letters `a` to `f` in either case. -/
def IsDigit (base : Nat) (c : Char) (d : Nat) : Prop :=
  d < base ∧
    (d < 10 ∧ (∃ z ∈ DecimalDigit.zeros, c.toNat = z + d) ∨
      10 ≤ d ∧ d < 16 ∧ (c.toNat = 'a'.toNat + (d - 10) ∨ c.toNat = 'A'.toNat + (d - 10)))

/-- A text spells digits: one behind the other, with a single underscore between two of them or none. -/
inductive Spells (base : Nat) : List Char → List Nat → Prop where
  | last {c : Char} {d : Nat} (hd : IsDigit base c d) : Spells base [c] [d]
  | next {c : Char} {d : Nat} {cs : List Char} {ds : List Nat} (hd : IsDigit base c d)
      (h : Spells base cs ds) : Spells base (c :: cs) (d :: ds)
  | separated {c : Char} {d : Nat} {cs : List Char} {ds : List Nat} (hd : IsDigit base c d)
      (h : Spells base cs ds) : Spells base (c :: '_' :: cs) (d :: ds)

/-- The letters that mark a base behind a zero. -/
inductive Marks : Char → Nat → Prop where
  | hex : Marks 'x' 16
  | hexUpper : Marks 'X' 16
  | octal : Marks 'o' 8
  | octalUpper : Marks 'O' 8
  | binary : Marks 'b' 2
  | binaryUpper : Marks 'B' 2

inductive Magnitude : List Char → Nat → Prop where
  | marked {z m : Char} {base : Nat} {cs : List Char} {ds : List Nat} (hz : IsDigit 10 z 0)
      (hm : Marks m base) (h : Spells base cs ds) :
      Magnitude (z :: m :: cs) (Nat.ofDigits base ds.reverse)
  /-- An underscore may follow a base mark. -/
  | markedApart {z m : Char} {base : Nat} {cs : List Char} {ds : List Nat} (hz : IsDigit 10 z 0)
      (hm : Marks m base) (h : Spells base cs ds) :
      Magnitude (z :: m :: '_' :: cs) (Nat.ofDigits base ds.reverse)
  /-- Without a base mark only zero begins with a zero. -/
  | decimal {cs : List Char} {ds : List Nat} (h : Spells 10 cs ds)
      (hzero : ds.head? = some 0 → ∀ d ∈ ds, d = 0) :
      Magnitude cs (Nat.ofDigits 10 ds.reverse)

/-! ## Digits -/

variable {base : Nat} {c : Char} {d : Nat} {cs : List Char} {ds : List Nat}

theorem digitValue?_eq_some_iff {x : Char} {n : Nat} :
    Numeral.digitValue? x = some n ↔ n < 16 ∧ (n < 10 ∧ x.toNat = 0x30 + n ∨
      10 ≤ n ∧ (x.toNat = 'a'.toNat + (n - 10) ∨ x.toNat = 'A'.toNat + (n - 10))) := by
  have ha : 'a'.toNat = 0x61 := rfl
  have hA : 'A'.toNat = 0x41 := rfl
  rw [Numeral.digitValue?, ha, hA]
  split
  next h =>
    rw [Option.some.injEq]
    omega
  next =>
    split
    next h =>
      rw [Option.some.injEq]
      omega
    next =>
      split
      next h =>
        rw [Option.some.injEq]
        omega
      next =>
        constructor
        · intro h
          cases h
        · intro h
          omega

/-- No decimal digit lies among the ASCII characters from the colon on. -/
theorem zeros_apart : ∀ z ∈ DecimalDigit.zeros, z = 0x30 ∨ 0x80 ≤ z := by decide +kernel

theorem digit?_toAscii_eq_some_iff : digit? base (toAscii c) = some d ↔ IsDigit base c d := by
  have ha : 'a'.toNat = 0x61 := rfl
  have hA : 'A'.toNat = 0x41 := rfl
  rw [digit?, Option.filter_eq_some_iff, digitValue?_eq_some_iff, decide_eq_true_eq, IsDigit]
  cases h : DecimalDigit.value? c with
  | some e =>
      obtain ⟨he, z, hz, hc⟩ := DecimalDigit.value?_eq_some_iff.mp h
      rw [DecimalDigit.toNat_toAscii h]
      have happart := zeros_apart z hz
      constructor
      · rintro ⟨⟨hd, hvalue⟩, hbase⟩
        obtain rfl : d = e := by omega
        exact ⟨hbase, Or.inl ⟨he, z, hz, hc⟩⟩
      · rintro ⟨hbase, ⟨hd, hscript⟩ | ⟨hd, hd', hletter⟩⟩
        · have hvalue := DecimalDigit.value?_eq_some_iff.mpr ⟨hd, hscript⟩
          rw [h, Option.some.injEq] at hvalue
          exact ⟨⟨by omega, by omega⟩, hbase⟩
        · omega
  | none =>
      rw [DecimalDigit.toAscii_eq_self h]
      have hnone : ¬(d < 10 ∧ ∃ z ∈ DecimalDigit.zeros, c.toNat = z + d) := by
        intro hdigit
        rw [DecimalDigit.value?_eq_some_iff.mpr hdigit] at h
        cases h
      have hzero : 0x30 ∈ DecimalDigit.zeros := by decide
      constructor
      · rintro ⟨⟨hd, ⟨hd', hc⟩ | hletter⟩, hbase⟩
        · exact absurd ⟨hd', _, hzero, hc⟩ hnone
        · exact ⟨hbase, Or.inr ⟨hletter.1, hd, hletter.2⟩⟩
      · rintro ⟨hbase, hdigit | ⟨hd, hd', hletter⟩⟩
        · exact absurd hdigit hnone
        · exact ⟨⟨hd', Or.inr ⟨hd, hletter⟩⟩, hbase⟩

theorem toAscii_eq_underscore_iff : toAscii c = '_' ↔ c = '_' :=
  DecimalDigit.toAscii_eq_iff (by decide) (by decide)

theorem IsDigit.ne (hd : IsDigit base c d) {x : Char} (hx : Numeral.digitValue? (toAscii x) = none) :
    c ≠ x := by
  rintro rfl
  have hdigit := digit?_toAscii_eq_some_iff.mpr hd
  rw [digit?, hx] at hdigit
  cases hdigit

theorem digits?_cons_cons {x y : Char} {rest : List Char} (hy : y ≠ '_') :
    digits? base (x :: y :: rest) =
      (digit? base x).bind fun d => (digits? base (y :: rest)).map fun ds => d :: ds := by
  rw [digits?]
  · cases digits? base (y :: rest) <;> rfl
  · intro h
    cases h
  · rintro rest' h
    cases h
    exact hy rfl

theorem Spells.exists_isDigit (h : Spells base (c :: cs) ds) : ∃ d, IsDigit base c d := by
  cases h with
  | last hd => exact ⟨_, hd⟩
  | next hd _ => exact ⟨_, hd⟩
  | separated hd _ => exact ⟨_, hd⟩

/-- What is spelled begins with a digit, so with no underscore. -/
theorem Spells.exists_cons (h : Spells base cs ds) : ∃ c rest, cs = c :: rest ∧ c ≠ '_' := by
  cases cs with
  | nil => cases h
  | cons c rest =>
      obtain ⟨d, hd⟩ := h.exists_isDigit
      exact ⟨c, rest, rfl, hd.ne rfl⟩

/-- What is spelled is read. -/
theorem Spells.digits?_eq (h : Spells base cs ds) : digits? base (cs.map toAscii) = some ds := by
  induction h with
  | last hd =>
      rw [List.map_singleton, digits?, digit?_toAscii_eq_some_iff.mpr hd]
      rfl
  | @next c d cs ds hd h ih =>
      obtain ⟨e, rest, rfl, he⟩ := h.exists_cons
      rw [List.map_cons] at ih
      rw [List.map_cons, List.map_cons,
        digits?_cons_cons (fun heq => he (toAscii_eq_underscore_iff.mp heq)),
        digit?_toAscii_eq_some_iff.mpr hd, ih]
      rfl
  | @separated c d cs ds hd h ih =>
      have hmark : toAscii '_' = '_' := toAscii_eq_underscore_iff.mpr rfl
      rw [List.map_cons, List.map_cons, hmark, digits?, digit?_toAscii_eq_some_iff.mpr hd, ih]
      rfl

/-- What is read is spelled. -/
theorem spells_of_digits? (h : digits? base (cs.map toAscii) = some ds) : Spells base cs ds := by
  generalize hl : cs.map toAscii = l at h
  fun_induction digits? base l generalizing cs ds with
  | case1 => cases h
  | case2 x =>
      obtain ⟨c, rfl, rfl⟩ := List.map_eq_singleton_iff.mp hl
      obtain ⟨d, hd, rfl⟩ := Option.map_eq_some_iff.mp h
      exact .last (digit?_toAscii_eq_some_iff.mp hd)
  | case3 x rest ih =>
      obtain ⟨c, cs, rfl, rfl, htail⟩ := List.map_eq_cons_iff.mp hl
      obtain ⟨u, cs, rfl, hu, rfl⟩ := List.map_eq_cons_iff.mp htail
      obtain rfl := toAscii_eq_underscore_iff.mp hu
      obtain ⟨d, hd, h⟩ := Option.bind_eq_some_iff.mp h
      obtain ⟨ds, hds, h⟩ := Option.bind_eq_some_iff.mp h
      cases h
      exact .separated (digit?_toAscii_eq_some_iff.mp hd) (ih rfl hds)
  | case4 x rest hrest hmark ih =>
      obtain ⟨c, cs, rfl, rfl, rfl⟩ := List.map_eq_cons_iff.mp hl
      obtain ⟨d, hd, h⟩ := Option.bind_eq_some_iff.mp h
      obtain ⟨ds, hds, h⟩ := Option.bind_eq_some_iff.mp h
      cases h
      exact .next (digit?_toAscii_eq_some_iff.mp hd) (ih rfl hds)

theorem digits?_eq_some_iff : digits? base (cs.map toAscii) = some ds ↔ Spells base cs ds :=
  ⟨spells_of_digits?, Spells.digits?_eq⟩

theorem Spells.unique {ds' : List Nat} (h : Spells base cs ds) (h' : Spells base cs ds') :
    ds = ds' := by
  have heq := h.digits?_eq
  rw [h'.digits?_eq] at heq
  exact (Option.some.inj heq).symm

/-! ## Magnitudes -/

variable {z m : Char} {n : Nat}

theorem toAscii_eq_zero_iff : toAscii z = '0' ↔ IsDigit 10 z 0 := by
  rw [← digit?_toAscii_eq_some_iff]
  constructor
  · intro h
    rw [h]
    rfl
  · intro h
    obtain ⟨_, hvalue⟩ := digitValue?_eq_some_iff.mp (Option.filter_eq_some_iff.mp h).1
    have hcode : (toAscii z).toNat = '0'.toNat := by
      rcases hvalue with ⟨_, hvalue⟩ | ⟨hten, _⟩
      · exact hvalue
      · omega
    exact Char.toNat_inj.mp hcode

theorem Marks.toAscii_eq_iff (hm : Marks m base) : toAscii c = m ↔ c = m := by
  cases hm <;> exact DecimalDigit.toAscii_eq_iff (by decide) (by decide)

theorem Marks.unique {base' : Nat} (hm : Marks m base) (hm' : Marks m base') : base = base' := by
  cases hm <;> cases hm' <;> rfl

theorem Marks.not_isDigit (hm : Marks m base) : ¬IsDigit 10 m d := by
  intro hd
  have hdigit := digit?_toAscii_eq_some_iff.mpr hd
  cases hm <;> cases hdigit

/-- What has a base mark spells no decimal digits. -/
theorem Marks.not_spells (hm : Marks m base) : ¬Spells 10 (z :: m :: cs) ds := by
  intro h
  cases h with
  | next _ h =>
      obtain ⟨d, hd⟩ := h.exists_isDigit
      exact hm.not_isDigit hd
  | separated => cases hm

theorem afterMark_of_ne (hc : c ≠ '_') : afterMark (c :: cs) = c :: cs := by
  rw [afterMark]
  intro rest h
  cases h
  exact hc rfl

theorem marked?_eq_some_iff :
    marked? base (cs.map toAscii) = some n ↔
      ∃ ds, (Spells base cs ds ∨ ∃ rest, cs = '_' :: rest ∧ Spells base rest ds) ∧
        n = Nat.ofDigits base ds.reverse := by
  have hfront : afterMark (cs.map toAscii) = (afterMark cs).map toAscii := by
    cases cs with
    | nil => rfl
    | cons c rest =>
        by_cases hc : c = '_'
        · subst hc
          have hmark : toAscii '_' = '_' := toAscii_eq_underscore_iff.mpr rfl
          rw [List.map_cons, hmark, afterMark, afterMark]
        · have hc' : toAscii c ≠ '_' := fun h => hc (toAscii_eq_underscore_iff.mp h)
          rw [List.map_cons, afterMark_of_ne hc', afterMark_of_ne hc, List.map_cons]
  rw [marked?, hfront, Option.map_eq_some_iff]
  simp only [digits?_eq_some_iff, Numeral.ofDigits_eq]
  constructor
  · rintro ⟨ds, h, rfl⟩
    refine ⟨ds, ?_, rfl⟩
    cases cs with
    | nil => exact Or.inl h
    | cons c rest =>
        by_cases hc : c = '_'
        · subst hc
          exact Or.inr ⟨rest, rfl, h⟩
        · rw [afterMark_of_ne hc] at h
          exact Or.inl h
  · rintro ⟨ds, h | ⟨rest, rfl, h⟩, rfl⟩
    · obtain ⟨c, rest, rfl, hc⟩ := h.exists_cons
      exact ⟨ds, by rwa [afterMark_of_ne hc], rfl⟩
    · exact ⟨ds, h, rfl⟩

theorem magnitude?_of_marks (hz : IsDigit 10 z 0) (hm : Marks m base) :
    magnitude? ((z :: m :: cs).map toAscii) = marked? base (cs.map toAscii) := by
  rw [List.map_cons, List.map_cons, toAscii_eq_zero_iff.mpr hz, hm.toAscii_eq_iff.mpr rfl]
  cases hm <;> rfl

theorem magnitude?_of_not_marks
    (h : ∀ z m rest base, cs = z :: m :: rest → IsDigit 10 z 0 → ¬Marks m base) :
    magnitude? (cs.map toAscii) = decimal? (cs.map toAscii) := by
  have hne : ∀ {m base rest}, Marks m base → cs.map toAscii ≠ '0' :: m :: rest := by
    intro m base rest hm heq
    obtain ⟨z, cs', rfl, hz, htail⟩ := List.map_eq_cons_iff.mp heq
    obtain ⟨m', rest', rfl, hm', _⟩ := List.map_eq_cons_iff.mp htail
    obtain rfl := hm.toAscii_eq_iff.mp hm'
    exact h z m' rest' base rfl (toAscii_eq_zero_iff.mp hz) hm
  generalize cs.map toAscii = l at hne
  unfold magnitude?
  split
  next => exact absurd rfl (hne .hex)
  next => exact absurd rfl (hne .hexUpper)
  next => exact absurd rfl (hne .octal)
  next => exact absurd rfl (hne .octalUpper)
  next => exact absurd rfl (hne .binary)
  next => exact absurd rfl (hne .binaryUpper)
  next => rfl

theorem decimal?_eq_some_iff :
    decimal? (cs.map toAscii) = some n ↔
      ∃ ds, Spells 10 cs ds ∧ ds.length ≤ maxDecimalDigits ∧
        (ds.head? = some 0 → ∀ d ∈ ds, d = 0) ∧ n = Nat.ofDigits 10 ds.reverse := by
  have hzeros : ∀ ds : List Nat, (ds.any fun d => d != 0) = true ↔ ¬∀ d ∈ ds, d = 0 := by
    intro ds
    simp
  rw [decimal?, Option.bind_eq_bind, Option.bind_eq_some_iff]
  simp only [digits?_eq_some_iff, Numeral.ofDigits_eq, hzeros]
  refine exists_congr fun ds => and_congr_right fun _ => ?_
  split
  next hlong =>
    constructor
    · intro h
      cases h
    · rintro ⟨hshort, _⟩
      omega
  next hshort =>
    split
    next hpadded =>
      constructor
      · intro h
        cases h
      · rintro ⟨_, hzero, _⟩
        exact absurd (hzero hpadded.1) hpadded.2
    next hpadded =>
      constructor
      · intro h
        cases h
        exact ⟨Nat.le_of_not_lt hshort, fun hhead => by_contra fun hne => hpadded ⟨hhead, hne⟩, rfl⟩
      · rintro ⟨_, _, rfl⟩
        rfl

/-- The reader of magnitudes finds what the rules say, as far as it reads at all. -/
theorem magnitude?_eq_some_iff :
    magnitude? (cs.map toAscii) = some n ↔
      Magnitude cs n ∧ ¬∃ ds, Spells 10 cs ds ∧ maxDecimalDigits < ds.length := by
  by_cases hmarks : ∃ z m rest base, cs = z :: m :: rest ∧ IsDigit 10 z 0 ∧ Marks m base
  · obtain ⟨z, m, rest, base, rfl, hz, hm⟩ := hmarks
    rw [magnitude?_of_marks hz hm, marked?_eq_some_iff]
    constructor
    · rintro ⟨ds, h | ⟨rest, rfl, h⟩, rfl⟩
      · exact ⟨.marked hz hm h, fun ⟨_, hdecimal, _⟩ => hm.not_spells hdecimal⟩
      · exact ⟨.markedApart hz hm h, fun ⟨_, hdecimal, _⟩ => hm.not_spells hdecimal⟩
    · rintro ⟨h, _⟩
      cases h with
      | marked _ hm' h =>
          obtain rfl := hm.unique hm'
          exact ⟨_, Or.inl h, rfl⟩
      | markedApart _ hm' h =>
          obtain rfl := hm.unique hm'
          exact ⟨_, Or.inr ⟨_, rfl, h⟩, rfl⟩
      | decimal h => exact absurd h hm.not_spells
  · have hdecimal : ∀ z m rest base, cs = z :: m :: rest → IsDigit 10 z 0 → ¬Marks m base :=
      fun z m rest base heq hz hm => hmarks ⟨z, m, rest, base, heq, hz, hm⟩
    rw [magnitude?_of_not_marks hdecimal, decimal?_eq_some_iff]
    constructor
    · rintro ⟨ds, h, hlength, hzero, rfl⟩
      refine ⟨.decimal h hzero, fun ⟨ds', h', hlong⟩ => ?_⟩
      rw [h'.unique h] at hlong
      omega
    · rintro ⟨h, hshort⟩
      cases h with
      | marked hz hm _ => exact absurd hm (hdecimal _ _ _ _ rfl hz)
      | markedApart hz hm _ => exact absurd hm (hdecimal _ _ _ _ rfl hz)
      | decimal h hzero =>
          exact ⟨_, h, Nat.le_of_not_lt fun hlong => hshort ⟨_, h, hlong⟩, hzero, rfl⟩

end BootSeal.IntegerLiteral
