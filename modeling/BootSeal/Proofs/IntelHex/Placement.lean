import BootSeal.IntelHex.Basic
import BootSeal.Proofs.IntelHex.Segment
/-!
# Where records put their bytes

A file that is read puts the bytes of its data records at their addresses behind the offsets in force,
and nothing else. No address is used twice, so the map is decided by the bytes with their addresses: it
does not matter which record brings a byte, or in which order the records come.
-/

namespace BootSeal

theorem Run.entries_cons (address : Nat) (b : UInt8) (rest : Bytes) :
    Run.entries ⟨address, b :: rest⟩ = (address, b) :: Run.entries ⟨address + 1, rest⟩ := rfl

/-- Bytes that are put at consecutive addresses come to those of the map, none in place of another. -/
theorem AddressMap.getElem?_insertAll {m next : AddressMap} {address : Nat} {data : Bytes}
    (h : insertAll m address data = .ok next) (a : Nat) (x : UInt8) :
    next[a]? = some x ↔ m[a]? = some x ∨ (a, x) ∈ Run.entries ⟨address, data⟩ := by
  induction data generalizing m address with
  | nil =>
      cases h
      simp [Run.entries]
  | cons b rest ih =>
      rw [insertAll] at h
      split at h
      next => cases h
      next hfree =>
        have hvacant : m[address]? = none := Std.TreeMap.getElem?_eq_none hfree
        rw [ih h, Run.entries_cons, List.mem_cons, Prod.mk.injEq, ← or_assoc]
        refine or_congr_left ?_
        rw [Std.TreeMap.getElem?_insert]
        split
        next heq =>
          rw [Std.LawfulEqCmp.compare_eq_iff_eq] at heq
          subst heq
          simp [hvacant, eq_comm]
        next hne =>
          have hother : a ≠ address := by
            rintro rfl
            exact hne Std.ReflCmp.compare_self
          simp [hother]

namespace IntelHex

/-- The records of lines, up to a line that cannot be read. -/
def records (line : Nat) : List (List Char) → List Record
  | [] => []
  | [] :: rest => records (line + 1) rest
  | s :: rest =>
      match record line s with
      | .error _ => []
      | .ok r => r :: records (line + 1) rest

/-- The bytes that records put somewhere with their addresses. What stands behind a record that ends the
file does not count. -/
def placed (offset : Nat) : List Record → List (Nat × UInt8)
  | [] => []
  | .data address data :: rest => Run.entries ⟨offset + address, data⟩ ++ placed offset rest
  | .endOfFile :: _ => []
  | .offset value :: rest => placed value rest
  | .start :: rest => placed offset rest

/-- The lines of a file as far as its text goes: all of them, or those that are complete when it shows
that there is something else in the file. -/
def fileLines (b : Bytes) : List (List Char) :=
  match Utf8.fault? b with
  | none => lines (Utf8.wellFormedPart b)
  | some offset => completeLines (Utf8.wellFormedPart (blocksBefore offset b))

/-- The bytes of a file with their addresses, as its records come. -/
def fileBytes (b : Bytes) : List (Nat × UInt8) := placed 0 (records 1 (fileLines b))

section Steps

variable {p next : Progress} {line : Nat}

/-- What a record adds: what it puts somewhere is there, and the offset for the next one is in force. -/
theorem getElem?_take {r : Record} {rest : List Record} (h : p.take line r = .ok next)
    (hr : r ≠ .endOfFile) (a : Nat) (x : UInt8) :
    next.bytes[a]? = some x ∨ (a, x) ∈ placed next.offset rest ↔
      p.bytes[a]? = some x ∨ (a, x) ∈ placed p.offset (r :: rest) := by
  cases r with
  | data address data =>
      rw [Progress.take] at h
      split at h
      next bytes hadded =>
        cases h
        rw [placed, List.mem_append, ← or_assoc, ← AddressMap.getElem?_insertAll hadded]
      next => cases h
  | endOfFile => exact absurd rfl hr
  | offset value =>
      cases h
      rfl
  | start =>
      rw [Progress.take] at h
      split at h
      next => cases h
      next =>
        cases h
        rfl

/-- The file is ended by the one record that does so, which adds nothing. -/
theorem take_ends {r : Record} (h : p.take line r = .ok next) (hopen : p.isEnded = false) :
    next.isEnded = true ∧ r = .endOfFile ∧ next.bytes = p.bytes ∨
      next.isEnded = false ∧ r ≠ .endOfFile := by
  cases r with
  | data address data =>
      rw [Progress.take] at h
      split at h
      next =>
        cases h
        exact Or.inr ⟨hopen, Record.noConfusion⟩
      next => cases h
  | endOfFile =>
      cases h
      exact Or.inl ⟨rfl, rfl, rfl⟩
  | offset value =>
      cases h
      exact Or.inr ⟨hopen, Record.noConfusion⟩
  | start =>
      rw [Progress.take] at h
      split at h
      next => cases h
      next =>
        cases h
        exact Or.inr ⟨hopen, Record.noConfusion⟩

/-- Each line adds what its record puts somewhere, so a whole reading does. -/
theorem getElem?_readLines {text : List (List Char)} (hopen : p.isEnded = false)
    (h : readLines p line text = .ok next) (a : Nat) (x : UInt8) :
    next.bytes[a]? = some x ↔
      p.bytes[a]? = some x ∨ (a, x) ∈ placed p.offset (records line text) := by
  induction text generalizing p line with
  | nil =>
      cases h
      simp [records, placed]
  | cons s rest ih =>
      cases s with
      | nil => exact ih hopen h
      | cons c cs =>
          have hne := List.cons_ne_nil c cs
          rw [readLines.eq_3 _ _ _ _ hne] at h
          rw [records.eq_3 _ _ _ hne]
          cases hrecord : record line (c :: cs) with
          | error e =>
              rw [hrecord] at h
              cases h
          | ok r =>
              rw [hrecord] at h
              dsimp only at h ⊢
              split at h
              next => cases h
              next taken htaken =>
                obtain ⟨hended, rfl, hbytes⟩ | ⟨hgoes, hr⟩ := take_ends htaken hopen
                · rw [if_pos hended] at h
                  cases h
                  simp [placed, hbytes]
                · rw [if_neg (by simp [hgoes])] at h
                  rw [ih hgoes h, getElem?_take htaken hr]

end Steps

/-- The map of a file has just the bytes that the records of the file put somewhere. -/
theorem getElem?_of_read {b : Bytes} {m : AddressMap} (h : read b = .ok m) (address : Nat)
    (x : UInt8) : m[address]? = some x ↔ (address, x) ∈ fileBytes b := by
  have hlines : ∃ p, readLines {} 1 (fileLines b) = .ok p ∧ p.bytes = m := by
    unfold read at h
    unfold fileLines
    cases hfault : Utf8.fault? b with
    | none =>
        rw [hfault] at h
        dsimp only at h ⊢
        split at h
        next => cases h
        next p hlines =>
          cases h
          exact ⟨p, hlines, rfl⟩
    | some offset =>
        rw [hfault] at h
        dsimp only at h ⊢
        split at h
        next => cases h
        next p hlines =>
          split at h
          next =>
            cases h
            exact ⟨p, hlines, rfl⟩
          next => cases h
  obtain ⟨p, hlines, rfl⟩ := hlines
  rw [getElem?_readLines rfl hlines, fileBytes]
  simp

end IntelHex

end BootSeal
