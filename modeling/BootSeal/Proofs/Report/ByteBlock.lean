import BootSeal.Proofs.Key.Listing
import BootSeal.Report.Text
/-!
# Bytes in a report are read back

Bytes stand under a name in rows of eight. Behind the name, a block of bytes is read line by line, a line as
words of two hexadecimal digits, and what is read are the bytes in rows. The lines end behind every eighth
byte, but not behind the last one, so no row is empty unless there are no bytes at all.
-/

namespace BootSeal.Report

open Listing

/-! ## Reading -/

/-- The lines of a text, in which every line has its end. -/
def lines? (text : List Char) : Option (List (List Char)) :=
  if (text.splitOn '\n').getLast? = some [] then some (text.splitOn '\n').dropLast else none

def byteOfWord? : List Char → Option UInt8
  | ['0', 'x', high, low] => do
      return UInt8.ofNat ((← Numeral.digitValue? high) * 16 + (← Numeral.digitValue? low))
  | _ => none

def bytesOfLine? (line : List Char) : Option Bytes := (words line).mapM byteOfWord?

/-- What stands in front of the bytes of a block. -/
def label (name : String) : String := fill ' ' (indent + 1) ++ name ++ ": "

/-- The rows of bytes under a name. The first row stands in the line of the name. -/
def byteRows? (name text : String) : Option (List Bytes) := do
  let rest ← (label name).toList.isPrefixOf? text.toList
  let lines ← lines? rest
  lines.mapM bytesOfLine?

/-! ## Lines -/

theorem lines?_eq_some_iff {text : List Char} {lines : List (List Char)} :
    lines? text = some lines ↔ text.splitOn '\n' = lines ++ [[]] := by
  rw [lines?, Option.ite_none_right_eq_some]
  constructor
  · rintro ⟨hlast, hlines⟩
    rw [← Option.some.inj hlines]
    exact (List.dropLast_append_getLast? _ hlast).symm
  · intro h
    rw [h]
    simp

/-! ## Rows -/

def byteWord (x : UInt8) : List Char := '0' :: 'x' :: Bytes.hexPair x

theorem byteOfWord?_byteWord (x : UInt8) : byteOfWord? (byteWord x) = some x := by
  have hword : byteWord x =
      ['0', 'x', Numeral.digitChar (x.toNat / 16), Numeral.digitChar (x.toNat % 16)] := rfl
  rw [hword, byteOfWord?]
  exact byte_of_digitChars x

theorem notMem_byteWord {c : Char} (hc : ¬Utf8.IsInk c) (x : UInt8) : c ∉ byteWord x := by
  intro h
  have htoken : c ∈ Listing.token x := List.mem_append_left [','] h
  exact hc (isInk_of_mem_token x c htoken)

theorem byteRow_cons (x : UInt8) (b : Bytes) : byteRow (x :: b) = byteWord x ++ ' ' :: byteRow b := by
  simp [byteRow, byteToken, byteWord]

theorem words_byteRow (b : Bytes) : words (byteRow b) = b.map byteWord := by
  induction b with
  | nil => rfl
  | cons x b ih =>
      have hword : words (byteWord x) = [byteWord x] :=
        words_of_notMem (List.cons_ne_nil _ _) (notMem_byteWord (by decide) x)
      rw [byteRow_cons, words_append_blank, hword, ih]
      rfl

theorem notMem_byteRow (b : Bytes) : '\n' ∉ byteRow b := by
  induction b with
  | nil => exact List.not_mem_nil
  | cons x b ih =>
      rw [byteRow_cons, List.mem_append, List.mem_cons, not_or, not_or]
      exact ⟨notMem_byteWord (by decide) x, by decide, ih⟩

theorem bytesOfLine?_byteRow (n : Nat) (b : Bytes) :
    bytesOfLine? (List.replicate n ' ' ++ byteRow b) = some b := by
  rw [bytesOfLine?, words_blanks_append, words_byteRow]
  exact mapM_map_eq_some fun x _ => byteOfWord?_byteWord x

/-! ## Blocks -/

/-- The rows in which bytes are shown. Without bytes there is one row with nothing in it. -/
def byteRows (b : Bytes) : List Bytes := if b = [] then [[]] else Bytes.pieces 7 b

/-- What ends a line that goes on in the next one. -/
def lineBreak (name : String) : List Char := '\n' :: List.replicate (indent + name.length + 3) ' '

theorem toList_hexBlock (name : String) (b : Bytes) :
    (hexBlock name b).toList = (label name).toList
      ++ (List.intercalate (lineBreak name) ((byteRows b).map byteRow) ++ ['\n']) := by
  have hrows : List.intercalate (lineBreak name) ((byteRows b).map byteRow) =
      List.intercalate (lineBreak name) ((Bytes.pieces 7 b).map byteRow) := by
    rw [byteRows]
    split
    next h =>
      rw [h, Bytes.pieces]
      rfl
    next => rfl
  rw [hrows]
  simp [hexBlock, label, lineBreak]

theorem splitOn_byteRows {front : List Char} (hfront : '\n' ∉ front) (n : Nat) (row : Bytes)
    (rows : List Bytes) :
    (front ++ (List.intercalate ('\n' :: List.replicate n ' ') ((row :: rows).map byteRow)
        ++ ['\n'])).splitOn '\n' =
      (front ++ byteRow row) :: (rows.map fun r => List.replicate n ' ' ++ byteRow r) ++ [[]] := by
  have hline : ∀ {front : List Char} (row : Bytes), '\n' ∉ front → '\n' ∉ front ++ byteRow row := by
    intro front row hfront
    rw [List.mem_append, not_or]
    exact ⟨hfront, notMem_byteRow row⟩
  -- A line that goes on leaves its margin to the line behind it.
  induction rows generalizing front row with
  | nil =>
      rw [List.map_singleton, List.intercalate_singleton, ← List.append_assoc,
        splitOn_line (hline row hfront)]
      rfl
  | cons next rows ih =>
      have hmargin : '\n' ∉ List.replicate n ' ' := by simp
      have hrest := ih hmargin next
      rw [List.map_cons] at hrest
      rw [List.map_cons, List.map_cons, List.intercalate_cons_cons, List.append_assoc,
        List.append_assoc, List.cons_append, ← List.append_assoc front,
        splitOn_line (hline row hfront), hrest]
      rfl

theorem byteRows?_hexBlock (name : String) (b : Bytes) :
    byteRows? name (hexBlock name b) = some (byteRows b) := by
  obtain ⟨row, rows, hrows⟩ : ∃ row rows, byteRows b = row :: rows := by
    apply List.exists_cons_of_ne_nil
    rw [byteRows]
    split
    next => exact List.cons_ne_nil _ _
    next h => exact Bytes.pieces_ne_nil h
  have hlabel := List.isPrefixOf?_eq_some_iff_append_eq.mpr (toList_hexBlock name b).symm
  have hlines : lines? (List.intercalate (lineBreak name) ((byteRows b).map byteRow) ++ ['\n']) =
      some (byteRow row :: rows.map fun r =>
        List.replicate (indent + name.length + 3) ' ' ++ byteRow r) := by
    rw [lines?_eq_some_iff, hrows]
    exact splitOn_byteRows List.not_mem_nil _ row rows
  have hfirst : bytesOfLine? (byteRow row) = some row := bytesOfLine?_byteRow 0 row
  have hrest : (rows.map fun r => List.replicate (indent + name.length + 3) ' ' ++ byteRow r).mapM
      bytesOfLine? = some rows := mapM_map_eq_some fun r _ => bytesOfLine?_byteRow _ r
  rw [byteRows?, hlabel]
  dsimp only [Option.bind_eq_bind, Option.bind_some]
  rw [hlines]
  dsimp only [Option.bind_some]
  rw [List.mapM_cons, hfirst, hrest, hrows]
  rfl

/-- A text shows bytes under a name: in rows of eight, of which only the last one can be shorter and only
the first one can be empty. -/
def ShowsBytes (name : String) (b : Bytes) (text : String) : Prop :=
  ∃ rows, byteRows? name text = some rows ∧ rows.flatten = b ∧ (∀ row ∈ rows, row.length ≤ 8) ∧
    (∀ row ∈ rows.dropLast, row.length = 8) ∧ ∀ row ∈ rows.tail, row ≠ []

theorem showsBytes_hexBlock (name : String) (b : Bytes) : ShowsBytes name b (hexBlock name b) := by
  refine ⟨byteRows b, byteRows?_hexBlock name b, ?_⟩
  rw [byteRows]
  split
  next h => simp [h]
  next =>
    refine ⟨Bytes.flatten_pieces 7 b, fun _ h => (Bytes.length_of_mem_pieces h).2,
      fun _ h => Bytes.length_of_mem_dropLast_pieces h, fun _ h => ?_⟩
    exact List.ne_nil_of_length_pos (Bytes.length_of_mem_pieces (List.mem_of_mem_tail h)).1

/-! ## Line breaks -/

/-- What stands behind byte number `i` of `n`. A line ends behind every eighth byte but the last. -/
def behindByte (name : String) (n i : Nat) : List Char :=
  if (i + 1) % 8 = 0 ∧ i + 1 ≠ n then lineBreak name else []

theorem behindByte_add (name : String) (n i : Nat) :
    behindByte name (n + 8) (i + 8) = behindByte name n i := by
  have hiff : (i + 8 + 1) % 8 = 0 ∧ i + 8 + 1 ≠ n + 8 ↔ (i + 1) % 8 = 0 ∧ i + 1 ≠ n := by omega
  simp only [behindByte, hiff]

/-- The bytes of a block, each with what stands behind it. -/
def brokenBytes (name : String) (b : Bytes) : List Char :=
  (b.mapIdx fun i x => byteToken x ++ behindByte name b.length i).flatten

/-- Bytes behind which no line ends are a row. -/
theorem flatten_mapIdx_of_unbroken {name : String} {n : Nat} {b : Bytes}
    (h : ∀ i < b.length, behindByte name n i = []) :
    (b.mapIdx fun i x => byteToken x ++ behindByte name n i).flatten = byteRow b := by
  have hmap : (b.mapIdx fun i x => byteToken x ++ behindByte name n i) = b.map byteToken := by
    apply List.ext_getElem
    · simp
    · intro i hi _
      rw [List.length_mapIdx] at hi
      rw [List.getElem_mapIdx, List.getElem_map, h i hi, List.append_nil]
  rw [hmap, ← List.flatMap_def, byteRow]

theorem brokenBytes_of_length_le (name : String) {b : Bytes} (h : b.length ≤ 8) :
    brokenBytes name b = byteRow b :=
  flatten_mapIdx_of_unbroken fun i hi => if_neg (by omega)

/-- Where more bytes follow eight, a line ends behind the eighth. -/
theorem brokenBytes_append (name : String) {front rest : Bytes} (hfront : front.length = 8)
    (hrest : rest ≠ []) :
    brokenBytes name (front ++ rest) = byteRow front ++ lineBreak name ++ brokenBytes name rest := by
  have hpos := List.length_pos_of_ne_nil hrest
  obtain rfl | ⟨init, last, rfl⟩ := front.eq_nil_or_concat'
  · cases hfront
  have hinit : init.length = 7 := by simpa using hfront
  have hlength : (init ++ [last] ++ rest).length = rest.length + 8 := by
    rw [List.length_append, hfront, Nat.add_comm]
  have hunbroken : ∀ i < init.length, behindByte name (rest.length + 8) i = [] :=
    fun i hi => if_neg (by omega)
  have hbreak : behindByte name (rest.length + 8) 7 = lineBreak name := if_pos (by omega)
  have hrow : byteRow (init ++ [last]) = byteRow init ++ byteToken last := by simp [byteRow]
  rw [brokenBytes, hlength, List.mapIdx_append, List.mapIdx_concat, List.flatten_append,
    List.flatten_concat, flatten_mapIdx_of_unbroken hunbroken, hfront, hinit, hbreak, hrow]
  simp only [behindByte_add, brokenBytes, List.append_assoc]

/-- The rows of a block are its bytes with the breaks between them. -/
theorem intercalate_byteRow (name : String) (b : Bytes) :
    List.intercalate (lineBreak name) ((Bytes.pieces 7 b).map byteRow) = brokenBytes name b := by
  induction b using Bytes.pieces.induct 7 with
  | case1 =>
      rw [Bytes.pieces]
      rfl
  | case2 x rest ih =>
      rw [Bytes.pieces, List.map_cons]
      by_cases hmore : rest.drop 7 = []
      · have hlength := List.drop_eq_nil_iff.mp hmore
        have hone : (x :: rest).length ≤ 8 := Nat.succ_le_succ hlength
        rw [hmore, Bytes.pieces, List.map_nil, List.intercalate_singleton,
          List.take_of_length_le hlength, brokenBytes_of_length_le name hone]
      · have hfront : (x :: rest.take 7).length = 8 := by
          rw [List.drop_eq_nil_iff] at hmore
          rw [List.length_cons, List.length_take]
          omega
        obtain ⟨piece, pieces, hpieces⟩ := List.exists_cons_of_ne_nil (Bytes.pieces_ne_nil hmore)
        have hsplit : x :: rest = (x :: rest.take 7) ++ rest.drop 7 := by
          rw [List.cons_append, List.take_append_drop]
        rw [hpieces, List.map_cons] at ih ⊢
        rw [List.intercalate_cons_cons, ih, hsplit, brokenBytes_append name hfront hmore]

/-- A block is its bytes in order under the name, with a line break behind every eighth byte but the
last. -/
theorem hexBlock_eq_brokenBytes (name : String) (b : Bytes) :
    hexBlock name b = label name ++ String.ofList (brokenBytes name b) ++ "\n" := by
  rw [← intercalate_byteRow]
  rfl

end BootSeal.Report
