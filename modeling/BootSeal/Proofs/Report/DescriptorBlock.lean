import BootSeal.Proofs.Report.ByteBlock
import BootSeal.Proofs.Text.IntegerLiteral
/-!
# Descriptors in a report are read back

Descriptors are shown one behind the other: a rule, a line with the index, and a line for each field. Cut at
the rules, the lines of such a text are blocks, and each block is read as an index and as named numbers in
hexadecimal. So the text tells the descriptors, their order and their number.
-/

namespace BootSeal.Report

open Listing (words words_append_blank words_blanks_append words_of_notMem splitOn_line numeral?
  numeral?_ofNat toList_decimal)

/-! ## Reading -/

/-- What is read from the lines between two rules. -/
structure Block where
  index : Nat
  fields : List (String × Int)
deriving DecidableEq, Repr

/-- The name in front of a colon, and the one word behind it. -/
def named? (line : List Char) : Option (List Char × List Char) :=
  match words line with
  | [name, word] => if name.getLast? = some ':' then some (name.dropLast, word) else none
  | _ => none

/-- The value of a hexadecimal literal, which has its base mark behind the sign. -/
def hexLiteral? (word : List Char) : Option Int :=
  if ['0', 'x'] <+: word ∨ ['-', '0', 'x'] <+: word then IntegerLiteral.parse? (String.ofList word)
  else none

def indexOfLine? (line : List Char) : Option Nat := do
  let (name, word) ← named? line
  if name = "index".toList then numeral? word else none

def fieldOfLine? (line : List Char) : Option (String × Int) := do
  let (name, word) ← named? line
  return (String.ofList name, ← hexLiteral? word)

def blockOfLines? : List (List Char) → Option Block
  | [] => none
  | first :: rest => do return ⟨← indexOfLine? first, ← rest.mapM fieldOfLine?⟩

/-- The line in front of each block. -/
def ruleLine : List Char := List.replicate (indent + 1) ' ' ++ List.replicate 45 '-'

/-- The blocks of a text, each behind its rule. -/
def blocks? (text : String) : Option (List Block) := do
  let lines ← lines? text.toList
  match lines.splitOn ruleLine with
  | [] :: blocks => blocks.mapM blockOfLines?
  | _ => none

/-! ## Lines -/

/-- The text of lines, each with its end. -/
def unlines (lines : List (List Char)) : List Char := lines.flatMap (· ++ ['\n'])

theorem unlines_cons (line : List Char) (lines : List (List Char)) :
    unlines (line :: lines) = line ++ '\n' :: unlines lines := by
  rw [unlines, List.flatMap_cons, List.append_assoc, List.singleton_append]
  rfl

theorem unlines_append (lines rest : List (List Char)) :
    unlines (lines ++ rest) = unlines lines ++ unlines rest :=
  List.flatMap_append

/-- Lines with an end each are read line by line. -/
theorem lines?_unlines {lines : List (List Char)} (h : ∀ line ∈ lines, '\n' ∉ line) :
    lines? (unlines lines) = some lines := by
  rw [lines?_eq_some_iff]
  induction lines with
  | nil => rfl
  | cons line lines ih =>
      rw [List.forall_mem_cons] at h
      rw [unlines_cons, splitOn_line h.1, ih h.2]
      rfl

/-- A name that stands in a line as one word. -/
def IsName (name : String) : Prop := ' ' ∉ name.toList ∧ '\n' ∉ name.toList

instance (name : String) : Decidable (IsName name) :=
  inferInstanceAs (Decidable (' ' ∉ name.toList ∧ '\n' ∉ name.toList))

/-- A line that gives a word under a name behind a margin, with some blanks more than one between them. -/
def namedLine (margin : Nat) (name : String) (gap : Nat) (word : List Char) : List Char :=
  List.replicate margin ' ' ++ (name.toList ++ [':'] ++ ' ' :: (List.replicate gap ' ' ++ word))

def indexLine (i : Nat) : List Char := namedLine (indent + 1) "index" 0 (Numeral.decimal i).toList

def lineOfField (f : String × Int) : List Char :=
  namedLine (indent + 1) f.1 (10 - f.1.length + 1) (Numeral.hex f.2).toList

theorem words_namedLine {name : String} (hname : ' ' ∉ name.toList) (margin gap : Nat)
    {word : List Char} (hne : word ≠ []) (hword : ' ' ∉ word) :
    words (namedLine margin name gap word) = [name.toList ++ [':'], word] := by
  have hcolon : ' ' ∉ name.toList ++ [':'] := by simpa using hname
  have hmark : name.toList ++ [':'] ≠ [] := List.append_ne_nil_of_right_ne_nil _ (List.cons_ne_nil _ _)
  rw [namedLine, words_blanks_append, words_append_blank, words_of_notMem hmark hcolon,
    words_blanks_append, words_of_notMem hne hword]
  rfl

theorem named?_namedLine {name : String} (hname : ' ' ∉ name.toList) (margin gap : Nat)
    {word : List Char} (hne : word ≠ []) (hword : ' ' ∉ word) :
    named? (namedLine margin name gap word) = some (name.toList, word) := by
  rw [named?, words_namedLine hname margin gap hne hword]
  simp

theorem words_ruleLine : words ruleLine = [List.replicate 45 '-'] := by
  rw [ruleLine, words_blanks_append]
  refine words_of_notMem (List.ne_nil_of_length_pos ?_) fun hblank => ?_
  · rw [List.length_replicate]
    decide
  · exact absurd (List.eq_of_mem_replicate hblank) (by decide)

/-- A line that is read as a name and a word is no rule. -/
theorem ne_ruleLine_of_named? {line : List Char} {r : List Char × List Char}
    (h : named? line = some r) : line ≠ ruleLine := by
  rintro rfl
  rw [named?, words_ruleLine] at h
  cases h

/-! ## Numbers in lines -/

theorem toList_signed (mark : String) (base : Nat) (v : Int) :
    (Numeral.signed mark base v).toList =
      (if v < 0 then ['-'] else []) ++ mark.toList ++ Numeral.ofNat base v.natAbs := by
  by_cases hv : v < 0
  · simp [Numeral.signed, hv]
  · simp [Numeral.signed, hv]

/-- Besides its sign a literal is ink. -/
theorem mem_hex {v : Int} {c : Char} (hc : c ∈ (Numeral.hex v).toList) : c = '-' ∨ Utf8.IsInk c := by
  rw [Numeral.hex, toList_signed, List.mem_append, List.mem_append] at hc
  rcases hc with (hsign | hmark) | hdigit
  · split at hsign
    next => exact Or.inl (List.mem_singleton.mp hsign)
    next => cases hsign
  · have hchar : c = '0' ∨ c = 'x' := by simpa using hmark
    rcases hchar with rfl | rfl
    · exact Or.inr (by decide)
    · exact Or.inr (by decide)
  · exact Or.inr (Listing.isInk_of_mem_ofNat (by decide) (by decide) _ c hdigit)

theorem hex_ne_nil (v : Int) : (Numeral.hex v).toList ≠ [] := by
  rw [Numeral.hex, toList_signed]
  simp

theorem decimal_ne_nil (n : Nat) : (Numeral.decimal n).toList ≠ [] := by
  rw [toList_decimal, Numeral.ofNat, ne_eq, List.map_eq_nil_iff]
  exact Numeral.digits_ne_nil 10 n

/-- The literal of a number converts back to the number. -/
theorem hexLiteral?_hex (v : Int) : hexLiteral? (Numeral.hex v).toList = some v := by
  have hprefix : ['0', 'x'] <+: (Numeral.hex v).toList ∨ ['-', '0', 'x'] <+: (Numeral.hex v).toList := by
    rw [Numeral.hex, toList_signed]
    by_cases hv : v < 0
    · rw [if_pos hv]
      exact Or.inr (List.prefix_append _ _)
    · rw [if_neg hv]
      exact Or.inl (List.prefix_append _ _)
  rw [hexLiteral?, if_pos hprefix, String.ofList_toList]
  exact IntegerLiteral.parse?_signed_marked .hex v

theorem named?_indexLine (i : Nat) :
    named? (indexLine i) = some ("index".toList, (Numeral.decimal i).toList) :=
  named?_namedLine (by decide) _ 0 (decimal_ne_nil i) (by
    rw [toList_decimal]
    exact Listing.notMem_ofNat (by decide) i)

theorem indexOfLine?_indexLine (i : Nat) : indexOfLine? (indexLine i) = some i := by
  rw [indexOfLine?, named?_indexLine]
  simp only [Option.bind_eq_bind, Option.bind_some, ↓reduceIte, toList_decimal, numeral?_ofNat]

theorem notMem_hex {c : Char} (hc : c ≠ '-') (hink : ¬Utf8.IsInk c) (v : Int) :
    c ∉ (Numeral.hex v).toList := fun h =>
  (mem_hex h).elim hc hink

theorem named?_lineOfField {f : String × Int} (hname : IsName f.1) :
    named? (lineOfField f) = some (f.1.toList, (Numeral.hex f.2).toList) :=
  named?_namedLine hname.1 _ _ (hex_ne_nil f.2) (notMem_hex (by decide) (by decide) f.2)

theorem fieldOfLine?_lineOfField {f : String × Int} (hname : IsName f.1) :
    fieldOfLine? (lineOfField f) = some f := by
  rw [fieldOfLine?, named?_lineOfField hname]
  dsimp only [Option.bind_eq_bind, Option.bind_some]
  rw [hexLiteral?_hex, String.ofList_toList]
  rfl

theorem notMem_namedLine {name : String} (hname : '\n' ∉ name.toList) (margin gap : Nat)
    {word : List Char} (hword : '\n' ∉ word) : '\n' ∉ namedLine margin name gap word := by
  simp [namedLine, hname, hword]

/-! ## Blocks -/

/-- The lines of a block behind its rule. -/
def blockLines (b : Block) : List (List Char) := indexLine b.index :: b.fields.map lineOfField

/-- A block in which every field has a name that is one word. -/
def Block.IsNamed (b : Block) : Prop := ∀ f ∈ b.fields, IsName f.1

variable {b : Block}

theorem blockOfLines?_blockLines (h : b.IsNamed) : blockOfLines? (blockLines b) = some b := by
  have hfields : (b.fields.map lineOfField).mapM fieldOfLine? = some b.fields :=
    mapM_map_eq_some fun f hf => fieldOfLine?_lineOfField (h f hf)
  rw [blockLines, blockOfLines?, indexOfLine?_indexLine, hfields]
  rfl

theorem notMem_blockLines (h : b.IsNamed) : ruleLine ∉ blockLines b := by
  rw [blockLines, List.mem_cons, not_or, List.mem_map]
  refine ⟨(ne_ruleLine_of_named? (named?_indexLine b.index)).symm, ?_⟩
  rintro ⟨f, hf, hrule⟩
  exact ne_ruleLine_of_named? (named?_lineOfField (h f hf)) hrule

theorem notMem_of_mem_blockLines (h : b.IsNamed) : ∀ line ∈ blockLines b, '\n' ∉ line := by
  rw [blockLines, List.forall_mem_cons]
  refine ⟨notMem_namedLine (by decide) _ 0 ?_, ?_⟩
  · rw [toList_decimal]
    exact Listing.notMem_ofNat (by decide) _
  · intro line hline
    obtain ⟨f, hf, rfl⟩ := List.mem_map.mp hline
    exact notMem_namedLine (h f hf).2 _ _ (notMem_hex (by decide) (by decide) f.2)

theorem toList_fieldLine (f : String × Int) : (fieldLine f).toList = lineOfField f ++ ['\n'] := by
  simp [fieldLine, lineOfField, namedLine, fill, List.replicate_succ']

theorem toList_descriptor (b : Block) :
    (descriptor b.index b.fields).toList = unlines (ruleLine :: blockLines b) := by
  have hfields : (String.join (b.fields.map fieldLine)).toList = unlines (b.fields.map lineOfField) := by
    rw [unlines, String.toList_join, List.flatMap_map, List.flatMap_map]
    exact List.flatMap_congr fun f _ => toList_fieldLine f
  rw [descriptor, String.toList_append, hfields]
  simp [ruleLine, blockLines, indexLine, namedLine, fill, unlines_cons]

theorem toList_descriptorsFrom (i : Nat) (entries : List (List (String × Int))) :
    (descriptorsFrom i entries).toList =
      unlines (((entries.zipIdx i).map fun e => Block.mk e.2 e.1).flatMap fun b =>
        ruleLine :: blockLines b) := by
  induction entries generalizing i with
  | nil => rfl
  | cons fields entries ih =>
      rw [descriptorsFrom, String.toList_append, ih, toList_descriptor ⟨i, fields⟩,
        ← unlines_append]
      rfl

/-- The rules cut a row of blocks into the blocks, with nothing in front of the first rule. -/
theorem splitOn_ruleLine {front : List (List Char)} (hfront : ruleLine ∉ front) {bs : List Block}
    (h : ∀ b ∈ bs, b.IsNamed) :
    (front ++ bs.flatMap fun b => ruleLine :: blockLines b).splitOn ruleLine =
      front :: bs.map blockLines := by
  induction bs generalizing front with
  | nil =>
      rw [List.flatMap_nil, List.append_nil]
      exact List.splitOn_eq_singleton hfront
  | cons b bs ih =>
      rw [List.forall_mem_cons] at h
      rw [List.flatMap_cons, List.cons_append, List.splitOn_append_cons_self,
        List.splitOn_eq_singleton hfront, ih (notMem_blockLines h.1) h.2]
      rfl

/-- The blocks of descriptors are numbered from zero on and hold the fields of the descriptors. -/
theorem blocks?_descriptors {entries : List (List (String × Int))}
    (h : ∀ fields ∈ entries, ∀ f ∈ fields, IsName f.1) :
    blocks? (descriptors entries) = some (entries.zipIdx.map fun e => ⟨e.2, e.1⟩) := by
  have hnamed : ∀ b ∈ entries.zipIdx.map fun e => Block.mk e.2 e.1, b.IsNamed := by
    intro b hb
    obtain ⟨e, he, rfl⟩ := List.mem_map.mp hb
    exact h e.1 (List.fst_mem_of_mem_zipIdx he)
  have hlines : lines? (descriptors entries).toList =
      some ((entries.zipIdx.map fun e => Block.mk e.2 e.1).flatMap fun b =>
        ruleLine :: blockLines b) := by
    rw [descriptors, toList_descriptorsFrom]
    apply lines?_unlines
    intro line hline
    obtain ⟨b, hb, hline⟩ := List.mem_flatMap.mp hline
    rcases List.mem_cons.mp hline with rfl | hline
    · simp [ruleLine]
    · exact notMem_of_mem_blockLines (hnamed b hb) line hline
  have hblocks := splitOn_ruleLine List.not_mem_nil hnamed
  rw [List.nil_append] at hblocks
  rw [blocks?, hlines]
  dsimp only [Option.bind_eq_bind, Option.bind_some]
  rw [hblocks]
  exact mapM_map_eq_some fun b hb => blockOfLines?_blockLines (hnamed b hb)

/-! ## Records -/

section Records

variable {α : Type} {fields : α → List (String × Int)} (hnames : ∀ x, ∀ f ∈ fields x, IsName f.1)

include hnames

theorem blocks?_descriptors_map (xs : List α) :
    blocks? (descriptors (xs.map fields)) = some (xs.zipIdx.map fun x => ⟨x.2, fields x.1⟩) := by
  have hentries : ∀ entry ∈ xs.map fields, ∀ f ∈ entry, IsName f.1 := by
    intro entry hentry
    obtain ⟨x, _, rfl⟩ := List.mem_map.mp hentry
    exact hnames x
  rw [blocks?_descriptors hentries, List.zipIdx_map, List.map_map]
  rfl

/-- The text of descriptors determines them, if their fields do. -/
theorem descriptors_map_injective (hfields : Function.Injective fields) :
    Function.Injective fun xs : List α => descriptors (xs.map fields) := by
  intro xs ys h
  have hread : ∀ xs : List α,
      (xs.zipIdx.map fun x => Block.mk x.2 (fields x.1)).map Block.fields = xs.map fields := by
    intro xs
    calc (xs.zipIdx.map fun x => Block.mk x.2 (fields x.1)).map Block.fields
        = (xs.zipIdx.map Prod.fst).map fields := by
          rw [List.map_map, List.map_map]
          rfl
      _ = xs.map fields := by rw [List.zipIdx_map_fst]
  have hblocks := congrArg blocks? h
  dsimp only at hblocks
  rw [blocks?_descriptors_map hnames, blocks?_descriptors_map hnames, Option.some.injEq] at hblocks
  have hentries := congrArg (List.map Block.fields) hblocks
  rw [hread, hread] at hentries
  exact List.map_injective_iff.mpr hfields hentries

end Records

theorem isName_of_mem_chunkFields (c : Chunk) : ∀ f ∈ c.fields, IsName f.1 := by
  simp only [Chunk.fields, List.forall_mem_cons, List.not_mem_nil, false_implies, implies_true,
    and_true]
  exact ⟨by decide, by decide, by decide, by decide, by decide⟩

theorem isName_of_mem_ziChunkFields (c : ZiChunk) : ∀ f ∈ c.fields, IsName f.1 := by
  simp only [ZiChunk.fields, List.forall_mem_cons, List.not_mem_nil, false_implies, implies_true,
    and_true]
  exact ⟨by decide, by decide, by decide⟩

theorem chunkFields_injective : Function.Injective Chunk.fields := by
  rintro ⟨_, _, _, _, _⟩ ⟨_, _, _, _, _⟩ h
  simpa [Chunk.fields] using h

theorem ziChunkFields_injective : Function.Injective ZiChunk.fields := by
  rintro ⟨_, _, _⟩ ⟨_, _, _⟩ h
  simpa [ZiChunk.fields] using h

end BootSeal.Report
