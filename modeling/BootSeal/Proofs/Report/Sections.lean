import BootSeal.Proofs.Report.DescriptorBlock
/-!
# Sections of a report are found again

A report begins with the name of its file and the fields of the header, and these may hold any text, also
what looks like a section. But behind the header there are only numbers. So the last section with the name
of a table is that table, and what stands in front of it ends with the signature block. Both tables and the
signature are read back from a whole report, whatever its path and its set name are.
-/

namespace BootSeal.Report

open Listing (numeral? numeral?_ofNat toList_decimal)

/-! ## Reading -/

/-- What a line begins with that begins a section. -/
def hashes : List Char := ['#', '#', '#', '#', ' ']

def mark (name : String) : List Char := hashes ++ name.toList

/-- The lines in front of the last line that begins a section with a name, and the lines behind it. -/
def cutAtLast? (name : String) : List (List Char) → Option (List (List Char) × List (List Char))
  | [] => none
  | line :: rest =>
      match cutAtLast? name rest with
      | some (front, behind) => some (line :: front, behind)
      | none => if mark name <+: line then some ([], rest) else none

/-- The line that ends a section. -/
def closingLine : List Char := List.replicate lineLength '#'

/-- What is read from the section of a table. -/
structure TableText where
  count : Nat
  blocks : List Block
deriving DecidableEq, Repr

def countOfLine? (line : List Char) : Option Nat := do
  let (name, word) ← named? line
  if name = "entries".toList then numeral? word else none

/-- The last table with a name in a text: its count, and its blocks up to the end of the section. -/
def tableText? (name text : String) : Option TableText := do
  let lines ← lines? text.toList
  let (_, behind) ← cutAtLast? name lines
  match behind with
  | [] => none
  | first :: rest =>
      return ⟨← countOfLine? first,
        ← blocks? (String.ofList (unlines (rest.takeWhile (· ≠ closingLine))))⟩

/-- What stands in front of the last section with a name. -/
def textBefore? (name text : String) : Option String := do
  let lines ← lines? text.toList
  let (front, _) ← cutAtLast? name lines
  return String.ofList (unlines front)

/-! ## The last section -/

section LastSection

variable {name : String} {front behind : List (List Char)} {line : List Char}

theorem cutAtLast?_eq_none (h : ∀ line ∈ behind, ¬mark name <+: line) :
    cutAtLast? name behind = none := by
  induction behind with
  | nil => rfl
  | cons line rest ih =>
      rw [List.forall_mem_cons] at h
      rw [cutAtLast?, ih h.2]
      exact if_neg h.1

/-- The last line with the mark is found, whatever stands in front of it. -/
theorem cutAtLast?_eq (front : List (List Char)) (hline : mark name <+: line)
    (hbehind : ∀ line ∈ behind, ¬mark name <+: line) :
    cutAtLast? name (front ++ line :: behind) = some (front, behind) := by
  induction front with
  | nil =>
      rw [List.nil_append, cutAtLast?, cutAtLast?_eq_none hbehind]
      exact if_pos hline
  | cons other front ih => rw [List.cons_append, cutAtLast?, ih]

end LastSection

/-- A text that ends with a line end is a text of lines. -/
theorem exists_unlines (text : List Char) :
    ∃ lines, (∀ line ∈ lines, '\n' ∉ line) ∧ text ++ ['\n'] = unlines lines := by
  induction text with
  | nil => exact ⟨[[]], by simp, rfl⟩
  | cons c text ih =>
      obtain ⟨lines, hlines, htext⟩ := ih
      rw [List.cons_append, htext]
      by_cases hc : c = '\n'
      · exact ⟨[] :: lines, List.forall_mem_cons.mpr ⟨List.not_mem_nil, hlines⟩, by rw [hc]; rfl⟩
      · -- The character goes to the front of the first line.
        obtain _ | ⟨line, lines⟩ := lines
        · simp [unlines] at htext
        · rw [List.forall_mem_cons] at hlines
          refine ⟨(c :: line) :: lines, List.forall_mem_cons.mpr ⟨?_, hlines.2⟩, ?_⟩
          · rw [List.mem_cons, not_or]
            exact ⟨Ne.symm hc, hlines.1⟩
          · rw [unlines_cons, unlines_cons, List.cons_append]

/-! ## Lines behind a section -/

/-- A title that is written in one line and begins with a letter. -/
structure Titled (initial : Char) (title : String) : Prop where
  head_eq : title.toList.head? = some initial
  unbroken : '\n' ∉ title.toList

/-- A line, with its end still to come, that begins no section whose name begins with a letter. -/
structure Unmarked (initial : Char) (line : List Char) : Prop where
  unbroken : '\n' ∉ line
  unmarked : ¬hashes ++ [initial] <+: line

variable {initial : Char}

theorem Titled.append {title rest : String} (h : Titled initial title) (hrest : '\n' ∉ rest.toList) :
    Titled initial (title ++ rest) := by
  obtain ⟨tail, htail⟩ := List.head?_eq_some_iff.mp h.head_eq
  refine ⟨by rw [String.toList_append, htail]; rfl, ?_⟩
  rw [String.toList_append, List.mem_append, not_or]
  exact ⟨h.unbroken, hrest⟩

theorem Unmarked.not_mark {name : String} {line : List Char} (h : Unmarked initial line)
    (hname : Titled initial name) : ¬mark name <+: line := by
  intro hmark
  obtain ⟨rest, hrest⟩ := List.head?_eq_some_iff.mp hname.head_eq
  refine h.unmarked (List.IsPrefix.trans ?_ hmark)
  rw [mark, hrest]
  exact ⟨rest, by simp⟩

theorem notMem_hex_newline (v : Int) : '\n' ∉ (Numeral.hex v).toList :=
  notMem_hex (by decide) (by decide) v

theorem notMem_decimal_newline (v : Int) : '\n' ∉ (Numeral.decimal v).toList := by
  have hdigits : '\n' ∉ Numeral.ofNat 10 v.natAbs := Listing.notMem_ofNat (by decide) _
  rw [Numeral.decimal, toList_signed]
  split <;> simp [hdigits]

theorem unmarked_closingLine : Unmarked initial closingLine := by
  refine ⟨by decide, fun h => ?_⟩
  have hprefix : hashes <+: closingLine := (List.prefix_append _ _).trans h
  exact absurd hprefix (by decide)

/-- A line that is indented, or framed, is no beginning. -/
theorem unmarked_cons {c : Char} {line : List Char} (hc : c ≠ '#') (hbroken : c ≠ '\n')
    (hline : '\n' ∉ line) : Unmarked initial (c :: line) := by
  refine ⟨?_, fun h => ?_⟩
  · rw [List.mem_cons, not_or]
    exact ⟨Ne.symm hbroken, hline⟩
  · obtain ⟨rest, hrest⟩ := h
    exact hc (List.cons.inj hrest).1.symm

/-- The line of a row. -/
def rowLine (title : String) : List Char :=
  hashes ++ title.toList ++ [' '] ++
    List.replicate (lineLength - ("#### " ++ title ++ " ").length) '#'

theorem toList_row (title : String) : (row title).toList = rowLine title ++ ['\n'] := by
  simp [row, rowLine, hashes, fill]

theorem mark_prefix_rowLine (name rest : String) : mark name <+: rowLine (name ++ rest) := by
  have hrow : rowLine (name ++ rest) = mark name ++ (rest.toList ++ ' ' ::
      List.replicate (lineLength - ("#### " ++ (name ++ rest) ++ " ").length) '#') := by
    simp [mark, rowLine]
  exact ⟨_, hrow.symm⟩

theorem Titled.notMem_rowLine {title : String} (h : Titled initial title) : '\n' ∉ rowLine title := by
  simp [rowLine, hashes, h.unbroken]

variable {c : Char} {title : String}

theorem Titled.unmarked_rowLine (h : Titled c title) (hne : c ≠ initial) :
    Unmarked initial (rowLine title) := by
  obtain ⟨rest, hrest⟩ := List.head?_eq_some_iff.mp h.head_eq
  refine ⟨h.notMem_rowLine, ?_⟩
  rintro ⟨tail, htail⟩
  rw [rowLine, hrest] at htail
  simp only [List.append_assoc, List.append_cancel_left_eq, List.cons_append, List.cons.injEq,
    List.nil_append] at htail
  exact hne htail.1.symm

/-- A text of lines of which none begins a section whose name begins with a letter. -/
def UnmarkedText (initial : Char) (text : String) : Prop :=
  ∃ lines, text.toList = unlines lines ∧ ∀ line ∈ lines, Unmarked initial line

theorem UnmarkedText.append {text rest : String} (h : UnmarkedText initial text)
    (hrest : UnmarkedText initial rest) : UnmarkedText initial (text ++ rest) := by
  obtain ⟨lines, htext, hlines⟩ := h
  obtain ⟨lines', htext', hlines'⟩ := hrest
  refine ⟨lines ++ lines', by rw [String.toList_append, htext, htext', unlines_append], ?_⟩
  exact List.forall_mem_append.mpr ⟨hlines, hlines'⟩

theorem Titled.unmarkedText_row (h : Titled c title) (hne : c ≠ initial) :
    UnmarkedText initial (row title) :=
  ⟨[rowLine title], by simp [toList_row, unlines],
    List.forall_mem_singleton.mpr (h.unmarked_rowLine hne)⟩

/-! ## Tables -/

def countLine (n : Nat) : List Char := namedLine 0 "entries" 0 (Numeral.decimal n).toList

theorem named?_countLine (n : Nat) :
    named? (countLine n) = some ("entries".toList, (Numeral.decimal n).toList) :=
  named?_namedLine (by decide) 0 0 (decimal_ne_nil n) (by
    rw [toList_decimal]
    exact Listing.notMem_ofNat (by decide) n)

theorem countOfLine?_countLine (n : Nat) : countOfLine? (countLine n) = some n := by
  rw [countOfLine?, named?_countLine]
  simp only [Option.bind_eq_bind, Option.bind_some, ↓reduceIte, toList_decimal, numeral?_ofNat]

/-- The lines of descriptors. -/
def entryLines (entries : List (List (String × Int))) : List (List Char) :=
  (entries.zipIdx.map fun e => Block.mk e.2 e.1).flatMap fun b => ruleLine :: blockLines b

theorem toList_descriptors (entries : List (List (String × Int))) :
    (descriptors entries).toList = unlines (entryLines entries) :=
  toList_descriptorsFrom 0 entries

section Table

variable {name : String} {offset : Int} {entries : List (List (String × Int))}

/-- The lines of descriptors are indented. -/
theorem indented_of_mem_entryLines (hnames : ∀ fields ∈ entries, ∀ f ∈ fields, IsName f.1) :
    ∀ line ∈ entryLines entries, ∃ rest, line = ' ' :: rest ∧ '\n' ∉ rest := by
  intro line hline
  obtain ⟨b, hb, hline⟩ := List.mem_flatMap.mp hline
  obtain ⟨e, he, rfl⟩ := List.mem_map.mp hb
  have hnamed : (Block.mk e.2 e.1).IsNamed := hnames e.1 (List.fst_mem_of_mem_zipIdx he)
  have hindented : ∃ rest, line = ' ' :: rest := by
    rcases List.mem_cons.mp hline with rfl | hline
    · exact ⟨_, rfl⟩
    · rcases List.mem_cons.mp hline with rfl | hline
      · exact ⟨_, rfl⟩
      · obtain ⟨f, _, rfl⟩ := List.mem_map.mp hline
        exact ⟨_, rfl⟩
  have hunbroken : '\n' ∉ line := by
    rcases List.mem_cons.mp hline with rfl | hline
    · simp [ruleLine]
    · exact notMem_of_mem_blockLines hnamed line hline
  obtain ⟨rest, rfl⟩ := hindented
  exact ⟨rest, rfl, fun h => hunbroken (List.mem_cons_of_mem _ h)⟩

/-- The title of a table, behind its name. -/
def offsetText (offset : Int) : String := " (offset: " ++ Numeral.hex offset ++ ")"

theorem toList_table (name : String) (offset : Int) (entries : List (List (String × Int))) :
    (table name offset entries).toList = unlines (rowLine (name ++ offsetText offset) ::
      countLine entries.length :: (entryLines entries ++ [closingLine])) := by
  have hcount : ("entries: " ++ Numeral.decimal entries.length ++ "\n").toList =
      countLine entries.length ++ ['\n'] := by
    simp [countLine, namedLine]
  have hentries : table name offset entries = row (name ++ offsetText offset)
      ++ ("entries: " ++ Numeral.decimal entries.length ++ "\n") ++ descriptors entries ++ rule := by
    simp only [table, offsetText, String.append_assoc]
  rw [hentries, String.toList_append, String.toList_append, String.toList_append, toList_row, hcount,
    toList_descriptors]
  simp [unlines, rule, fill, closingLine]

theorem notMem_offsetText (offset : Int) : '\n' ∉ (offsetText offset).toList := by
  simp [offsetText, notMem_hex_newline]

theorem unmarked_behindTitle (hnames : ∀ fields ∈ entries, ∀ f ∈ fields, IsName f.1) :
    ∀ line ∈ countLine entries.length :: (entryLines entries ++ [closingLine]),
      Unmarked initial line := by
  rw [List.forall_mem_cons, List.forall_mem_append, List.forall_mem_singleton]
  refine ⟨?_, ?_, unmarked_closingLine⟩
  · obtain ⟨rest, hrest⟩ : ∃ rest, countLine entries.length = 'e' :: rest := ⟨_, rfl⟩
    have hbroken : '\n' ∉ countLine entries.length :=
      notMem_namedLine (by decide) 0 0 (notMem_decimal_newline _)
    rw [hrest] at hbroken ⊢
    exact unmarked_cons (by decide) (by decide) fun h => hbroken (List.mem_cons_of_mem _ h)
  · intro line hline
    obtain ⟨rest, rfl, hrest⟩ := indented_of_mem_entryLines hnames line hline
    exact unmarked_cons (by decide) (by decide) hrest

theorem Titled.unmarkedText_table (h : Titled c name) (hne : c ≠ initial)
    (hnames : ∀ fields ∈ entries, ∀ f ∈ fields, IsName f.1) :
    UnmarkedText initial (table name offset entries) :=
  ⟨_, toList_table name offset entries, List.forall_mem_cons.mpr
    ⟨(h.append (notMem_offsetText offset)).unmarked_rowLine hne, unmarked_behindTitle hnames⟩⟩

variable {front rest : String}

/-- A report is cut at its last table with a name. -/
theorem cutAtLast?_table (front : String) (hname : Titled initial name)
    (hnames : ∀ fields ∈ entries, ∀ f ∈ fields, IsName f.1) (hrest : UnmarkedText initial rest) :
    ∃ lines frontLines restLines,
      lines? (front ++ "\n" ++ table name offset entries ++ rest).toList = some lines ∧
      cutAtLast? name lines = some (frontLines,
        countLine entries.length :: (entryLines entries ++ closingLine :: restLines)) ∧
      unlines frontLines = (front ++ "\n").toList := by
  obtain ⟨frontLines, hfrontLines, hfront⟩ := exists_unlines front.toList
  obtain ⟨restLines, htext, hrestLines⟩ := hrest
  have hbehind : ∀ line ∈ countLine entries.length :: (entryLines entries ++ closingLine :: restLines),
      Unmarked initial line := by
    have happend : countLine entries.length :: (entryLines entries ++ closingLine :: restLines) =
        (countLine entries.length :: (entryLines entries ++ [closingLine])) ++ restLines := by simp
    rw [happend]
    exact List.forall_mem_append.mpr ⟨unmarked_behindTitle hnames, hrestLines⟩
  refine ⟨frontLines ++ rowLine (name ++ offsetText offset) :: countLine entries.length ::
    (entryLines entries ++ closingLine :: restLines), frontLines, restLines, ?_, ?_, ?_⟩
  · have hlines : (front ++ "\n" ++ table name offset entries ++ rest).toList =
        unlines (frontLines ++ rowLine (name ++ offsetText offset) :: countLine entries.length ::
          (entryLines entries ++ closingLine :: restLines)) := by
      rw [String.toList_append, String.toList_append, String.toList_append, toList_table, htext,
        unlines_append, ← hfront]
      simp [unlines]
    rw [hlines]
    refine lines?_unlines (List.forall_mem_append.mpr ⟨hfrontLines, List.forall_mem_cons.mpr ⟨?_, ?_⟩⟩)
    · exact (hname.append (notMem_offsetText offset)).notMem_rowLine
    · exact fun line hline => (hbehind line hline).unbroken
  · exact cutAtLast?_eq frontLines (mark_prefix_rowLine name _) fun line hline =>
      (hbehind line hline).not_mark hname
  · rw [← hfront, String.toList_append]
    rfl

theorem tableText?_table (front : String) (hname : Titled initial name)
    (hnames : ∀ fields ∈ entries, ∀ f ∈ fields, IsName f.1) (hrest : UnmarkedText initial rest) :
    tableText? name (front ++ "\n" ++ table name offset entries ++ rest) =
      some ⟨entries.length, entries.zipIdx.map fun e => ⟨e.2, e.1⟩⟩ := by
  obtain ⟨lines, frontLines, restLines, hlines, hcut, _⟩ :=
    cutAtLast?_table front hname hnames hrest
  have hentries : (entryLines entries ++ closingLine :: restLines).takeWhile (· ≠ closingLine) =
      entryLines entries := by
    rw [List.takeWhile_append_of_pos, List.takeWhile_cons_of_neg (by simp), List.append_nil]
    intro line hline
    obtain ⟨rest, rfl, _⟩ := indented_of_mem_entryLines hnames line hline
    exact decide_eq_true fun h => absurd (List.cons.inj h).1 (by decide)
  have hblocks : blocks? (String.ofList (unlines (entryLines entries))) =
      some (entries.zipIdx.map fun e => ⟨e.2, e.1⟩) := by
    rw [← toList_descriptors, String.ofList_toList]
    exact blocks?_descriptors hnames
  rw [tableText?, hlines]
  simp only [Option.bind_eq_bind, Option.bind_some, hcut, countOfLine?_countLine, hentries, hblocks]
  rfl

theorem textBefore?_table (front : String) (hname : Titled initial name)
    (hnames : ∀ fields ∈ entries, ∀ f ∈ fields, IsName f.1) (hrest : UnmarkedText initial rest) :
    textBefore? name (front ++ "\n" ++ table name offset entries ++ rest) = some (front ++ "\n") := by
  obtain ⟨lines, frontLines, restLines, hlines, hcut, hfront⟩ :=
    cutAtLast?_table front hname hnames hrest
  rw [textBefore?, hlines]
  simp only [Option.bind_eq_bind, Option.bind_some, hcut, hfront, String.ofList_toList]
  rfl

end Table

/-! ## Blobs -/

theorem notMem_fill {c : Char} (hc : c ≠ '\n') (n : Nat) : '\n' ∉ (fill c n).toList := by
  simp [fill, hc.symm]

/-- A line of a frame. -/
def framed (text : String) : String := "|" ++ text ++ "|\n"

theorem unmarkedText_framed {text : String} (h : '\n' ∉ text.toList) :
    UnmarkedText initial (framed text) := by
  refine ⟨['|' :: (text.toList ++ ['|'])], by simp [framed, unlines], List.forall_mem_singleton.mpr ?_⟩
  exact unmarked_cons (by decide) (by decide) (by simp [h])

theorem unmarkedText_rule : UnmarkedText initial rule :=
  ⟨[closingLine], by simp [rule, fill, closingLine, unlines],
    List.forall_mem_singleton.mpr unmarked_closingLine⟩

theorem exists_framed (title : String) {content : String} (hcontent : '\n' ∉ content.toList) :
    ∃ text, '\n' ∉ text.toList ∧ frame title content = row title ++ framed (fill ' ' (lineLength - 2))
      ++ framed text ++ framed (fill ' ' (lineLength - 2)) ++ rule := by
  let left := fill ' ' ((lineLength - content.length) / 2 - 1)
  let right := fill ' ' (lineLength - ("|" ++ left).length - content.length - 1)
  refine ⟨left ++ content ++ right, ?_, ?_⟩
  · rw [String.toList_append, String.toList_append, List.mem_append, List.mem_append, not_or, not_or]
    exact ⟨⟨notMem_fill (by decide) _, hcontent⟩, notMem_fill (by decide) _⟩
  · simp only [frame, framed, left, right, String.append_assoc]

theorem Titled.unmarkedText_frame {content : String} (h : Titled c title) (hne : c ≠ initial)
    (hcontent : '\n' ∉ content.toList) : UnmarkedText initial (frame title content) := by
  obtain ⟨text, htext, hframe⟩ := exists_framed title hcontent
  have hblank : UnmarkedText initial (framed (fill ' ' (lineLength - 2))) :=
    unmarkedText_framed (notMem_fill (by decide) _)
  rw [hframe]
  exact ((((h.unmarkedText_row hne).append hblank).append
    (unmarkedText_framed htext)).append hblank).append unmarkedText_rule

theorem unmarkedText_blobsFrom (h : 'B' ≠ initial) (i : Nat) (chunks : List Chunk) :
    UnmarkedText initial (blobsFrom i chunks) := by
  induction chunks generalizing i with
  | nil => exact ⟨[], rfl, List.forall_mem_nil _⟩
  | cons c chunks ih =>
      have htitle : Titled 'B'
          ("Blob " ++ Numeral.decimal i ++ " (offset: " ++ Numeral.hex c.loadAddr ++ ")") :=
        ⟨by simp, by simp [notMem_hex_newline, notMem_decimal_newline]⟩
      refine (htitle.unmarkedText_frame h ?_).append (ih (i + 1))
      simp [notMem_hex_newline, notMem_decimal_newline]

/-! ## Whole reports -/

/-- A text shows the tables of an image, and in front of them its signature, or that it has none. -/
structure Shows (text : String) (img : Image) : Prop where
  chunks : tableText? "Chunk table" text = some ⟨img.chunks.length,
    img.chunks.zipIdx.map fun (c, i) => ⟨i, c.fields⟩⟩
  ziChunks : tableText? "ZI chunk table" text = some ⟨img.ziChunks.length,
    img.ziChunks.zipIdx.map fun (c, i) => ⟨i, c.fields⟩⟩
  signature : ∃ front, textBefore? "Chunk table" text = some (front ++ (if img.header.isSigned then
    hexBlock "digest" img.header.digest ++ hexBlock "ecdsa_sig" img.header.signature
    else "signature:" ++ fill ' ' 13 ++ "none\n") ++ rule)

/-- What stands in front of the tables of a report. -/
def opening (path : String) (img : Image) : String :=
  "Printing content of boot image: " ++ baseName path ++ " \n\n" ++ header img

/-- What stands behind the tables of a report. -/
def ending (img : Image) : String :=
  blobsFrom 0 img.chunks
    ++ row ("End of Image (offset: " ++ Numeral.hex img.header.imageLength ++ ") ")

def chunkTable (img : Image) : String :=
  table "Chunk table" img.header.chunkTableOffset (img.chunks.map Chunk.fields)

def ziTable (img : Image) : String :=
  table "ZI chunk table" img.header.ziTableOffset (img.ziChunks.map ZiChunk.fields)

theorem ofImage_eq (path : String) (img : Image) :
    ofImage path img = opening path img ++ chunkTable img ++ (ziTable img ++ ending img) := by
  rw [ending, ← String.append_assoc, ← String.append_assoc]
  rfl

theorem exists_opening (path : String) (img : Image) :
    ∃ front, opening path img = front ++ (if img.header.isSigned then
      hexBlock "digest" img.header.digest ++ hexBlock "ecdsa_sig" img.header.signature
      else "signature:" ++ fill ' ' 13 ++ "none\n") ++ rule := by
  have hassoc : ∀ a b c d : String, a ++ (b ++ c ++ d) = a ++ b ++ c ++ d := fun a b c d => by
    simp only [String.append_assoc]
  exact ⟨_, hassoc _ _ _ _⟩

theorem append_rule (text : String) : text ++ rule = text ++ fill '#' lineLength ++ "\n" := by
  rw [rule, String.append_assoc]

theorem unmarkedText_ending (hblob : 'B' ≠ initial) (hend : 'E' ≠ initial) (img : Image) :
    UnmarkedText initial (ending img) := by
  have htitle : Titled 'E' ("End of Image (offset: " ++ Numeral.hex img.header.imageLength ++ ") ") :=
    ⟨by simp, by simp [notMem_hex_newline]⟩
  exact (unmarkedText_blobsFrom hblob 0 img.chunks).append (htitle.unmarkedText_row hend)

/-- A report shows the tables and the signature of its image, whatever its path and the set name are. -/
theorem shows_ofImage (path : String) (img : Image) : Shows (ofImage path img) img := by
  have hchunks : ∀ fields ∈ img.chunks.map Chunk.fields, ∀ f ∈ fields, IsName f.1 :=
    List.forall_mem_map.mpr fun c _ => isName_of_mem_chunkFields c
  have hziChunks : ∀ fields ∈ img.ziChunks.map ZiChunk.fields, ∀ f ∈ fields, IsName f.1 :=
    List.forall_mem_map.mpr fun c _ => isName_of_mem_ziChunkFields c
  have hchunkTitle : Titled 'C' "Chunk table" := ⟨by simp, by decide⟩
  have hziTitle : Titled 'Z' "ZI chunk table" := ⟨by simp, by decide⟩
  have hbehind : UnmarkedText 'C' (ziTable img ++ ending img) :=
    (hziTitle.unmarkedText_table (by decide) hziChunks).append
      (unmarkedText_ending (by decide) (by decide) img)
  have hend : UnmarkedText 'Z' (ending img) := unmarkedText_ending (by decide) (by decide) img
  obtain ⟨front, hfront⟩ := exists_opening path img
  constructor
  · rw [ofImage_eq, hfront, append_rule, chunkTable,
      tableText?_table _ hchunkTitle hchunks hbehind, List.length_map, List.zipIdx_map,
      List.map_map]
    rfl
  · obtain ⟨front', hfront'⟩ : ∃ front', opening path img ++ chunkTable img = front' ++ rule := by
      rw [chunkTable, table, ← String.append_assoc]
      exact ⟨_, rfl⟩
    rw [ofImage_eq, ← String.append_assoc, hfront', append_rule, ziTable,
      tableText?_table _ hziTitle hziChunks hend, List.length_map, List.zipIdx_map,
      List.map_map]
    rfl
  · refine ⟨front, ?_⟩
    rw [ofImage_eq, hfront, append_rule, chunkTable,
      textBefore?_table _ hchunkTitle hchunks hbehind]

end BootSeal.Report
