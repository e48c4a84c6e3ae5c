import BootSeal.Encoding.Pem
import BootSeal.Proofs.Encoding.Base64
/-!
# Labelled blocks are read back

A rendered block is found again between its marks, because nothing in front of a mark holds a dash. Its
lines are put together to the base64 text that was wrapped; the text has no empty line, so no line of it is
taken for a header.
-/

namespace BootSeal.Pem

open Utf8 (IsInk)

/-! ## Marks -/

section Seek

variable {m : UInt8} {marker pending before text front rest : Bytes}

/-- What is found is the whole of the marker, wherever the search began in it. -/
theorem seek_eq_some {matched : Bytes} (hmarker : marker = matched ++ pending)
    (h : seek marker pending (matched.reverse ++ before) text = some (front, rest)) :
    before.reverse ++ matched ++ text = front ++ marker ++ rest := by
  induction text generalizing pending matched before with
  | nil =>
      cases pending with
      | nil =>
          rw [List.append_nil] at hmarker
          subst hmarker
          simp [seek] at h
          simp [← h.1, ← h.2]
      | cons m pending => cases h
  | cons x text ih =>
      cases pending with
      | nil =>
          rw [List.append_nil] at hmarker
          subst hmarker
          simp [seek] at h
          simp [← h.1, ← h.2]
      | cons m pending =>
          rw [seek] at h
          split at h
          next hx =>
            subst hx
            have hmarker' : marker = (matched ++ [x]) ++ pending := by simp [hmarker]
            have hrest : seek marker pending ((matched ++ [x]).reverse ++ before) text =
                some (front, rest) := by simpa using h
            simpa using ih hmarker' hrest
          next =>
            -- After a mismatch all that was passed lies in front of the marker.
            have hrest : seek marker marker (([] : Bytes).reverse ++ x :: (matched.reverse ++ before))
                text = some (front, rest) := h
            simpa using ih (List.nil_append marker).symm hrest

theorem splitAt?_eq_some (h : splitAt? marker text = some (front, rest)) :
    text = front ++ marker ++ rest := by
  have hsearch : seek marker marker (([] : Bytes).reverse ++ []) text = some (front, rest) := h
  exact seek_eq_some (List.nil_append marker).symm hsearch

theorem seek_pending (pending before rest : Bytes) :
    seek marker pending before (pending ++ rest) =
      some (((pending.reverse ++ before).drop marker.length).reverse, rest) := by
  induction pending generalizing before with
  | nil =>
      cases rest <;> rfl
  | cons m pending ih =>
      rw [List.cons_append, seek, if_pos rfl, ih]
      simp

theorem seek_front (hfront : m ∉ front) (before text : Bytes) :
    seek (m :: pending) (m :: pending) before (front ++ text) =
      seek (m :: pending) (m :: pending) (front.reverse ++ before) text := by
  induction front generalizing before with
  | nil => rfl
  | cons x front ih =>
      rw [List.mem_cons, not_or] at hfront
      rw [List.cons_append, seek, if_neg (Ne.symm hfront.1), ih hfront.2]
      simp

/-- A marker is found behind a text in which it cannot begin. -/
theorem splitAt?_append (hmarker : marker.head? = some m) (hfront : m ∉ front) (rest : Bytes) :
    splitAt? marker (front ++ (marker ++ rest)) = some (front, rest) := by
  obtain ⟨pending, rfl⟩ := List.head?_eq_some_iff.mp hmarker
  rw [splitAt?, seek_front hfront, seek_pending, List.append_nil,
    List.drop_left' (by simp), List.reverse_reverse]

end Seek

/-! ## Lines -/

theorem flatten_splitOn (s : List Char) : (s.splitOn '\n').flatten = s.filter (· ≠ '\n') := by
  induction s with
  | nil => rfl
  | cons c s ih =>
      rw [List.splitOn, List.splitOnP_cons_eq_if_modifyHead]
      by_cases hc : c = '\n'
      · rw [if_pos (by simp [hc]), List.flatten_cons, List.nil_append,
          List.filter_cons_of_neg (by simp [hc])]
        exact ih
      · obtain ⟨l, ls, hls⟩ := List.exists_cons_of_ne_nil (List.splitOnP_ne_nil (· == '\n') s)
        rw [List.splitOn, hls] at ih
        rw [if_neg (by simp [hc]), hls, List.modifyHead_cons, List.flatten_cons, List.cons_append,
          ← List.flatten_cons, ih, List.filter_cons_of_pos (by simp [hc])]

theorem flatten_dropLast {parts : List (List Char)} (h : parts.getLast? = some []) :
    parts.dropLast.flatten = parts.flatten := by
  conv_rhs => rw [← List.dropLast_append_getLast? [] h]
  simp

theorem trimBlanksRight_eq_self {s : List Char} (h : ∀ c ∈ s, isBlank c = false) :
    trimBlanksRight s = s := by
  rw [trimBlanksRight, List.dropWhile_eq_self_iff.mpr, List.reverse_reverse]
  intro hlength
  rw [h _ (List.mem_reverse.mp (List.getElem_mem hlength))]
  exact Bool.false_ne_true

/-- Text without blanks but the ends of its lines is put together from them. -/
theorem flatten_lines {s : String} (h : ∀ c ∈ s.toList, c = '\n' ∨ isBlank c = false) :
    ((lines s).map trimBlanksRight).flatten = s.toList.filter (· ≠ '\n') := by
  have hline : ∀ l ∈ s.toList.splitOn '\n', ∀ c ∈ l, isBlank c = false := by
    intro l hl c hc
    have hmem : c ∈ s.toList.filter (· ≠ '\n') := by
      rw [← flatten_splitOn]
      exact List.mem_flatten_of_mem hl hc
    rw [List.mem_filter, decide_eq_true_eq] at hmem
    exact (h c hmem.1).resolve_left hmem.2
  have hkept : ∀ l ∈ s.toList.splitOn '\n',
      (trimBlanksRight ∘ fun l => if l.getLast? = some '\r' then l.dropLast else l) l = l := by
    intro l hl
    rw [Function.comp_apply, if_neg, trimBlanksRight_eq_self (hline l hl)]
    intro hlast
    exact absurd (hline l hl '\r' (List.mem_of_getLast? hlast)) (by decide)
  rw [lines, List.map_map, ← flatten_splitOn]
  split
  next hlast =>
    rw [List.map_congr_left fun l hl => hkept l (List.mem_of_mem_dropLast hl), List.map_id',
      flatten_dropLast hlast]
  next => rw [List.map_congr_left hkept, List.map_id']

/-! ## Wrapped text -/

section Wrap

variable {s : List Char}

theorem filter_wrap (h : '\n' ∉ s) : (wrap s).filter (· ≠ '\n') = s := by
  induction s using wrap.induct with
  | case1 => rw [wrap, List.filter_nil]
  | case2 c rest ih =>
      rw [List.mem_cons, not_or] at h
      have htake : (rest.take 63).filter (· ≠ '\n') = rest.take 63 := by
        rw [List.filter_eq_self]
        intro x hx
        rw [decide_eq_true_eq]
        rintro rfl
        exact h.2 (List.mem_of_mem_take hx)
      rw [wrap, List.cons_append, List.filter_cons_of_pos (by simpa using Ne.symm h.1),
        List.filter_append, htake, List.filter_cons_of_neg (by simp),
        ih fun hmem => h.2 (List.mem_of_mem_drop hmem), List.take_append_drop]

/-- Wrapped text has no empty line. -/
theorem isChain_wrap (h : '\n' ∉ s) : (wrap s).IsChain fun x y => x = '\n' → y ≠ '\n' := by
  induction s using wrap.induct with
  | case1 => rw [wrap]; exact List.IsChain.nil
  | case2 c rest ih =>
      have hdrop : '\n' ∉ rest.drop 63 := fun hmem =>
        h (List.mem_cons_of_mem _ (List.mem_of_mem_drop hmem))
      have hline : ∀ x ∈ c :: rest.take 63, x ≠ '\n' := by
        rintro x hx rfl
        rcases List.mem_cons.mp hx with rfl | hx
        · exact h List.mem_cons_self
        · exact h (List.mem_cons_of_mem _ (List.mem_of_mem_take hx))
      have hfirst : ∀ y ∈ (wrap (rest.drop 63)).head?, y ≠ '\n' := by
        cases htail : rest.drop 63 with
        | nil => simp [wrap]
        | cons d tail =>
            rw [htail, List.mem_cons, not_or] at hdrop
            simpa [wrap] using Ne.symm hdrop.1
      rw [wrap, List.isChain_append]
      refine ⟨List.Pairwise.isChain ?_,
        List.isChain_cons.mpr ⟨fun y hy _ => hfirst y hy, ih hdrop⟩, ?_⟩
      · exact List.pairwise_of_forall_mem_list fun x hx y _ heq => absurd heq (hline x hx)
      · exact fun x hx y _ heq => absurd heq (hline x (List.mem_of_getLast? hx))

theorem mem_wrap (h : ∀ c ∈ s, IsInk c) : ∀ c ∈ wrap s, c = '\n' ∨ IsInk c := by
  intro c hc
  by_cases heq : c = '\n'
  · exact Or.inl heq
  · have hmem : c ∈ (wrap s).filter (· ≠ '\n') := List.mem_filter.mpr ⟨hc, by simpa using heq⟩
    rw [filter_wrap fun hmem => absurd (h _ hmem) (by decide)] at hmem
    exact Or.inr (h c hmem)

end Wrap

/-! ## Rendered blocks -/

/-- What a block can be called: ASCII text without dashes. -/
structure IsLabel (label : String) : Prop where
  ne_empty : label ≠ ""
  isAscii : Utf8.IsAscii label.toList
  noDash : '-' ∉ label.toList

def body (data : Bytes) : String := String.ofList (wrap (Base64.encode data))

variable {label : String} (data : Bytes)

theorem isAscii_of_ink {s : List Char} (h : ∀ c ∈ s, c = '\n' ∨ IsInk c) : Utf8.IsAscii s := by
  intro c hc
  rcases h c hc with rfl | hink
  · decide
  · exact hink.lt

theorem mem_body : ∀ c ∈ (body data).toList, c = '\n' ∨ IsInk c := by
  rw [body, String.toList_ofList]
  exact mem_wrap (Base64.isInk_of_mem_encode data)

theorem lf_notMem_encode : '\n' ∉ Base64.encode data := fun h =>
  absurd (Base64.isInk_of_mem_encode data _ h) (by decide)

theorem isAscii_body : Utf8.IsAscii (body data).toList := isAscii_of_ink (mem_body data)

theorem notMem_body {c : Char} (hc : c.toNat < 0x80) (hother : ¬(c = '\n' ∨ IsInk c)) :
    UInt8.ofNat c.toNat ∉ mark (body data) := by
  rw [mark, (isAscii_body data).mem_encode_iff hc]
  exact fun h => hother (mem_body data c h)

theorem isChain_body : (mark (body data)).IsChain fun x y => x = 0x0A → y ≠ 0x0A := by
  have hchain := isChain_wrap (lf_notMem_encode data)
  rw [mark, (isAscii_body data).encode_eq, List.isChain_map]
  rw [← String.toList_ofList (l := wrap _)] at hchain
  refine hchain.imp_of_mem_imp fun c d hc hd hstep hlf hlf' => ?_
  exact hstep ((Utf8.ofNat_toNat_inj (isAscii_body data c hc) (by decide)).mp hlf)
    ((Utf8.ofNat_toNat_inj (isAscii_body data d hd) (d := '\n') (by decide)).mp hlf')

/-- Wrapped base64 text has no headers in front of it. -/
theorem sections_body : sections (mark (body data)) = ([], mark (body data)) := by
  have hblank : splitAt? [0x0A, 0x0A] (mark (body data)) = none := by
    rw [Option.eq_none_iff_forall_ne_some]
    rintro ⟨front, rest⟩ h
    have hchain := isChain_body data
    rw [splitAt?_eq_some h, List.isChain_append, List.isChain_append] at hchain
    simpa using hchain.1.2.1
  have hreturn : splitAt? [0x0D, 0x0A, 0x0D, 0x0A] (mark (body data)) = none := by
    rw [Option.eq_none_iff_forall_ne_some]
    rintro ⟨front, rest⟩ h
    refine notMem_body data (c := '\r') (by decide) (by decide) ?_
    rw [splitAt?_eq_some h]
    simp
  rw [sections, hblank]
  dsimp only
  rw [hreturn]

theorem decode?_lines_body :
    Base64.decode? ((lines (body data)).map trimBlanksRight).flatten = some data := by
  have hblank : ∀ c ∈ (body data).toList, c = '\n' ∨ isBlank c = false := by
    intro c hc
    refine (mem_body data c hc).imp_right fun hink => ?_
    obtain ⟨hlow, hhigh, -⟩ := hink
    simp [isBlank]
    omega
  rw [flatten_lines hblank, body, String.toList_ofList, filter_wrap (lf_notMem_encode data),
    Base64.decode?_encode]

theorem block?_body (hlabel : IsLabel label) :
    Frame.block? ⟨mark label, mark (body data), mark label⟩ = some ⟨label, [], data⟩ := by
  have hdecode : Utf8.decode? (mark label) = some label :=
    Utf8.decode?_encode_of_isAscii hlabel.isAscii
  have hdecodeBody : Utf8.decode? (mark (body data)) = some (body data) :=
    Utf8.decode?_encode_of_isAscii (isAscii_body data)
  have hempty : Utf8.decode? [] = some "" := rfl
  have hnone : (lines "").mapM header? = some [] := rfl
  simp [Frame.block?, hdecode, sections_body, hdecodeBody, decode?_lines_body, hempty, hnone,
    hlabel.ne_empty]

theorem mark_append (s t : String) : mark (s ++ t) = mark s ++ mark t := Utf8.encode_append s t

/-- The marks are variables here, so that no step has to compare one with another. -/
theorem mark_lines (first last dashes line label text : String)
    (hline : mark line = mark dashes ++ [0x0A]) :
    mark (first ++ label ++ line ++ text ++ last ++ label ++ line) =
      mark first ++ (mark label ++ (mark dashes ++ (0x0A :: (mark text
        ++ (mark last ++ (mark label ++ (mark dashes ++ [0x0A]))))))) := by
  simp [mark_append, hline]

theorem mark_render :
    mark (render label data) =
      mark "-----BEGIN " ++ (mark label ++ (mark "-----" ++ (0x0A :: (mark (body data)
        ++ (mark "-----END " ++ (mark label ++ (mark "-----" ++ [0x0A]))))))) :=
  mark_lines "-----BEGIN " "-----END " "-----" "-----\n" label (body data) rfl

theorem isGap_ofNat_ink {c : Char} (hc : IsInk c) : isGap (UInt8.ofNat c.toNat) = false := by
  obtain ⟨hlow, hhigh, -⟩ := hc
  have hbyte : (UInt8.ofNat c.toNat).toNat = c.toNat := by
    rw [UInt8.toNat_ofNat']
    omega
  simp [isGap, ← UInt8.toNat_inj, hbyte]
  omega

/-- Behind the gap stands the body, or the mark of the end if there is nothing in the block. -/
theorem dropWhile_isGap_body (rest : Bytes) :
    (0x0A :: (mark (body data) ++ (mark "-----END " ++ rest))).dropWhile isGap =
      mark (body data) ++ (mark "-----END " ++ rest) := by
  rw [List.dropWhile_cons_of_pos (by decide), mark, (isAscii_body data).encode_eq, body,
    String.toList_ofList]
  cases hchars : Base64.encode data with
  | nil =>
      rw [wrap]
      rfl
  | cons c tail =>
      have hink := Base64.isInk_of_mem_encode data c (by rw [hchars]; exact List.mem_cons_self)
      rw [wrap, List.cons_append, List.map_cons, List.cons_append,
        List.dropWhile_cons_of_neg (by rw [isGap_ofNat_ink hink]; exact Bool.false_ne_true)]

theorem frame?_render (hlabel : IsLabel label) :
    frame? (mark (render label data)) = some (⟨mark label, mark (body data), mark label⟩, []) := by
  have hbegin : ∀ rest,
      splitAt? (mark "-----BEGIN ") ([] ++ (mark "-----BEGIN " ++ rest)) = some ([], rest) :=
    splitAt?_append (m := 0x2D) rfl List.not_mem_nil
  have hname : ∀ rest,
      splitAt? (mark "-----") (mark label ++ (mark "-----" ++ rest)) = some (mark label, rest) := by
    refine splitAt?_append (m := 0x2D) rfl fun h => hlabel.noDash ?_
    exact (hlabel.isAscii.mem_encode_iff (c := '-') (by decide)).mp h
  have hend : ∀ rest, splitAt? (mark "-----END ") (mark (body data) ++ (mark "-----END " ++ rest)) =
      some (mark (body data), rest) :=
    splitAt?_append (m := 0x2D) rfl (notMem_body data (c := '-') (by decide) (by decide))
  rw [mark_render, frame?, ← List.nil_append (_ ++ _), hbegin]
  dsimp only [Option.bind_eq_bind, Option.bind_some]
  rw [hname]
  dsimp only [Option.bind_some]
  rw [dropWhile_isGap_body, hend]
  dsimp only [Option.bind_some]
  rw [hname]
  rfl

/-! ## Blocks one behind the other -/

section Frames

variable {text rest : Bytes} {f : Frame}

/-- A block takes up some of the text. -/
theorem length_lt_of_frame? (h : frame? text = some (f, rest)) : rest.length < text.length := by
  unfold frame? at h
  simp only [Option.bind_eq_bind, Option.bind_eq_some_iff, Option.pure_def, Option.some.injEq,
    Prod.mk.injEq] at h
  obtain ⟨begun, hbegun, label, hlabel, ended, hended, endLabel, hendLabel, -, hrest⟩ := h
  have hmark : 0 < (mark "-----").length := by decide
  have hbegin := splitAt?_length hbegun
  have hname := splitAt?_length hlabel
  have hbody := splitAt?_length hended
  have hend := splitAt?_length hendLabel
  have hgap : (label.2.dropWhile isGap).length ≤ label.2.length :=
    (List.dropWhile_sublist isGap).length_le
  have hafter : rest.length ≤ endLabel.2.length := by
    rw [← hrest]
    exact (List.dropWhile_sublist isGap).length_le
  omega

theorem framesFrom_nil (fuel : Nat) : framesFrom fuel [] = [] := by
  cases fuel with
  | zero => rfl
  | succ fuel => rfl

/-- The length of a text bounds the number of its blocks, so it does not matter how far beyond it the
search may go on. -/
theorem framesFrom_eq_of_le {m n : Nat} (hm : text.length ≤ m) (hn : text.length ≤ n) :
    framesFrom m text = framesFrom n text := by
  induction m generalizing text n with
  | zero =>
      obtain rfl := List.eq_nil_of_length_eq_zero (Nat.le_zero.mp hm)
      rw [framesFrom_nil, framesFrom_nil]
  | succ m ih =>
      cases n with
      | zero =>
          obtain rfl := List.eq_nil_of_length_eq_zero (Nat.le_zero.mp hn)
          rw [framesFrom_nil, framesFrom_nil]
      | succ n =>
          rw [framesFrom, framesFrom]
          cases hframe : frame? text with
          | none => rfl
          | some found =>
              obtain ⟨f, rest⟩ := found
              have hshort := length_lt_of_frame? hframe
              dsimp only
              rw [ih (n := n) (by omega) (by omega)]

/-- Behind a block the text is searched like any other. -/
theorem frames_eq (text : Bytes) :
    frames text = match frame? text with
      | none => []
      | some (f, rest) => f :: frames rest := by
  rw [frames, framesFrom_eq_of_le (Nat.le_refl _) (Nat.le_succ _), framesFrom]
  cases hframe : frame? text with
  | none => rfl
  | some found =>
      obtain ⟨f, rest⟩ := found
      dsimp only
      rw [frames, framesFrom_eq_of_le (length_lt_of_frame? hframe).le (Nat.le_refl _)]

end Frames

/-- A text that is one block and nothing else. -/
theorem frames_of_frame? {text : Bytes} {f : Frame} (h : frame? text = some (f, [])) :
    frames text = [f] := by
  rw [frames_eq, h]
  rfl

/-- What is rendered is read back, and it is the only block. -/
theorem blocks?_render (hlabel : IsLabel label) :
    blocks? (mark (render label data)) = some [⟨label, [], data⟩] := by
  rw [blocks?, frames_of_frame? (frame?_render data hlabel)]
  simp [block?_body data hlabel]

end BootSeal.Pem
