import Mathlib
import BootSeal.CommandLine.Option
/-!
# Uses of options

The uses that count are grouped by their options, but among those of one option the order of the command
line is kept. So what the uses of one option mean does not depend on what other options stand between them.
-/

namespace BootSeal.CommandLine

variable {σ : Type}

/-- The uses of the option with a long name, as they follow one another on the command line. -/
def usesOf (long : String) (uses : List (Use σ)) : List (Use σ) :=
  uses.filter fun u => u.1.long = long

theorem usesOf_cons (long : String) (u : Use σ) (uses : List (Use σ)) :
    usesOf long (u :: uses) = if u.1.long = long then u :: usesOf long uses else usesOf long uses := by
  simp only [usesOf, List.filter_cons, decide_eq_true_eq]

/-! ## The options of a scanned line -/

section Scanning

variable {specs : List (OptionSpec σ)} {rest : List String} {taken : Taken σ}

theorem takeWords_eq_ok {o : OptionSpec σ} {name : String} {attached : List String}
    (h : takeWords o name attached rest = .ok taken) : ∀ u ∈ taken.1, u.1 = o := by
  unfold takeWords at h
  split at h
  next => cases h
  next =>
    cases h
    intro u hu
    rw [List.mem_singleton.mp hu]

theorem takeWords_append {o : OptionSpec σ} {words : List String} (name : String)
    (h : words.length = o.words) : takeWords o name [] (words ++ rest) = .ok ([(o, words)], o.words) := by
  have henough : ¬(words ++ rest).length < o.words := by
    rw [List.length_append]
    omega
  rw [takeWords, List.nil_append, if_neg henough, ← h, List.take_left]
  rfl

theorem mem_specs_of_takeShort {letters : List Char} (h : takeShort specs rest letters = .ok taken) :
    ∀ u ∈ taken.1, u.1 ∈ specs := by
  induction letters generalizing taken with
  | nil =>
      cases h
      exact List.forall_mem_nil _
  | cons c more ih =>
      rw [takeShort] at h
      split at h
      next => cases h
      next o hfind =>
        have ho := List.mem_of_find?_eq_some hfind
        split at h
        next =>
          split at h
          next => cases h
          next hmore =>
            cases h
            exact List.forall_mem_cons.mpr ⟨ho, ih hmore⟩
        next => exact fun u hu => takeWords_eq_ok h u hu ▸ ho

theorem mem_specs_of_takeOption {word : List Char} (h : takeOption specs word rest = .ok taken) :
    ∀ u ∈ taken.1, u.1 ∈ specs := by
  unfold takeOption at h
  dsimp only at h
  split at h
  next o hfind =>
    have ho := List.mem_of_find?_eq_some hfind
    split at h
    next => cases h
    next => exact fun u hu => takeWords_eq_ok h u hu ▸ ho
  next =>
    split at h
    next => cases h
    next => exact mem_specs_of_takeShort h

/-- All uses on a line are of options that there are. -/
theorem mem_specs_of_scan {optionsFirst : Bool} {line : List String} {words : Words σ}
    (h : scan specs optionsFirst line = .ok words) : ∀ u ∈ words.uses, u.1 ∈ specs := by
  fun_induction scan specs optionsFirst line generalizing words with
  | case1 | case2 | case6 =>
      cases h
      exact List.forall_mem_nil _
  | case3 | case4 | case7 => cases h
  | case5 word rest _ _ uses count htaken more hmore ih =>
      cases h
      exact List.forall_mem_append.mpr ⟨mem_specs_of_takeOption htaken, ih hmore⟩
  | case8 word rest _ _ _ more hmore ih =>
      have hmem := ih hmore
      cases h
      exact hmem

/-- An option with all its words behind it is set aside, and the line goes on behind them. -/
theorem scan_use {optionsFirst : Bool} {word : String} {u : Use σ}
    (hword : isOption word.toList = true) (hdashes : word ≠ "--")
    (hoption : takeOption specs word.toList (u.2 ++ rest) = takeWords u.1 word [] (u.2 ++ rest))
    (hlength : u.2.length = u.1.words) :
    scan specs optionsFirst (word :: (u.2 ++ rest)) =
      (scan specs optionsFirst rest).map fun words => { words with uses := u :: words.uses } := by
  rw [scan, if_neg hdashes, if_pos hword, hoption, takeWords_append word hlength]
  dsimp only
  rw [← hlength, List.drop_left]
  cases scan specs optionsFirst rest <;> rfl

/-- The last argument ends the line. -/
theorem scan_argument {word : String} (hword : isOption word.toList = false) (hdashes : word ≠ "--") :
    scan specs false [word] = .ok { arguments := [word] } := by
  rw [scan, if_neg hdashes, if_neg (by simp [hword]), if_neg Bool.false_ne_true, scan]

end Scanning

/-! ## The uses that count -/

/-- The options of uses, each once, behind those that were seen before. -/
def firstOptions (seen : List (OptionSpec σ)) (uses : List (Use σ)) : List (OptionSpec σ) :=
  uses.foldl (fun seen u => if seen.any (fun o => o.long = u.1.long) then seen else seen ++ [u.1]) seen

theorem firstOptions_pairwise {seen : List (OptionSpec σ)} (uses : List (Use σ))
    (h : seen.Pairwise fun o other => o.long ≠ other.long) :
    (firstOptions seen uses).Pairwise fun o other => o.long ≠ other.long := by
  induction uses generalizing seen with
  | nil => exact h
  | cons u rest ih =>
      rw [firstOptions, List.foldl_cons]
      split
      next => exact ih h
      next hnew =>
        refine ih (List.pairwise_append.mpr ⟨h, List.pairwise_singleton _ _, ?_⟩)
        intro o ho other hother heq
        rw [List.mem_singleton.mp hother] at heq
        exact hnew (List.any_eq_true.mpr ⟨o, ho, decide_eq_true heq⟩)

theorem mem_firstOptions {seen : List (OptionSpec σ)} {uses : List (Use σ)} {o : OptionSpec σ}
    (h : o ∈ firstOptions seen uses) : o ∈ seen ∨ ∃ u ∈ uses, u.1 = o := by
  induction uses generalizing seen with
  | nil => exact Or.inl h
  | cons u rest ih =>
      rw [firstOptions, List.foldl_cons] at h
      rw [List.exists_mem_cons_iff]
      rcases ih h with hseen | hrest
      · split at hseen
        next => exact Or.inl hseen
        next =>
          rcases List.mem_append.mp hseen with hold | hnew
          · exact Or.inl hold
          · exact Or.inr (Or.inl (List.mem_singleton.mp hnew).symm)
      · exact Or.inr (Or.inr hrest)

/-- No option is left out. -/
theorem exists_firstOptions_iff {seen : List (OptionSpec σ)} {uses : List (Use σ)} {long : String} :
    (∃ o ∈ firstOptions seen uses, o.long = long) ↔
      (∃ o ∈ seen, o.long = long) ∨ ∃ u ∈ uses, u.1.long = long := by
  induction uses generalizing seen with
  | nil => simp [firstOptions]
  | cons u rest ih =>
      rw [firstOptions, List.foldl_cons]
      change (∃ o ∈ firstOptions _ rest, _) ↔ _
      rw [ih, List.exists_mem_cons_iff]
      split
      next hold =>
        obtain ⟨o, ho, heq⟩ := List.any_eq_true.mp hold
        constructor
        · exact Or.imp_right Or.inr
        · rintro (hseen | hu | hrest)
          · exact Or.inl hseen
          · exact Or.inl ⟨o, ho, (of_decide_eq_true heq).trans hu⟩
          · exact Or.inr hrest
      next =>
        simp only [List.mem_append, List.mem_singleton, or_and_right, exists_or, exists_eq_left,
          or_assoc]

/-- One list for each option, all but one of them empty. -/
theorem flatMap_ite_long {specs : List (OptionSpec σ)} {β : Type} (long : String) (xs : List β)
    (hpairwise : specs.Pairwise fun o other => o.long ≠ other.long)
    (hxs : xs ≠ [] → ∃ o ∈ specs, o.long = long) :
    (specs.flatMap fun o => if o.long = long then xs else []) = xs := by
  induction specs with
  | nil =>
      by_contra hne
      obtain ⟨o, ho, _⟩ := hxs (Ne.symm hne)
      cases ho
  | cons o rest ih =>
      obtain ⟨hfirst, hrest⟩ := List.pairwise_cons.mp hpairwise
      rw [List.flatMap_cons]
      by_cases hlong : o.long = long
      · have hnone : (rest.flatMap fun o => if o.long = long then xs else []) = [] := by
          refine List.flatMap_eq_nil_iff.mpr fun other hother => if_neg ?_
          rw [← hlong]
          exact (hfirst other hother).symm
        rw [if_pos hlong, hnone, List.append_nil]
      · rw [if_neg hlong, List.nil_append]
        refine ih hrest fun hne => ?_
        obtain ⟨other, hother, heq⟩ := hxs hne
        rcases List.mem_cons.mp hother with rfl | hmem
        · exact absurd heq hlong
        · exact ⟨other, hmem, heq⟩

theorem mem_countingUses {o : OptionSpec σ} {uses : List (Use σ)} {u : Use σ}
    (h : u ∈ countingUses o uses) : u ∈ uses ∧ u.1.long = o.long := by
  have hown : u ∈ uses.filter fun u => u.1.long = o.long := by
    unfold countingUses at h
    dsimp only at h
    split at h
    next => exact h
    next => exact List.mem_of_getLast? (Option.mem_toList.mp h)
  rw [List.mem_filter, decide_eq_true_eq] at hown
  exact hown

theorem mem_settledUses {uses : List (Use σ)} {u : Use σ} (h : u ∈ settledUses uses) : u ∈ uses := by
  obtain ⟨o, _, hu⟩ := List.mem_flatMap.mp h
  exact (mem_countingUses hu).1

/-- The uses of one option that count are all of them, in the order of the command line, or the last. -/
theorem usesOf_settledUses {o : OptionSpec σ} {uses : List (Use σ)}
    (h : ∀ u ∈ uses, u.1.long = o.long → u.1.isRepeated = o.isRepeated) :
    usesOf o.long (settledUses uses) = countingUses o uses := by
  have hown : ∀ other ∈ firstOptions [] uses, usesOf o.long (countingUses other uses) =
      if other.long = o.long then countingUses o uses else [] := by
    intro other hother
    obtain ⟨u, hu, rfl⟩ := (mem_firstOptions hother).resolve_left List.not_mem_nil
    split
    next hlong =>
      have hsame : countingUses u.1 uses = countingUses o uses := by
        rw [countingUses, countingUses, hlong, h u hu hlong]
      rw [hsame]
      exact List.filter_eq_self.mpr fun v hv => decide_eq_true (mem_countingUses hv).2
    next hlong =>
      refine List.filter_eq_nil_iff.mpr fun v hv heq => hlong ?_
      rw [← (mem_countingUses hv).2]
      exact of_decide_eq_true heq
  have hcounts : countingUses o uses ≠ [] → ∃ other ∈ firstOptions [] uses, other.long = o.long := by
    intro hne
    obtain ⟨u, hu⟩ := List.exists_mem_of_ne_nil _ hne
    obtain ⟨hmem, hlong⟩ := mem_countingUses hu
    exact exists_firstOptions_iff.mpr (Or.inr ⟨u, hmem, hlong⟩)
  calc usesOf o.long (settledUses uses)
      = (firstOptions [] uses).flatMap fun other => usesOf o.long (countingUses other uses) :=
        List.filter_flatMap
    _ = (firstOptions [] uses).flatMap fun other =>
          if other.long = o.long then countingUses o uses else [] := List.flatMap_congr hown
    _ = countingUses o uses :=
        flatMap_ite_long o.long _ (firstOptions_pairwise uses List.Pairwise.nil) hcounts

/-! ## What uses mean -/

theorem readUses_eq_ok {s : Store} {uses : List (Use σ)} {settings : List σ}
    (h : readUses s uses = .ok settings) :
    List.Forall₂ (fun u x => u.1.read s u.2 = .ok x) uses settings := by
  induction uses generalizing settings with
  | nil =>
      cases h
      exact List.Forall₂.nil
  | cons u rest ih =>
      rw [readUses] at h
      split at h
      next => cases h
      next x hx =>
        split at h
        next => cases h
        next more hmore =>
          cases h
          exact List.Forall₂.cons hx (ih hmore)

end BootSeal.CommandLine
