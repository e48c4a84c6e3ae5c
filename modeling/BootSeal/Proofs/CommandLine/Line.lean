import Mathlib
import BootSeal.CommandLine.Run
import BootSeal.Proofs.Except
/-!
# Command lines that ask for something

A command line that is in order names a command, and its words make settings and an argument. What is
run then is the action for the request of the settings; neither the order of the words nor the form of
the options matters any more.
-/

namespace BootSeal.CommandLine

def usesHelp {σ : Type} (uses : List (Use σ)) : Bool := uses.any fun u => u.1.long = "help"

def Command.specs (c : Command) : List (OptionSpec (Option Setting)) :=
  c.options.map OptionSpec.besideHelp ++ [OptionSpec.help]

/-- The words of a command are in order, and this is what they set. -/
inductive Command.Reads (c : Command) (s : Store) :
    List String → List Setting → String → Prop
  | intro {line : List String} {words : Words (Option Setting)}
      {settings : List (Option Setting)} {argument : String}
      (hwords : scan c.specs false line = .ok words)
      (hhelp : usesHelp words.uses = false)
      (hsettings : readUses s (settledUses words.uses) = .ok settings)
      (hargument : takeArgument c words.arguments = .ok (argument, []))
      (hrequired : firstMissing (c.options.map OptionSpec.besideHelp) words.uses = none) :
      c.Reads s line (settings.filterMap id) argument

/-- A command line names a command, and these are the words behind the name. -/
inductive Calls : List String → Command → List String → Prop
  | intro {line rest : List String} {words : Words (Option ProgramSetting)} {name : String}
      {c : Command} (hwords : scan programOptions true line = .ok words)
      (hhelp : usesHelp words.uses = false) (harguments : words.arguments = name :: rest)
      (hname : Command.ofName? name = some c) : Calls line c rest

/-- The command line is in order and asks for a command with settings and an argument. -/
inductive Asks (s : Store) : List String → Command → List Setting → String → Prop
  | intro {line rest : List String} {words : Words (Option ProgramSetting)} {name : String}
      {c : Command} {settings : List Setting} {argument : String}
      (hwords : scan programOptions true line = .ok words)
      (hhelp : usesHelp words.uses = false)
      (harguments : words.arguments = name :: rest)
      (hname : Command.ofName? name = some c)
      (hreads : c.Reads s rest settings argument) : Asks s line c settings argument

variable {s : Store} {line : List String} {c : Command} {settings : List Setting}
  {argument : String}

theorem Failure.status_ne_zero (f : Failure) : f.status ≠ 0 := by
  cases f <;> exact Nat.succ_ne_zero _

theorem Outcome.ofAction_status_eq_zero_iff {called : Option (String × Command)} {verbosity : Nat}
    {a : Action} : (Outcome.ofAction called verbosity a).status = 0 ↔ a.failure = none := by
  dsimp only [ofAction]
  cases a.failure with
  | none => exact ⟨fun _ => rfl, fun _ => rfl⟩
  | some f => exact ⟨fun h => absurd h f.status_ne_zero, fun h => by cases h⟩

/-- The words of a command make a request just if they are in order. -/
theorem Command.parse_eq_request_iff {r : Request} :
    c.parse s line = .ok (.request r) ↔
      ∃ settings argument, c.Reads s line settings argument ∧
        r = .ofSettings settings argument c := by
  constructor
  · intro h
    unfold parse at h
    obtain ⟨words, hwords, h⟩ := bind_eq_ok h
    -- A line that asks for help makes no request.
    change (if usesHelp words.uses = true then _ else _) = _ at h
    split at h
    next => cases h
    next hhelp =>
      obtain ⟨settings, hsettings, h⟩ := bind_eq_ok h
      obtain ⟨⟨argument, rest⟩, hargument, h⟩ := bind_eq_ok h
      dsimp only at h
      split at h
      next => cases h
      next hrequired =>
        split at h
        next => cases h
        next hrest =>
          obtain rfl : rest = [] := Decidable.byContradiction hrest
          cases h
          exact ⟨_, _, .intro hwords (Bool.eq_false_of_not_eq_true hhelp) hsettings hargument
            hrequired, rfl⟩
  · rintro ⟨settings, argument, h, rfl⟩
    cases h with
    | @intro words settings _ hwords hhelp hsettings hargument hrequired =>
        unfold specs at hwords
        unfold usesHelp at hhelp
        unfold parse
        rw [hwords]
        change (if _ then _ else _) = _
        rw [if_neg (by rw [hhelp]; exact Bool.false_ne_true), hsettings]
        change (takeArgument c words.arguments >>= _) = _
        rw [hargument]
        dsimp only [bind, Except.bind]
        rw [hrequired]
        rfl

/-- A command line that names a command runs it on the words behind the name. -/
theorem Calls.run_eq [KeyLibrary] {rest : List String} (h : Calls line c rest) (s : Store)
    (answers : List String) (entropy : Bytes) :
    ∃ name verbosity, run s line answers entropy =
      runCommand s name c verbosity rest answers entropy := by
  cases h with
  | @intro _ words name _ hwords hhelp harguments hname =>
      unfold usesHelp at hhelp
      refine ⟨name, words.uses.length, ?_⟩
      unfold run
      rw [hwords]
      dsimp only
      rw [if_neg (by rw [hhelp]; exact Bool.false_ne_true), harguments]
      dsimp only
      rw [hname]

/-- A command line that asks for something runs the action for it. -/
theorem Asks.run_eq [KeyLibrary] (h : Asks s line c settings argument) (answers : List String)
    (entropy : Bytes) :
    ∃ name verbosity, run s line answers entropy =
      .ofAction (some (name, c)) verbosity
        (.ofRequest s answers entropy (.ofSettings settings argument c)) := by
  cases h with
  | intro hwords hhelp harguments hname hreads =>
      obtain ⟨name, verbosity, hrun⟩ :=
        (Calls.intro hwords hhelp harguments hname).run_eq s answers entropy
      refine ⟨name, verbosity, ?_⟩
      rw [hrun, runCommand, Command.parse_eq_request_iff.mpr ⟨_, _, hreads, rfl⟩]

theorem Asks.status_eq_zero_iff [KeyLibrary] (h : Asks s line c settings argument) {answers : List String}
    {entropy : Bytes} :
    (run s line answers entropy).status = 0 ↔
      (Action.ofRequest s answers entropy (.ofSettings settings argument c)).failure = none := by
  obtain ⟨name, verbosity, hrun⟩ := h.run_eq answers entropy
  rw [hrun, Outcome.ofAction_status_eq_zero_iff]

/-- The plain form of a command line that names a key file and one other file. -/
theorem asks_keyed (hc : c = .verify ∨ c = .create) (keyPath : String)
    (hargument : isOption argument.toList = false) :
    Asks s [c.name, "-k", keyPath, argument] c [.key keyPath] argument := by
  have hdashes : argument ≠ "--" := by
    rintro rfl
    cases hargument
  have hword : isOption "-k".toList = true := by rfl
  have hoption : takeOption c.specs "-k".toList [keyPath, argument] =
      .ok ([((keyOption false).besideHelp, [keyPath])], 1) := by
    rcases hc with rfl | rfl <;> rfl
  have hwords : scan c.specs false ["-k", keyPath, argument] =
      .ok { uses := [((keyOption false).besideHelp, [keyPath])], arguments := [argument] } := by
    rw [scan, if_neg (by decide), if_pos hword, hoption]
    dsimp only [List.drop]
    rw [scan, if_neg hdashes, if_neg (by simp [hargument]), if_neg (by decide), scan]
    rfl
  have hreads : c.Reads s ["-k", keyPath, argument] [.key keyPath] argument := by
    rcases hc with rfl | rfl <;> exact .intro hwords rfl rfl rfl rfl
  -- The name of the command ends the options of the program.
  have hprogram : scan programOptions true [c.name, "-k", keyPath, argument] =
      .ok { arguments := [c.name, "-k", keyPath, argument] } := by
    rw [scan]
    rcases hc with rfl | rfl <;> rfl
  have hname : Command.ofName? c.name = some c := by
    rcases hc with rfl | rfl <;> rfl
  exact .intro hprogram rfl rfl hname hreads

end BootSeal.CommandLine
