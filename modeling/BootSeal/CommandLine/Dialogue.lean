import BootSeal.CommandLine.Failure
import BootSeal.Key.File
/-!
# Questions to the user

Passphrases are asked for one at a time. A key file is first tried without one; a new passphrase is
asked for twice, until the two answers agree.
-/

namespace BootSeal.CommandLine

def passphrasePrompt : String := "Enter key passphrase: "

def repeatPrompt : String := "Reenter passphrase: "

/-- The questions that were asked and what came of them. -/
structure Asked (α : Type) where
  prompts : List String := []
  result : Except Failure α

variable [KeyLibrary]

/-- The key in a file; `none` when key and passphrase do not go together. -/
def tryKey (s : Store) (path : String) (passphrase : Option Bytes) :
    Except Failure (Option Key) :=
  match Key.load s path passphrase with
  | .ok key => .ok key
  | .error (.file (.missing _)) => .error (.usage (.missingKey path))
  | .error (.file e) => .error (.crash (.file e))
  | .error (.key (.unknownCurve identifier)) => .error (.crash (.key (.unknownCurve identifier)))
  | .error (.key e) => .error (.usage (.unusableKey path e.message))

/-- The key in a file. Only when the file gives no key without a passphrase is one asked for. -/
def unlock (s : Store) (path : String) (answers : List String) : Asked (Option Key) :=
  match tryKey s path none with
  | .ok none =>
      match answers with
      | [] => ⟨[passphrasePrompt], .error .aborted⟩
      -- The answer may be empty, and the outcome may then be `none` again.
      | answer :: _ => ⟨[passphrasePrompt], tryKey s path (some (Utf8.encode answer))⟩
  | r => ⟨[], r⟩

def unlockNamed (s : Store) (path : Option String) (answers : List String) : Asked (Option Key) :=
  match path with
  | none => ⟨[], .ok none⟩
  | some path => unlock s path answers

/-- Asks for a new passphrase until it is given twice; also counts the answers that did not agree.
-/
def choosePassphrase : List String → Asked String × Nat
  | first :: second :: rest =>
      if first = second then (⟨[passphrasePrompt, repeatPrompt], .ok first⟩, 0)
      else
        let (asked, mismatches) := choosePassphrase rest
        (⟨passphrasePrompt :: repeatPrompt :: asked.prompts, asked.result⟩, mismatches + 1)
  | [_] => (⟨[passphrasePrompt, repeatPrompt], .error .aborted⟩, 0)
  | [] => (⟨[passphrasePrompt], .error .aborted⟩, 0)

end BootSeal.CommandLine
