import BootSeal.Text.Numeral
import BootSeal.Yaml.Style
/-!
# Writing texts over several lines

A line that has become longer than the width is broken at the next place where the style allows it.
Without escapes this is a single space between words. With escapes it is a space, or the place
behind an escape, where a backslash marks the break.
-/

namespace BootSeal.Yaml

/-- Lines are broken once they are longer than this. -/
def width : Nat := 80

inductive Stretch where
  | word (s : List Char)
  | spaces (n : Nat)
  | breaks (n : Nat)
deriving DecidableEq, Repr

def consStretch (c : Char) (rest : List Stretch) : List Stretch :=
  if c = ' ' then
    match rest with
    | .spaces n :: more => .spaces (n + 1) :: more
    | _ => .spaces 1 :: rest
  else if c = '\n' then
    match rest with
    | .breaks n :: more => .breaks (n + 1) :: more
    | _ => .breaks 1 :: rest
  else
    match rest with
    | .word s :: more => .word (c :: s) :: more
    | _ => .word [c] :: rest

def stretches (s : List Char) : List Stretch := s.foldr consStretch []

def newLine (indent : Nat) : List Char := '\n' :: List.replicate indent ' '

/-- Writes stretches from a column on; `isFirst` tells whether the text starts here. A single space
gives way to a line break in a line that is too long, but not at the two ends of the text. -/
def foldStretches (indent : Nat) (isFirst : Bool) (column : Nat) : List Stretch → List Char
  | [] => []
  | .word s :: rest => s ++ foldStretches indent false (column + s.length) rest
  | .spaces n :: rest =>
      if n = 1 ∧ width < column ∧ isFirst = false ∧ rest ≠ [] then
        newLine indent ++ foldStretches indent false indent rest
      else List.replicate n ' ' ++ foldStretches indent false (column + n) rest
  | .breaks n :: rest =>
      -- One break alone would be read as a space, so there is an empty line more.
      List.replicate n '\n' ++ newLine indent ++ foldStretches indent false indent rest

def plainText (indent column : Nat) (s : List Char) : List Char :=
  foldStretches indent true column (stretches s)

/-- A word between single quotes, where a quote is written twice. -/
def doubleQuotes (s : List Char) : List Char :=
  s.flatMap fun c => if c = '\'' then ['\'', '\''] else [c]

def Stretch.quoted : Stretch → Stretch
  | .word s => .word (doubleQuotes s)
  | s => s

def singleQuoted (indent column : Nat) (s : List Char) : List Char :=
  '\'' :: foldStretches indent true (column + 1) ((stretches s).map Stretch.quoted) ++ ['\'']

def escapeLetter? (c : Char) : Option Char :=
  match c.toNat with
  | 0x00 => some '0'
  | 0x07 => some 'a'
  | 0x08 => some 'b'
  | 0x09 => some 't'
  | 0x0A => some 'n'
  | 0x0B => some 'v'
  | 0x0C => some 'f'
  | 0x0D => some 'r'
  | 0x1B => some 'e'
  | 0x22 => some '"'
  | 0x5C => some '\\'
  | 0x85 => some 'N'
  | 0xA0 => some '_'
  | 0x2028 => some 'L'
  | 0x2029 => some 'P'
  | _ => none

def codeDigits (places : Nat) (c : Char) : List Char :=
  (Numeral.padLeft places (Numeral.ofNat 16 c.toNat)).map Char.toUpper

def escape (c : Char) : List Char :=
  match escapeLetter? c with
  | some letter => ['\\', letter]
  | none =>
      if c.toNat ≤ 0xFF then '\\' :: 'x' :: codeDigits 2 c
      else if c.toNat ≤ 0xFFFF then '\\' :: 'u' :: codeDigits 4 c
      else '\\' :: 'U' :: codeDigits 8 c

def isEscaped (c : Char) : Bool := c = '"' || c = '\\' || !(' ' ≤ c && c ≤ '~')

/-- Writes a text between double quotes from a column on; `pending` is read but not yet written. The
line may be broken before a space, before a character behind an escape, and behind an escape. -/
def foldEscaped (indent : Nat) (isFirst : Bool) (column : Nat) (pending : List Char) :
    List Char → List Char
  | [] => pending
  | c :: rest =>
      -- The line is not broken at the two ends of the text.
      let mayBreak : Bool := !isFirst && rest ≠ []
      if isEscaped c then
        let column := column + pending.length + (escape c).length
        pending ++ escape c ++
          if mayBreak && width + 1 < column then
            let mark := if rest.head? = some ' ' then ['\\'] else []
            '\\' :: newLine indent ++ mark
              ++ foldEscaped indent false (indent + mark.length) [] rest
          else foldEscaped indent false column [] rest
      else if mayBreak && (c = ' ' || pending = []) && width < column + pending.length then
        -- A space that starts a line needs a backslash before it.
        let mark := if c = ' ' then ['\\'] else []
        pending ++ '\\' :: newLine indent ++ mark
          ++ foldEscaped indent false (indent + mark.length) [c] rest
      else foldEscaped indent false column (pending ++ [c]) rest

def doubleQuoted (indent column : Nat) (s : List Char) : List Char :=
  '"' :: foldEscaped indent true (column + 1) [] s ++ ['"']

def scalar (indent column : Nat) (s : List Char) : List Char :=
  match styleOf s with
  | .plain => plainText indent column s
  | .single => singleQuoted indent column s
  | .double => doubleQuoted indent column s

end BootSeal.Yaml
