import BootSeal.Text.Printable
import BootSeal.Text.Numeral
/-!
# Quoted names

A name that a message cites stands between quotes: double quotes when it holds a single quote and
no double quote, single quotes otherwise. A backslash and the surrounding quote are escaped, and
so is every character that is not printable.
-/

namespace BootSeal.Quoted

/-- The quote that surrounds a text. -/
def quoteFor (s : List Char) : Char :=
  if s.contains '\'' && !s.contains '"' then '"' else '\''

/-- A character that is not printable, by its code point in two, four or eight digits. -/
def escapeCode (n : Nat) : List Char :=
  let digits := Numeral.ofNat 16 n
  if n < 0x100 then '\\' :: 'x' :: Numeral.padLeft 2 digits
  else if n < 0x10000 then '\\' :: 'u' :: Numeral.padLeft 4 digits
  else '\\' :: 'U' :: Numeral.padLeft 8 digits

def escape (quote c : Char) : List Char :=
  if c = '\\' ∨ c = quote then ['\\', c]
  else if c = '\n' then ['\\', 'n']
  else if c = '\r' then ['\\', 'r']
  else if c = '\t' then ['\\', 't']
  else if isPrintable c then [c]
  else escapeCode c.toNat

def quote (s : String) : String :=
  let q := quoteFor s.toList
  String.ofList (q :: s.toList.flatMap (escape q) ++ [q])

end BootSeal.Quoted
