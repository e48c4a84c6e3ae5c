import BootSeal.Yaml.Implicit
/-!
# Styles of texts in YAML

A text is written without quotes if it can be read back that way, else between single quotes if it
has no character that needs an escape, and else between double quotes.
-/

namespace BootSeal.Yaml

inductive Style where
  | plain
  | single
  | double
deriving DecidableEq, Repr

def isGap (c : Char) : Bool := c = ' ' || c = '\n'

def isSimple (c : Char) : Bool := c = '\n' || (' ' ≤ c && c ≤ '~')

/-- Whether two neighbouring characters satisfy a condition anywhere in a text. -/
def anyNeighbours (p : Char → Char → Bool) (s : List Char) : Bool :=
  (s.zip s.tail).any fun e => p e.1 e.2

/-- Whether a text needs double quotes: for a character that is escaped, and for a space beside a
line break. -/
def needsEscapes (s : List Char) : Bool :=
  s.any (fun c => !isSimple c)
    || anyNeighbours (fun a b => (a = ' ' && b = '\n') || (a = '\n' && b = ' ')) s

def startsSpecial : List Char → Bool
  | [] => true
  | c :: rest =>
      isGap c || "#,[]\x7b\x7d&*!|>'\"%@`".toList.contains c
        || ("?:-".toList.contains c && rest.head?.all isGap)
        || ['-', '-', '-'].isPrefixOf (c :: rest) || ['.', '.', '.'].isPrefixOf (c :: rest)

/-- Whether a text has something inside that ends a plain text: a line break, a colon before a gap
or at the end, a number sign behind a gap, or a gap at the end. -/
def endsEarly (s : List Char) : Bool :=
  s.contains '\n' || anyNeighbours (fun a b => (a = ':' && isGap b) || (isGap a && b = '#')) s
    || s.getLast?.any (fun c => c = ':' || isGap c)

def styleOf (s : List Char) : Style :=
  if needsEscapes s then .double
  else if startsSpecial s || endsEarly s || implicit.matchesText s then .single
  else .plain

end BootSeal.Yaml
