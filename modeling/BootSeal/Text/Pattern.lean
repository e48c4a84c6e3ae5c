/-!
# Regular patterns

Patterns over characters and the texts they match. Matching takes the derivative of the pattern by
each character in turn; the constructors used for derivatives drop what matches nothing, so that
patterns stay small.
-/

namespace BootSeal

inductive Pattern where
  | nothing
  | empty
  /-- One character out of some ranges, whose ends belong to them. -/
  | one (ranges : List (Char × Char))
  | either (a b : Pattern)
  | andThen (a b : Pattern)
  | many (a : Pattern)
deriving DecidableEq, Repr

namespace Pattern

def matchesEmpty : Pattern → Bool
  | nothing => false
  | empty => true
  | one _ => false
  | either a b => a.matchesEmpty || b.matchesEmpty
  | andThen a b => a.matchesEmpty && b.matchesEmpty
  | many _ => true

def join (a b : Pattern) : Pattern :=
  if a = nothing then b else if b = nothing ∨ a = b then a else either a b

def chain (a b : Pattern) : Pattern :=
  if a = nothing ∨ b = nothing then nothing else if a = empty then b else andThen a b

/-- What a pattern matches behind the character `c`. -/
def behind (c : Char) : Pattern → Pattern
  | nothing => nothing
  | empty => nothing
  | one ranges => if ranges.any fun r => r.1 ≤ c && c ≤ r.2 then empty else nothing
  | either a b => join (a.behind c) (b.behind c)
  | andThen a b =>
      if a.matchesEmpty then join (chain (a.behind c) b) (b.behind c) else chain (a.behind c) b
  | many a => chain (a.behind c) (many a)

def matchesText (p : Pattern) (s : List Char) : Bool :=
  (s.foldl (fun q c => q.behind c) p).matchesEmpty

def anyOf (s : String) : Pattern := one (s.toList.map fun c => (c, c))

def text (s : String) : Pattern := s.toList.foldr (fun c p => chain (one [(c, c)]) p) empty

def choice (ps : List Pattern) : Pattern := ps.foldr join nothing

def texts (ss : List String) : Pattern := choice (ss.map text)

def inOrder (ps : List Pattern) : Pattern := ps.foldr chain empty

def optional (p : Pattern) : Pattern := join p empty

def atLeastOnce (p : Pattern) : Pattern := chain p (many p)

end Pattern

end BootSeal
