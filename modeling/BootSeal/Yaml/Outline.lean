import BootSeal.Yaml.Fold
/-!
# Outlines

An outline is a document of named sections: single values, records, and tables whose rows are
records. It is written in the block form of YAML: one value to a line, the fields of a record
indented by two, and each row of a table behind a dash that is not indented. Names are plain words.
-/

namespace BootSeal

inductive OutlineValue where
  | number (v : Int)
  | text (s : String)
deriving DecidableEq, Repr

/-- Named values in order. -/
abbrev OutlineRecord := List (String × OutlineValue)

inductive OutlineSection where
  | value (v : OutlineValue)
  | record (r : OutlineRecord)
  | table (rows : List OutlineRecord)
deriving DecidableEq, Repr

abbrev Outline := List (String × OutlineSection)

namespace Yaml

def margin (indent : Nat) : List Char := List.replicate indent ' '

def field (indent : Nat) (f : String × OutlineValue) : List Char :=
  let value := match f.2 with
    | .number v => (Numeral.decimal v).toList
    | .text s => scalar (indent + 2) (indent + f.1.length + 2) s.toList
  f.1.toList ++ ':' :: ' ' :: value ++ ['\n']

/-- Writes a row of a table: a dash stands where the indentation of the first field would. -/
def row : OutlineRecord → List Char
  | [] => "- \x7b\x7d\n".toList
  | f :: rest => "- ".toList ++ field 2 f ++ rest.flatMap fun g => margin 2 ++ field 2 g

def namedSection (s : String × OutlineSection) : List Char :=
  match s.2 with
  | .value v => field 0 (s.1, v)
  | .record [] => s.1.toList ++ ": \x7b\x7d\n".toList
  | .record r => s.1.toList ++ ":\n".toList ++ r.flatMap fun f => margin 2 ++ field 2 f
  | .table [] => s.1.toList ++ ": []\n".toList
  | .table rows => s.1.toList ++ ":\n".toList ++ rows.flatMap row

def render (o : Outline) : String := String.ofList (o.flatMap namedSection)

end Yaml

end BootSeal
