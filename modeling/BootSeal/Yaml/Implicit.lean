import BootSeal.Text.Pattern
/-!
# Texts that YAML reads as something else

A text without quotes is read as a number, a truth value, a point in time, or another special value
if it has the form of one. Such texts are written with quotes.
-/

namespace BootSeal.Yaml

open Pattern

def digit : Pattern := one [('0', '9')]

def spacedDigit : Pattern := one [('0', '9'), ('_', '_')]

def sign : Pattern := optional (anyOf "+-")

def upToTwoDigits : Pattern := inOrder [digit, optional digit]

def sixties : Pattern :=
  atLeastOnce (inOrder [text ":", optional (one [('0', '5')]), digit])

def boolean : Pattern :=
  texts ["yes", "Yes", "YES", "no", "No", "NO", "true", "True", "TRUE", "false", "False", "FALSE",
    "on", "On", "ON", "off", "Off", "OFF"]

/-- The absent value, the default value of a mapping, and the key that merges mappings. -/
def special : Pattern := texts ["", "~", "null", "Null", "NULL", "=", "<<"]

def integer : Pattern :=
  choice
    [inOrder [sign, text "0b", atLeastOnce (anyOf "01_")],
     inOrder [sign, text "0", atLeastOnce (one [('0', '7'), ('_', '_')])],
     inOrder [sign, text "0"],
     inOrder [sign, one [('1', '9')], many spacedDigit],
     inOrder [sign, text "0x", atLeastOnce (one [('0', '9'), ('a', 'f'), ('A', 'F'), ('_', '_')])],
     inOrder [sign, one [('1', '9')], many spacedDigit, sixties]]

def exponent : Pattern := optional (inOrder [anyOf "eE", anyOf "+-", atLeastOnce digit])

def fractional : Pattern :=
  choice
    [inOrder [sign, digit, many spacedDigit, text ".", many spacedDigit, exponent],
     inOrder [text ".", digit, many spacedDigit, exponent],
     inOrder [sign, digit, many spacedDigit, sixties, text ".", many spacedDigit],
     inOrder [sign, texts [".inf", ".Inf", ".INF"]],
     texts [".nan", ".NaN", ".NAN"]]

def zone : Pattern :=
  inOrder [many (anyOf " \t"),
    choice [text "Z",
      inOrder [anyOf "+-", upToTwoDigits, optional (inOrder [text ":", digit, digit])]]]

def timestamp : Pattern :=
  let year := inOrder [digit, digit, digit, digit]
  choice
    [inOrder [year, text "-", digit, digit, text "-", digit, digit],
     inOrder [year, text "-", upToTwoDigits, text "-", upToTwoDigits,
       choice [anyOf "Tt", atLeastOnce (anyOf " \t")], upToTwoDigits, text ":", digit, digit,
       text ":", digit, digit, optional (inOrder [text ".", many digit]), optional zone]]

/-- All texts that are not read as texts. -/
def implicit : Pattern := choice [boolean, special, integer, fractional, timestamp]

end BootSeal.Yaml
