import BootSeal.Key.Export
import BootSeal.Text.Hex
/-!
# Byte listings

Bytes as an array in a header file for firmware: a note, the declaration, rows of at most eight
tokens, and a constant with the number of bytes.
-/

namespace BootSeal.Listing

def note : String := "/* Autogenerated by bootimg, do not edit. */"

def token (b : UInt8) : List Char := '0' :: 'x' :: Bytes.hexPair b ++ [',']

def row (b : Bytes) : List Char :=
  "\n    ".toList ++ List.intercalate [' '] (b.map token)

/-- The rows of a byte string, eight bytes to a row. -/
def rows (b : Bytes) : List (List Char) := (Bytes.pieces 7 b).map row

def render (name : String) (b : Bytes) : String :=
  note ++ "\nconst unsigned char " ++ name ++ "[] = \x7b" ++ String.ofList (rows b).flatten
    ++ "\n\x7d;\nconst unsigned int " ++ name ++ "_len = " ++ Numeral.decimal b.length ++ ";\n"

def ofPublicKey (k : PublicKey) : String := render (Key.kindName ++ "_pub_key") k.toBytes

def ofFingerprint (k : PublicKey) : String :=
  render (Key.kindName ++ "_pub_key_hash") k.fingerprint

def ofPrivateBytes (b : Bytes) : String := render "enc_priv_key" b

end BootSeal.Listing
