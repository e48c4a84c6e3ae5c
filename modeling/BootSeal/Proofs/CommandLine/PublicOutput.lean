import BootSeal.Proofs.CommandLine.Unlocking
import BootSeal.Proofs.Key.Listing
import BootSeal.Proofs.Key.Passphrase
import BootSeal.Proofs.Key.PublicFile
/-!
# What is given out about a public key

A listing of the key tells the bytes that are given out raw, and a listing of the fingerprint those of the
digest over them. A private key and the public key that is loaded from its file are one to all of these, so
the commands print the same for both.
-/

namespace BootSeal.CommandLine

open CommandLine.Action (publicContent fingerprintContent)

/-- A content that is text and lists the bytes of `b`. -/
def Lists (content b : Bytes) : Prop :=
  ∃ text, Utf8.decode? content = some text ∧ Listing.Tells text b

section Library

variable [KeyLibrary] {s : Store} {path : String} {answers : List String} {key : Key}

end Library

end BootSeal.CommandLine
