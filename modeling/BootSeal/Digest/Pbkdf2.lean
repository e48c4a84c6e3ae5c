import BootSeal.Digest.Hmac
/-!
# Keys from passphrases

PBKDF2: each block of the derived key is the combination of all links of a chain, where a link is
the authentication code of the link before it under the passphrase.
-/

namespace BootSeal.Pbkdf2

/-- Combines `n` further links of the chain into `acc`. -/
def chain (d : Digest) (passphrase : Bytes) : Nat → Bytes → Bytes → Bytes
  | 0, _, acc => acc
  | n + 1, link, acc =>
      let next := d.hmac passphrase link
      chain d passphrase n next (List.zipWith (· ^^^ ·) acc next)

/-- Block `i` of the derived key; blocks count from one. -/
def block (d : Digest) (passphrase salt : Bytes) (iterations i : Nat) : Bytes :=
  let first := d.hmac passphrase (salt ++ Bytes.ofNatBE 4 i)
  chain d passphrase (iterations - 1) first first

def derive (d : Digest) (digestSize : Nat) (passphrase salt : Bytes) (iterations size : Nat) :
    Bytes :=
  ((List.range ((size + digestSize - 1) / digestSize)).flatMap fun i =>
    block d passphrase salt iterations (i + 1)).take size

end BootSeal.Pbkdf2
