import BootSeal.Bytes.Integer
/-!
# Distinguished encoding

Elements with a one-byte tag, a length in its shortest form, and a content. Reading is strict: each
reader takes exactly one element and gives what follows it, and `only?` refuses anything behind the
element.
-/

namespace BootSeal.Der

/-- The length of a content, in the short form below 128 and else with a count of its bytes. -/
def lengthBytes (n : Nat) : Bytes :=
  if n < 128 then [UInt8.ofNat n]
  else
    let digits := Bytes.ofNatShortest n
    UInt8.ofNat (0x80 + digits.length) :: digits

def element (tag : UInt8) (content : Bytes) : Bytes :=
  tag :: lengthBytes content.length ++ content

def sequence (parts : List Bytes) : Bytes := element 0x30 parts.flatten

/-- A natural number; a zero byte in front keeps the sign bit clear. -/
def natural (n : Nat) : Bytes :=
  let digits := Bytes.ofNatShortest n
  element 0x02 (if 0x80 ≤ digits.headD 0 then 0 :: digits else digits)

def octets (b : Bytes) : Bytes := element 0x04 b

def bits (b : Bytes) : Bytes := element 0x03 (0 :: b)

def explicit (n : Nat) (content : Bytes) : Bytes := element (UInt8.ofNat (0xA0 + n)) content

/-- The base-128 digits of an arc of an object identifier, all but the last marked. -/
def arcBytes (n : Nat) : Bytes :=
  (go (n / 128)) ++ [UInt8.ofNat (n % 128)]
where
  go (n : Nat) : Bytes :=
    if _ : n = 0 then [] else go (n / 128) ++ [UInt8.ofNat (0x80 + n % 128)]
  termination_by n
  decreasing_by exact Nat.div_lt_self (by omega) (by omega)

/-- An object identifier; its first two arcs share a number. -/
def identifier : List Nat → Bytes
  | a :: b :: rest => element 0x06 (((a * 40 + b) :: rest).flatMap arcBytes)
  | _ => element 0x06 []

def null : Bytes := element 0x05 []

/-! ## Reading -/

/-- Reads a length in its shortest form. -/
def length? : Bytes → Option (Nat × Bytes)
  | [] => none
  | first :: rest =>
      let n := first.toNat
      if n < 0x80 then some (n, rest)
      else
        let count := n - 0x80
        let digits := rest.take count
        let value := Bytes.toNatBE digits
        if 0 < count ∧ count ≤ 4 ∧ digits.length = count ∧ digits.headD 0 ≠ 0 ∧ 128 ≤ value then
          some (value, rest.drop count)
        else none

def read? : Bytes → Option (UInt8 × Bytes × Bytes)
  | [] => none
  | tag :: rest => do
      guard (tag &&& 0x1F ≠ 0x1F)
      let (n, rest) ← length? rest
      let content := rest.take n
      guard (content.length = n)
      return (tag, content, rest.drop n)

def expect? (tag : UInt8) (b : Bytes) : Option (Bytes × Bytes) := do
  let (t, content, rest) ← read? b
  guard (t = tag)
  return (content, rest)

/-- Reads an element of a given tag if one follows. -/
def optional? (tag : UInt8) (b : Bytes) : Option (Option Bytes × Bytes) :=
  if b.head? = some tag then (expect? tag b).map fun r => (some r.1, r.2)
  else some (none, b)

/-- The content of the only element. -/
def only? (tag : UInt8) (b : Bytes) : Option Bytes := do
  let (content, rest) ← expect? tag b
  guard (rest = [])
  return content

def naturalValue? (content : Bytes) : Option Nat :=
  match content with
  | [] => none
  | [x] => if x < 0x80 then some x.toNat else none
  | x :: y :: _ =>
      if x < 0x80 ∧ ¬(x = 0 ∧ y < 0x80) then some (Bytes.toNatBE content) else none

def natural? (b : Bytes) : Option (Nat × Bytes) := do
  let (content, rest) ← expect? 0x02 b
  let n ← naturalValue? content
  return (n, rest)

/-- The bytes of the content of a bit string; the bits that are not used must be zero. -/
def bitsValue? : Bytes → Option Bytes
  | [] => none
  | unused :: data =>
      match data.getLast? with
      | none => if unused = 0 then some [] else none
      | some x =>
          if unused < 8 ∧ x >>> unused <<< unused = x then some data else none

def bits? (b : Bytes) : Option (Bytes × Bytes) := do
  let (content, rest) ← expect? 0x03 b
  let data ← bitsValue? content
  return (data, rest)

/-- The arcs in the content of an object identifier; `acc` is the value of the arc that has begun,
or `none` between arcs. -/
def arcs? : Option Nat → Bytes → Option (List Nat)
  | none, [] => some []
  | some _, [] => none
  | acc, b :: rest =>
      if acc = none ∧ b = 0x80 then none
      else
        let value := acc.getD 0 * 128 + b.toNat % 128
        if b < 0x80 then (arcs? none rest).map fun as => value :: as
        else arcs? (some value) rest

def identifierValue? (content : Bytes) : Option (List Nat) := do
  match ← arcs? none content with
  | [] => none
  | first :: rest =>
      if first < 40 then some (0 :: first :: rest)
      else if first < 80 then some (1 :: (first - 40) :: rest)
      else some (2 :: (first - 80) :: rest)

def identifier? (b : Bytes) : Option (List Nat × Bytes) := do
  let (content, rest) ← expect? 0x06 b
  let oid ← identifierValue? content
  return (oid, rest)

end BootSeal.Der
