import BootSeal.Curve.Named
import BootSeal.Encoding.Der
import BootSeal.Key.Error
/-!
# Key structures

The structures in which keys are kept: the elliptic curve private key, the private key with its
algorithm in front, and the public key with its algorithm in front. Reading gives the key on
whatever known curve it is, or the kind of a key that is not on a curve.
-/

namespace BootSeal

inductive KeyMaterial where
  | privateValue (curve : Curve) (value : Nat)
  | publicPoint (curve : Curve) (x y : Nat)
  | foreign (k : ForeignKey)

namespace KeyMaterial

def ecIdentifier : List Nat := [1, 2, 840, 10045, 2, 1]

def rsaIdentifier : List Nat := [1, 2, 840, 113549, 1, 1, 1]

def ed25519Identifier : List Nat := [1, 3, 101, 112]

def dsaIdentifier : List Nat := [1, 2, 840, 10040, 4, 1]

/-- The parameters of a curve: its identifier, or a form that is not supported. -/
inductive CurveParameters where
  | named (identifier : List Nat)
  | unsupported (tag : UInt8) (content : Bytes)
deriving DecidableEq

def CurveParameters.curve : CurveParameters → Except KeyError Curve
  | .named identifier =>
      match Curve.ofIdentifier? identifier with
      | some c => .ok c
      | none => .error (.unknownCurve identifier)
  | .unsupported .. => .error .unreadable

def curveParameters? (b : Bytes) : Option CurveParameters := do
  let (tag, content, rest) ← Der.read? b
  guard (rest = [])
  if tag = 0x06 then return .named (← Der.identifierValue? content)
  else if tag = 0x05 ∧ content = [] ∨ tag = 0x30 then return .unsupported tag content
  else none

structure EcFields where
  version : Nat
  value : Bytes
  parameters : Option CurveParameters
  point : Option Bytes

/-- The content of an explicit tag `n`, if there is one. -/
def explicit? (n : UInt8) (b : Bytes) : Option (Option Bytes × Bytes) :=
  Der.optional? (0xA0 + n) b

def onlyBits? (b : Bytes) : Option Bytes := (Der.only? 0x03 b).bind Der.bitsValue?

/-- The fields of an elliptic curve private key, in order and with nothing behind them. -/
def ecFields? (b : Bytes) : Option EcFields := do
  let b ← Der.only? 0x30 b
  let (version, b) ← Der.natural? b
  let (value, b) ← Der.expect? 0x04 b
  let (parameters, b) ← explicit? 0 b
  let parameters ← parameters.mapM curveParameters?
  let (point, b) ← explicit? 1 b
  let point ← point.mapM onlyBits?
  guard (b = [])
  return ⟨version, value, parameters, point⟩

def pointMatches (c : Curve) (value : Nat) : Option Bytes → Bool
  | none => true
  | some b => c.decodePoint? b == some (c.baseMultiple value)

/-- An elliptic curve private key. Its parameters and those from outside must agree when both are
there, and one of them must be. -/
def ofEcPrivate (outer : Option CurveParameters) (b : Bytes) : Except KeyError KeyMaterial :=
  match ecFields? b with
  | none => .error .unreadable
  | some f =>
      if f.version ≠ 1 then .error .unreadable
      else
        match outer, f.parameters with
        | none, none => .error .unreadable
        | some p, none | none, some p => finish f p
        | some p, some q => if p = q then finish f p else .error .unreadable
where
  finish (f : EcFields) (p : CurveParameters) : Except KeyError KeyMaterial :=
    match p.curve with
    | .error e => .error e
    | .ok c =>
        let value := Bytes.toNatBE f.value
        if f.value.length = c.scalarSize ∧ 0 < value ∧ value < c.order
            ∧ pointMatches c value f.point then
          .ok (.privateValue c value)
        else .error .unreadable

/-- A row of natural numbers and nothing else. -/
def naturals? : Nat → Bytes → Option (List Nat)
  | 0, b => if b = [] then some [] else none
  | n + 1, b => do
      let (v, b) ← Der.natural? b
      let vs ← naturals? n b
      return v :: vs

def ofRsaPrivate (b : Bytes) : Except KeyError KeyMaterial :=
  match (Der.only? 0x30 b).bind (naturals? 9) with
  | some (0 :: _) => .ok (.foreign ⟨.rsa, true⟩)
  | _ => .error .unreadable

def ofDsaPrivate (b : Bytes) : Except KeyError KeyMaterial :=
  match (Der.only? 0x30 b).bind (naturals? 6) with
  | some (0 :: _) => .ok (.foreign ⟨.dsa, true⟩)
  | _ => .error .unreadable

structure AlgorithmFields where
  identifier : List Nat
  parameters : Bytes

def algorithm? (b : Bytes) : Option (AlgorithmFields × Bytes) := do
  let (content, rest) ← Der.expect? 0x30 b
  let (identifier, parameters) ← Der.identifier? content
  return (⟨identifier, parameters⟩, rest)

/-- Whether the parameters of an RSA algorithm are in order: absent or empty. -/
def rsaParametersOk (b : Bytes) : Bool := b == [] || b == Der.null

/-- Whether the parameters of a DSA algorithm are in order: three numbers. -/
def dsaParametersOk (b : Bytes) : Bool :=
  ((Der.only? 0x30 b).bind (naturals? 3)).isSome

def ofPrivateInfo (b : Bytes) : Except KeyError KeyMaterial :=
  match fields? b with
  | none => .error .unreadable
  | some (version, a, key) =>
      if version ≠ 0 then .error .unreadable
      else if a.identifier = ecIdentifier then
        match curveParameters? a.parameters with
        | none => .error .unreadable
        | some p => ofEcPrivate (some p) key
      else if a.identifier = rsaIdentifier then
        if rsaParametersOk a.parameters then ofRsaPrivate key else .error .unreadable
      else if a.identifier = ed25519Identifier then
        if a.parameters = [] ∧ ((Der.only? 0x04 key).map List.length) = some 32 then
          .ok (.foreign ⟨.ed25519, true⟩)
        else .error .unreadable
      else if a.identifier = dsaIdentifier then
        if dsaParametersOk a.parameters ∧ (naturals? 1 key).isSome then
          .ok (.foreign ⟨.dsa, true⟩)
        else .error .unreadable
      else .error .unreadable
where
  /-- The version, the algorithm and the key; attributes may follow. -/
  fields? (b : Bytes) : Option (Nat × AlgorithmFields × Bytes) := do
    let b ← Der.only? 0x30 b
    let (version, b) ← Der.natural? b
    let (a, b) ← algorithm? b
    let (key, b) ← Der.expect? 0x04 b
    let (_, b) ← explicit? 0 b
    guard (b = [])
    return (version, a, key)

def ofPublicInfo (b : Bytes) : Except KeyError KeyMaterial :=
  match fields? b with
  | none => .error .unreadable
  | some (a, key) =>
      if a.identifier = ecIdentifier then
        match curveParameters? a.parameters with
        | none => .error .unreadable
        | some p =>
            match p.curve with
            | .error e => .error e
            | .ok c =>
                match c.decodePoint? key with
                | some (.affine x y) => .ok (.publicPoint c x y)
                | _ => .error .unreadable
      else if a.identifier = rsaIdentifier then
        if rsaParametersOk a.parameters ∧ ((Der.only? 0x30 key).bind (naturals? 2)).isSome then
          .ok (.foreign ⟨.rsa, false⟩)
        else .error .unreadable
      else if a.identifier = ed25519Identifier then
        if a.parameters = [] ∧ key.length = 32 then .ok (.foreign ⟨.ed25519, false⟩)
        else .error .unreadable
      else if a.identifier = dsaIdentifier then
        if (a.parameters = [] ∨ dsaParametersOk a.parameters) ∧ (naturals? 1 key).isSome then
          .ok (.foreign ⟨.dsa, false⟩)
        else .error .unreadable
      else .error .unreadable
where
  fields? (b : Bytes) : Option (AlgorithmFields × Bytes) := do
    let b ← Der.only? 0x30 b
    let (a, b) ← algorithm? b
    let (key, b) ← Der.bits? b
    guard (b = [])
    return (a, key)

end KeyMaterial

end BootSeal
