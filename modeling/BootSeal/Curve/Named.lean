import BootSeal.Curve.Weierstrass
/-!
# Named curves

The curves that a key file may name, each with its object identifier. Keys on all of them can be
read; images are signed on one of them only.
-/

namespace BootSeal.Curve

def p384 : Curve where
  name := "secp384r1"
  p :=
    0xfffffffffffffffffffffffffffffffffffffffffffffffffffffffffffffffeffffffff0000000000000000ffffffff
  a :=
    0xfffffffffffffffffffffffffffffffffffffffffffffffffffffffffffffffeffffffff0000000000000000fffffffc
  b :=
    0xb3312fa7e23ee7e4988e056be3f82d19181d9c6efe8141120314088f5013875ac656398d8a2ed19d2a85c8edd3ec2aef
  gx :=
    0xaa87ca22be8b05378eb1c71ef320ad746e1d3b628ba79b9859f741e082542a385502f25dbf55296c3a545e3872760ab7
  gy :=
    0x3617de4a96262c6f5d9e98bf9292dc29f8f41dbd289a147ce9da3113b5f0b8c00a60b1ce1d7e819d7a431d7c90ea0e5f
  order :=
    0xffffffffffffffffffffffffffffffffffffffffffffffffc7634d81f4372ddf581a0db248b0a77aecec196accc52973
  coordinateSize := 48
  scalarSize := 48

def p256 : Curve where
  name := "secp256r1"
  p :=
    0xffffffff00000001000000000000000000000000ffffffffffffffffffffffff
  a :=
    0xffffffff00000001000000000000000000000000fffffffffffffffffffffffc
  b :=
    0x5ac635d8aa3a93e7b3ebbd55769886bc651d06b0cc53b0f63bce3c3e27d2604b
  gx :=
    0x6b17d1f2e12c4247f8bce6e563a440f277037d812deb33a0f4a13945d898c296
  gy :=
    0x4fe342e2fe1a7f9b8ee7eb4a7c0f9e162bce33576b315ececbb6406837bf51f5
  order :=
    0xffffffff00000000ffffffffffffffffbce6faada7179e84f3b9cac2fc632551
  coordinateSize := 32
  scalarSize := 32

def p521 : Curve where
  name := "secp521r1"
  p :=
    0x1ffffffffffffffffffffffffffffffffffffffffffffffffffffffffffffffffffffffffffffffffffffffffffffffffffffffffffffffffffffffffffffffffff
  a :=
    0x1fffffffffffffffffffffffffffffffffffffffffffffffffffffffffffffffffffffffffffffffffffffffffffffffffffffffffffffffffffffffffffffffffc
  b :=
    0x51953eb9618e1c9a1f929a21a0b68540eea2da725b99b315f3b8b489918ef109e156193951ec7e937b1652c0bd3bb1bf073573df883d2c34f1ef451fd46b503f00
  gx :=
    0xc6858e06b70404e9cd9e3ecb662395b4429c648139053fb521f828af606b4d3dbaa14b5e77efe75928fe1dc127a2ffa8de3348b3c1856a429bf97e7e31c2e5bd66
  gy :=
    0x11839296a789a3bc0045c8a5fb42c7d1bd998f54449579b446817afbd17273e662c97ee72995ef42640c550b9013fad0761353c7086a272c24088be94769fd16650
  order :=
    0x1fffffffffffffffffffffffffffffffffffffffffffffffffffffffffffffffffa51868783bf2f966b7fcc0148f709a5d03bb5c9b8899c47aebb6fb71e91386409
  coordinateSize := 66
  scalarSize := 66

/-- The curve secp256k1. -/
def k256 : Curve where
  name := "secp256k1"
  p :=
    0xfffffffffffffffffffffffffffffffffffffffffffffffffffffffefffffc2f
  a :=
    0x0
  b :=
    0x7
  gx :=
    0x79be667ef9dcbbac55a06295ce870b07029bfcdb2dce28d959f2815b16f81798
  gy :=
    0x483ada7726a3c4655da4fbfc0e1108a8fd17b448a68554199c47d08ffb10d4b8
  order :=
    0xfffffffffffffffffffffffffffffffebaaedce6af48a03bbfd25e8cd0364141
  coordinateSize := 32
  scalarSize := 32

def p224 : Curve where
  name := "secp224r1"
  p :=
    0xffffffffffffffffffffffffffffffff000000000000000000000001
  a :=
    0xfffffffffffffffffffffffffffffffefffffffffffffffffffffffe
  b :=
    0xb4050a850c04b3abf54132565044b0b7d7bfd8ba270b39432355ffb4
  gx :=
    0xb70e0cbd6bb4bf7f321390b94a03c1d356c21122343280d6115c1d21
  gy :=
    0xbd376388b5f723fb4c22dfe6cd4375a05a07476444d5819985007e34
  order :=
    0xffffffffffffffffffffffffffff16a2e0b8f03e13dd29455c5c2a3d
  coordinateSize := 28
  scalarSize := 28

def brainpool384 : Curve where
  name := "brainpoolP384r1"
  p :=
    0x8cb91e82a3386d280f5d6f7e50e641df152f7109ed5456b412b1da197fb71123acd3a729901d1a71874700133107ec53
  a :=
    0x7bc382c63d8c150c3c72080ace05afa0c2bea28e4fb22787139165efba91f90f8aa5814a503ad4eb04a8c7dd22ce2826
  b :=
    0x4a8c7dd22ce28268b39b55416f0447c2fb77de107dcd2a62e880ea53eeb62d57cb4390295dbc9943ab78696fa504c11
  gx :=
    0x1d1c64f068cf45ffa2a63a81b7c13f6b8847a3e77ef14fe3db7fcafe0cbd10e8e826e03436d646aaef87b2e247d4af1e
  gy :=
    0x8abe1d7520f9c2a45cb1eb8e95cfd55262b70b29feec5864e19c054ff99129280e4646217791811142820341263c5315
  order :=
    0x8cb91e82a3386d280f5d6f7e50e641df152f7109ed5456b31f166e6cac0425a7cf3ab6af6b7fc3103b883202e9046565
  coordinateSize := 48
  scalarSize := 48

def named : List (List Nat × Curve) :=
  [([1, 3, 132, 0, 34], p384),
   ([1, 2, 840, 10045, 3, 1, 7], p256),
   ([1, 3, 132, 0, 35], p521),
   ([1, 3, 132, 0, 10], k256),
   ([1, 3, 132, 0, 33], p224),
   ([1, 3, 36, 3, 3, 2, 8, 1, 1, 11], brainpool384)]

def ofIdentifier? (oid : List Nat) : Option Curve := named.lookup oid

end BootSeal.Curve
