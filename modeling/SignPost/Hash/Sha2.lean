import SignPost.Hash.Blocks

/-!
# SHA-2

The family has one structure at two word sizes. A `Variant` fixes the word size, the rotations,
the number of rounds, the start value and the digest length. The round constants for 32 bit words
are the high halves of those for 64 bit words.
-/

namespace SignPost.Hash.Sha2

/-- The amounts of a three-way mix: two rotations and a third amount. -/
structure Amounts where
  first : Nat
  second : Nat
  third : Nat

structure Variant (w : Nat) where
  /-- Rotations of the first state word, all three rotations. -/
  bigA : Amounts
  /-- Rotations of the fifth state word, all three rotations. -/
  bigE : Amounts
  /-- Two rotations and a shift for the message word after the oldest. -/
  smallOld : Amounts
  /-- Two rotations and a shift for the message word before the newest. -/
  smallNew : Amounts
  constants : List (BitVec w)
  initial : List (BitVec w)
  digestLength : Nat

def rotations {w : Nat} (r : Amounts) (x : BitVec w) : BitVec w :=
  x.rotateRight r.first ^^^ x.rotateRight r.second ^^^ x.rotateRight r.third

/-- Two rotations and a shift, added without carry. -/
def rotationsShift {w : Nat} (r : Amounts) (x : BitVec w) : BitVec w :=
  x.rotateRight r.first ^^^ x.rotateRight r.second ^^^ x >>> r.third

structure State (w : Nat) where
  a : BitVec w
  b : BitVec w
  c : BitVec w
  d : BitVec w
  e : BitVec w
  f : BitVec w
  g : BitVec w
  h : BitVec w
deriving DecidableEq, Repr

def State.toList {w : Nat} (s : State w) : List (BitVec w) :=
  [s.a, s.b, s.c, s.d, s.e, s.f, s.g, s.h]

def State.ofList {w : Nat} (ws : List (BitVec w)) : State w :=
  ⟨ws.getD 0 0, ws.getD 1 0, ws.getD 2 0, ws.getD 3 0,
    ws.getD 4 0, ws.getD 5 0, ws.getD 6 0, ws.getD 7 0⟩

/-- The message word sixteen rounds after the first of the window. -/
def nextWord {w : Nat} (v : Variant w) (window : List (BitVec w)) : BitVec w :=
  rotationsShift v.smallNew (window.getD 14 0) + window.getD 9 0 +
    rotationsShift v.smallOld (window.getD 1 0) + window.getD 0 0

/-- Runs one round for each constant; the window holds the message words of this round and the
next fifteen. -/
def rounds {w : Nat} (v : Variant w) : (constants window : List (BitVec w)) → State w → State w
  | [], _, s => s
  | k :: ks, window, s =>
    let choice := (s.e &&& s.f) ^^^ (~~~s.e &&& s.g)
    let majority := (s.a &&& s.b) ^^^ (s.a &&& s.c) ^^^ (s.b &&& s.c)
    let t := s.h + rotations v.bigE s.e + choice + k + window.getD 0 0
    let u := rotations v.bigA s.a + majority
    rounds v ks (window.drop 1 ++ [nextWord v window])
      ⟨t + u, s.a, s.b, s.c, s.d + t, s.e, s.f, s.g⟩

def compress {w : Nat} (v : Variant w) (s : State w) (block : List (BitVec w)) : State w :=
  let r := rounds v v.constants block s
  ⟨s.a + r.a, s.b + r.b, s.c + r.c, s.d + r.d, s.e + r.e, s.f + r.f, s.g + r.g, s.h + r.h⟩

def digest {w : Nat} (v : Variant w) (message : Bytes) : Bytes :=
  let s := (blocks w message).foldl (compress v) (State.ofList v.initial)
  (bytesOfWords s.toList).take v.digestLength

def constants64 : List (BitVec 64) :=
  [
    0x428a2f98d728ae22, 0x7137449123ef65cd, 0xb5c0fbcfec4d3b2f, 0xe9b5dba58189dbbc,
    0x3956c25bf348b538, 0x59f111f1b605d019, 0x923f82a4af194f9b, 0xab1c5ed5da6d8118,
    0xd807aa98a3030242, 0x12835b0145706fbe, 0x243185be4ee4b28c, 0x550c7dc3d5ffb4e2,
    0x72be5d74f27b896f, 0x80deb1fe3b1696b1, 0x9bdc06a725c71235, 0xc19bf174cf692694,
    0xe49b69c19ef14ad2, 0xefbe4786384f25e3, 0x0fc19dc68b8cd5b5, 0x240ca1cc77ac9c65,
    0x2de92c6f592b0275, 0x4a7484aa6ea6e483, 0x5cb0a9dcbd41fbd4, 0x76f988da831153b5,
    0x983e5152ee66dfab, 0xa831c66d2db43210, 0xb00327c898fb213f, 0xbf597fc7beef0ee4,
    0xc6e00bf33da88fc2, 0xd5a79147930aa725, 0x06ca6351e003826f, 0x142929670a0e6e70,
    0x27b70a8546d22ffc, 0x2e1b21385c26c926, 0x4d2c6dfc5ac42aed, 0x53380d139d95b3df,
    0x650a73548baf63de, 0x766a0abb3c77b2a8, 0x81c2c92e47edaee6, 0x92722c851482353b,
    0xa2bfe8a14cf10364, 0xa81a664bbc423001, 0xc24b8b70d0f89791, 0xc76c51a30654be30,
    0xd192e819d6ef5218, 0xd69906245565a910, 0xf40e35855771202a, 0x106aa07032bbd1b8,
    0x19a4c116b8d2d0c8, 0x1e376c085141ab53, 0x2748774cdf8eeb99, 0x34b0bcb5e19b48a8,
    0x391c0cb3c5c95a63, 0x4ed8aa4ae3418acb, 0x5b9cca4f7763e373, 0x682e6ff3d6b2b8a3,
    0x748f82ee5defb2fc, 0x78a5636f43172f60, 0x84c87814a1f0ab72, 0x8cc702081a6439ec,
    0x90befffa23631e28, 0xa4506cebde82bde9, 0xbef9a3f7b2c67915, 0xc67178f2e372532b,
    0xca273eceea26619c, 0xd186b8c721c0c207, 0xeada7dd6cde0eb1e, 0xf57d4f7fee6ed178,
    0x06f067aa72176fba, 0x0a637dc5a2c898a6, 0x113f9804bef90dae, 0x1b710b35131c471b,
    0x28db77f523047d84, 0x32caab7b40c72493, 0x3c9ebe0a15c9bebc, 0x431d67c49c100d4c,
    0x4cc5d4becb3e42b6, 0x597f299cfc657e2a, 0x5fcb6fab3ad6faec, 0x6c44198c4a475817  ]

def initial512 : List (BitVec 64) :=
  [0x6a09e667f3bcc908, 0xbb67ae8584caa73b, 0x3c6ef372fe94f82b, 0xa54ff53a5f1d36f1,
    0x510e527fade682d1, 0x9b05688c2b3e6c1f, 0x1f83d9abfb41bd6b, 0x5be0cd19137e2179]

def initial384 : List (BitVec 64) :=
  [0xcbbb9d5dc1059ed8, 0x629a292a367cd507, 0x9159015a3070dd17, 0x152fecd8f70e5939,
    0x67332667ffc00b31, 0x8eb44a8768581511, 0xdb0c2e0d64f98fa7, 0x47b5481dbefa4fa4]

def highHalf (x : BitVec 64) : BitVec 32 :=
  (x >>> 32).setWidth 32

def sha512 : Variant 64 where
  bigA := ⟨28, 34, 39⟩
  bigE := ⟨14, 18, 41⟩
  smallOld := ⟨1, 8, 7⟩
  smallNew := ⟨19, 61, 6⟩
  constants := constants64
  initial := initial512
  digestLength := 64

/-- SHA-384: the rounds of SHA-512 from another start value, cut to 48 bytes. -/
def sha384 : Variant 64 :=
  { sha512 with initial := initial384, digestLength := 48 }

def sha256 : Variant 32 where
  bigA := ⟨2, 13, 22⟩
  bigE := ⟨6, 11, 25⟩
  smallOld := ⟨7, 18, 3⟩
  smallNew := ⟨17, 19, 10⟩
  constants := (constants64.take 64).map highHalf
  initial := initial512.map highHalf
  digestLength := 32

end SignPost.Hash.Sha2
