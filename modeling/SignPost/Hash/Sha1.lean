import SignPost.Hash.Blocks

/-!
# SHA-1

The digest by which certificates are pinned and, by default, form values are signed.
-/

namespace SignPost.Hash.Sha1

abbrev Word := BitVec 32

structure State where
  a : Word
  b : Word
  c : Word
  d : Word
  e : Word
deriving DecidableEq, Repr

def initial : State :=
  ⟨0x67452301, 0xefcdab89, 0x98badcfe, 0x10325476, 0xc3d2e1f0⟩

/-- The round function and constant of round `t`. -/
def mix (t : Nat) (b c d : Word) : Word :=
  if t < 20 then ((b &&& c) ||| (~~~b &&& d)) + 0x5a827999
  else if t < 40 then (b ^^^ c ^^^ d) + 0x6ed9eba1
  else if t < 60 then ((b &&& c) ||| (b &&& d) ||| (c &&& d)) + 0x8f1bbcdc
  else (b ^^^ c ^^^ d) + 0xca62c1d6

/-- The message word sixteen rounds after the first of the window. -/
def nextWord (window : List Word) : Word :=
  (window.getD 13 0 ^^^ window.getD 8 0 ^^^ window.getD 2 0 ^^^ window.getD 0 0).rotateLeft 1

/-- Runs `left` rounds; the window holds the message words of this round and the next fifteen. -/
def rounds : (left : Nat) → List Word → State → State
  | 0, _, s => s
  | left + 1, window, s =>
    let t := 79 - left
    let a := s.a.rotateLeft 5 + mix t s.b s.c s.d + s.e + window.getD 0 0
    rounds left (window.drop 1 ++ [nextWord window]) ⟨a, s.a, s.b.rotateLeft 30, s.c, s.d⟩

def compress (s : State) (block : List Word) : State :=
  let r := rounds 80 block s
  ⟨s.a + r.a, s.b + r.b, s.c + r.c, s.d + r.d, s.e + r.e⟩

def digest (message : Bytes) : Bytes :=
  let s := (blocks 32 message).foldl compress initial
  bytesOfWords [s.a, s.b, s.c, s.d, s.e]

@[simp] theorem length_digest (message : Bytes) : (digest message).length = 20 := by
  simp [digest, bytesOfWords]

end SignPost.Hash.Sha1
