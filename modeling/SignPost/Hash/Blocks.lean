import SignPost.Octets

/-!
# Padded blocks

The hash functions here all read a message in blocks of words: the message, a byte `0x80`, as few
zero bytes as complete a block, and the bit length of the message as the end of the last block.
-/

namespace SignPost.Hash

/-- How many zero bytes stand between the marker byte and the length field. -/
def zeroCount (block lengthField size : Nat) : Nat :=
  (block - (size + 1 + lengthField) % block) % block

def pad (block lengthField : Nat) (message : Bytes) : Bytes :=
  message ++ 0x80 :: List.replicate (zeroCount block lengthField message.length) 0 ++
    Octets.ofNat lengthField (8 * message.length)

/-- Cuts a list into `count` pieces of `size` elements. -/
def cut {α : Type} (size : Nat) : (count : Nat) → List α → List (List α)
  | 0, _ => []
  | count + 1, xs => xs.take size :: cut size count (xs.drop size)

/-- The words of a block, `w` bits each. -/
def words (w : Nat) (block : Bytes) : List (BitVec w) :=
  (cut (w / 8) (block.length / (w / 8)) block).map fun piece => BitVec.ofNat w (Octets.toNat piece)

/-- The padded message as blocks of sixteen words of `w` bits. -/
def blocks (w : Nat) (message : Bytes) : List (List (BitVec w)) :=
  let padded := pad (2 * w) (w / 4) message
  (cut (2 * w) (padded.length / (2 * w)) padded).map (words w)

/-- The bytes of words of `w` bits. -/
def bytesOfWords {w : Nat} (ws : List (BitVec w)) : Bytes :=
  ws.flatMap fun x => Octets.ofNat (w / 8) x.toNat

end SignPost.Hash
