import BrokerWatch.Digest.Sha256
import BrokerWatch.Digest.Sha512

/-!
# Keyed digests and stretched passwords

A digest's algorithm is its function and the sizes of its blocks and results. The keyed digest and
the stretching of a password, whose result is one digest long, work with any of them.
-/

namespace BrokerWatch.Digest

inductive Algorithm
  | sha256
  | sha512
  deriving DecidableEq, Repr

namespace Algorithm

def digest : Algorithm → List UInt8 → List UInt8
  | sha256 => Sha256.digest
  | sha512 => Sha512.digest

def blockSize : Algorithm → Nat
  | sha256 => 64
  | sha512 => 128

def size : Algorithm → Nat
  | sha256 => 32
  | sha512 => 64

@[simp]
theorem length_digest (a : Algorithm) (message : List UInt8) :
    (a.digest message).length = a.size := by
  cases a
  · exact Sha256.length_digest message
  · exact Sha512.length_digest message

/-- A key brought to the size of a block: shortened by the digest if longer, filled up with zeros. -/
def blockKey (a : Algorithm) (key : List UInt8) : List UInt8 :=
  let key := if a.blockSize < key.length then a.digest key else key
  key ++ List.replicate (a.blockSize - key.length) 0

def hmac (a : Algorithm) (key message : List UInt8) : List UInt8 :=
  let key := a.blockKey key
  a.digest (key.map (· ^^^ 0x5c) ++ a.digest (key.map (· ^^^ 0x36) ++ message))

@[simp]
theorem length_hmac (a : Algorithm) (key message : List UInt8) :
    (a.hmac key message).length = a.size :=
  a.length_digest _

end Algorithm

/-- Two byte strings combined bit by bit; the longer one is cut to the shorter one's length. -/
def xor (x y : List UInt8) : List UInt8 :=
  List.zipWith (· ^^^ ·) x y

namespace Algorithm

/-- `count` more keyed digests, each of the one before, all combined into `sum`. -/
def stretchFrom (a : Algorithm) (password : List UInt8) :
    Nat → List UInt8 → List UInt8 → List UInt8
  | 0, _, sum => sum
  | count + 1, last, sum =>
    let next := a.hmac password last
    stretchFrom a password count next (xor sum next)

/-- The password stretched by a salt and a number of iterations, one at least. -/
def stretch (a : Algorithm) (password salt : List UInt8) (iterations : Nat) : List UInt8 :=
  let first := a.hmac password (salt ++ [0, 0, 0, 1])
  a.stretchFrom password (iterations - 1) first first

end Algorithm

end BrokerWatch.Digest
