/-! What the digests share: words of thirty-two bits, and messages cut into blocks.

A message is padded with one set bit, zeros and its length in bits, so that it fills
blocks of sixty-four bytes, each read as sixteen words. -/

namespace Courier.Digest

/-- The order in which a word's bytes are written. -/
inductive Order where
  /-- The lowest byte first. -/
  | little
  /-- The highest byte first. -/
  | big

def rotateLeft (w amount : UInt32) : UInt32 :=
  (w <<< amount) ||| (w >>> (32 - amount))

def rotateRight (w amount : UInt32) : UInt32 :=
  (w >>> amount) ||| (w <<< (32 - amount))

/-- The lowest `count` bytes of a number, in some order. -/
def Order.numberBytes (order : Order) (count n : Nat) : List UInt8 :=
  let low := (List.range count).map fun i => UInt8.ofNat (n >>> (8 * i))
  match order with
  | .little => low
  | .big => low.reverse

/-- The bytes of a word. -/
def Order.bytes (order : Order) (w : UInt32) : List UInt8 :=
  order.numberBytes 4 w.toNat

/-- The word that four bytes write. -/
def Order.word (order : Order) (bs : List UInt8) : UInt32 :=
  let high := match order with
    | .little => bs.reverse
    | .big => bs
  high.foldl (fun w b => w * 256 + b.toUInt32) 0

/-- The message with its padding: a byte with its highest bit set, the fewest zeros, and
the message's length in bits, which end a block. -/
def pad (order : Order) (message : List UInt8) : List UInt8 :=
  let zeros := (64 - (message.length + 9) % 64) % 64
  message ++ 0x80 :: List.replicate zeros 0 ++ order.numberBytes 8 (message.length * 8)

/-- The list cut into pieces of `n + 1`, the last one perhaps shorter. -/
def chunks {α : Type} (n : Nat) (xs : List α) : List (List α) :=
  match xs with
  | [] => []
  | x :: rest => (x :: rest.take n) :: chunks n (rest.drop n)
termination_by xs.length

/-- The padded message as blocks of sixteen words. -/
def blocks (order : Order) (message : List UInt8) : List (List UInt32) :=
  (chunks 63 (pad order message)).map fun block => (chunks 3 block).map order.word

end Courier.Digest
