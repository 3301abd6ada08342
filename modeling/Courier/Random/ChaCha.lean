import Courier.Random.Source

/-! A source of random words from a seed: the ChaCha stream cipher with twelve rounds.

The seed is spread over the key by a congruential generator with permuted output. The
words of the source are pairs of words of the key stream, the lower half first. -/

namespace Courier.Random.ChaCha

def rotateLeft (w amount : UInt32) : UInt32 :=
  (w <<< amount) ||| (w >>> (32 - amount))

/-- The state of the generator that fills the key, moved on. -/
def advance (state : UInt64) : UInt64 :=
  state * 6364136223846793005 + 11634580027462260723

/-- The word that the generator gives in a state. -/
def permute (state : UInt64) : UInt32 :=
  let mixed := (((state >>> 18) ^^^ state) >>> 27).toUInt32
  let amount := (state >>> 59).toUInt32
  (mixed >>> amount) ||| (mixed <<< ((32 - amount) % 32))

/-- The first words of the key after a state. -/
def keyWords : Nat → UInt64 → List UInt32
  | 0, _ => []
  | n + 1, state =>
    let state := advance state
    permute state :: keyWords n state

/-- The eight words of the key for a seed. -/
def key (seed : UInt64) : List UInt32 :=
  keyWords 8 seed

/-- Mixes four words of a block. -/
def quarterRound (a b c d : Nat) (x : Array UInt32) : Array UInt32 :=
  let half (first second : UInt32) (x : Array UInt32) : Array UInt32 :=
    let x := x.setIfInBounds a (x.getD a 0 + x.getD b 0)
    let x := x.setIfInBounds d (rotateLeft (x.getD d 0 ^^^ x.getD a 0) first)
    let x := x.setIfInBounds c (x.getD c 0 + x.getD d 0)
    x.setIfInBounds b (rotateLeft (x.getD b 0 ^^^ x.getD c 0) second)
  half 8 7 (half 16 12 x)

/-- Two rounds: one along the columns of the block and one along its diagonals. -/
def doubleRound (x : Array UInt32) : Array UInt32 :=
  let columns :=
    [(0, 4, 8, 12), (1, 5, 9, 13), (2, 6, 10, 14), (3, 7, 11, 15)]
  let diagonals :=
    [(0, 5, 10, 15), (1, 6, 11, 12), (2, 7, 8, 13), (3, 4, 9, 14)]
  (columns ++ diagonals).foldl (fun x (a, b, c, d) => quarterRound a b c d x) x

/-- The block before its rounds: constants, the key, a counter of two words, and zeros. -/
def initial (key : List UInt32) (counter : Nat) : Array UInt32 :=
  ([0x61707865, 0x3320646e, 0x79622d32, 0x6b206574] ++ key
    ++ [UInt32.ofNat counter, UInt32.ofNat (counter / UInt32.size), 0, 0]).toArray

/-- A block of the key stream. -/
def block (key : List UInt32) (counter : Nat) : Array UInt32 :=
  let start := initial key counter
  let mixed := (List.range 6).foldl (fun x _ => doubleRound x) start
  start.zipWith (· + ·) mixed

/-- The word of the source at a place. -/
def word (key : List UInt32) (i : Nat) : UInt64 :=
  let x := block key (i / 8)
  let low := x.getD (i % 8 * 2) 0
  let high := x.getD (i % 8 * 2 + 1) 0
  high.toUInt64 <<< 32 ||| low.toUInt64

/-- The source of a seed. -/
def source (seed : UInt64) : Source :=
  let k := key seed
  ⟨word k, 0⟩

end Courier.Random.ChaCha
