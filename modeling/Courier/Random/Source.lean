/-! Sources of random words.

A source is an endless sequence of words of sixty-four bits, with the place that it has
reached. Whoever draws from it gives back the source at a later place, so what a run has
drawn shows in the source it leaves. -/

namespace Courier.Random

structure Source where
  word : Nat → UInt64
  /-- How many words have been drawn. -/
  position : Nat

namespace Source

/-- A source that gives these words, and zeros after them. -/
def ofWords (words : List UInt64) : Source :=
  ⟨fun i => words.getD i 0, 0⟩

/-- The next word, and the source after it. -/
def draw (s : Source) : UInt64 × Source :=
  (s.word s.position, { s with position := s.position + 1 })

/-- The remainders up to which a word counts for a choice among `n`, so that as many words
fall on every choice. -/
def zone (n : Nat) : Nat :=
  n * Nat.pow 2 (63 - n.log2) - 1

/-- A choice among `n` from the next words that count, of which at most `attempts` are
looked at; if none counts, the first choice. -/
def chooseFrom (attempts n : Nat) (s : Source) : Nat × Source :=
  match attempts with
  | 0 => (0, s)
  | attempts + 1 =>
    let (word, s) := s.draw
    let product := word.toNat * n
    if product % UInt64.size ≤ zone n then (product / UInt64.size, s)
    else chooseFrom attempts n s

/-- How many words a choice looks at. More than half of all words count. -/
def attempts : Nat := 0x100000

/-- A number below `n`, all of them as likely. -/
def choose (n : Nat) (s : Source) : Nat × Source :=
  chooseFrom attempts n s

/-- One of the items of a list that is not empty. -/
def pick {α : Type} (items : List α) (default : α) (s : Source) : α × Source :=
  let (i, s) := s.choose items.length
  (items.getD i default, s)

end Source

end Courier.Random
