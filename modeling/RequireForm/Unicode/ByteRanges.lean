import RequireForm.Unicode.CharSet

/-!
# Byte ranges — a character set as sequences of byte ranges

In UTF-8 a range of characters is a union of products of byte ranges.

  1. `CharSet.sequences`: the products, in order.
  2. `CharSet.forwardNodes`: the automaton that reads them with equal ends shared.
  3. `CharSet.beginnings`: the number of their beginnings, each counted once.
-/

namespace RequireForm

/-- A product of ranges, one for each byte. -/
abbrev ByteRanges := List (Nat × Nat)

namespace ByteRanges

/-- The range of a whole continuation byte, `n` times. -/
def whole (n : Nat) : ByteRanges := List.replicate n (0, 63)

/-- The products, in the bits that each byte carries, whose union is the range from `low` to
    `high`. All of it is written with `n` bytes behind the first. -/
def cover : Nat → Nat → Nat → List ByteRanges
  | 0, low, high => [[(low, high)]]
  | n + 1, low, high =>
      let m := Nat.pow 64 (n + 1)
      let a := low / m
      let b := high / m
      if a = b then (cover n (low % m) (high % m)).map ((a, a) :: ·)
      else
        let head :=
          if low % m = 0 then [] else (cover n (low % m) (m - 1)).map ((a, a) :: ·)
        let tail :=
          if high % m = m - 1 then [] else (cover n 0 (high % m)).map ((b, b) :: ·)
        let first := if low % m = 0 then a else a + 1
        let last := if high % m = m - 1 then b else b - 1
        let middle := if first ≤ last then [(first, last) :: whole (n + 1)] else []
        head ++ middle ++ tail

/-- A range that starts at another place. -/
def shift (base : Nat) (r : Nat × Nat) : Nat × Nat := (base + r.1, base + r.2)

/-- The bytes that carry some bits: the first byte is told by its base. -/
def ofBits (base : Nat) : ByteRanges → ByteRanges
  | [] => []
  | r :: rest => shift base r :: rest.map (shift 0x80)

/-- Code points that are written alike: the base of the first byte, the number of bytes behind
    it, and the range. Surrogates are not written at all. -/
def blocks : List (Nat × Nat × (Nat × Nat)) :=
  [(0, 0, (0, 0x7f)), (0xc0, 1, (0x80, 0x7ff)), (0xe0, 2, (0x800, 0xd7ff)),
    (0xe0, 2, (0xe000, 0xffff)), (0xf0, 3, (0x10000, 0x10ffff))]

/-- The products of a range, over all blocks that it meets. -/
def ofRange (r : Nat × Nat) : List ByteRanges :=
  blocks.flatMap fun (base, n, (low, high)) =>
    if r.1 ≤ high ∧ low ≤ r.2 then
      (cover n (max r.1 low) (min r.2 high)).map (ofBits base)
    else []

/-- The products at hand by their first ranges, equal neighbours together. -/
def byFirst : List ByteRanges → List (List ByteRanges)
  | [] => []
  | [] :: rest => byFirst rest
  | (r :: tail) :: rest =>
      match rest, byFirst rest with
      | (q :: _) :: _, group :: groups =>
          if r = q ∧ tail ≠ [] then (tail :: group) :: groups else [tail] :: group :: groups
      | _, groups => [tail] :: groups

/-- The number of beginnings of some products, down to a depth. -/
def beginnings : Nat → List ByteRanges → Nat
  | 0, _ => 0
  | depth + 1, products =>
      (byFirst products).foldl (fun n tails => n + 1 + beginnings depth tails) 0

/-- The nodes of the automaton that reads some products, down to a depth. A node is told by
    the products that are still to be read. -/
def nodes : Nat → List ByteRanges → List (List ByteRanges)
  | 0, _ => []
  | depth + 1, products =>
      products :: ((byFirst products).filter (· ≠ [[]])).flatMap (nodes depth)

end ByteRanges

namespace CharSet

/-- The products of byte ranges whose union is the set. -/
def sequences (s : CharSet) : List ByteRanges := s.sorted.ranges.flatMap ByteRanges.ofRange

/-- The nodes that read the set from the first byte to the last, equal nodes shared. -/
def forwardNodes (s : CharSet) : List (List ByteRanges) :=
  (ByteRanges.nodes 4 s.sequences).eraseDups

/-- The number of beginnings of the products. -/
def beginnings (s : CharSet) : Nat := ByteRanges.beginnings 4 s.sequences

end CharSet

end RequireForm
