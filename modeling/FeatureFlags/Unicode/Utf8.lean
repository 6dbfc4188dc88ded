namespace FeatureFlags.Unicode.Utf8

structure ByteRange where
  first : Nat
  last : Nat
  deriving DecidableEq

abbrev Sequence := List ByteRange

def blocks (lead : Nat) : Nat → Nat → Nat → List Sequence
  | 0, lo, hi => [[⟨lead + lo, lead + hi⟩]]
  | more + 1, lo, hi =>
    let size := 1 <<< (6 * (more + 1))
    let inBlock (n lo hi : Nat) := (blocks 0x80 more lo hi).map (⟨lead + n, lead + n⟩ :: ·)
    let (a, b) := (lo / size, hi / size)
    if a = b then inBlock a (lo % size) (hi % size)
    else
      let fromStart := lo % size = 0
      let toEnd := hi % size = size - 1
      let first := if fromStart then a else a + 1
      let stop := if toEnd then b + 1 else b
      (if fromStart then [] else inBlock a (lo % size) (size - 1)) ++
      (if first < stop then
        [⟨lead + first, lead + stop - 1⟩ :: List.replicate (more + 1) ⟨0x80, 0xBF⟩]
      else []) ++
      (if toEnd then [] else inBlock b 0 (hi % size))

structure Length where
  lead : Nat
  more : Nat
  lo : Nat
  hi : Nat

def lengths : List Length :=
  [⟨0, 0, 0, 0x7F⟩, ⟨0xC0, 1, 0x80, 0x7FF⟩, ⟨0xE0, 2, 0x800, 0xFFFF⟩, ⟨0xF0, 3, 0x10000, 0x10FFFF⟩]

def sequences (lo hi : Nat) : List Sequence :=
  lengths.flatMap fun l =>
    if max lo l.lo ≤ min hi l.hi then blocks l.lead l.more (max lo l.lo) (min hi l.hi) else []

end FeatureFlags.Unicode.Utf8
