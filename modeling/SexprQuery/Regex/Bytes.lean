import SexprQuery.Unicode.CharSet

/-!
# Characters as bytes

An automaton that reads text reads it byte by byte. A range of code points is cut
into parts whose encodings differ in a regular way: the encodings of such a part
are all the rows of bytes that take, at each place, one byte of a range. A part is
a `ByteRow`, and the parts come in rising order.
-/

namespace SexprQuery.Regex

open Unicode

/-- A range of bytes. -/
structure ByteRange where
  lo : Nat
  hi : Nat
deriving DecidableEq, Repr

/-- A byte of each range in turn. -/
abbrev ByteRow := List ByteRange

/-- The bytes of a code point. -/
def encode (c : Nat) : List Nat :=
  if c < 0x80 then [c]
  else if c < 0x800 then [0xC0 + c / 64, 0x80 + c % 64]
  else if c < 0x10000 then [0xE0 + c / 4096, 0x80 + c / 64 % 64, 0x80 + c % 64]
  else [0xF0 + c / 262144, 0x80 + c / 4096 % 64, 0x80 + c / 64 % 64, 0x80 + c % 64]

/-- Where a range has to be cut so that its trailing bytes fill whole blocks of `size`:
the last member of its first part. -/
def blockCut? (size lo hi : Nat) : Option Nat :=
  if lo / size = hi / size then none
  else if lo % size ≠ 0 then some (lo / size * size + size - 1)
  else if hi % size ≠ size - 1 then some (hi / size * size - 1)
  else none

/-- Where a range has to be cut at all: between encodings of different lengths first,
then, past ASCII, at the blocks of one, two and three trailing bytes. -/
def cut? (lo hi : Nat) : Option Nat :=
  ([0x7F, 0x7FF, 0xFFFF].find? fun last => lo ≤ last && last < hi) <|>
    if hi ≤ 0x7F then none
    else [64, 4096, 262144].findSome? fun size => blockCut? size lo hi

/-- The parts of a range of code points. -/
def byteRows (lo hi : Nat) : List ByteRow :=
  match cut? lo hi with
  | some last =>
    if lo ≤ last ∧ last < hi then byteRows lo last ++ byteRows (last + 1) hi else []
  | none => [(encode lo).zipWith ByteRange.mk (encode hi)]
termination_by hi - lo

/-- The parts of all ranges of a set. -/
def setRows (s : CharSet) : List ByteRow := s.ranges.flatMap fun r => byteRows r.1 r.2

/-- The bytes of a text. -/
def encodeAll (cs : List Char) : List Nat := cs.flatMap fun c => encode c.toNat

end SexprQuery.Regex
