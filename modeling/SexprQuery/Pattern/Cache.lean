import SexprQuery.Pattern.Parser

/-!
# A cache of parsed patterns

Texts that have been parsed with success, and what they parse to. The cache
holds at most 256 texts: when it is full, a further text empties it first. Faults
are not kept, and looking up never gives another answer than parsing.
-/

namespace SexprQuery

/-- Texts and their patterns, latest first. -/
structure PatternCache where
  entries : List (String × Option Pattern)

namespace PatternCache

/-- The most texts that a cache holds. -/
def capacity : Nat := 256

/-- No texts. -/
def empty : PatternCache := ⟨[]⟩

/-- The number of texts. -/
def size (c : PatternCache) : Nat := c.entries.length

/-- What is kept for a text. -/
def find? (c : PatternCache) (text : String) : Option (Option Pattern) :=
  (c.entries.find? fun e => e.1 = text).map Prod.snd

/-- Keep a text that is not there yet. -/
def insert (c : PatternCache) (text : String) (p : Option Pattern) : PatternCache :=
  if c.size < capacity then ⟨(text, p) :: c.entries⟩ else ⟨[(text, p)]⟩

/-- The pattern of a text, from the cache or by parsing, and the cache behind it. -/
def get (c : PatternCache) (text : String) : Except PatternError (Option Pattern) × PatternCache :=
  match c.find? text with
  | some p => (.ok p, c)
  | none =>
    match Pattern.parse text with
    | .ok p => (.ok p, c.insert text p)
    | .error e => (.error e, c)

/-- Forget all texts. -/
def clear (_ : PatternCache) : PatternCache := empty

/-! ## Uses in a row -/

/-- What can be done with a cache. -/
inductive Use where
  | get (text : String)
  | clear
deriving DecidableEq, Repr

/-- The cache behind a use of it. -/
def step (c : PatternCache) : Use → PatternCache
  | .get text => (c.get text).2
  | .clear => c.clear

/-- The cache behind some uses of it. -/
def after (c : PatternCache) (uses : List Use) : PatternCache := uses.foldl step c

/-- What the lookups among some uses give. -/
def answers (c : PatternCache) : List Use → List (Except PatternError (Option Pattern))
  | [] => []
  | .get text :: rest => (c.get text).1 :: (c.step (.get text)).answers rest
  | .clear :: rest => (c.step .clear).answers rest

end PatternCache
end SexprQuery
