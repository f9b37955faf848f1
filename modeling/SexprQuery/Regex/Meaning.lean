import SexprQuery.Regex.Basic
import SexprQuery.Regex.Parser
import SexprQuery.Unicode.Age
import SexprQuery.Unicode.Break
import SexprQuery.Unicode.CaseFolding
import SexprQuery.Unicode.Script

/-!
# What a regular expression means

A tree is turned into a `Regex` under the flags in force: every class becomes a
set of characters and every anchor a condition on the characters around a place.
A group restores the flags at its end; a change of flags inside it holds up to
there, across its branches.

Some expressions have no meaning for text: without the Unicode flag a class must
keep to the ASCII characters, since a single byte beyond them is no character.
-/

namespace SexprQuery.Regex

open Unicode

/-- The flags in force. -/
structure Flags where
  ignoreCase : Bool
  multiLine : Bool
  dotAll : Bool
  swapGreed : Bool
  unicode : Bool
  crlf : Bool

/-- The flags at the start. -/
def Flags.initial : Flags := ⟨false, false, false, false, true, false⟩

/-- Set one flag. Blanks matter to the reading of the source only. -/
def Flags.apply (f : Flags) (s : FlagSetting) : Flags :=
  match s.flag with
  | .ignoreCase => { f with ignoreCase := s.on }
  | .multiLine => { f with multiLine := s.on }
  | .dotAll => { f with dotAll := s.on }
  | .unicode => { f with unicode := s.on }
  | .crlf => { f with crlf := s.on }
  | .swapGreed => { f with swapGreed := s.on }
  | .ignoreBlanks => f

/-! ## Sets -/

/-- A set with both cases of every ASCII letter in it. -/
def foldAsciiCase (s : CharSet) : CharSet :=
  s.union (CharSet.ofRanges <| (List.range 26).flatMap fun i =>
    if s.contains (0x41 + i) || s.contains (0x61 + i) then
      [(0x41 + i, 0x41 + i), (0x61 + i, 0x61 + i)]
    else [])

/-- The set up to case, where case is ignored. -/
def Flags.fold (f : Flags) (s : CharSet) : CharSet :=
  if f.ignoreCase then (if f.unicode then foldCase s else foldAsciiCase s) else s

/-- The complement: of bytes, where single bytes are meant. -/
def Flags.negate (f : Flags) (s : CharSet) : CharSet :=
  if f.unicode then s.compl else (CharSet.ofRanges [(0, 0xFF)]).diff s

/-- Fold, then negate where asked to; bytes past ASCII are no characters. -/
def Flags.close? (f : Flags) (negated : Bool) (s : CharSet) : Option CharSet :=
  let folded := f.fold s
  let result := if negated then f.negate folded else folded
  if f.unicode || result.isAscii then some result else none

/-- The set of a class with a letter of its own. -/
def PerlClass.set (unicode : Bool) : PerlClass → CharSet
  | .digit => if unicode then categorySet ["Nd"] else CharSet.ofRanges [(0x30, 0x39)]
  | .space =>
    if unicode then (propertyNamed? "whitespace").getD CharSet.empty
    else CharSet.ofRanges [(0x09, 0x0D), (0x20, 0x20)]
  | .word =>
    if unicode then wordSet
    else CharSet.ofRanges [(0x30, 0x39), (0x41, 0x5A), (0x5F, 0x5F), (0x61, 0x7A)]

/-- The set that a query asks for. A bare name is a property, a category or a
script, tried in that order; three short names are categories in any case. -/
def UnicodeQuery.set? : UnicodeQuery → Option CharSet
  | .name spelling =>
    let plain := plainName spelling
    let property := if plain = "cf" ∨ plain = "sc" ∨ plain = "lc" then none else propertyNamed? plain
    property <|> categoryNamed? plain <|> (scriptNamed? plain).map scriptSet
  | .value property wanted =>
    let property := plainName property
    let wanted := plainName wanted
    if property = "gc" ∨ property = "generalcategory" then categoryNamed? wanted
    else if property = "sc" ∨ property = "script" then (scriptNamed? wanted).map scriptSet
    else if property = "scx" ∨ property = "scriptextensions" then
      (scriptNamed? wanted).map scriptExtensionSet
    else if property = "age" then ageNamed? wanted
    else if property = "gcb" ∨ property = "graphemeclusterbreak" then graphemeBreakNamed? wanted
    else if property = "wb" ∨ property = "wordbreak" then wordBreakNamed? wanted
    else if property = "sb" ∨ property = "sentencebreak" then sentenceBreakNamed? wanted
    else none

/-- The set of a class that is a single item. -/
def ClassAtom.set? (f : Flags) : ClassAtom → Option CharSet
  | .perl kind negated =>
    let s := kind.set f.unicode
    let result := if negated then f.negate s else s
    if f.unicode || result.isAscii then some result else none
  | .unicode query negated =>
    if f.unicode then do f.close? negated (← query.set?) else none

/-- The code point of a literal in a class; without the Unicode flag it has to be a
single byte. -/
def Literal.inClass? (f : Flags) (c : Literal) : Option Nat :=
  if f.unicode || c.char.toNat < 0x80 then some c.char.toNat else none

mutual
/-- The set of the inside of a class. -/
def ClassExpr.set? (f : Flags) : ClassExpr → Option CharSet
  | .literal c => (c.inClass? f).map fun n => CharSet.ofRanges [(n, n)]
  | .range lo hi => do
    let a ← lo.inClass? f
    let b ← hi.inClass? f
    return CharSet.ofRanges [(a, b)]
  | .ascii ranges negated => f.close? negated (CharSet.ofRanges ranges)
  | .atom a => a.set? f
  | .union items => unionSet? f items
  | .binary op a b => do
    let s := f.fold (← a.set? f)
    let t := f.fold (← b.set? f)
    return match op with
      | .inter => s.inter t
      | .diff => s.diff t
      | .symmDiff => s.symmDiff t
  | .bracketed negated body => do f.close? negated (← body.set? f)
termination_by structural e => e

/-- The set of several items together. -/
def unionSet? (f : Flags) : List ClassExpr → Option CharSet
  | [] => some CharSet.empty
  | e :: es => do
    let s ← e.set? f
    let t ← unionSet? f es
    return s.union t
termination_by structural es => es
end

/-! ## Expressions -/

/-- The condition of an anchor. -/
def Anchor.look (f : Flags) : Anchor → Look
  | .startLine => if f.multiLine then .lineStart f.crlf else .start
  | .endLine => if f.multiLine then .lineStop f.crlf else .stop
  | .startText => .start
  | .endText => .stop
  | .wordBoundary => .wordBoundary f.unicode
  | .notWordBoundary => .notWordBoundary f.unicode
  | .wordStart => .wordStart f.unicode
  | .wordEnd => .wordEnd f.unicode
  | .wordStartHalf => .wordStartHalf f.unicode
  | .wordEndHalf => .wordEndHalf f.unicode

/-- The set of a dot: every character, the ends of lines left out unless a flag takes
them in. -/
def Flags.dot? (f : Flags) : Option CharSet :=
  if !f.unicode then none
  else if f.dotAll then some CharSet.all
  else if f.crlf then some (CharSet.ofRanges [(0x0A, 0x0A), (0x0D, 0x0D)]).compl
  else some (CharSet.single '\n').compl

/-- The meaning of a literal: a set where it has other cases that count. Without the
Unicode flag a two-digit escape past ASCII is a byte, and no character. -/
def Literal.meaning? (f : Flags) (c : Literal) : Option Regex :=
  if !f.unicode && c.byte && 0x80 ≤ c.char.toNat then none
  else some (ofSet (f.fold (CharSet.single c.char)) !f.unicode)

/-- The meaning of a count: the flag swaps greedy and lazy. -/
def Flags.greedy (f : Flags) (count : Count) : Bool := count.greedy != f.swapGreed

mutual
/-- The meaning of a tree under the flags in force, and the flags behind it. -/
def Ast.meaning? (f : Flags) : Ast → Option (Regex × Flags)
  | .empty => some (.empty, f)
  | .flags settings => some (.empty, settings.foldl Flags.apply f)
  | .literal c => (c.meaning? f).map fun r => (r, f)
  | .dot => f.dot?.map fun s => (ofSet s false, f)
  | .anchor a => some (.look (a.look f), f)
  | .named a => (a.set? f).map fun s => (ofSet s !f.unicode, f)
  | .brackets negated body => do
    let s ← f.close? negated (← body.set? f)
    return (ofSet s !f.unicode, f)
  | .repetition body count => do
    let (r, f) ← body.meaning? f
    return (repeated r count.least count.most (f.greedy count), f)
  | .group captures settings body => do
    let (r, _) ← body.meaning? (settings.foldl Flags.apply f)
    return (if captures then .group r else r, f)
  | .concat parts => do
    let (rs, f) ← meanings? f parts
    return (Regex.concat rs, f)
  | .alternation branches => do
    let (rs, f) ← meanings? f branches
    return (alternate rs, f)
termination_by structural a => a

/-- The meanings of several trees in their order. -/
def meanings? (f : Flags) : List Ast → Option (List Regex × Flags)
  | [] => some ([], f)
  | a :: as => do
    let (r, f) ← a.meaning? f
    let (rs, f) ← meanings? f as
    return (r :: rs, f)
termination_by structural as => as
end

/-- The expression that a source stands for. There is none where the source is not
well formed or has no meaning for text. -/
def ofSource? (source : String) : Option Regex := do
  let (r, _) ← (← parse? source).meaning? Flags.initial
  return r

end SexprQuery.Regex
