import SexprQuery.Regex.Syntax
import SexprQuery.Text.Blank
import SexprQuery.Text.Decimal
import SexprQuery.Unicode.Recent

/-!
# Pieces of a regular expression

A regular expression is first cut into pieces: single items, the opening and the
closing of groups, bars, and repetition signs. Each function here takes the
characters that are left and gives what it has read with the characters behind
it, or nothing where the text is not well formed.

With the flag `x` in force, blanks and comments between the parts of a piece do
not count; the argument `x` says whether it is.
-/

namespace SexprQuery.Regex

/-! ## Blanks -/

/-- Skip blanks, and comments from `#` to the end of the line. -/
def skipBlanks (inComment : Bool) : List Char → List Char
  | [] => []
  | c :: cs =>
    if inComment then skipBlanks (c != '\n') cs
    else if isBlank c then skipBlanks false cs
    else if c = '#' then skipBlanks true cs
    else c :: cs

/-- Skip what does not count where `x` is in force. -/
def skip (x : Bool) (cs : List Char) : List Char := if x then skipBlanks false cs else cs

theorem length_skipBlanks_le (b : Bool) (cs : List Char) :
    (skipBlanks b cs).length ≤ cs.length := by
  induction cs generalizing b with
  | nil => simp [skipBlanks]
  | cons c cs ih =>
    unfold skipBlanks
    have h1 := ih (c != '\n')
    have h2 := ih false
    have h3 := ih true
    repeat' split
    all_goals simp only [List.length_cons]
    all_goals omega

theorem length_skip_le (x : Bool) (cs : List Char) : (skip x cs).length ≤ cs.length := by
  unfold skip
  split
  · exact length_skipBlanks_le false cs
  · exact Nat.le_refl _

/-- The characters that pass a test, from the front, with what does not count
skipped behind each. -/
def takeSpaced (x : Bool) (test : Char → Bool) (cs : List Char) : List Char × List Char :=
  match cs with
  | [] => ([], [])
  | c :: rest =>
    if test c then
      let (taken, behind) := takeSpaced x test (skip x rest)
      (c :: taken, behind)
    else ([], c :: rest)
termination_by cs.length
decreasing_by
  have := length_skip_le x rest
  simp only [List.length_cons]
  omega

/-- The text behind a sign, where that is at the front. -/
def behind? : List Char → List Char → Option (List Char)
  | [], cs => some cs
  | _ :: _, [] => none
  | c :: sign, d :: cs => if c = d then behind? sign cs else none

/-! ## Escapes -/

/-- The characters that have a meaning of their own. -/
def isMeta (c : Char) : Bool := "\\.+*?()|[]\x7b\x7d^$#&-~".toList.contains c

/-- The characters that may stand behind a backslash for themselves: the ASCII
characters other than letters, digits and angle brackets. -/
def isEscapable (c : Char) : Bool :=
  isMeta c || (c.toNat < 0x80 && !c.isAlphanum && c != '<' && c != '>')

/-- What an escape, or a plain character in a class, can be. -/
inductive Item where
  | literal (c : Literal)
  | anchor (a : Anchor)
  | named (a : ClassAtom)

/-- Exactly this many hexadecimal digits. -/
def hexDigits? (x : Bool) : Nat → List Char → Option (List Char × List Char)
  | 0, cs => some ([], cs)
  | n + 1, cs =>
    match skip x cs with
    | c :: rest =>
      if Hexadecimal.isDigit c then (hexDigits? x n rest).map fun (ds, behind) => (c :: ds, behind)
      else none
    | [] => none

/-- The rest of a character by its number, behind an opening brace. -/
def bracedHex? (x : Bool) (cs : List Char) : Option (Item × List Char) :=
  let (ds, behind) := takeSpaced x Hexadecimal.isDigit (skip x cs)
  match behind with
  | '\x7d' :: behind =>
    if ds.isEmpty then none
    else (Hexadecimal.character? ds).map fun c => (.literal ⟨c, false⟩, behind)
  | _ => none

/-- A character by its number, in as many digits as the letter asks for. -/
def fixedHex? (x : Bool) (letter : Char) (cs : List Char) : Option (Item × List Char) := do
  let count := if letter = 'x' then 2 else if letter = 'u' then 4 else 8
  let (ds, behind) ← hexDigits? x count cs
  let c ← Hexadecimal.character? ds
  return (.literal ⟨c, letter = 'x'⟩, behind)

/-- The rest of `\x`, `\u` or `\U`: digits between braces, or as many as the letter
asks for. -/
def hexEscape? (x : Bool) (letter : Char) (cs : List Char) : Option (Item × List Char) :=
  match skip x cs with
  | '\x7b' :: rest => bracedHex? x rest
  | cs => fixedHex? x letter cs

/-- What stands before the first place where a sign is found, and what stands behind the
sign. -/
def cutAt? (sign : List Char) : List Char → Option (List Char × List Char)
  | [] => none
  | c :: cs =>
    if sign.isPrefixOf (c :: cs) then some ([], (c :: cs).drop sign.length)
    else (cutAt? sign cs).map fun (before, behind) => (c :: before, behind)

/-- A query between braces: a name, or a property and a value with `=`, `:` or `!=`
between. The flag says whether the sign negates. -/
def unicodeQuery (name : String) : UnicodeQuery × Bool :=
  let cut (sign : String) : Option (String × String) :=
    (cutAt? sign.toList name.toList).map fun (p, v) => (String.ofList p, String.ofList v)
  match cut "!=" with
  | some (p, v) => (.value p v, true)
  | none =>
    match cut ":" with
    | some (p, v) => (.value p v, false)
    | none =>
      match cut "=" with
      | some (p, v) => (.value p v, false)
      | none => (.name name, false)

/-- The rest of a query behind its opening brace. -/
def bracedQuery? (x : Bool) (negated : Bool) (cs : List Char) : Option (Item × List Char) :=
  let (name, behind) := takeSpaced x (· != '\x7d') (skip x cs)
  match behind with
  | [] => none
  | _ :: behind =>
    let (query, inverse) := unicodeQuery (String.ofList name)
    some (.named (.unicode query (negated != inverse)), behind)

/-- The rest of `\p` or `\P`: one letter, or a query between braces. -/
def unicodeEscape? (x : Bool) (negated : Bool) (cs : List Char) : Option (Item × List Char) :=
  match skip x cs with
  | [] => none
  | '\x7b' :: rest => bracedQuery? x negated rest
  | '\\' :: _ => none
  | c :: rest => some (.named (.unicode (.name (String.singleton c)) negated), rest)

/-- A kind of word boundary by its name. -/
def boundaryNamed? (name : String) : Option Anchor :=
  if name = "start" then some .wordStart
  else if name = "end" then some .wordEnd
  else if name = "start-half" then some .wordStartHalf
  else if name = "end-half" then some .wordEndHalf
  else none

/-- A character of the name of a word boundary. -/
def isBoundaryLetter (c : Char) : Bool := c.isAlpha || c == '-'

/-- The name of a word boundary and the closing brace. -/
def bracedBoundary? (x : Bool) (cs : List Char) : Option (Item × List Char) :=
  let (name, behind) := takeSpaced x isBoundaryLetter cs
  match behind with
  | '\x7d' :: behind => (boundaryNamed? (String.ofList name)).map fun a => (.anchor a, behind)
  | _ => none

/-- The rest of `\b`: a brace with letters in it names a kind of word boundary; any
other brace is left for a repetition. -/
def boundaryEscape? (x : Bool) (cs : List Char) : Option (Item × List Char) :=
  match cs with
  | '\x7b' :: rest =>
    match skip x rest with
    | [] => none
    | c :: inner =>
      if isBoundaryLetter c then bracedBoundary? x (c :: inner)
      else some (.anchor .wordBoundary, cs)
  | _ => some (.anchor .wordBoundary, cs)

/-- A control character with a letter of its own. -/
def controlLetter? : Char → Option Char
  | 'a' => some '\x07'
  | 'f' => some '\x0c'
  | 't' => some '\t'
  | 'n' => some '\n'
  | 'r' => some '\r'
  | 'v' => some '\x0b'
  | _ => none

/-- An anchor with a character of its own. -/
def anchorLetter? : Char → Option Anchor
  | 'A' => some .startText
  | 'z' => some .endText
  | 'B' => some .notWordBoundary
  | '<' => some .wordStart
  | '>' => some .wordEnd
  | _ => none

/-- A class with a letter of its own. -/
def classLetter? : Char → Option ClassAtom
  | 'd' => some (.perl .digit false)
  | 's' => some (.perl .space false)
  | 'w' => some (.perl .word false)
  | 'D' => some (.perl .digit true)
  | 'S' => some (.perl .space true)
  | 'W' => some (.perl .word true)
  | _ => none

/-- What stands behind a backslash. References to groups are not known, nor is any
letter without a meaning. -/
def escape? (x : Bool) : List Char → Option (Item × List Char)
  | [] => none
  | c :: rest =>
    if Decimal.isDigit c then none
    else if c = 'x' ∨ c = 'u' ∨ c = 'U' then hexEscape? x c rest
    else if c = 'p' ∨ c = 'P' then unicodeEscape? x (c = 'P') rest
    else if c = 'b' then boundaryEscape? x rest
    else if isEscapable c then some (.literal ⟨c, false⟩, rest)
    else
      match classLetter? c, controlLetter? c, anchorLetter? c with
      | some a, _, _ => some (.named a, rest)
      | none, some d, _ => some (.literal ⟨d, false⟩, rest)
      | none, none, some a => some (.anchor a, rest)
      | none, none, none => none

/-! ## Bracketed classes -/

/-- The ranges of a named ASCII class. -/
def asciiRanges? : String → Option (List (Nat × Nat))
  | "alnum" => some [(0x30, 0x39), (0x41, 0x5A), (0x61, 0x7A)]
  | "alpha" => some [(0x41, 0x5A), (0x61, 0x7A)]
  | "ascii" => some [(0, 0x7F)]
  | "blank" => some [(0x09, 0x09), (0x20, 0x20)]
  | "cntrl" => some [(0, 0x1F), (0x7F, 0x7F)]
  | "digit" => some [(0x30, 0x39)]
  | "graph" => some [(0x21, 0x7E)]
  | "lower" => some [(0x61, 0x7A)]
  | "print" => some [(0x20, 0x7E)]
  | "punct" => some [(0x21, 0x2F), (0x3A, 0x40), (0x5B, 0x60), (0x7B, 0x7E)]
  | "space" => some [(0x09, 0x0D), (0x20, 0x20)]
  | "upper" => some [(0x41, 0x5A)]
  | "word" => some [(0x30, 0x39), (0x41, 0x5A), (0x5F, 0x5F), (0x61, 0x7A)]
  | "xdigit" => some [(0x30, 0x39), (0x41, 0x46), (0x61, 0x66)]
  | _ => none

/-- The rest of a named ASCII class, from its name on. -/
def asciiNamed? (negated : Bool) (cs : List Char) : Option (ClassExpr × List Char) := do
  let behind ← behind? [':', ']'] (cs.dropWhile (· != ':'))
  let ranges ← asciiRanges? (String.ofList (cs.takeWhile (· != ':')))
  return (.ascii ranges negated, behind)

/-- A named ASCII class behind its opening bracket. Where the text is not one, the
bracket opens a class as usual. -/
def asciiClass? (cs : List Char) : Option (ClassExpr × List Char) := do
  let name ← behind? [':'] cs
  match behind? ['^'] name with
  | some name => asciiNamed? true name
  | none => asciiNamed? false name

/-- A class whose closing bracket has not been read: what stands left of the last
operator, and the items behind it, latest first. -/
structure OpenClass where
  negated : Bool
  left : Option (ClassOp × ClassExpr)
  items : List ClassExpr

namespace OpenClass

/-- Add an item. -/
def push (o : OpenClass) (item : ClassExpr) : OpenClass := { o with items := item :: o.items }

/-- Everything so far as one expression: operators bind to the left and equally
strongly. -/
def body (o : OpenClass) : ClassExpr :=
  let right := match o.items with
    | [item] => item
    | items => .union items.reverse
  match o.left with
  | some (op, left) => .binary op left right
  | none => right

/-- Put an operator behind everything so far. -/
def operate (o : OpenClass) (op : ClassOp) : OpenClass :=
  { o with left := some (op, o.body), items := [] }

end OpenClass

/-- A class that has items so far; some text has to follow. -/
def opened? (negated : Bool) (items : List ClassExpr) (cs : List Char) :
    Option (OpenClass × List Char) :=
  if cs.isEmpty then none else some (⟨negated, none, items⟩, cs)

/-- The start of a class behind its bracket and caret: dashes, or a closing bracket,
stand for themselves here. -/
def firstItems? (x negated : Bool) (cs : List Char) : Option (OpenClass × List Char) :=
  let (dashes, behind) := takeSpaced x (· == '-') cs
  match dashes, behind? [']'] behind with
  | [], some rest => opened? negated [.literal ⟨']', false⟩] (skip x rest)
  | dashes, _ => opened? negated (dashes.map fun c => .literal ⟨c, false⟩) behind

/-- The start of a class behind its bracket, where a caret negates. -/
def openClass? (x : Bool) (cs : List Char) : Option (OpenClass × List Char) :=
  match skip x cs with
  | '^' :: rest => firstItems? x true (skip x rest)
  | cs => firstItems? x false cs

/-- The character behind a dash, blanks and the signs of comments not counted. -/
def peekBehind (x : Bool) (cs : List Char) : Option Char :=
  let rec find (inComment : Bool) : List Char → Option Char
    | [] => cs.head?
    | c :: rest =>
      if isBlank c then find inComment rest
      else if !inComment && c == '#' then find true rest
      else some c
  if x then find false cs else cs.head?

/-- One item of a class. -/
def classItem? (x : Bool) : List Char → Option (Item × List Char)
  | [] => none
  | '\\' :: rest => escape? x rest
  | c :: rest => some (.literal ⟨c, false⟩, rest)

/-- An item as a part of a class; anchors have no place there. -/
def Item.classExpr? : Item → Option ClassExpr
  | .literal c => some (.literal c)
  | .named a => some (.atom a)
  | .anchor _ => none

/-- The rest of a range from its dash on. Both ends are literals. -/
def rangeFrom? (x : Bool) (first : Item) (cs : List Char) : Option (ClassExpr × List Char) := do
  let (second, behind) ← classItem? x (skip x cs)
  match first, second with
  | .literal a, .literal b => if a.char ≤ b.char then some (.range a b, behind) else none
  | _, _ => none

/-- An item, or a range of two literals. A dash before a dash or a closing bracket makes
no range. -/
def classRange? (x : Bool) (cs : List Char) : Option (ClassExpr × List Char) := do
  let (first, behind) ← classItem? x cs
  match skip x behind with
  | [] => none
  | c :: rest =>
    let next := peekBehind x rest
    if c ≠ '-' ∨ next = some ']' ∨ next = some '-' then first.classExpr?.map (·, c :: rest)
    else rangeFrom? x first rest

/-- An operator by the character that is written twice for it. -/
def classOp? : Char → Option ClassOp
  | '&' => some .inter
  | '-' => some .diff
  | '~' => some .symmDiff
  | _ => none

/-- An operator between two halves of a class. -/
def operator? : List Char → Option (ClassOp × List Char)
  | c :: d :: rest => if c = d then (classOp? c).map (·, rest) else none
  | _ => none

/-- Read to the end of the outermost open class. `fuel` bounds the steps; each one
reads at least one character. -/
def classLoop? (x : Bool) : Nat → OpenClass → List OpenClass → List Char →
    Option (Ast × List Char)
  | 0, _, _, _ => none
  | fuel + 1, top, outer, cs =>
    match skip x cs with
    | [] => none
    | c :: rest =>
      if c = '[' then
        match asciiClass? rest with
        | some (item, behind) => classLoop? x fuel (top.push item) outer behind
        | none => do
          let (inner, behind) ← openClass? x rest
          classLoop? x fuel inner (top :: outer) behind
      else if c = ']' then
        match outer with
        | [] => some (.brackets top.negated top.body, rest)
        | parent :: outer =>
          classLoop? x fuel (parent.push (.bracketed top.negated top.body)) outer rest
      else
        match operator? (c :: rest) with
        | some (op, behind) => classLoop? x fuel (top.operate op) outer behind
        | none => do
          let (item, behind) ← classRange? x (c :: rest)
          classLoop? x fuel (top.push item) outer behind

/-- A class behind its opening bracket. -/
def class? (x : Bool) (cs : List Char) : Option (Ast × List Char) := do
  let (top, behind) ← openClass? x cs
  classLoop? x (behind.length + 1) top [] behind

/-! ## Groups, repetitions, and all pieces -/

/-- A piece of a regular expression. -/
inductive Piece where
  | item (a : Ast)
  /-- The start of a group, which may have a name. -/
  | opening (captures : Bool) (name : Option (List Char)) (settings : List FlagSetting)
  | closing
  | bar
  | repetition (count : Count)

/-- The letter of a flag. -/
def flagLetter? : Char → Option Flag
  | 'i' => some .ignoreCase
  | 'm' => some .multiLine
  | 's' => some .dotAll
  | 'U' => some .swapGreed
  | 'u' => some .unicode
  | 'R' => some .crlf
  | 'x' => some .ignoreBlanks
  | _ => none

/-- Flags up to a colon, which opens a group, or up to a closing parenthesis. Behind a dash
they are switched off; no flag comes twice, and a dash comes once and not last. -/
def flags? (settings : List FlagSetting) (on : Bool) (afterDash : Bool) :
    List Char → Option (Piece × List Char)
  | [] => none
  | c :: rest =>
    if c = ':' then if afterDash then none else some (.opening false none settings, rest)
    else if c = ')' then
      if afterDash ∨ settings.isEmpty then none else some (.item (.flags settings), rest)
    else if c = '-' then if on then flags? settings false true rest else none
    else do
      let flag ← flagLetter? c
      if settings.any fun s => s.flag = flag then none
      else flags? (settings ++ [⟨flag, on⟩]) on false rest

/-- A letter. The table is for the characters past ASCII. -/
def isLetter (c : Char) : Bool :=
  c.isAlpha || (0x7F < c.toNat && Unicode.letterSet.contains c.toNat)

/-- A character that stands for a number. -/
def isNumeric (c : Char) : Bool :=
  c.isDigit || (0x7F < c.toNat && Unicode.numberSet.contains c.toNat)

/-- A character of a group's name. -/
def isNameChar (first : Bool) (c : Char) : Bool :=
  c == '_' || isLetter c || (!first && (c == '.' || c == '[' || c == ']' || isNumeric c))

/-- A group with a name, behind its opening angle bracket. -/
def namedGroup? (cs : List Char) : Option (Piece × List Char) :=
  let name := cs.takeWhile (· != '>')
  match cs.dropWhile (· != '>'), name with
  | _ :: behind, c :: more =>
    if isNameChar true c && more.all (isNameChar false) then
      some (.opening true (some name) [], behind)
    else none
  | _, _ => none

/-- What stands behind an opening parenthesis and a question mark. There is no looking
ahead or behind: the signs for it are no flags and start no name. -/
def specialGroup? (cs : List Char) : Option (Piece × List Char) :=
  match behind? ['<'] cs <|> behind? ['P', '<'] cs with
  | some name => namedGroup? name
  | none => flags? [] true false cs

/-- What stands behind an opening parenthesis. -/
def group? (x : Bool) (cs : List Char) : Option (Piece × List Char) :=
  match skip x cs with
  | '?' :: rest => specialGroup? rest
  | behind => some (.opening true none [], behind)

/-- A count of at most 32 bits, blanks around it not counted. -/
def count? (x : Bool) (cs : List Char) : Option Nat × List Char :=
  let (ds, behind) := takeSpaced x Decimal.isDigit (cs.dropWhile isBlank)
  let n := Decimal.value ds
  (if ds.isEmpty ∨ UInt32.size ≤ n then none else some n, behind.dropWhile isBlank)

/-- A repetition behind its sign, where a question mark makes it lazy. -/
def lazily (least : Nat) (most : Option Nat) : List Char → Piece × List Char
  | '?' :: rest => (.repetition ⟨least, most, false⟩, rest)
  | rest => (.repetition ⟨least, most, true⟩, rest)

/-- The closing brace of a counted repetition. -/
def closeCount? (x : Bool) (least : Nat) (most : Option Nat) :
    List Char → Option (Piece × List Char)
  | '\x7d' :: rest => some (lazily least most (skip x rest))
  | _ => none

/-- A counted repetition behind its comma, where its first count is given. -/
def boundedCount? (x : Bool) (start : Option Nat) (cs : List Char) : Option (Piece × List Char) :=
  match skip x cs with
  | '\x7d' :: rest => start.map fun m => lazily m none (skip x rest)
  | cs => do
    let (stop, behind) := count? x cs
    let m ← start
    let n ← stop
    if m ≤ n then closeCount? x m (some n) behind else none

/-- A counted repetition behind its opening brace. -/
def counted? (x : Bool) (cs : List Char) : Option (Piece × List Char) :=
  let (start, behind) := count? x (skip x cs)
  match behind with
  | ',' :: rest => boundedCount? x start rest
  | behind => start.bind fun n => closeCount? x n (some n) behind

/-- An item outside brackets. -/
def Item.ast : Item → Ast
  | .literal c => .literal c
  | .anchor a => .anchor a
  | .named a => .named a

/-- The piece that a single character is. -/
def charPiece : Char → Piece
  | ')' => .closing
  | '|' => .bar
  | '.' => .item .dot
  | '^' => .item (.anchor .startLine)
  | '$' => .item (.anchor .endLine)
  | c => .item (.literal ⟨c, false⟩)

/-- The next piece of a text that is not empty. -/
def piece? (x : Bool) : List Char → Option (Piece × List Char)
  | [] => none
  | c :: rest =>
    if c = '(' then group? x rest
    else if c = '[' then (class? x rest).map fun (a, behind) => (.item a, behind)
    else if c = '\\' then (escape? x rest).map fun (item, behind) => (.item item.ast, behind)
    else if c = '?' then some (lazily 0 (some 1) rest)
    else if c = '*' then some (lazily 0 none rest)
    else if c = '+' then some (lazily 1 none rest)
    else if c = '\x7b' then counted? x rest
    else some (charPiece c, rest)

/-- What settings do to `x`. -/
def blanksAfter (x : Bool) (settings : List FlagSetting) : Bool :=
  match settings.find? fun s => s.flag = .ignoreBlanks with
  | some s => s.on
  | none => x

/-- What a piece does to `x`: what holds for the groups around the current one comes back
where that is closed. The outermost one is not closed. -/
def Piece.scope? (x : Bool) (outer : List Bool) : Piece → Option (Bool × List Bool)
  | .item (.flags settings) => some (blanksAfter x settings, outer)
  | .opening _ _ settings => some (blanksAfter x settings, x :: outer)
  | .closing =>
    match outer with
    | [] => none
    | y :: outer => some (y, outer)
  | _ => some (x, outer)

/-- The names of groups up to a piece, where the names before it are given. A name comes
once. -/
def Piece.names? (names : List (List Char)) : Piece → Option (List (List Char))
  | .opening _ (some name) _ => if names.contains name then none else some (name :: names)
  | _ => some names

/-- All pieces of a text. `outer` holds `x` for the groups around the current one
and `names` the names of groups so far. `fuel` bounds the pieces; each one has at least
one character. -/
def piecesLoop? : Nat → Bool → List Bool → List (List Char) → List Char → Option (List Piece)
  | 0, _, _, _, _ => none
  | fuel + 1, x, outer, names, cs =>
    match skip x cs with
    | [] => some []
    | cs => do
      let (piece, behind) ← piece? x cs
      let names ← piece.names? names
      let (x, outer) ← piece.scope? x outer
      let pieces ← piecesLoop? fuel x outer names behind
      return piece :: pieces

/-- All pieces of a regular expression. -/
def pieces? (cs : List Char) : Option (List Piece) := piecesLoop? (cs.length + 1) false [] [] cs

end SexprQuery.Regex
