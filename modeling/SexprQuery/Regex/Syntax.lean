import SexprQuery.Unicode.CharSet

/-!
# The syntax of regular expressions

The tree of a regular expression as it is written, before flags are applied.
Which set a class stands for, and where an anchor holds, depends on the flags in
force at its place; see `Regex.Meaning`.
-/

namespace SexprQuery.Regex

/-- The letters of `(?…)`. -/
inductive Flag where
  | ignoreCase
  | multiLine
  | dotAll
  | swapGreed
  | unicode
  | crlf
  | ignoreBlanks
deriving DecidableEq, Repr

/-- A flag with what it is set to. -/
structure FlagSetting where
  flag : Flag
  on : Bool
deriving DecidableEq, Repr

/-- A literal character; `byte` says it was written with exactly two hexadecimal
digits and so may stand for a byte. -/
structure Literal where
  char : Char
  byte : Bool
deriving DecidableEq, Repr

/-- The classes named by a single letter. -/
inductive PerlClass where
  | digit
  | space
  | word
deriving DecidableEq, Repr

/-- How a Unicode class is asked for. -/
inductive UnicodeQuery where
  | name (name : String)
  | value (property value : String)
deriving DecidableEq, Repr

/-- A class that is a single item. -/
inductive ClassAtom where
  | perl (kind : PerlClass) (negated : Bool)
  | unicode (query : UnicodeQuery) (negated : Bool)
deriving DecidableEq, Repr

/-- The operations between two halves of a class. -/
inductive ClassOp where
  | inter
  | diff
  | symmDiff
deriving DecidableEq, Repr

/-- What stands between brackets. -/
inductive ClassExpr where
  | literal (c : Literal)
  | range (lo hi : Literal)
  /-- A named ASCII class, as its ranges. -/
  | ascii (ranges : List (Nat × Nat)) (negated : Bool)
  | atom (a : ClassAtom)
  | union (items : List ClassExpr)
  | binary (op : ClassOp) (a b : ClassExpr)
  | bracketed (negated : Bool) (body : ClassExpr)

/-- The assertions that hold between characters. -/
inductive Anchor where
  | startLine
  | endLine
  | startText
  | endText
  | wordBoundary
  | notWordBoundary
  | wordStart
  | wordEnd
  | wordStartHalf
  | wordEndHalf
deriving DecidableEq, Repr

/-- How often something comes. A greedy repetition tries more rounds before fewer. -/
structure Count where
  least : Nat
  /-- No bound where there is none. -/
  most : Option Nat
  greedy : Bool
deriving DecidableEq, Repr

/-- A regular expression as written. -/
inductive Ast where
  | empty
  | flags (settings : List FlagSetting)
  | literal (c : Literal)
  | dot
  | anchor (a : Anchor)
  | named (a : ClassAtom)
  | brackets (negated : Bool) (body : ClassExpr)
  | repetition (body : Ast) (count : Count)
  /-- A group, with the flags that hold inside it only; `captures` says whether what
  it matches is remembered. -/
  | group (captures : Bool) (settings : List FlagSetting) (body : Ast)
  | concat (parts : List Ast)
  | alternation (branches : List Ast)

end SexprQuery.Regex
