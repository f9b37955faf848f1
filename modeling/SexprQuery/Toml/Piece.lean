import SexprQuery.Toml.Parser

/-!
# Pieces of a faulty text

A text that is no document is still cut into pieces: strings, bare words, signs,
comments and line ends. Every text can be cut: a string that is never closed ends with
its line, or with the text if it may run over lines. Blanks are no pieces of their own;
a piece says whether one stands before it.
-/

namespace SexprQuery.Toml

/-- A piece of a text. -/
inductive Piece where
  /-- Characters in a row that mean nothing by themselves. -/
  | bare (text : String)
  /-- A string of one of the four forms, by what it stands for. -/
  | quoted (text : String)
  /-- A dot, an equals sign, a comma or a bracket. -/
  | sign (c : Char)
  | comment
  | lineEnd
deriving DecidableEq, Repr

/-- A piece with the word whether a blank stands before it. -/
structure Placed where
  piece : Piece
  spaced : Bool
deriving DecidableEq, Repr

/-- A character that is a piece of its own. -/
def isSign (c : Char) : Bool :=
  c == '.' || c == '=' || c == ',' || c == '[' || c == ']' || c == '\x7b' || c == '\x7d'

/-- A character that ends a bare word. Quotes do not. -/
def endsBare (c : Char) : Bool :=
  isSign c || c == ' ' || c == '\t' || c == '\n' || c == '\r' || c == '#'

/-- The characters behind a string, from behind its opening quotes. A backslash in
double quotes keeps a quote or a backslash behind it from its meaning. -/
def behindString (quote : Char) (multi : Bool) : List Char → List Char
  | [] => []
  | c :: rest =>
    if c = '\n' ∧ !multi then c :: rest
    else if c = '\\' ∧ quote = '"' then
      match rest with
      | '\\' :: rest => behindString quote multi rest
      | '"' :: rest => behindString quote multi rest
      | rest => behindString quote multi rest
    else if c = quote then
      if !multi then rest
      else match rest with
        | d :: e :: behind =>
          if d = quote ∧ e = quote then (closeQuotes quote behind).2
          else behindString quote multi (d :: e :: behind)
        | rest => behindString quote multi rest
    else behindString quote multi rest

/-- The characters behind a string that starts with a quote. -/
def behindQuote (quote : Char) : List Char → List Char
  | a :: b :: rest =>
    if a = quote ∧ b = quote then behindString quote true rest
    else behindString quote false (a :: b :: rest)
  | rest => behindString quote false rest

/-- What a string stands for, or else its characters. -/
def stringText (cs : List Char) : String :=
  match quoted? cs with
  | some (text, []) => text
  | _ => String.ofList cs

/-- Cut a text into pieces; `spaced` says whether a blank stands in front. `fuel` bounds
the steps; each one takes at least one character. -/
def piecesFrom : Nat → Bool → List Char → List Placed
  | 0, _, _ => []
  | _, _, [] => []
  | fuel + 1, spaced, c :: rest =>
    if c = ' ' ∨ c = '\t' then piecesFrom fuel true rest
    else if c = '\n' then ⟨.lineEnd, spaced⟩ :: piecesFrom fuel false rest
    else if c = '\r' then
      ⟨.lineEnd, spaced⟩ :: piecesFrom fuel false
        (match rest with
          | '\n' :: rest => rest
          | rest => rest)
    else if c = '#' then
      ⟨.comment, spaced⟩ ::
        piecesFrom fuel false (rest.dropWhile fun d => d != '\n' && d != '\r')
    else if isSign c then ⟨.sign c, spaced⟩ :: piecesFrom fuel false rest
    else if c = '"' ∨ c = '\'' then
      let behind := behindQuote c rest
      let own := (c :: rest).take (rest.length + 1 - behind.length)
      ⟨.quoted (stringText own), spaced⟩ :: piecesFrom fuel false behind
    else
      let own := (c :: rest).takeWhile fun d => !endsBare d
      ⟨.bare (String.ofList own), spaced⟩ ::
        piecesFrom fuel false ((c :: rest).dropWhile fun d => !endsBare d)

/-- The pieces of a text. -/
def pieces (cs : List Char) : List Placed := piecesFrom (cs.length + 1) false cs

end SexprQuery.Toml
