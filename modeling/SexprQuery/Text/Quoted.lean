import SexprQuery.Unicode.Recent

/-!
# Quoted text in messages

A message that quotes a text puts it between double quotes on one line and shows
every character of it: quotes and backslashes behind a backslash, line breaks and
tabs by their letters, and by its number whatever would not be seen by itself —
controls, blanks other than the space, unassigned characters, fillers that a
display leaves out, and marks that join the character in front of them.
-/

namespace SexprQuery

/-- The categories of characters that are not seen. -/
def hiddenCategories : List String := ["Cc", "Cf", "Cs", "Co", "Cn", "Zl", "Zp", "Zs"]

/-- The two voicing marks of half width. They extend the character in front of them
and yet take a place of their own. -/
def voicingMarks : Unicode.CharSet := Unicode.CharSet.ofRanges [(0xFF9E, 0xFF9F)]

/-- The marks and fillers that are not seen by themselves. -/
def unseenMarks : Unicode.CharSet :=
  Unicode.ignorableSet.union (Unicode.graphemeExtendSet.diff voicingMarks)

/-- True for a character that is seen by itself. -/
def isVisible (c : Char) : Bool :=
  c = ' ' || Unicode.recentlyVisibleSet.contains c.toNat ||
    !(hiddenCategories.contains (Unicode.category c) || unseenMarks.contains c.toNat)

/-- A character as it stands in a quoted text. -/
def quotedChar (c : Char) : List Char :=
  match c with
  | '"' => ['\\', '"']
  | '\\' => ['\\', '\\']
  | '\n' => ['\\', 'n']
  | '\r' => ['\\', 'r']
  | '\t' => ['\\', 't']
  | '\x00' => ['\\', '0']
  | c => if isVisible c then [c] else "\\u\x7b".toList ++ Nat.toDigits 16 c.toNat ++ ['\x7d']

/-- A text between quotes. -/
def quotedText (text : String) : String :=
  "\"" ++ String.ofList (text.toList.flatMap quotedChar) ++ "\""

end SexprQuery
