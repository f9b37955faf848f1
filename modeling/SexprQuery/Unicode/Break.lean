import SexprQuery.Unicode.Property

/-!
# Breaks in text

Where a text can be divided into the characters that a reader sees, into words
and into sentences is told by what kind each code point is of. There is one list
of kinds for each division; a kind is defined like a property, from properties
and from earlier kinds of its list.
-/

namespace SexprQuery.Unicode

/-- The syllables without a final consonant: every twenty-eighth one. -/
def openSyllables : CharSet :=
  CharSet.ofRanges ((List.range 399).map fun k => (0xAC00 + 28 * k, 0xAC00 + 28 * k))

/-- The syllables with a final consonant. -/
def closedSyllables : CharSet := (CharSet.ofRanges [(0xAC00, 0xD7A3)]).diff openSyllables

/-- The kinds that decide where seen characters end, syllables apart. -/
def graphemeBreaks : List Property := [
  ⟨["cr"], [], [], [], ["D"], []⟩,
  ⟨["lf"], [], [], [], ["A"], []⟩,
  ⟨["control", "cn"],
    ["Zl", "Zp", "Cc", "Cf"], [], ["graphemeextend", "prependedconcatenationmark", "joincontrol"],
    ["2065 FFF0-FFF8 E0000 E0002-E001F E0080-E00FF E01F0-E0FFF"],
    ["A D"]⟩,
  ⟨["extend", "ex"], [], ["graphemeextend", "emojimodifier"], [], [], []⟩,
  ⟨["prepend", "pp"], [], ["prependedconcatenationmark"], [],
    ["D4E 111C2-111C3 113D1 1193F 11941 11A3A 11A84-11A89 11D46 11F02"],
    []⟩,
  ⟨["spacingmark", "sm"], ["Mc"], [], ["graphemeextend"],
    ["E33 EB3"],
    [
      "102B-102C 1038 1062-1064 1067-106D 1083 1087-108C 108F 109A-109C 1A61 1A63-1A64 AA7B AA7D",
      "11720-11721"]⟩,
  ⟨["l"], [], [], [], ["1100-115F A960-A97C"], []⟩,
  ⟨["v"], [], [], [], ["1160-11A7 D7B0-D7C6 16D63 16D67-16D6A"], []⟩,
  ⟨["t"], [], [], [], ["11A8-11FF D7CB-D7FB"], []⟩,
  ⟨["regionalindicator", "ri"], [], ["regionalindicator"], [], [], []⟩,
  ⟨["zwj"], [], [], [], ["200D"], []⟩]

/-- The kinds that decide where words end. -/
def wordBreaks : List Property := [
  ⟨["cr"], [], [], [], ["D"], []⟩,
  ⟨["lf"], [], [], [], ["A"], []⟩,
  ⟨["newline", "nl"], [], [], [], ["B-C 85 2028-2029"], []⟩,
  ⟨["extend"], ["Mc"], ["graphemeextend", "emojimodifier"], [], [], []⟩,
  ⟨["zwj"], [], [], [], ["200D"], []⟩,
  ⟨["format", "fo"], ["Cf"], [], ["graphemeextend", "joincontrol"],
    [],
    ["600-605 6DD 70F 890-891 8E2 200B 110BD 110CD"]⟩,
  ⟨["regionalindicator", "ri"], [], ["regionalindicator"], [], [], []⟩,
  ⟨["katakana", "ka"], [], [], [],
    [
      "3031-3035 309B-309C 30A0-30FA 30FC-30FF 31F0-31FF 32D0-32FE 3300-3357 FF66-FF9D",
      "1AFF0-1AFF3 1AFF5-1AFFB 1AFFD-1AFFE 1B000 1B120-1B122 1B155 1B164-1B167"],
    []⟩,
  ⟨["hebrewletter", "hl"], [], [], [],
    [
      "5D0-5EA 5EF-5F2 FB1D FB1F-FB28 FB2A-FB36 FB38-FB3C FB3E FB40-FB41 FB43-FB44 FB46-FB4F"],
    []⟩,
  ⟨["aletter", "le"], [], ["alphabetic"], ["ideographic", "katakana", "hebrewletter", "extend"],
    [
      "2C2-2C5 2D2-2D7 2DE-2DF 2E5-2EB 2ED 2EF-2FF 55A-55C 55E 58A 5F3 70F A708-A716 A720-A721",
      "A789-A78A AB5B"],
    [
      "E01-E30 E32-E33 E40-E46 E81-E82 E84 E86-E8A E8C-EA3 EA5 EA7-EB0 EB2-EB3 EBD EC0-EC4 EC6",
      "EDC-EDF 1000-102A 103F 1050-1055 105A-105D 1061 1065-1066 106E-1070 1075-1081 108E",
      "1780-17B3 17D7 17DC 1950-196D 1970-1974 1980-19AB 19B0-19C9 1A20-1A54 1AA7 3041-3096",
      "309D-309F A9E0-A9E4 A9E6-A9EF A9FA-A9FE AA60-AA76 AA7A AA7E-AAAF AAB1 AAB5-AAB6 AAB9-AABD",
      "AAC0 AAC2 AADB-AADD 11700-1171A 11740-11746 1B001-1B11F 1B132 1B150-1B152"]⟩,
  ⟨["singlequote", "sq"], [], [], [], ["27"], []⟩,
  ⟨["doublequote", "dq"], [], [], [], ["22"], []⟩,
  ⟨["midnumlet", "mb"], [], [], [], ["2E 2018-2019 2024 FE52 FF07 FF0E"], []⟩,
  ⟨["midletter", "ml"], [], [], [], ["3A B7 387 55F 5F4 2027 FE13 FE55 FF1A"], []⟩,
  ⟨["midnum", "mn"], [], [], [], ["2C 3B 37E 589 60C-60D 66C 7F8 2044 FE50 FE54 FF0C FF1B"], []⟩,
  ⟨["numeric", "nu"], ["Nd"], [], [], ["600-605 66B 6DD 890-891 8E2 19DA 110BD 110CD"], []⟩,
  ⟨["extendnumlet", "ex"], ["Pc"], [], [], ["202F"], []⟩,
  ⟨["wsegspace"], ["Zs"], [], [], [], ["A0 2007 202F"]⟩]

/-- The kinds that decide where sentences end. -/
def sentenceBreaks : List Property := [
  ⟨["cr"], [], [], [], ["D"], []⟩,
  ⟨["lf"], [], [], [], ["A"], []⟩,
  ⟨["sep", "se"], [], [], [], ["85 2028-2029"], []⟩,
  ⟨["extend", "ex"], ["Mc"], ["graphemeextend", "joincontrol"], [], [], []⟩,
  ⟨["format", "fo"], ["Cf"], [], ["graphemeextend", "joincontrol"],
    [],
    ["600-605 6DD 890-891 8E2 110BD 110CD"]⟩,
  ⟨["sp"], [], ["whitespace"], ["sep", "cr", "lf"], [], []⟩,
  ⟨["lower", "lo"], [], ["lowercase"], ["extend"], [], ["10D0-10FA 10FD-10FF"]⟩,
  ⟨["upper", "up"], ["Lt"], ["uppercase"], [], [], ["1C90-1CBA 1CBD-1CBF"]⟩,
  ⟨["oletter", "le"], [], ["alphabetic"], ["lower", "upper", "extend"], ["5F3"], []⟩,
  ⟨["numeric", "nu"], ["Nd"], [], [], ["600-605 66B-66C 6DD 890-891 8E2 19DA 110BD 110CD"], []⟩,
  ⟨["aterm", "at"], [], [], [], ["2E 2024 FE52 FF0E"], []⟩,
  ⟨["sterm", "st"], [], ["sentenceterminal"], ["aterm"], [], []⟩,
  ⟨["close", "cl"], ["Ps", "Pe", "Pi", "Pf"], ["quotationmark"], ["aterm", "sterm"],
    ["275B-2760 2E00-2E01 2E06-2E08 2E0B 1F676-1F678"],
    ["FF02 FF07"]⟩,
  ⟨["scontinue", "sc"], [], [], [],
    [
      "2C-2D 3A-3B 37E 55D 60C-60D 7F8 1802 1808 2013-2014 3001 FE10-FE11 FE13-FE14 FE31-FE32",
      "FE50-FE51 FE54-FE55 FE58 FE63 FF0C-FF0D FF1A-FF1B FF64"],
    []⟩]

/-- The set of the kind that a spelling names in a list. -/
def kindNamed? (kinds : List Property) (name : String) : Option CharSet :=
  if kinds.any fun kind => kind.names.contains name then
    lookUp? propertyNamed? kinds.reverse name
  else none

/-- A kind of code point in a seen character. -/
def graphemeBreakNamed? (name : String) : Option CharSet :=
  if name = "lv" then some openSyllables
  else if name = "lvt" then some closedSyllables
  else kindNamed? graphemeBreaks name

/-- A kind of code point in a word. -/
def wordBreakNamed? (name : String) : Option CharSet := kindNamed? wordBreaks name

/-- A kind of code point in a sentence. -/
def sentenceBreakNamed? (name : String) : Option CharSet := kindNamed? sentenceBreaks name

end SexprQuery.Unicode
