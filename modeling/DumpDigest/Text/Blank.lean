/-! # White space

The characters with the standard's property White_Space. A word joiner, a zero width space and a
byte order mark do not have it.
-/

namespace DumpDigest.Text

/-- Whether a character is white space. -/
def isBlank (c : Char) : Bool :=
  c = ' ' || ('\t' ≤ c && c ≤ '\r') || c = '\u0085' || c = '\u00a0' || c = '\u1680' ||
    ('\u2000' ≤ c && c ≤ '\u200a') || c = '\u2028' || c = '\u2029' || c = '\u202f' ||
    c = '\u205f' || c = '\u3000'

/-- The text without white space at either end. -/
def trim (text : String) : String :=
  let dropBlanks := List.dropWhile isBlank
  String.ofList (dropBlanks (dropBlanks text.toList).reverse).reverse

end DumpDigest.Text
