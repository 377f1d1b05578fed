namespace DnsResponder
namespace Text

/-!
# Blanks and lines

Two notions of white space are in use and must not be confused: `isBlank`, the characters with the
Unicode property White_Space, decides what is trimmed and where fields end; `isAsciiBlank` decides
what may stand between hexadecimal digits.
-/

/-- The characters with the Unicode property White_Space. -/
def isBlank (c : Char) : Bool :=
  let n := c.toNat
  (0x9 ≤ n && n ≤ 0xD) || n = 0x20 || n = 0x85 || n = 0xA0 || n = 0x1680
    || (0x2000 ≤ n && n ≤ 0x200A) || n = 0x2028 || n = 0x2029 || n = 0x202F || n = 0x205F
    || n = 0x3000

/-- Space, tab, line feed, form feed and carriage return. -/
def isAsciiBlank (c : Char) : Bool :=
  let n := c.toNat
  n = 0x20 || n = 0x9 || n = 0xA || n = 0xC || n = 0xD

theorem isBlank_of_isAsciiBlank {c : Char} (ascii : isAsciiBlank c = true) : isBlank c = true := by
  simp only [isAsciiBlank, isBlank, Bool.or_eq_true, decide_eq_true_eq, Bool.and_eq_true] at ascii ⊢
  omega

/-- Text without the blanks at its two ends. -/
def trim (text : List Char) : List Char :=
  ((text.dropWhile isBlank).reverse.dropWhile isBlank).reverse

/-- The fields of a text: its maximal runs without blanks. -/
def fields (text : List Char) : List (List Char) :=
  (text.splitOnP isBlank).filter (· ≠ [])

/-- The lines of a text.  A line ends with a line feed, or with a carriage return and a line feed,
neither of which belongs to it; text after the last line feed is a line if there is any. -/
def lines (text : List Char) : List (List Char) :=
  let parts := text.splitOn '\n'
  let ended := parts.dropLast.map fun line =>
    if line.getLast? = some '\r' then line.dropLast else line
  ended ++ (parts.getLast?.toList.filter (· ≠ []))

example : lines "a\r\n\nb\r".toList = ["a".toList, [], "b\r".toList] := by decide

end Text
end DnsResponder
