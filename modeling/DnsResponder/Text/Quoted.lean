import DnsResponder.Text.Blank

namespace DnsResponder
namespace Text
namespace Quoted

/-!
# Quoted text in messages

Error messages and key renderings show foreign text between quotation marks, with the mark itself,
the backslash and characters that would not show escaped, so that a message stays on one line and
shows where the text ends.  All other characters stand as they are.
-/

/-- A code point in lower-case hexadecimal digits, without leading zeros. -/
def hexadecimal (code : Nat) : List Char :=
  Nat.toDigits 16 code

/-- A character that would not show: a control character, or a blank other than the space. -/
def isHidden (c : Char) : Bool :=
  c.toNat < 0x20 || (0x7F ≤ c.toNat && c.toNat ≤ 0x9F) || (isBlank c && c ≠ ' ')

/-- One character between quotation marks `mark`.  Only the mark in use is escaped: an apostrophe
stands as it is inside double quotes, and a double quote inside apostrophes. -/
def escape (mark c : Char) : List Char :=
  if c = mark ∨ c = '\\' then ['\\', c]
  else if c = '\n' then ['\\', 'n']
  else if c = '\r' then ['\\', 'r']
  else if c = '\t' then ['\\', 't']
  else if c.toNat = 0 then ['\\', '0']
  else if isHidden c then ['\\', 'u', '\x7b'] ++ hexadecimal c.toNat ++ ['\x7d']
  else [c]

def text (s : String) : String :=
  String.ofList (['"'] ++ s.toList.flatMap (escape '"') ++ ['"'])

def character (c : Char) : String :=
  String.ofList (['\''] ++ escape '\'' c ++ ['\''])

example : text "it's \"a\\b\"\x01" = "\"it's \\\"a\\\\b\\\"\\u\x7b1\x7d\"" := by decide

end Quoted
end Text
end DnsResponder
