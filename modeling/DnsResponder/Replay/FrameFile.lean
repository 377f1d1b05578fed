import DnsResponder.Replay.Failure

namespace DnsResponder
namespace Replay

/-!
# The file of frames

One frame stands on each line, in hexadecimal digits with ASCII blanks anywhere between them.  Blank
lines and lines that begin with a number sign are passed over, but count: a fault is reported with
the number of its line in the file.
-/

/-- The lines of a text, numbered from one, without the blanks at their ends. -/
def numberedLines (text : List Char) : List (Nat × List Char) :=
  (Text.lines text).zipIdx.map fun (line, index) => (index + 1, Text.trim line)

/-- Whether a line without blanks at its ends holds a frame. -/
def holdsFrame (line : List Char) : Bool :=
  line ≠ [] ∧ line.head? ≠ some '#'

def parseFrame (number : Nat) (line : List Char) : Except Failure Bytes :=
  (Text.Hex.decode (line.filter fun c => !Text.isAsciiBlank c)).mapError (.badFrame number)

/-- The frames of a text, up to the first line that holds none where it should. -/
def parseFrames (text : List Char) : Except Failure (List Bytes) :=
  ((numberedLines text).filter fun (_, line) => holdsFrame line).mapM fun (number, line) =>
    parseFrame number line

end Replay
end DnsResponder
