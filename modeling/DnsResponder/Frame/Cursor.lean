import DnsResponder.Address.Basic
import DnsResponder.Frame

namespace DnsResponder

/-!
# Sequential reading of headers

A cursor stands at a position of the octets it reads and never passes its limit, the number of
octets there were when it was made.  It reads one header of known size at a time.  A read that does
not fit leaves the cursor where it was, and each read that fits yields a view of exactly the octets
passed over, so a field of the header can be read by an offset that is in range for every header of
its kind.  Either way the cursor that is left is part of the outcome.
-/

/-- The headers of fixed size. -/
inductive Header
  | ethernet
  | vlan
  | ipv4
  | ipv6
  | udp
  | dns
deriving DecidableEq

/-- Octets of a header, for IPv4 without options. -/
def Header.size : Header → Nat
  | .ethernet => 14
  | .vlan => 4
  | .ipv4 => 20
  | .ipv6 => 40
  | .udp => 8
  | .dns => 12

/-- One header where it stands in the frame. -/
structure View (header : Header) where
  offset : Nat
  octets : Bytes
  size_eq : octets.length = header.size

namespace View

variable {header : Header}

def stop (view : View header) : Nat :=
  view.offset + header.size

def octet (view : View header) (offset : Nat) (inside : offset < header.size := by decide) :
    UInt8 :=
  view.octets.get ⟨offset, view.size_eq ▸ inside⟩

def word (view : View header) (offset : Nat) (inside : offset + 1 < header.size := by decide) :
    UInt16 :=
  Bytes.word (view.octet offset (Nat.lt_of_succ_lt inside)) (view.octet (offset + 1) inside)

end View

/-- A reading position, with the families of the IP headers passed on the way. -/
structure Cursor where
  position : Nat
  limit : Nat
  /-- Family of the outer header, when the query arrived inside a tunnel. -/
  encap : Option Family := none
  /-- Family of the header that carries the datagram. -/
  payload : Option Family := none
deriving DecidableEq

namespace Cursor

def new (data : Bytes) : Cursor :=
  { position := 0, limit := data.length }

/-- Octets up to the limit. -/
def remaining (cursor : Cursor) : Nat :=
  cursor.limit - cursor.position

/-- What a reading comes to, with the cursor that it leaves. -/
abbrev Outcome (α : Type) := EStateM.Result BoundsError Cursor α

/-- Pass over `size` octets of `data`, which may hold fewer octets than the cursor's limit. -/
def take (cursor : Cursor) (data : Bytes) (size : Nat) : Outcome Bytes :=
  let refused := BoundsError.readPastEnd cursor.position size cursor.limit
  if cursor.position + size ≤ cursor.limit then
    match data.slice? cursor.position size with
    | some octets => .ok octets { cursor with position := cursor.position + size }
    | none => .error refused cursor
  else
    .error refused cursor

theorem length_of_take {cursor next : Cursor} {data octets : Bytes} {size : Nat}
    (taken : cursor.take data size = .ok octets next) : octets.length = size := by
  unfold take at taken
  simp only at taken
  split at taken
  · split at taken
    next found =>
      cases taken
      exact Bytes.length_of_slice? found
    next => cases taken
  · cases taken

def read (cursor : Cursor) (data : Bytes) (header : Header) : Outcome (View header) :=
  match taken : cursor.take data header.size with
  | .ok octets next => .ok ⟨cursor.position, octets, length_of_take taken⟩ next
  | .error cause left => .error cause left

def skip (cursor : Cursor) (data : Bytes) (size : Nat) : Outcome Unit :=
  match cursor.take data size with
  | .ok _ next => .ok () next
  | .error cause left => .error cause left

end Cursor
end DnsResponder
