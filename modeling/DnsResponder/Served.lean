import DnsResponder.Address.Network

namespace DnsResponder

/-!
# The networks that are served

A query is only looked at when its destination lies in a served network.  Each family has its own
list, from the longest to the shortest network, so that the first entry containing an address is the
most specific one.  Entries have their host bits cleared, occur once, and are at most `maxNetworks`.
-/

def maxNetworks : Nat := 128

/-- Why a network is not taken into service. -/
inductive ServeError
  | badAddress (text : String)
  | badSize
  | full
deriving DecidableEq

def ServeError.message : ServeError → String
  | .badAddress text => "invalid prefix: invalid address: " ++ text
  | .badSize => "invalid prefix: invalid prefix"
  | .full => s!"prefix table full ({maxNetworks} entries)"

/-! ## One family -/

/-- The served networks of one family, longest first. -/
abbrev NetworkList (width : Nat) := List (Network width)

namespace NetworkList

variable {width : Nat}

/-- Put a network in front of the first shorter one. -/
def place (network : Network width) : NetworkList width → NetworkList width
  | [] => [network]
  | entry :: rest =>
    if entry.size < network.size then network :: entry :: rest else entry :: place network rest

theorem mem_place (network entry : Network width) (networks : NetworkList width) :
    entry ∈ place network networks ↔ entry = network ∨ entry ∈ networks := by
  induction networks with
  | nil => simp [place]
  | cons first rest ih =>
    simp only [place]
    split
    · simp
    · simp [ih, or_left_comm]

@[simp]
theorem length_place (network : Network width) (networks : NetworkList width) :
    (place network networks).length = networks.length + 1 := by
  induction networks with
  | nil => rfl
  | cons first rest ih =>
    simp only [place]
    split
    · rfl
    · simp [ih]

/-- Take a network into service, and whether it is new.  A network in service is found even when the
list is full. -/
def insert (networks : NetworkList width) (network : Network width) :
    Except ServeError (Bool × NetworkList width) :=
  let network := network.canonical
  if network ∈ networks then .ok (false, networks)
  else if maxNetworks ≤ networks.length then .error .full
  else .ok (true, place network networks)

/-- Take a network out of service, and whether it was in. -/
def remove (networks : NetworkList width) (network : Network width) : Bool × NetworkList width :=
  let network := network.canonical
  (decide (network ∈ networks), networks.filter (· ≠ network))

/-- The longest network that contains an address. -/
def longestMatch? (networks : NetworkList width) (address : BitVec width) :
    Option (Network width) :=
  (networks.take maxNetworks).find? (·.contains address)

end NetworkList

/-! ## Both families -/

/-- The served networks. -/
structure Served where
  v4 : NetworkList 32 := []
  v6 : NetworkList 128 := []

namespace Served

/-- Take a block into service, and whether it is new. -/
def insert (served : Served) (block : Block) : Except ServeError (Bool × Served) :=
  match block with
  | .v4 network => (NetworkList.insert served.v4 network).map fun (added, networks) =>
      (added, { served with v4 := networks })
  | .v6 network => (NetworkList.insert served.v6 network).map fun (added, networks) =>
      (added, { served with v6 := networks })

/-- Take the block written by a text into service, and whether it is new. -/
def insertText (served : Served) (text : String) : Except ServeError (Bool × Served) :=
  let written := Text.trim text.toList
  match Block.parse? written with
  | some block => served.insert block
  | none => .error (.badAddress (String.ofList written))

/-- Take a block out of service, and whether it was in. -/
def remove (served : Served) (block : Block) : Bool × Served :=
  match block with
  | .v4 network =>
    let (removed, networks) := NetworkList.remove served.v4 network
    (removed, { served with v4 := networks })
  | .v6 network =>
    let (removed, networks) := NetworkList.remove served.v6 network
    (removed, { served with v6 := networks })

/-- The longest served network that contains an address. -/
def longestMatch? (served : Served) (address : Address) : Option Block :=
  match address with
  | .v4 value => (NetworkList.longestMatch? served.v4 value).map .v4
  | .v6 value => (NetworkList.longestMatch? served.v6 value).map .v6

/-- Whether an address lies in a served network. -/
def contains (served : Served) (address : Address) : Bool :=
  (served.longestMatch? address).isSome

/-- The networks in service, IPv4 before IPv6. -/
def blocks (served : Served) : List Block :=
  served.v4.map .v4 ++ served.v6.map .v6

def size (served : Served) : Nat :=
  served.v4.length + served.v6.length

end Served
end DnsResponder
