import DnsResponder.Proofs.Packet.Exactness
import DnsResponder.Proofs.Reply.Edit
import DnsResponder.Proofs.Reply.Limits

namespace DnsResponder
namespace Reply

open Packet

/-!
# Turning a frame around

Every layer of a frame names two ends: the Ethernet header two stations, each IP header two hosts, and
the UDP header two ports.  Exchanging the ends of all layers makes the frame one that goes the other
way.  This is an exact exchange.  What stood at the one end of a layer then stands at the other, no
octet in between is touched, and a second exchange brings the frame back.

Locating the headers reads none of the octets that move, except the port that it asks for.  So the
headers of the turned frame are located where they were, by whoever listens on the port that the frame
came from.
-/

/-! ## The ends of a layer -/

/-- Two places of a frame, of one size, that hold the ends of a layer. -/
structure EndPlaces where
  first : Nat
  second : Nat
  size : Nat

namespace EndPlaces

/-- The places of the addresses in an IP header. -/
def ofHeader (header : IpHeader) : EndPlaces :=
  ⟨header.sourceOffset, header.destinationOffset, header.addressSize⟩

/-- What stands at the two places. -/
structure Holds (places : EndPlaces) (data here there : Bytes) : Prop where
  first : data.slice? places.first places.size = some here
  second : data.slice? places.second places.size = some there

/-- The octets that belong to either end. -/
def Covers (places : EndPlaces) (place : Nat) : Prop :=
  (places.first ≤ place ∧ place < places.first + places.size)
    ∨ (places.second ≤ place ∧ place < places.second + places.size)

/-- The ends of a layer stand in each other's place. -/
def Exchanged (places : EndPlaces) (data turned : Bytes) : Prop :=
  ∃ here there, places.Holds data here there ∧ places.Holds turned there here

end EndPlaces

/-- The ends of every layer: the Ethernet addresses, the addresses of each IP header present, and the
UDP ports. -/
def endPlaces (layout : Layout) : List EndPlaces :=
  ⟨0, ethernetAddressSize, ethernetAddressSize⟩ ::
    ((layout.outer.toList ++ [layout.inner]).map .ofHeader ++ [⟨layout.udp, layout.udp + 2, 2⟩])

/-! ## The ends are exchanged -/

section Exchange

variable {data turned front back otherFront otherBack : Bytes} {offset : Nat}

theorem holds_header (fields : IpFields) (split : data = front ++ (fields.octets ++ back))
    (start : front.length = offset) :
    (EndPlaces.ofHeader (fields.header offset)).Holds data fields.source.octets
      fields.destination.octets :=
  ⟨fields.slice_source split start, fields.slice_destination split start⟩

theorem exchanged_header (fields : IpFields) (split : data = front ++ (fields.octets ++ back))
    (start : front.length = offset)
    (result : turned = otherFront ++ ((IpFields.Rewrite.exchanged.apply fields).octets ++ otherBack))
    (otherStart : otherFront.length = offset) :
    (EndPlaces.ofHeader (fields.header offset)).Exchanged data turned := by
  have back := holds_header (IpFields.Rewrite.exchanged.apply fields) result otherStart
  rw [IpFields.Rewrite.header_apply] at back
  refine ⟨_, _, holds_header fields split start, ?_⟩
  cases fields with
  | v4 fields => exact back
  | v6 fields => exact back

theorem holds_link (link : LinkFields) (ethertype : UInt16)
    (split : data = link.octets ethertype ++ back) :
    (⟨0, ethernetAddressSize, ethernetAddressSize⟩ : EndPlaces).Holds data link.receiver
      link.sender := by
  constructor
  · have receiver : data = [] ++ (link.receiver ++ (link.sender ++ (link.tagOctets ++
        (Bytes.ofWord ethertype ++ back)))) := by
      rw [split, LinkFields.octets]
      simp only [List.append_assoc, List.nil_append]
    exact Bytes.slice?_of_split receiver rfl link.receiver_size
  · have sender : data = link.receiver ++ (link.sender ++ (link.tagOctets ++
        (Bytes.ofWord ethertype ++ back))) := by
      rw [split, LinkFields.octets]
      simp only [List.append_assoc]
    exact Bytes.slice?_of_split sender link.receiver_size link.sender_size

theorem holds_udp (udp : UdpFields) (split : data = front ++ (udp.octets ++ back))
    (start : front.length = offset) :
    (⟨offset, offset + 2, 2⟩ : EndPlaces).Holds data (Bytes.ofWord udp.source)
      (Bytes.ofWord udp.destination) := by
  constructor
  · have source : data = front ++ (Bytes.ofWord udp.source ++ (Bytes.ofWord udp.destination ++
        (Bytes.ofWord udp.datagramSize ++ (Bytes.ofWord udp.checksum ++ back)))) := by
      rw [split, UdpFields.octets]
      simp only [List.append_assoc]
    exact Bytes.slice?_of_split source start rfl
  · have destination : data = (front ++ Bytes.ofWord udp.source) ++
        (Bytes.ofWord udp.destination ++
          (Bytes.ofWord udp.datagramSize ++ (Bytes.ofWord udp.checksum ++ back))) := by
      rw [split, UdpFields.octets]
      simp only [List.append_assoc]
    refine Bytes.slice?_of_split destination ?_ rfl
    rw [List.length_append, start, Bytes.length_ofWord]

end Exchange

section Dissected

variable (parts : Dissection)

theorem exchanged_link :
    (⟨0, ethernetAddressSize, ethernetAddressSize⟩ : EndPlaces).Exchanged parts.octets
      parts.exchanged.octets :=
  ⟨_, _, holds_link parts.link _ rfl, holds_link parts.link.exchanged _ rfl⟩

theorem exchanged_outer {outer : IpFields} (wrapped : parts.outer = some outer) :
    (EndPlaces.ofHeader (outer.header parts.link.size)).Exchanged parts.octets
      parts.exchanged.octets := by
  have rewritten : parts.exchanged.outer = some (IpFields.Rewrite.exchanged.apply outer) :=
    congrArg (Option.map IpFields.Rewrite.exchanged.apply) wrapped
  have start : parts.exchanged.linkOctets.length = parts.link.size :=
    parts.exchanged.length_linkOctets
  exact exchanged_header outer (parts.split_outer wrapped) parts.length_linkOctets
    (parts.exchanged.split_outer rewritten) start

theorem exchanged_inner :
    (EndPlaces.ofHeader parts.layout.inner).Exchanged parts.octets parts.exchanged.octets := by
  have start := parts.exchanged.length_before_inner
  have same : parts.exchanged.innerOffset = parts.innerOffset :=
    congrArg (fun layout => layout.inner.offset) parts.layout_exchanged
  exact exchanged_header parts.inner parts.split_inner parts.length_before_inner
    parts.exchanged.split_inner (start.trans same)

theorem exchanged_udp :
    (⟨parts.layout.udp, parts.layout.udp + 2, 2⟩ : EndPlaces).Exchanged parts.octets
      parts.exchanged.octets := by
  have start := parts.exchanged.length_before_udp
  have same : parts.exchanged.udpOffset = parts.udpOffset :=
    congrArg Layout.udp parts.layout_exchanged
  exact ⟨_, _, holds_udp parts.udp parts.split_udp parts.length_before_udp,
    holds_udp parts.udp.exchanged parts.exchanged.split_udp (start.trans same)⟩

/-- The ends of every layer stand in each other's place. -/
theorem exchanged_endPlaces {places : EndPlaces} (member : places ∈ endPlaces parts.layout) :
    places.Exchanged parts.octets parts.exchanged.octets := by
  simp only [endPlaces, List.mem_cons, List.mem_append, List.mem_map, Option.mem_toList,
    List.not_mem_nil, or_false] at member
  rcases member with rfl | ⟨header, outer | rfl, rfl⟩ | rfl
  · exact exchanged_link parts
  · rcases Option.map_eq_some_iff.mp outer with ⟨fields, wrapped, rfl⟩
    exact exchanged_outer parts wrapped
  · exact exchanged_inner parts
  · exact exchanged_udp parts

/-- Exchanging twice is no change. -/
theorem exchanged_exchanged : parts.exchanged.exchanged = parts := by
  rcases parts with ⟨link, outer, inner, udp, message, carries, carriesUdp⟩
  cases outer with
  | none => cases inner <;> rfl
  | some outer => cases outer <;> cases inner <;> rfl

/-- Locating headers leaves the cursor where it would be in the frame turned around. -/
theorem reached_exchanged (size : parts.exchanged.octets.length = parts.octets.length) :
    parts.exchanged.reached = parts.reached := by
  rw [parts.exchanged.records_layout.cursor, parts.records_layout.cursor, parts.layout_exchanged,
    size]

end Dissected

/-! ## No other octet moves -/

/-- Every octet but those of the given layers is what it was. -/
structure KeepsBut (layers : List EndPlaces) (data turned : Bytes) : Prop where
  size : turned.length = data.length
  elsewhere : ∀ place, (∀ places ∈ layers, ¬ places.Covers place) → turned[place]? = data[place]?

theorem KeepsBut.trans {layers others : List EndPlaces} {data middle turned : Bytes}
    (first : KeepsBut layers data middle) (second : KeepsBut others middle turned) :
    KeepsBut (layers ++ others) data turned where
  size := second.size.trans first.size
  elsewhere place outside := by
    have kept := second.elsewhere place fun places member =>
      outside places (List.mem_append_right _ member)
    exact kept.trans (first.elsewhere place fun places member =>
      outside places (List.mem_append_left _ member))

theorem keepsBut_nothing (data : Bytes) : KeepsBut [] data data :=
  ⟨rfl, fun _ _ => rfl⟩

/-- Exchanging two neighbours changes no other octet. -/
theorem keepsBut_swapAdjacent {data turned : Bytes} {offset size : Nat}
    (swapped : data.swapAdjacent? offset size = some turned) :
    KeepsBut [⟨offset, offset + size, size⟩] data turned := by
  simp only [Bytes.swapAdjacent?, Option.bind_eq_bind, Option.bind_eq_some_iff] at swapped
  rcases swapped with ⟨first, atFirst, second, atSecond, patched⟩
  have firstSize := Bytes.length_of_slice? atFirst
  have secondSize := Bytes.length_of_slice? atSecond
  refine ⟨Bytes.length_of_patch? patched, ?_⟩
  intro place outside
  have notCovered := outside _ (List.mem_singleton_self _)
  simp only [EndPlaces.Covers, not_or, not_and, Nat.not_lt] at notCovered
  have around : place < offset ∨ offset + (second ++ first).length ≤ place := by
    rw [List.length_append, firstSize, secondSize]
    omega
  exact Bytes.getElem?_of_patch? patched around

theorem addresses_adjacent (header : IpHeader) :
    header.destinationOffset = header.sourceOffset + header.addressSize := by
  rcases header with ⟨family, offset, size⟩
  cases family <;> rfl

theorem keepsBut_header {data turned : Bytes} {header : IpHeader}
    (swapped : data.swapAdjacent? header.sourceOffset header.addressSize = some turned) :
    KeepsBut [.ofHeader header] data turned := by
  rw [EndPlaces.ofHeader, addresses_adjacent]
  exact keepsBut_swapAdjacent swapped

theorem keepsBut_swapEndpoints {layout : Layout} {data turned : Bytes}
    (swapped : swapEndpoints? layout data = some turned) :
    KeepsBut (endPlaces layout) data turned := by
  rcases Option.bind_eq_some_iff.mp swapped with ⟨linked, atLink, behindLink⟩
  have link := keepsBut_swapAdjacent atLink
  -- a tunnel is one more layer between the Ethernet addresses and the packet
  obtain ⟨wrapped, outer, behindOuter⟩ : ∃ wrapped,
      KeepsBut (layout.outer.toList.map .ofHeader) linked wrapped
      ∧ (wrapped.swapAdjacent? layout.inner.sourceOffset layout.inner.addressSize).bind
        (·.swapAdjacent? layout.udp 2) = some turned := by
    cases tunnel : layout.outer with
    | none =>
      rw [tunnel] at behindLink
      exact ⟨linked, keepsBut_nothing linked, behindLink⟩
    | some header =>
      rw [tunnel] at behindLink
      rcases Option.bind_eq_some_iff.mp behindLink with ⟨wrapped, atOuter, behindOuter⟩
      exact ⟨wrapped, keepsBut_header atOuter, behindOuter⟩
  rcases Option.bind_eq_some_iff.mp behindOuter with ⟨packed, atInner, atUdp⟩
  have inner := keepsBut_header atInner
  have udp := keepsBut_swapAdjacent atUdp
  rw [endPlaces, List.map_append, List.append_assoc]
  exact link.trans (outer.trans (inner.trans udp))

/-! ## The whole exchange -/

/-- In a frame whose headers are located, exchanging the ends of all layers is exact.  The ends of
each layer change places and no other octet changes, a second exchange restores the frame, and the
headers of the turned frame are located where they were, for the port that the datagram came from. -/
theorem turns_around {data : Bytes} {port : UInt16} {layout : Layout} {cursor : Cursor}
    (located : locate data port = .ok (layout, cursor)) :
    ∃ turned source, swapEndpoints? layout data = some turned
      ∧ (∀ places ∈ endPlaces layout, places.Exchanged data turned)
      ∧ KeepsBut (endPlaces layout) data turned
      ∧ swapEndpoints? layout turned = some data
      ∧ data.slice? layout.udp 2 = some (Bytes.ofWord source)
      ∧ locate turned source = .ok (layout, cursor) := by
  rcases exists_dissection located with ⟨parts, rfl, -, rfl, rfl⟩
  have swapped := swapEndpoints_eq parts
  have keeps := keepsBut_swapEndpoints swapped
  have again := swapEndpoints_eq parts.exchanged
  rw [parts.layout_exchanged, exchanged_exchanged] at again
  have ports := holds_udp parts.udp parts.split_udp parts.length_before_udp
  have answered : locate parts.exchanged.octets parts.udp.source =
      .ok (parts.exchanged.layout, parts.exchanged.reached) :=
    (locate_octets parts.exchanged _).trans (if_pos rfl)
  rw [parts.layout_exchanged, reached_exchanged parts keeps.size] at answered
  exact ⟨parts.exchanged.octets, parts.udp.source, swapped,
    fun _ member => exchanged_endPlaces parts member, keeps, again, ports.first, answered⟩

open Specimen in
/-- The query in a tunnel is turned around at four layers, and its headers are then located for the
port 4660 that it came from. -/
theorem turns_around_tunnelled :
    locate tunnelled.octets 53 = .ok (tunnelled.layout, tunnelled.reached)
    ∧ (endPlaces tunnelled.layout).length = 4
    ∧ ∃ turned source, swapEndpoints? tunnelled.layout tunnelled.octets = some turned
      ∧ (∀ places ∈ endPlaces tunnelled.layout, places.Exchanged tunnelled.octets turned)
      ∧ KeepsBut (endPlaces tunnelled.layout) tunnelled.octets turned
      ∧ swapEndpoints? tunnelled.layout turned = some tunnelled.octets
      ∧ tunnelled.octets.slice? tunnelled.layout.udp 2 = some (Bytes.ofWord source)
      ∧ locate turned source = .ok (tunnelled.layout, tunnelled.reached) :=
  ⟨located, rfl, turns_around located⟩

end Reply
end DnsResponder
