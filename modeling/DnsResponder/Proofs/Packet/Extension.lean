import DnsResponder.Proofs.Packet.Exactness

namespace DnsResponder

/-!
# More octets change no verdict

Locating reads a frame from its front, and each check looks only at octets that have been read.  So
what is found at the front of some octets is found again when more octets follow, whether it is a
layout or a fault, and only a frame that ends too early can become something else.

`Lasts` states this for one step on shorter and on longer octets, and is carried along a chain of
steps by `Lasts.bind`.  The cursor on the longer octets differs in its limit alone.  Conversely the
headers are located as soon as the last of them is complete: every shorter front of the frame ends
too early.
-/

/-! ## Computations on shorter and on longer octets -/

section Lasting

variable {ε δ α β γ η : Type} {cut : ε → Prop} {carry : α → β} {onward : γ → η}

/-- The computation on longer octets comes to what that on the shorter ones came to, with values
carried over, unless the shorter ones end too early. -/
def Lasts (cut : ε → Prop) (carry : α → β) (short : Except ε α) (long : Except ε β) : Prop :=
  (∃ cause, short = .error cause ∧ cut cause) ∨ long = short.map carry

theorem lasts_ok (value : α) : Lasts cut carry (.ok value) (.ok (carry value)) :=
  .inr rfl

/-- A step that looks at no octets comes to the same. -/
theorem lasts_same (result : Except ε α) : Lasts cut id result result := by
  cases result with
  | error cause => exact .inr rfl
  | ok value => exact .inr rfl

theorem lasts_error (cause : ε) : Lasts cut carry (.error cause) (.error cause) :=
  .inr rfl

theorem lasts_cut {cause : ε} (early : cut cause) (long : Except ε β) :
    Lasts cut carry (.error cause) long :=
  .inl ⟨cause, rfl, early⟩

/-- A step that lasts is followed by one that has to last only for the values that it gives. -/
theorem Lasts.bind {first : Except ε α} {again : Except ε β} {next : α → Except ε γ}
    {further : β → Except ε η} (start : Lasts cut carry first again)
    (rest : ∀ value, first = .ok value → Lasts cut onward (next value) (further (carry value))) :
    Lasts cut onward (first >>= next) (again >>= further) := by
  rcases start with ⟨cause, rfl, early⟩ | rfl
  · exact lasts_cut early _
  · cases first with
    | error cause => exact lasts_error cause
    | ok value => exact rest value rfl

theorem Lasts.map {short : Except ε α} {long : Except ε β} (lasts : Lasts cut carry short long)
    {make : α → γ} {remake : β → η} (carried : ∀ value, remake (carry value) = onward (make value)) :
    Lasts cut onward (short.map make) (long.map remake) := by
  rcases lasts with ⟨cause, rfl, early⟩ | rfl
  · exact lasts_cut early _
  · cases short with
    | error cause => exact lasts_error cause
    | ok value => exact .inr (congrArg Except.ok (carried value))

end Lasting

/-! ## Reading with a cursor -/

theorem Bytes.slice?_append {data part : Bytes} {offset size : Nat}
    (found : data.slice? offset size = some part) (extra : Bytes) :
    Bytes.slice? (data ++ extra) offset size = some part := by
  rcases split_of_slice? found with ⟨front, back, rfl, start⟩
  have split : front ++ (part ++ back) ++ extra = front ++ (part ++ (back ++ extra)) := by
    simp only [List.append_assoc]
  exact slice?_of_split split start (length_of_slice? found)

namespace Cursor

variable {cursor next : Cursor} {data octets : Bytes} {size : Nat} {header : Header}
  {view : View header}

/-- The cursor when so many octets more can be read. -/
def extended (cursor : Cursor) (amount : Nat) : Cursor :=
  { cursor with limit := cursor.limit + amount }

theorem new_append (data extra : Bytes) : new (data ++ extra) = (new data).extended extra.length := by
  rw [new, List.length_append]
  rfl

theorem take_append (found : cursor.take data size = .ok octets next) (extra : Bytes) :
    (cursor.extended extra.length).take (data ++ extra) size =
      .ok octets (next.extended extra.length) := by
  unfold take at found
  dsimp only at found
  split at found
  · next inside =>
    split at found
    · next part sliced =>
      cases found
      have within : (cursor.extended extra.length).position + size ≤
          (cursor.extended extra.length).limit := Nat.le_add_right_of_le inside
      have again : Bytes.slice? (data ++ extra) (cursor.extended extra.length).position size =
          some octets := Bytes.slice?_append sliced extra
      simp only [take, if_pos within, again]
      rfl
    · cases found
  · cases found

/-- A header that is read is read again when more octets follow. -/
theorem read_append (found : cursor.read data header = .ok view next) (extra : Bytes) :
    (cursor.extended extra.length).read (data ++ extra) header =
      .ok view (next.extended extra.length) := by
  unfold read at found
  split at found
  · next octets passed taken =>
    cases found
    exact read_of_take (take_append taken extra)
  · cases found

theorem skip_append {skipped : Unit} (found : cursor.skip data size = .ok skipped next)
    (extra : Bytes) :
    (cursor.extended extra.length).skip (data ++ extra) size =
      .ok skipped (next.extended extra.length) := by
  unfold skip at found
  split at found
  · next octets passed taken =>
    cases found
    exact skip_of_take (take_append taken extra)
  · cases found

end Cursor

/-! ## Locating headers -/

/-- The frame ended before what was to be read. -/
def Stop.IsCut (stop : Stop) : Prop :=
  ∃ cause, stop = .refused (.truncated cause)

/-- What was read, when so many octets more can be read behind it. -/
def Cursor.carried {α : Type} (amount : Nat) (reading : α × Cursor) : α × Cursor :=
  (reading.1, reading.2.extended amount)

/-- A reading fails only because the octets end too early. -/
theorem lasts_ofReading {α : Type} {amount : Nat} {short long : Cursor.Outcome α}
    (again : ∀ value next, short = .ok value next → long = .ok value (next.extended amount)) :
    Lasts Stop.IsCut (Cursor.carried amount) (Stop.ofReading short) (Stop.ofReading long) := by
  cases short with
  | error cause left => exact lasts_cut ⟨cause, rfl⟩ _
  | ok value next =>
    rw [again value next rfl]
    exact lasts_ok (value, next)

namespace Packet

section Steps

variable (data extra : Bytes) (cursor : Cursor)

theorem lasts_read (header : Header) :
    Lasts Stop.IsCut (Cursor.carried extra.length) (Stop.ofReading (cursor.read data header))
      (Stop.ofReading ((cursor.extended extra.length).read (data ++ extra) header)) :=
  lasts_ofReading fun _ _ found => Cursor.read_append found extra

theorem lasts_skip (size : Nat) :
    Lasts Stop.IsCut (Cursor.carried extra.length) (Stop.ofReading (cursor.skip data size))
      (Stop.ofReading ((cursor.extended extra.length).skip (data ++ extra) size)) :=
  lasts_ofReading fun _ _ found => Cursor.skip_append found extra

theorem lasts_skipTags (room : Nat) (found : Ethertype) :
    Lasts Stop.IsCut (Cursor.carried extra.length) (skipTags data room found cursor)
      (skipTags (data ++ extra) room found (cursor.extended extra.length)) := by
  induction room generalizing found cursor with
  | zero => exact lasts_ok (found, cursor)
  | succ room ih =>
    rw [skipTags, skipTags]
    split
    · exact (lasts_read data extra cursor .vlan).bind fun tag _ => ih tag.2 _
    · exact lasts_ok (found, cursor)

/-- What an IP header answers on longer octets. -/
def extendReading (amount : Nat) (reading : IpReading) : IpReading :=
  (reading.1, reading.2.1, reading.2.2.extended amount)

theorem lasts_readIpv4 :
    Lasts Stop.IsCut (extendReading extra.length) (readIpv4 data cursor)
      (readIpv4 (data ++ extra) (cursor.extended extra.length)) := by
  refine (lasts_read data extra cursor .ipv4).bind fun ⟨ip, passed⟩ _ => ?_
  dsimp only [Cursor.carried]
  split
  · exact lasts_error _
  · split
    · exact lasts_error _
    · split
      · exact lasts_error _
      · refine (lasts_same (Stop.difference _ _)).bind fun optionsSize _ => ?_
        refine (lasts_skip data extra passed optionsSize).bind fun skipped _ => ?_
        exact lasts_ok _

theorem lasts_readIpv6 :
    Lasts Stop.IsCut (extendReading extra.length) (readIpv6 data cursor)
      (readIpv6 (data ++ extra) (cursor.extended extra.length)) := by
  refine (lasts_read data extra cursor .ipv6).bind fun ⟨ip, passed⟩ _ => ?_
  dsimp only [Cursor.carried]
  split
  · exact lasts_error _
  · exact lasts_ok _

theorem lasts_readFirstIp (ethertype : UInt16) :
    Lasts Stop.IsCut (extendReading extra.length) (readFirstIp data ethertype cursor)
      (readFirstIp (data ++ extra) ethertype (cursor.extended extra.length)) := by
  rw [readFirstIp, readFirstIp]
  split
  · exact lasts_readIpv4 data extra cursor
  · split
    · exact lasts_readIpv6 data extra cursor
    · exact lasts_error _

/-- What a packet answers on longer octets, with the tunnel around it if there is one. -/
def extendNesting (amount : Nat) (nesting : Nesting) : Nesting :=
  (nesting.1, extendReading amount nesting.2)

theorem lasts_enterTunnel (first : IpHeader) (protocol : UInt8) :
    Lasts Stop.IsCut (extendNesting extra.length) (enterTunnel data first protocol cursor)
      (enterTunnel (data ++ extra) first protocol (cursor.extended extra.length)) := by
  rw [enterTunnel, enterTunnel]
  split
  · exact lasts_ok (none, first, protocol, cursor)
  · split
    · exact (lasts_readIpv4 data extra cursor).map fun _ => rfl
    · split
      · cases first.family with
        | v4 => exact lasts_error _
        | v6 => exact (lasts_readIpv6 data extra cursor).map fun _ => rfl
      · exact lasts_error _

/-- Locating headers comes to the same when more octets follow, unless the frame ended too early. -/
theorem lasts_locate (port : UInt16) :
    Lasts Stop.IsCut (Cursor.carried extra.length) (locate data port)
      (locate (data ++ extra) port) := by
  rw [locate, locate, Cursor.new_append]
  refine (lasts_read data extra _ .ethernet).bind fun ethernet _ => ?_
  rcases ethernet with ⟨ethernet, atTags⟩
  refine (lasts_skipTags data extra atTags _ _).bind fun tags _ => ?_
  rcases tags with ⟨ethertype, atPacket⟩
  refine (lasts_readFirstIp data extra atPacket _).bind fun reading _ => ?_
  rcases reading with ⟨header, protocol, atTunnel⟩
  refine (lasts_enterTunnel data extra atTunnel header protocol).bind fun nesting _ => ?_
  rcases nesting with ⟨outer, inner, carried, atUdp⟩
  refine (lasts_same (Stop.ofRefusal (requireUdp outer carried))).bind fun _ _ => ?_
  refine (lasts_read data extra atUdp .udp).bind fun udp _ => ?_
  rcases udp with ⟨udp, atMessage⟩
  dsimp only [Cursor.carried]
  split
  · exact lasts_error _
  · exact lasts_ok _

end Steps

variable {data : Bytes} {port : UInt16} {layout : Layout} {cursor : Cursor}

/-- Headers that are located are located again when more octets follow. -/
theorem locate_append (located : locate data port = .ok (layout, cursor)) (extra : Bytes) :
    locate (data ++ extra) port = .ok (layout, cursor.extended extra.length) := by
  rcases lasts_locate data extra port with ⟨cause, refused, -⟩ | same
  · rw [located] at refused
    cases refused
  · rw [same, located]
    rfl

/-- What is located in a frame is what its dissection has on record. -/
theorem exists_records (located : locate data port = .ok (layout, cursor)) :
    ∃ parts : Dissection, data = parts.octets ∧ parts.Records layout cursor := by
  rcases exists_dissection located with ⟨parts, whole, -, rfl, rfl⟩
  exact ⟨parts, whole, parts.records_layout⟩

/-- The message is in the frame. -/
theorem dns_le_of_locate (located : locate data port = .ok (layout, cursor)) :
    layout.dns ≤ data.length := by
  rcases exists_records located with ⟨parts, rfl, records⟩
  exact records.inside

/-- The headers are all that has to be there for them to be located. -/
theorem locate_take (located : locate data port = .ok (layout, cursor)) {size : Nat}
    (whole : layout.dns ≤ size) :
    locate (data.take size) port =
      .ok (layout, { cursor with limit := (data.take size).length }) := by
  rcases exists_dissection located with ⟨parts, rfl, asked, rfl, rfl⟩
  have dns : parts.headers.length ≤ size := parts.length_headers ▸ whole
  have cut : parts.octets.take size =
      { parts with message := parts.message.take (size - parts.messageOffset) : Dissection }.octets := by
    rw [Dissection.split_message, Dissection.split_message, List.take_append,
      List.take_of_length_le dns, parts.length_headers]
    rfl
  rw [cut, locate_octets, if_pos asked]
  rfl

/-- A frame that ends in a header that is to be located ends too early. -/
theorem locate_take_eq_error (located : locate data port = .ok (layout, cursor)) {size : Nat}
    (short : size < layout.dns) :
    ∃ cause, locate (data.take size) port = .error (.refused (.truncated cause)) := by
  rcases lasts_locate (data.take size) (data.drop size) port with
    ⟨reason, refused, cause, rfl⟩ | same
  · exact ⟨cause, refused⟩
  · -- a verdict on the front would be that on the whole frame, whose message starts behind it
    exfalso
    rw [List.take_append_drop, located] at same
    cases found : locate (data.take size) port with
    | error reason =>
      rw [found] at same
      cases same
    | ok verdict =>
      rw [found] at same
      have layouts : layout = verdict.1 := congrArg Prod.fst (Except.ok.inj same)
      have inside := dns_le_of_locate found
      rw [← layouts, List.length_take] at inside
      omega

/-- Whatever is found in a frame is found again when octets are appended, unless the frame ended too
early.  Headers that are located need the octets in front of the message and no others: with fewer
the frame ends too early, and with these alone they are located where they were. -/
theorem verdict_stands (data : Bytes) (port : UInt16) :
    (∀ stop, locate data port = .error stop →
      (∀ cause, stop ≠ .refused (.packet (.truncated cause))) →
        ∀ extra, locate (data ++ extra) port = .error stop)
    ∧ ∀ layout cursor, locate data port = .ok (layout, cursor) →
      (∀ extra, locate (data ++ extra) port =
        .ok (layout, { cursor with limit := (data ++ extra).length }))
      ∧ (∀ size, size < layout.dns →
        ∃ cause, locate (data.take size) port = .error (.refused (.packet (.truncated cause))))
      ∧ ∀ size, layout.dns ≤ size → locate (data.take size) port =
        .ok (layout, { cursor with limit := (data.take size).length }) := by
  constructor
  · intro stop stopped whole extra
    rcases lasts_locate data extra port with ⟨other, ended, cause, rfl⟩ | same
    · rw [stopped] at ended
      exact absurd (Except.error.inj ended) (whole cause)
    · rw [same, stopped]
      rfl
  · intro layout cursor located
    refine ⟨?_, fun size => locate_take_eq_error located, fun size => locate_take located⟩
    intro extra
    rcases exists_records located with ⟨parts, rfl, records⟩
    rw [locate_append located, records.cursor, List.length_append]
    rfl

/-- A datagram to port 53 with nothing in it. -/
def emptyDatagram : Bytes :=
  List.replicate 12 0 ++ ([0x08, 0x00] ++ ([0x45, 0, 0, 28, 0, 1, 0x40, 0, 64, 17, 0, 0, 10, 0, 0, 1,
    10, 0, 0, 2] ++ [0x12, 0x34, 0, 53, 0, 8, 0, 0]))

/-- Its headers are located until one octet is missing, and it is for another port whatever
follows. -/
theorem verdict_on_emptyDatagram :
    locate emptyDatagram 53 =
        .ok (⟨14, 12, none, ⟨.v4, 14, 20⟩, 34, 42⟩, ⟨42, 42, none, some .v4⟩)
      ∧ (∃ cause, locate (emptyDatagram.take 41) 53 =
          .error (.refused (.packet (.truncated cause))))
      ∧ locate emptyDatagram 5353 = .error (.refused (.packet (.otherPort 53)))
      ∧ locate (emptyDatagram ++ [7, 7]) 5353 = .error (.refused (.packet (.otherPort 53))) := by
  have located : locate emptyDatagram 53 =
      .ok (⟨14, 12, none, ⟨.v4, 14, 20⟩, 34, 42⟩, ⟨42, 42, none, some .v4⟩) := by
    rfl
  have other : locate emptyDatagram 5353 = .error (.refused (.packet (.otherPort 53))) := by
    rfl
  have whole : ∀ cause, Stop.refused (.packet (.otherPort 53)) ≠
      .refused (.packet (.truncated cause)) := by
    intro cause same
    cases same
  exact ⟨located, ((verdict_stands emptyDatagram 53).2 _ _ located).2.1 41 (by decide), other,
    (verdict_stands emptyDatagram 5353).1 _ other whole [7, 7]⟩

end Packet
end DnsResponder
