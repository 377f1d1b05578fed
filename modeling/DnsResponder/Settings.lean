import DnsResponder.Address.Text
import DnsResponder.Dns.Question

namespace DnsResponder

/-!
# Settings

The settings of a responder are fixed when it is made.  A host hands them over as a flat record of
words and switches; `FlatSettings.settings` reads such a record and `Settings.flat` writes one.
Reading drops flag bits without a meaning and takes every unknown policy for the default one, so
reading what was written gives the settings back, while writing what was read need not give the
record back.
-/

/-- Which header bits of a response are decided here and not by the query. -/
structure ResponseFlags where
  /-- Set "authoritative" and clear "recursion available". -/
  authoritative : Bool := false
  /-- Clear "authoritative" and set "recursion available"; wins when both are set. -/
  recursionAvailable : Bool := false
  /-- Set the reserved bit, so that these responses stand out. -/
  markReserved : Bool := false
deriving DecidableEq

namespace ResponseFlags

/-- The flags of a word; bits without a meaning are dropped. -/
def ofWord (word : UInt32) : ResponseFlags where
  authoritative := word &&& 1 != 0
  recursionAvailable := word &&& 2 != 0
  markReserved := word &&& 4 != 0

def word (flags : ResponseFlags) : UInt32 :=
  (if flags.authoritative then 1 else 0) ||| (if flags.recursionAvailable then 2 else 0)
    ||| (if flags.markReserved then 4 else 0)

@[simp]
theorem ofWord_word (flags : ResponseFlags) : ofWord flags.word = flags := by
  obtain ⟨first, second, third⟩ := flags
  cases first <;> cases second <;> cases third <;> decide

end ResponseFlags

/-- The UDP checksum of responses over IPv4. -/
inductive Udp4Checksum
  | zero
  | compute
deriving DecidableEq

/-- Where the outer header of a response to IPv4 inside IPv6 is sent: back to the source of the
tunnel, or to a fixed endpoint behind which the tunnel ends. -/
inductive TunnelReturn
  | reflect
  | endpoint (address : BitVec 128)
deriving DecidableEq

def TunnelReturn.text : TunnelReturn → String
  | .reflect => "Reflect"
  | .endpoint address => "Endpoint(" ++ Address.textV6 address ++ ")"

def Dns.NamePolicy.text : NamePolicy → String
  | .toZero => "BoundsAware"
  | .byLabels => "LengthPrefixed"

/-- What a responder is told once. -/
structure Settings where
  responseFlags : ResponseFlags := {}
  /-- Spread the time to live over the upper half of the stored one. -/
  randomTtl : Bool := false
  metricsEnabled : Bool := true
  captureEnabled : Bool := true
  /-- Decide without replying, unless the option of that name says otherwise. -/
  dryRun : Bool := false
  /-- Append an extension record when the query carried one. -/
  ednsEcho : Bool := false
  namePolicy : Dns.NamePolicy := .toZero
  dnsPort : UInt16 := 53
  udp4Checksum : Udp4Checksum := .zero
  tunnelReturn : TunnelReturn := .reflect
  /-- The payload size that an appended extension record advertises. -/
  ednsPayloadSize : UInt16 := 512
deriving DecidableEq

/-- Settings as a host hands them over. -/
structure FlatSettings where
  responseFlags : UInt32
  randomTtl : Bool
  metricsEnabled : Bool
  captureEnabled : Bool
  dryRun : Bool
  ednsEcho : Bool
  namePolicy : UInt32
  dnsPort : UInt16
  ednsPayloadSize : UInt16
  udp4Checksum : Bool
  tunnelEndpointEnabled : Bool
  tunnelEndpoint : BitVec 128
deriving DecidableEq

def Settings.flat (settings : Settings) : FlatSettings where
  responseFlags := settings.responseFlags.word
  randomTtl := settings.randomTtl
  metricsEnabled := settings.metricsEnabled
  captureEnabled := settings.captureEnabled
  dryRun := settings.dryRun
  ednsEcho := settings.ednsEcho
  namePolicy :=
    match settings.namePolicy with
    | .toZero => 0
    | .byLabels => 1
  dnsPort := settings.dnsPort
  ednsPayloadSize := settings.ednsPayloadSize
  udp4Checksum := settings.udp4Checksum == .compute
  tunnelEndpointEnabled :=
    match settings.tunnelReturn with
    | .reflect => false
    | .endpoint _ => true
  tunnelEndpoint :=
    match settings.tunnelReturn with
    | .reflect => 0
    | .endpoint address => address

def FlatSettings.default : FlatSettings :=
  Settings.flat {}

def FlatSettings.settings (flat : FlatSettings) : Settings where
  responseFlags := .ofWord flat.responseFlags
  randomTtl := flat.randomTtl
  metricsEnabled := flat.metricsEnabled
  captureEnabled := flat.captureEnabled
  dryRun := flat.dryRun
  ednsEcho := flat.ednsEcho
  namePolicy := if flat.namePolicy = 1 then .byLabels else .toZero
  dnsPort := flat.dnsPort
  udp4Checksum := if flat.udp4Checksum then .compute else .zero
  tunnelReturn := if flat.tunnelEndpointEnabled then .endpoint flat.tunnelEndpoint else .reflect
  ednsPayloadSize := flat.ednsPayloadSize

/-- Reading what was written gives the settings back. -/
@[simp]
theorem Settings.settings_flat (settings : Settings) : settings.flat.settings = settings := by
  obtain ⟨_, _, _, _, _, _, policy, _, checksum, tunnelReturn, _⟩ := settings
  cases policy <;> cases checksum <;> cases tunnelReturn <;> simp [flat, FlatSettings.settings]

end DnsResponder
