import DnsResponder.Engine.Accounting

namespace DnsResponder

/-!
# The responder

A responder owns settings, tables, metrics and perhaps a capture queue.  The log belongs to the
process and is passed in and handed back by the operations that write to it.
-/

/-- A responder with everything that it owns. -/
structure Responder where
  settings : Settings
  tables : Tables := {}
  metrics : Metrics := Metrics.fresh
  capture : Option CaptureQueue := none

namespace Responder

/-- Make a responder, and say so in the log. -/
def create (settings : Settings) (capture : Option CaptureQueue) (log : Log) : Responder × Log :=
  let ready := s!"dns-fastpath ready (port={settings.dnsPort.toNat}, policy="
    ++ settings.namePolicy.text ++ s!", dry_run={settings.dryRun}, tunnel_return="
    ++ settings.tunnelReturn.text ++ ")"
  ({ settings, capture }, log.info ready)

/-! ## Administration -/

/-- Store an IPv4 address under a name, in place of any other. -/
def insertA (responder : Responder) (name : String) (record : Record 32) :
    Except Dns.NameError Responder :=
  (Dns.Key.ofText name .a).map fun key =>
    { responder with tables.records := (responder.tables.records.insertA key record).2 }

/-- Store an IPv6 address under a name, in place of any other. -/
def insertAaaa (responder : Responder) (name : String) (record : Record 128) :
    Except Dns.NameError Responder :=
  (Dns.Key.ofText name .aaaa).map fun key =>
    { responder with tables.records := (responder.tables.records.insertAaaa key record).2 }

/-- Remove the record of a name and a type, and whether there was one. -/
def remove (responder : Responder) (name : String) (type : Dns.RecordType) :
    Except Dns.NameError (Bool × Responder) :=
  (Dns.Key.ofText name type).map fun key =>
    let (removed, records) := responder.tables.records.remove key
    (removed, { responder with tables.records := records })

def clearRecords (responder : Responder) : Responder :=
  { responder with tables.records := responder.tables.records.clear }

/-- Take a network into service, and whether it is new. -/
def serve (responder : Responder) (network : String) : Except ServeError (Bool × Responder) :=
  (responder.tables.served.insertText network).map fun (added, served) =>
    (added, { responder with tables.served := served })

/-- Store a runtime option by the number of its slot. -/
def setOption (responder : Responder) (slot value : UInt32) : Except UnknownOption Responder :=
  (responder.tables.options.setSlot slot value).map fun options =>
    { responder with tables.options := options }

/-- Start all counters anew, and note what they were. -/
def resetMetrics (responder : Responder) (log : Log) : Responder × Log :=
  let last := responder.metrics.snapshot
  let summary := s!"metrics reset (received={last.received.toNat}, "
    ++ s!"transmitted={last.transmitted.toNat}, passed={last.passed.toNat}, "
    ++ s!"errored={last.errored.toNat})"
  ({ responder with metrics := responder.metrics.reset }, log.note .metrics summary)

/-! ## Frames -/

/-- The responder's observers, in a process with this log. -/
def observers (responder : Responder) (log : Log) : Observers :=
  { metrics := responder.metrics, capture := responder.capture, log }

/-- Take back what was lent to the handling of a frame. -/
def regain (responder : Responder) (observers : Observers) : Responder :=
  { responder with metrics := observers.metrics, capture := observers.capture }

/-- Decide on the frame of `size` octets at offset `head` of a window. -/
def decideWindow (responder : Responder) (window : Bytes) (head size : Nat) :
    Except BoundsError Engine.Run :=
  (Frame.ofWindow window head size).map (Engine.handle responder.settings responder.tables)

/-- Account for a frame that has been decided on. -/
def account (responder : Responder) (moment : Moment) (run : Engine.Run) (log : Log) :
    Action × Frame × Responder × Log :=
  let observers := Engine.settle responder.settings moment run (responder.observers log)
  (run.action, run.frame, responder.regain observers, observers.log)

def process (responder : Responder) (moment : Moment) (frame : Frame) (log : Log) :
    Action × Frame × Responder × Log :=
  responder.account moment (Engine.handle responder.settings responder.tables frame) log

/-- Handle the frame in a window.  The frame that comes back tells where it is now, and its window is
the window. -/
def processWindow (responder : Responder) (moment : Moment) (window : Bytes) (head size : Nat)
    (log : Log) : Except BoundsError (Action × Frame × Responder × Log) :=
  (responder.decideWindow window head size).map fun run => responder.account moment run log

end Responder
end DnsResponder
