import DnsResponder.Proofs.Dns.Name
import DnsResponder.Proofs.Records
import DnsResponder.Proofs.Served
import DnsResponder.Responder
import Mathlib.Data.List.Induction

namespace DnsResponder
namespace Responder

/-!
# What a history leaves in the tables

A responder is administered while it handles frames, in any order.  What it then knows about a name
is told by the history alone: the last event that concerned the name and the type decides.
`Event.entry` says so in terms of dotted names, and a whole history comes to the same as the tables
that it leaves.

Writing to the tables by key, past the names, is part of a history as well.  Handling frames is, too,
and leaves the tables alone.
-/

/-- What can happen to a responder. -/
inductive Event
  | insertA (name : String) (record : Record 32)
  | insertAaaa (name : String) (record : Record 128)
  | remove (name : String) (type : Dns.RecordType)
  | storeA (key : Dns.Key) (record : Record 32)
  | storeAaaa (key : Dns.Key) (record : Record 128)
  | erase (key : Dns.Key)
  | clearRecords
  | serve (network : String)
  | serveBlock (block : Block)
  | withdraw (block : Block)
  | setOption (slot value : UInt32)
  | resetMetrics
  | capture (queue : Option CaptureQueue)
  | process (moment : Moment) (frame : Frame)

/-- The responder that an operation leaves; one that is refused leaves it as it was. -/
def leftBy {ε : Type} (responder : Responder) : Except ε Responder → Responder
  | .ok changed => changed
  | .error _ => responder

def withRecords (responder : Responder) (records : Records) : Responder :=
  { responder with tables.records := records }

def withServed (responder : Responder) (served : Served) : Responder :=
  { responder with tables.served := served }

/-- The responder and the log after an event. -/
def Event.run (event : Event) (responder : Responder) (log : Log) : Responder × Log :=
  match event with
  | .insertA name record => (responder.leftBy (responder.insertA name record), log)
  | .insertAaaa name record => (responder.leftBy (responder.insertAaaa name record), log)
  | .remove name type => (responder.leftBy ((responder.remove name type).map (·.2)), log)
  | .storeA key record =>
    (responder.withRecords (responder.tables.records.insertA key record).2, log)
  | .storeAaaa key record =>
    (responder.withRecords (responder.tables.records.insertAaaa key record).2, log)
  | .erase key => (responder.withRecords (responder.tables.records.remove key).2, log)
  | .clearRecords => (responder.clearRecords, log)
  | .serve network => (responder.leftBy ((responder.serve network).map (·.2)), log)
  | .serveBlock block =>
    (responder.leftBy ((responder.tables.served.insert block).map fun (_, served) =>
      responder.withServed served), log)
  | .withdraw block => (responder.withServed (responder.tables.served.remove block).2, log)
  | .setOption slot value => (responder.leftBy (responder.setOption slot value), log)
  | .resetMetrics => responder.resetMetrics log
  | .capture queue => ({ responder with capture := queue }, log)
  | .process moment frame => (responder.process moment frame log).2.2

/-- The responder and the log after a history, from the making of the responder on. -/
def after (settings : Settings) (capture : Option CaptureQueue) (log : Log)
    (history : List Event) : Responder × Log :=
  history.foldl (fun state event => event.run state.1 state.2) (create settings capture log)

/-! ## Entries -/

open Dns.PackedName (SameName Packable)

/-- What an event makes of the address and the time to live that are known for a name and the code of
a type. -/
def Event.entry (name : String) (qtype : UInt16) (known : Option (Address × UInt32)) :
    Event → Option (Address × UInt32)
  | .insertA other record =>
    if Packable other ∧ SameName name other ∧ qtype = Dns.typeA then
      some (.v4 record.address, record.ttl)
    else known
  | .insertAaaa other record =>
    if Packable other ∧ SameName name other ∧ qtype = Dns.typeAaaa then
      some (.v6 record.address, record.ttl)
    else known
  | .remove other type =>
    if Packable other ∧ SameName name other ∧ qtype = type.code then none else known
  | .storeA key record =>
    if Packable name ∧ Dns.Key.named name qtype = key ∧ qtype = Dns.typeA then
      some (.v4 record.address, record.ttl)
    else known
  | .storeAaaa key record =>
    if Packable name ∧ Dns.Key.named name qtype = key ∧ qtype = Dns.typeAaaa then
      some (.v6 record.address, record.ttl)
    else known
  | .erase key => if Dns.Key.named name qtype = key then none else known
  | .clearRecords => none
  | _ => known

/-- What is known for a name and the code of a type after a history. -/
def entryAfter (history : List Event) (name : String) (qtype : UInt16) :
    Option (Address × UInt32) :=
  history.foldl (fun known event => event.entry name qtype known) none

theorem Event.entry_of_unpackable {name : String} (unpackable : ¬ Packable name) (qtype : UInt16)
    (event : Event) : event.entry name qtype none = none := by
  cases event with
  | insertA other record =>
    exact if_neg fun stored => unpackable (stored.1.congr stored.2.1.symm)
  | insertAaaa other record =>
    exact if_neg fun stored => unpackable (stored.1.congr stored.2.1.symm)
  | storeA key record => exact if_neg fun stored => unpackable stored.1
  | storeAaaa key record => exact if_neg fun stored => unpackable stored.1
  | remove other type => exact ite_self none
  | erase key => exact ite_self none
  | _ => rfl

theorem entryAfter_append (history : List Event) (event : Event) (name : String)
    (qtype : UInt16) : entryAfter (history ++ [event]) name qtype =
      event.entry name qtype (entryAfter history name qtype) := by
  rw [entryAfter, entryAfter, List.foldl_append]
  rfl

theorem entryAfter_of_unpackable (history : List Event) {name : String}
    (unpackable : ¬ Packable name) (qtype : UInt16) : entryAfter history name qtype = none := by
  induction history using List.reverseRecOn with
  | nil => rfl
  | append_singleton history event ih =>
    rw [entryAfter_append, ih]
    exact event.entry_of_unpackable unpackable qtype

theorem packable_of_entryAfter {history : List Event} {name : String} {qtype : UInt16}
    {held : Address × UInt32} (known : entryAfter history name qtype = some held) :
    Packable name := by
  by_contra unpackable
  rw [entryAfter_of_unpackable history unpackable] at known
  cases known

/-! ## One event -/

variable (event : Event) (responder : Responder) (log : Log)

/-- An event does to the records what it does to the entries. -/
theorem held?_run {name : String} (packable : Packable name) (qtype : UInt16) :
    (event.run responder log).1.tables.records.held? (.named name qtype) =
      event.entry name qtype (responder.tables.records.held? (.named name qtype)) := by
  have concerns {other : String} (beside : Packable other) (code : UInt16) :
      Dns.Key.named name qtype = .named other code ↔
        Packable other ∧ SameName name other ∧ qtype = code :=
    (Dns.Key.named_eq_iff packable beside).trans (and_iff_right beside).symm
  cases event with
  | insertA other record =>
    rw [Event.run, Event.entry, insertA]
    rcases Dns.Key.ofText_cases other .a with ⟨beside, made⟩ | ⟨unpackable, cause, made⟩
    · rw [made]
      refine (Records.held?_insertA record).trans (if_congr ?_ rfl rfl)
      exact (and_iff_left_of_imp (congrArg Dns.Key.qtype)).trans (concerns beside _)
    · rw [made, if_neg fun stored => unpackable stored.1]
      rfl
  | insertAaaa other record =>
    rw [Event.run, Event.entry, insertAaaa]
    rcases Dns.Key.ofText_cases other .aaaa with ⟨beside, made⟩ | ⟨unpackable, cause, made⟩
    · rw [made]
      refine (Records.held?_insertAaaa record).trans (if_congr ?_ rfl rfl)
      exact (and_iff_left_of_imp (congrArg Dns.Key.qtype)).trans (concerns beside _)
    · rw [made, if_neg fun stored => unpackable stored.1]
      rfl
  | remove other type =>
    rw [Event.run, Event.entry, remove]
    rcases Dns.Key.ofText_cases other type with ⟨beside, made⟩ | ⟨unpackable, cause, made⟩
    · rw [made]
      exact Records.held?_remove.trans (if_congr (concerns beside _) rfl rfl)
    · rw [made, if_neg fun stored => unpackable stored.1]
      rfl
  | storeA key record =>
    exact (Records.held?_insertA record).trans (if_congr (and_iff_right packable).symm rfl rfl)
  | storeAaaa key record =>
    exact (Records.held?_insertAaaa record).trans
      (if_congr (and_iff_right packable).symm rfl rfl)
  | erase key => exact Records.held?_remove
  | clearRecords => exact Records.held?_empty
  | serve network =>
    rw [Event.run, serve]
    cases responder.tables.served.insertText network <;> rfl
  | serveBlock block =>
    rw [Event.run]
    cases responder.tables.served.insert block <;> rfl
  | setOption slot value =>
    rw [Event.run, setOption]
    cases responder.tables.options.setSlot slot value <;> rfl
  | withdraw | resetMetrics | capture | process => rfl

/-- Offering a copy to the queue counts nothing. -/
theorem metrics_captureReply (settings : Settings) (moment : Moment) (run : Engine.Run)
    (observers : Observers) :
    (Engine.captureReply settings moment run observers).metrics = observers.metrics := by
  rw [Engine.captureReply]
  split
  · rfl
  · split
    · split <;> rfl
    · rfl

/-- Handling a frame changes the counters by counting what became of it, and by nothing else. -/
theorem metrics_process (moment : Moment) (frame : Frame) :
    (responder.process moment frame log).2.2.1.metrics =
      Engine.count responder.settings moment
        (Engine.handle responder.settings responder.tables frame) responder.metrics :=
  metrics_captureReply ..

/-- An event keeps the settings, takes at most one block into service or out of it, and leaves the
counters alone, starts them anew, or counts a frame. -/
theorem run_keeps : (event.run responder log).1.settings = responder.settings ∧
    ((event.run responder log).1.tables.served = responder.tables.served
      ∨ (∃ block added, responder.tables.served.insert block =
          .ok (added, (event.run responder log).1.tables.served))
      ∨ ∃ block, (event.run responder log).1.tables.served =
          (responder.tables.served.remove block).2) ∧
    ((event.run responder log).1.metrics = responder.metrics
      ∨ (event.run responder log).1.metrics = responder.metrics.reset
      ∨ ∃ moment run, (event.run responder log).1.metrics =
          Engine.count responder.settings moment run responder.metrics) := by
  cases event with
  | insertA name record =>
    rw [Event.run, insertA]
    cases Dns.Key.ofText name .a <;> exact ⟨rfl, .inl rfl, .inl rfl⟩
  | insertAaaa name record =>
    rw [Event.run, insertAaaa]
    cases Dns.Key.ofText name .aaaa <;> exact ⟨rfl, .inl rfl, .inl rfl⟩
  | remove name type =>
    rw [Event.run, remove]
    cases Dns.Key.ofText name type <;> exact ⟨rfl, .inl rfl, .inl rfl⟩
  | serve network =>
    rw [Event.run, serve]
    cases inserted : responder.tables.served.insertText network with
    | error cause => exact ⟨rfl, .inl rfl, .inl rfl⟩
    | ok result =>
      rcases Served.insert_of_insertText inserted with ⟨block, found⟩
      exact ⟨rfl, .inr (.inl ⟨block, result.1, found⟩), .inl rfl⟩
  | serveBlock block =>
    rw [Event.run]
    cases inserted : responder.tables.served.insert block with
    | error cause => exact ⟨rfl, .inl rfl, .inl rfl⟩
    | ok result => exact ⟨rfl, .inr (.inl ⟨block, result.1, inserted⟩), .inl rfl⟩
  | withdraw block => exact ⟨rfl, .inr (.inr ⟨block, rfl⟩), .inl rfl⟩
  | setOption slot value =>
    rw [Event.run, setOption]
    cases responder.tables.options.setSlot slot value <;> exact ⟨rfl, .inl rfl, .inl rfl⟩
  | resetMetrics => exact ⟨rfl, .inl rfl, .inr (.inl rfl)⟩
  | process moment frame =>
    exact ⟨rfl, .inl rfl, .inr (.inr ⟨moment, _, metrics_process responder log moment frame⟩)⟩
  | _ => exact ⟨rfl, .inl rfl, .inl rfl⟩

/-! ## Whole histories -/

variable (settings : Settings) (queue : Option CaptureQueue) (history : List Event)

theorem after_append : after settings queue log (history ++ [event]) =
    event.run (after settings queue log history).1 (after settings queue log history).2 := by
  rw [after, after, List.foldl_append]
  rfl

/-- After a history, the records hold what the history says. -/
theorem held?_after {name : String} (packable : Packable name) (qtype : UInt16) :
    (after settings queue log history).1.tables.records.held? (.named name qtype) =
      entryAfter history name qtype := by
  induction history using List.reverseRecOn with
  | nil => exact Records.held?_empty
  | append_singleton history event ih =>
    rw [after_append, entryAfter_append, held?_run _ _ _ packable, ih]

theorem settings_after : (after settings queue log history).1.settings = settings := by
  induction history using List.reverseRecOn with
  | nil => rfl
  | append_singleton history event ih =>
    rw [after_append, (run_keeps event _ _).1, ih]

/-- No history takes more networks into service than a lookup sees. -/
theorem bounded_after : (after settings queue log history).1.tables.served.Bounded := by
  induction history using List.reverseRecOn with
  | nil => exact ⟨Nat.zero_le _, Nat.zero_le _⟩
  | append_singleton history event ih =>
    rw [after_append]
    rcases (run_keeps event (after settings queue log history).1 _).2.1 with
      same | ⟨block, added, inserted⟩ | ⟨block, removed⟩
    · rw [same]
      exact ih
    · exact ih.insert inserted
    · rw [removed]
      exact ih.remove block

end Responder
end DnsResponder
