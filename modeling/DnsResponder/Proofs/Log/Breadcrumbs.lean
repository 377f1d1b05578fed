import DnsResponder.Host
import DnsResponder.Proofs.Log

namespace DnsResponder
namespace Log

/-!
# The guard in front of breadcrumbs

Before a stage words a breadcrumb it asks `listens`, which looks at a copy of the topics; the sink
itself is looked at only when the breadcrumb is handed over.  Both have to come to the same answer.
If the copy said no where the sink would say yes, breadcrumbs would be lost; if it said yes where the
sink says no, they would be worded for nobody.

On a consistent log they agree, and a history keeps a log consistent.  The level of the sink, which
decides on plain messages, has no part in this.
-/

variable {log : Log} {topics : UInt32} {message : String}

/-- On topics, the copy decides as the sink would, at any level. -/
theorem Consistent.listens_eq (consistent : log.Consistent) (about : topics ≠ 0) (level : Level) :
    log.listens topics = log.sink.any fun sink => Sink.accepts sink level topics := by
  rw [listens, consistent.active]
  cases log.sink with
  | none =>
    rw [Option.map_none, Option.getD_none, UInt32.zero_and, Option.any_none]
    rfl
  | some sink =>
    rw [Option.map_some, Option.getD_some, Option.any_some, Sink.accepts, if_neg about]

/-- A breadcrumb reaches the sink when the guard lets it through and it is a text to hand over. -/
theorem Consistent.breadcrumb_eq (consistent : log.Consistent) (topics : UInt32)
    (message : String) :
    log.breadcrumb topics message =
      if log.listens topics ∧ message ≠ "" ∧ isDeliverable message then
        { log with entries := log.entries ++ [⟨.debug, log.format topics message, topics⟩] }
      else log := by
  rw [breadcrumb]
  split
  · next dropped =>
    have stopped : ¬ (log.listens topics ∧ message ≠ "" ∧ isDeliverable message) := by
      rintro ⟨heard, worded, -⟩
      rcases dropped with empty | aimless
      · exact worded empty
      · rw [listens, aimless, UInt32.and_zero] at heard
        cases heard
    rw [if_neg stopped]
  · next kept =>
    rw [not_or] at kept
    rcases kept with ⟨worded, about⟩
    have guard := consistent.listens_eq about .debug
    rcases Option.eq_none_or_eq_some log.sink with absent | ⟨sink, installed⟩
    · rw [absent, Option.any_none] at guard
      rw [dispatch_of_absent absent, guard, if_neg (fun heard => Bool.false_ne_true heard.1)]
    · rw [installed, Option.any_some] at guard
      rw [dispatch_of_installed installed consistent.named, guard]
      simp only [ne_eq, worded, not_false_eq_true, true_and]

/-- Asking first changes nothing. -/
theorem Consistent.note_eq (consistent : log.Consistent) (topic : Topic) (message : String) :
    log.note topic message = log.breadcrumb topic.bit message := by
  rw [note]
  split
  · rfl
  · next unheard =>
    rw [consistent.breadcrumb_eq, if_neg (fun heard => unheard heard.1)]

/-- After any history of sinks, topics and messages, the copy holds the topics of the sink, and none
without a sink.  A sink is refused for the lack of a function alone, and a refusal leaves the log and
a host with it as they were.  A breadcrumb on topics the guard denies does not reach the sink; on
topics it grants, a text without the zero character reaches it in one call, whatever the level.  So a
stage that asks first leaves the same log as one that does not. -/
theorem guard_agrees_with_sink (process : UInt32) (history : List Event) :
    let log := after process history
    log.active = (log.sink.map (·.topics)).getD 0
    ∧ (∀ (offer : SinkOffer) (level : Option String),
        (log.install offer level = .error .missingCallback ↔ offer.hasCallback = false)
        ∧ (offer.hasCallback = false → Event.run log (.install offer level) = log
            ∧ ∀ responder name,
              Host.setSink ⟨responder, log⟩ (some offer) name = (false, ⟨responder, log⟩)))
    ∧ (∀ topics ≠ 0, ∀ message,
        (log.listens topics = false → log.breadcrumb topics message = log)
        ∧ (log.listens topics = true → message ≠ "" → isDeliverable message = true →
            log.breadcrumb topics message =
              { log with
                entries := log.entries ++ [⟨.debug, log.format topics message, topics⟩] }))
    ∧ ∀ topic message, log.note topic message = log.breadcrumb topic.bit message := by
  intro log
  have consistent : log.Consistent := consistent_after process history
  refine ⟨consistent.active, ?_, ?_, consistent.note_eq⟩
  · intro offer level
    refine ⟨install_eq_error_iff log offer level, fun lacking => ⟨?_, ?_⟩⟩
    · rw [Event.run, (install_eq_error_iff log offer level).mpr lacking]
      rfl
    · intro responder name
      rw [Host.setSink, (install_eq_error_iff log offer _).mpr lacking]
  · intro topics _ message
    rw [consistent.breadcrumb_eq]
    constructor
    · intro unheard
      rw [unheard, if_neg (fun heard => Bool.false_ne_true heard.1)]
    · intro heard worded deliverable
      rw [if_pos ⟨heard, worded, deliverable⟩]

/-- A sink for errors alone that listens to two topics, an offer without a function, and a change of
topics: breadcrumbs arrive on the new topic only, though they are far below the level of the sink. -/
def retuned : List Event :=
  [.install ⟨true, 0x0C⟩ (some "error"), .install ⟨false, 0xFFFFFFFF⟩ none,
    .breadcrumb 0x04 "found", .drain, .setTopics 0x10]

theorem retuned_breadcrumbs :
    (after 7 retuned).active = 0x10
    ∧ ((after 7 retuned).breadcrumb 0x04 "unheard").entries = []
    ∧ ((after 7 retuned).breadcrumb 0x10 "moved").entries =
      [⟨.debug, "[dnsfp-p7] [REWRITE] moved", 0x10⟩] := by
  rcases guard_agrees_with_sink 7 retuned with ⟨copied, -, decided, -⟩
  rcases decided 0x04 (by decide) "unheard" with ⟨unheard, -⟩
  rcases decided 0x10 (by decide) "moved" with ⟨-, heard⟩
  refine ⟨copied.trans (by decide), ?_, ?_⟩
  · rw [unheard (by decide)]
    decide
  · rw [heard (by decide) (by decide) (by decide)]
    decide

end Log
end DnsResponder
