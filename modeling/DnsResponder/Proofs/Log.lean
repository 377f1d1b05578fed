import DnsResponder.Log

namespace DnsResponder
namespace Log

/-!
# What becomes of a message

A message goes to the sink in one call or in none.  Three things decide: there has to be a sink, the
sink has to want the message, and its text has to be free of the zero character.  The mark in front
of a text is the number of the process and the label of its topics, neither of which has a zero
character, so that the text may be asked before it is put together.

Messages only ever add entries on their own topics, which is what `Adds` says of a message.  None of
them touches the sink.  `KeepsSink` says so for all that can happen to a log apart from a new sink or
new topics, and a history of all of it starts at the log that a process has when it begins.
-/

/-! ## Text that can be handed over -/

theorem isDeliverable_append (first second : String) :
    isDeliverable (first ++ second) = (isDeliverable first && isDeliverable second) := by
  rw [isDeliverable, String.toList_append, List.all_append]
  rfl

theorem isDeliverable_label (topic : Topic) : isDeliverable topic.label = true := by
  cases topic <;> decide

theorem isDeliverable_labelOf (topics : UInt32) : isDeliverable (Topic.labelOf topics) = true := by
  rw [Topic.labelOf]
  cases Topic.all.find? fun topic => topics &&& topic.bit == topic.bit with
  | none => decide
  | some topic => exact isDeliverable_label topic

theorem isDeliverable_repr (number : Nat) : isDeliverable number.repr = true := by
  rw [isDeliverable, Nat.toList_repr, List.all_eq_true]
  intro digit member
  have decimal : digit.isDigit = true :=
    Nat.isDigit_of_mem_toDigits (by decide) (Nat.le_refl 10) member
  have least : '0'.toNat = 48 := rfl
  rw [Char.isDigit_iff_toNat] at decimal
  rw [decide_eq_true_eq]
  omega

theorem isDeliverable_iff {message : String} :
    isDeliverable message = true ↔ '\x00' ∉ message.toList := by
  rw [isDeliverable, List.all_eq_true]
  constructor
  · intro each held
    exact absurd (each _ held) (by decide)
  · intro clean char inside
    rw [decide_eq_true_eq]
    intro zero
    have same : char = '\x00' := Char.toNat_inj.mp zero
    exact clean (same ▸ inside)

/-- Parts that are joined can be handed over when each of them can. -/
theorem isDeliverable_intercalate {mark : String} (clean : isDeliverable mark = true)
    (parts : List String) :
    isDeliverable (mark.intercalate parts) = parts.all isDeliverable := by
  induction parts with
  | nil => rfl
  | cons part parts ih =>
    cases parts with
    | nil => rw [String.intercalate_singleton, List.all_cons, List.all_nil, Bool.and_true]
    | cons next later =>
      rw [String.intercalate_cons_cons, isDeliverable_append, isDeliverable_append, clean, ih,
        Bool.and_true]
      rfl

/-- The mark in front of a message does not keep it back. -/
theorem isDeliverable_format {log : Log} (named : isDeliverable log.processId = true)
    (topics : UInt32) (message : String) :
    isDeliverable (log.format topics message) = isDeliverable message := by
  have opening : isDeliverable "[dnsfp-p" = true := by decide
  have closing : isDeliverable "]" = true := by decide
  have blank : isDeliverable " " = true := by decide
  have labelOpening : isDeliverable " [" = true := by decide
  have labelClosing : isDeliverable "] " = true := by decide
  rw [format]
  split
  · simp only [isDeliverable_append, opening, closing, blank, named, Bool.true_and]
  · simp only [isDeliverable_append, opening, closing, labelOpening, labelClosing, named,
      isDeliverable_labelOf, Bool.true_and]

/-! ## One message -/

variable {log : Log} {sink : Sink} {level : Level} {topics : UInt32} {message : String}

theorem dispatch_of_absent (absent : log.sink = none) : log.dispatch level topics message = log := by
  rw [dispatch, absent]

theorem dispatch_of_installed (installed : log.sink = some sink)
    (named : isDeliverable log.processId = true) :
    log.dispatch level topics message =
      if Sink.accepts sink level topics ∧ isDeliverable message then
        { log with entries := log.entries ++ [⟨level, log.format topics message, topics⟩] }
      else log := by
  rw [dispatch, installed]
  simp only [isDeliverable_format named, Bool.and_eq_true]

/-- The log has received entries on these topics, or none, and is the same otherwise. -/
def Adds (topics : UInt32) (before after : Log) : Prop :=
  ∃ added, after = { before with entries := before.entries ++ added }
    ∧ ∀ entry ∈ added, entry.topics = topics

theorem Adds.refl (topics : UInt32) (log : Log) : Adds topics log log :=
  ⟨[], by rw [List.append_nil], fun _ member => absurd member List.not_mem_nil⟩

/-- A message adds an entry on its own topics or none. -/
theorem adds_dispatch (log : Log) (level : Level) (topics : UInt32) (message : String) :
    Adds topics log (log.dispatch level topics message) := by
  rw [dispatch]
  split
  · exact .refl topics log
  · dsimp only
    split
    · exact ⟨_, rfl, fun _ added => congrArg Entry.topics (List.mem_singleton.mp added)⟩
    · exact .refl topics log

theorem adds_plain (log : Log) (level : Level) (message : String) :
    Adds 0 log (log.plain level message) := by
  rw [plain]
  split
  · exact .refl 0 log
  · exact adds_dispatch log level 0 message

theorem adds_breadcrumb (log : Log) (topics : UInt32) (message : String) :
    Adds topics log (log.breadcrumb topics message) := by
  rw [breadcrumb]
  split
  · exact .refl topics log
  · exact adds_dispatch log .debug topics message

theorem adds_note (log : Log) (topic : Topic) (message : String) :
    Adds topic.bit log (log.note topic message) := by
  rw [note]
  split
  · exact adds_breadcrumb log topic.bit message
  · exact .refl topic.bit log

/-- The process and its sink are the same before and after. -/
structure KeepsSink (before after : Log) : Prop where
  processId : after.processId = before.processId
  sink : after.sink = before.sink
  active : after.active = before.active

theorem KeepsSink.refl (log : Log) : KeepsSink log log :=
  ⟨rfl, rfl, rfl⟩

theorem Adds.keepsSink {before after : Log} (adds : Adds topics before after) :
    KeepsSink before after := by
  rcases adds with ⟨added, rfl, -⟩
  exact ⟨rfl, rfl, rfl⟩

theorem keepsSink_limited (log : Log) (now : Nat) (category : Category) (message : String) :
    KeepsSink log (log.limited now category message).2 := by
  rw [limited]
  split
  · rcases (adds_plain { log with limiter := log.limiter.record category now } .warn
      ("[" ++ category.label ++ "] " ++ message)).keepsSink with ⟨process, same, mask⟩
    exact ⟨process, same, mask⟩
  · exact KeepsSink.refl log

/-! ## Histories -/

/-- The lack of a function is all that a sink is refused for. -/
theorem install_eq_error_iff (log : Log) (offer : SinkOffer) (level : Option String) :
    log.install offer level = .error .missingCallback ↔ offer.hasCallback = false := by
  rw [install]
  cases offer.hasCallback with
  | false => exact iff_of_true rfl rfl
  | true =>
    refine iff_of_false ?_ Bool.noConfusion
    rw [if_pos rfl]
    intro impossible
    cases impossible

/-- What can happen to a log. -/
inductive Event
  | install (offer : SinkOffer) (level : Option String)
  | uninstall
  | setTopics (topics : UInt32)
  | plain (level : Level) (message : String)
  | breadcrumb (topics : UInt32) (message : String)
  | limited (now : Nat) (category : Category) (message : String)
  | drain

/-- The log behind an event.  A sink that is not installed leaves the log as it was. -/
def Event.run (log : Log) : Event → Log
  | .install offer level => (log.install offer level).toOption.getD log
  | .uninstall => log.uninstall
  | .setTopics topics => log.setTopics topics
  | .plain level message => log.plain level message
  | .breadcrumb topics message => log.breadcrumb topics message
  | .limited now category message => (log.limited now category message).2
  | .drain => log.drain.2

/-- The log of a process before anything happened. -/
def begun (process : UInt32) : Log where
  processId := process.toNat.repr

/-- The log of a process after a history. -/
def after (process : UInt32) (history : List Event) : Log :=
  history.foldl Event.run (begun process)

/-- A log that shows the number of its process and keeps a true copy of the topics of its sink. -/
structure Consistent (log : Log) : Prop where
  named : isDeliverable log.processId = true
  active : log.active = (log.sink.map (·.topics)).getD 0

theorem Consistent.of_keepsSink {before after : Log} (consistent : before.Consistent)
    (keeps : KeepsSink before after) : after.Consistent where
  named := by rw [keeps.processId, consistent.named]
  active := by rw [keeps.active, keeps.sink, consistent.active]

theorem consistent_begun (process : UInt32) : (begun process).Consistent where
  named := isDeliverable_repr process.toNat
  active := rfl

/-- An installed sink brings its topics with it, a removed one takes them along, and new topics go to
the sink and to the copy alike, or to neither. -/
theorem Consistent.run (consistent : log.Consistent) (event : Event) :
    (event.run log).Consistent := by
  cases event with
  | install offer level =>
    rw [Event.run, Log.install]
    split
    · exact ⟨consistent.named, rfl⟩
    · exact consistent
  | uninstall => exact ⟨consistent.named, rfl⟩
  | setTopics topics =>
    rw [Event.run, Log.setTopics]
    split
    · exact ⟨consistent.named, rfl⟩
    · exact consistent
  | plain level message => exact consistent.of_keepsSink (adds_plain log level message).keepsSink
  | breadcrumb topics message =>
    exact consistent.of_keepsSink (adds_breadcrumb log topics message).keepsSink
  | limited now category message =>
    exact consistent.of_keepsSink (keepsSink_limited log now category message)
  | drain => exact ⟨consistent.named, consistent.active⟩

theorem consistent_after (process : UInt32) (history : List Event) :
    (after process history).Consistent := by
  have kept (log : Log) (consistent : log.Consistent) :
      (history.foldl Event.run log).Consistent := by
    induction history generalizing log with
    | nil => exact consistent
    | cons event rest ih => exact ih _ (consistent.run event)
  exact kept _ (consistent_begun process)

end Log
end DnsResponder
