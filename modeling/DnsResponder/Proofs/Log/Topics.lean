import DnsResponder.Proofs.Log.Breadcrumbs

namespace DnsResponder
namespace Log

/-!
# What a sink receives on one topic

A sink tells the topics apart by the mask of an entry.  `on` picks out the entries on one topic, in
their order.  A message leaves them as they are unless it is a breadcrumb on this topic: breadcrumbs
on other topics have other bits, and plain messages, limited errors among them, have none.
-/

variable {log : Log} {topic other : Topic} {topics : UInt32} {message : String}

/-- The entries that the sink received on a topic. -/
def on (log : Log) (topic : Topic) : List Entry :=
  log.entries.filter fun entry => entry.topics &&& topic.bit != 0

/-- A breadcrumb as the sink gets to see it. -/
def breadcrumbEntry (log : Log) (topic : Topic) (message : String) : Entry :=
  ⟨.debug, log.format topic.bit message, topic.bit⟩

theorem bit_and_bit_of_ne (different : other ≠ topic) : other.bit &&& topic.bit = 0 := by
  revert different
  cases other <;> cases topic <;> decide

theorem Adds.on_eq {before after : Log} (adds : Adds topics before after)
    (apart : topics &&& topic.bit = 0) : after.on topic = before.on topic := by
  rcases adds with ⟨added, rfl, about⟩
  have nothing : added.filter (fun entry => entry.topics &&& topic.bit != 0) = [] := by
    rw [List.filter_eq_nil_iff]
    intro entry member
    rw [about entry member, apart]
    decide
  rw [on, List.filter_append, nothing, List.append_nil]
  rfl

theorem on_limited (now : Nat) (category : Category) :
    (log.limited now category message).2.on topic = log.on topic := by
  rw [limited]
  split
  · exact (adds_plain _ .warn _).on_eq UInt32.zero_and
  · rfl

theorem on_note_of_ne (different : other ≠ topic) :
    (log.note other message).on topic = log.on topic :=
  (adds_note log other message).on_eq (bit_and_bit_of_ne different)

/-- On its own topic a breadcrumb is one more entry, if the sink listens and the text can be handed
over. -/
theorem Consistent.on_note (consistent : log.Consistent) (worded : message ≠ "") :
    (log.note topic message).on topic =
      log.on topic ++
        if log.listens topic.bit = true ∧ isDeliverable message = true then
          [log.breadcrumbEntry topic message]
        else [] := by
  rw [consistent.note_eq, consistent.breadcrumb_eq]
  by_cases heard : log.listens topic.bit = true ∧ isDeliverable message = true
  · have about : (topic.bit &&& topic.bit != 0) = true := by cases topic <;> decide
    rw [if_pos heard, if_pos ⟨heard.1, worded, heard.2⟩, on, List.filter_append]
    exact congrArg (log.on topic ++ ·) (List.filter_cons_of_pos about)
  · rw [if_neg heard, if_neg fun told => heard ⟨told.1, told.2.2⟩, List.append_nil]

end Log
end DnsResponder
