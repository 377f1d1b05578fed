import DnsResponder.Proofs.Log.Limiter

namespace DnsResponder
namespace Log

/-!
# What a caller is told of an error

A caller who reports an error is told whether it was let through, and is to take this for having
reached the sink.  Between the two stands the level of the sink: the error goes out as a warning, and
a sink that was installed for errors alone takes no warnings.  It receives none of the errors that
are reported, and those that were let through keep their category silent all the same.

For all other sinks the two are the same.  `entries_limited` says for every sink what it receives.
-/

/-- An error as it stands in the message. -/
def errorText (category : Category) (message : String) : String :=
  "[" ++ category.label ++ "] " ++ message

/-- An error as the sink gets to see it. -/
def errorEntry (log : Log) (category : Category) (message : String) : Entry :=
  ⟨.warn, log.format 0 (errorText category message), 0⟩

variable {log : Log} {sink : Sink} {now : Nat} {category : Category} {message : String}

theorem errorText_ne_empty (category : Category) (message : String) :
    errorText category message ≠ "" := by
  rw [errorText, ne_eq, String.append_eq_empty_iff, String.append_eq_empty_iff]
  rintro ⟨⟨-, closing⟩, -⟩
  exact absurd closing (by decide)

theorem isDeliverable_errorText (category : Category) (message : String) :
    isDeliverable (errorText category message) = isDeliverable message := by
  have opening : isDeliverable "[" = true := by decide
  have closing : isDeliverable "] " = true := by decide
  have label : isDeliverable category.label = true := by cases category <;> decide
  simp only [errorText, isDeliverable_append, opening, closing, label, Bool.true_and]

/-- Every sink takes warnings, but one that was installed for errors alone. -/
theorem accepts_warning_iff (sink : Sink) :
    Sink.accepts sink .warn 0 = true ↔ sink.minLevel ≠ .error := by
  rw [Sink.accepts, if_pos rfl]
  cases sink.minLevel <;> decide

theorem entries_warn (named : isDeliverable log.processId = true) (installed : log.sink = some sink)
    (worded : message ≠ "") :
    (log.warn message).entries =
      log.entries ++
        if sink.minLevel ≠ .error ∧ isDeliverable message = true then
          [⟨.warn, log.format 0 message, 0⟩]
        else [] := by
  rw [warn, plain, if_neg worded, dispatch_of_installed installed named]
  by_cases taken : sink.minLevel ≠ .error ∧ isDeliverable message = true
  · rw [if_pos taken, if_pos ⟨(accepts_warning_iff sink).mpr taken.1, taken.2⟩]
  · rw [if_neg taken, List.append_nil,
      if_neg fun accepted => taken ⟨(accepts_warning_iff sink).mp accepted.1, accepted.2⟩]

/-- An error that is let through reaches the sink as a warning does. -/
theorem entries_limited (named : isDeliverable log.processId = true)
    (installed : log.sink = some sink) :
    (log.limited now category message).2.entries =
      log.entries ++
        if (log.limited now category message).1 = true ∧ sink.minLevel ≠ .error
            ∧ isDeliverable message = true then
          [log.errorEntry category message]
        else [] := by
  rw [fst_limited, limited]
  split
  · next admitted =>
    simp only [admitted, true_and, ← isDeliverable_errorText category message]
    let noted : Log := { log with limiter := log.limiter.record category now }
    have shown : isDeliverable noted.processId = true := named
    exact entries_warn shown installed (errorText_ne_empty category message)
  · next refused =>
    rw [if_neg fun admitted => refused admitted.1, List.append_nil]

/-- Of an error that holds no zero character, the sink receives at most one entry.  Unless the sink is
for errors alone, it receives it exactly when the caller is told so; a sink for errors alone receives
nothing, whatever the caller is told.  Either way, the category is silent for the next second once an
error was let through. -/
theorem tells_truth_unless_errors_only (named : isDeliverable log.processId = true)
    (installed : log.sink = some sink) (clean : isDeliverable message = true) (now : Nat)
    (category : Category) :
    let told := (log.limited now category message).1
    let left := (log.limited now category message).2
    let received := left.entries = log.entries ++ [log.errorEntry category message]
    (told = true ↔ log.limiter.last category + 1000 ≤ now)
    ∧ (received ∨ left.entries = log.entries)
    ∧ (sink.minLevel ≠ .error → (told = true ↔ received))
    ∧ (sink.minLevel = .error → left.entries = log.entries)
    ∧ (told = true → ∀ soon < now + 1000, ∀ text, (left.limited soon category text).1 = false) := by
  intro told left received
  have entries : left.entries = log.entries ++
      if told = true ∧ sink.minLevel ≠ .error ∧ isDeliverable message = true then
        [log.errorEntry category message]
      else [] := entries_limited named installed
  simp only [clean, and_true] at entries
  have missed : ¬ (told = true ∧ sink.minLevel ≠ .error) → left.entries = log.entries := by
    intro filtered
    rw [entries, if_neg filtered, List.append_nil]
  refine ⟨limited_iff, ?_, ?_, fun errors => missed fun taken => taken.2 errors, ?_⟩
  · by_cases taken : told = true ∧ sink.minLevel ≠ .error
    · rw [if_pos taken] at entries
      exact .inl entries
    · exact .inr (missed taken)
  · intro warned
    constructor
    · intro admitted
      rw [if_pos ⟨admitted, warned⟩] at entries
      exact entries
    · intro arrived
      cases admitted : told with
      | true => rfl
      | false =>
        have same := arrived.symm.trans (missed fun taken => Bool.noConfusion (admitted ▸ taken.1))
        exact absurd (List.append_right_eq_self.mp same) (List.cons_ne_nil _ _)
  · intro admitted soon early text
    have taken : left.limiter.last category = now := by
      rw [last_limited, if_pos ⟨rfl, admitted⟩]
    rw [Bool.eq_false_iff, ne_eq, limited_iff, taken]
    exact Nat.not_le_of_lt early

/-- A log that takes warnings tells the truth, and stays silent for a second. -/
theorem warnings_are_told :
    isDeliverable (after 7 [.install ⟨true, 0⟩ (some "warn")]).processId = true
    ∧ isDeliverable "full" = true
    ∧ ((after 7 [.install ⟨true, 0⟩ (some "warn")]).limited 1700 .captureFailed "full").2.entries =
      [⟨.warn, "[dnsfp-p7] [CAPTURE_FAILED] full", 0⟩]
    ∧ (((after 7 [.install ⟨true, 0⟩ (some "warn")]).limited 1700 .captureFailed
      "full").2.limited 2699 .captureFailed "again").1 = false := by
  have named : isDeliverable (after 7 [.install ⟨true, 0⟩ (some "warn")]).processId = true := by
    decide
  have clean : isDeliverable "full" = true := by decide
  have installed : (after 7 [.install ⟨true, 0⟩ (some "warn")]).sink = some ⟨0, .warn⟩ := by decide
  rcases tells_truth_unless_errors_only named installed clean 1700 .captureFailed with
    ⟨admitted, -, truthful, -, silent⟩
  have told := admitted.mpr (by decide)
  refine ⟨named, clean, ?_, silent told 2699 (by decide) "again"⟩
  rw [(truthful (by decide)).mp told]
  decide

/-- A sink for errors alone, listening to everything else: the caller is told that the error was let
through, and the sink has received nothing. -/
theorem errors_only_misses_error :
    let log := after 7 [.install ⟨true, 0xFFFFFFFF⟩ (some "error")]
    isDeliverable "full" = true ∧ log.sink = some ⟨0xFFFFFFFF, .error⟩
    ∧ (log.limited 1700 .captureFailed "full").1 = true
    ∧ (log.limited 1700 .captureFailed "full").2.entries = log.entries := by
  decide

end Log
end DnsResponder
