import DnsResponder.Proofs.Log

namespace DnsResponder
namespace Log

/-!
# Which errors the limiter lets through

The limiter remembers one reading of the clock for each category: that of the last error which it
let through.  The clock may stand still or go back between two errors, so it is not clear beforehand
that what is remembered is the greatest of those readings, nor that a category is not held up by
another one.

`passed` collects, along a history, the readings at which errors of a category were let through.
`spaced` says what this must come to without looking at a log: of the readings at which errors of
the category came, those that are a second behind the last one kept.  Both agree from any log on,
since neither sinks nor other messages nor other categories change what is remembered.
-/

variable {log : Log} {category : Category} {now last : Nat} {message : String}

/-! ## One event -/

theorem Adds.limiter_eq {topics : UInt32} {before after : Log} (adds : Adds topics before after) :
    after.limiter = before.limiter := by
  rcases adds with ⟨added, rfl, -⟩
  rfl

theorem fst_limited (log : Log) (now : Nat) (category : Category) (message : String) :
    (log.limited now category message).1 = log.limiter.admits category now := by
  rw [limited]
  split
  · next admitted => exact admitted.symm
  · next refused => exact (Bool.eq_false_iff.mpr refused).symm

/-- Whether an error is let through depends on the last one of its category alone. -/
theorem limited_iff :
    (log.limited now category message).1 = true ↔
      log.limiter.last category + limitInterval ≤ now := by
  have waits : 0 < limitInterval := by decide
  rw [fst_limited, Limiter.admits, decide_eq_true_iff]
  omega

/-- The reading is taken over whether or not a sink takes the error. -/
theorem last_limited (log : Log) (now : Nat) (noted asked : Category) (message : String) :
    (log.limited now noted message).2.limiter.last asked =
      if noted = asked ∧ (log.limited now noted message).1 = true then now
      else log.limiter.last asked := by
  rw [fst_limited, limited]
  split
  · next admitted =>
    apply (congrArg (·.last asked) (adds_plain _ .warn _).limiter_eq).trans
    rw [Limiter.last_record]
    simp only [admitted, and_true, eq_comm]
  · next refused =>
    rw [if_neg fun admitted => refused admitted.2]

/-- The reading at which an error of the category came. -/
def Event.reading? (category : Category) : Event → Option Nat
  | .limited now about _ => if about = category then some now else none
  | _ => none

/-- The reading at which an error of the category was let through. -/
def Event.passed? (log : Log) (category : Category) : Event → Option Nat
  | .limited now about message =>
    if about = category ∧ (log.limited now about message).1 = true then some now else none
  | _ => none

namespace Event

/-- An error is let through when it comes late enough behind the last one of its category. -/
theorem passed?_eq (log : Log) (category : Category) (event : Event) :
    event.passed? log category =
      (event.reading? category).filter fun now =>
        log.limiter.last category + limitInterval ≤ now := by
  cases event with
  | limited now about message =>
    rw [passed?, reading?]
    by_cases other : about = category
    · subst other
      simp only [true_and, if_true, Option.filter_some, limited_iff, decide_eq_true_eq]
    · rw [if_neg other, if_neg fun same => other same.1]
      rfl
  | _ => rfl

/-- What is remembered of a category changes with the errors of the category that are let through,
and with nothing else. -/
theorem last_run (log : Log) (category : Category) (event : Event) :
    (event.run log).limiter.last category =
      (event.passed? log category).getD (log.limiter.last category) := by
  cases event with
  | install offer level =>
    rw [run, Log.install]
    split <;> rfl
  | uninstall => rfl
  | setTopics topics =>
    rw [run, Log.setTopics]
    split <;> rfl
  | plain level message =>
    exact congrArg (·.last category) (adds_plain log level message).limiter_eq
  | breadcrumb topics message =>
    exact congrArg (·.last category) (adds_breadcrumb log topics message).limiter_eq
  | limited now about message =>
    rw [run, last_limited, passed?, apply_ite (Option.getD · _)]
    rfl
  | drain => rfl

end Event

/-! ## Histories -/

/-- The readings at which errors of the category came, in order. -/
def readings (category : Category) (history : List Event) : List Nat :=
  history.filterMap (Event.reading? category)

/-- The readings at which errors of the category were let through, in order. -/
def passed (category : Category) (log : Log) : List Event → List Nat
  | [] => []
  | event :: rest => (event.passed? log category).toList ++ passed category (event.run log) rest

/-- The readings that are kept when each is to be behind the last one kept by a second. -/
def spaced (last : Nat) : List Nat → List Nat
  | [] => []
  | now :: rest => if last + limitInterval ≤ now then now :: spaced now rest else spaced last rest

/-- The category takes part with its own readings only. -/
theorem passed_eq (category : Category) (log : Log) (history : List Event) :
    passed category log history = spaced (log.limiter.last category) (readings category history) := by
  induction history generalizing log with
  | nil => rfl
  | cons event rest ih =>
    rw [passed, ih, Event.last_run, Event.passed?_eq, readings, readings, List.filterMap_cons]
    cases event.reading? category with
    | none => rfl
    | some now =>
      rw [Option.filter_some]
      dsimp only
      rw [spaced]
      by_cases late : log.limiter.last category + limitInterval ≤ now
      · simp only [late, decide_true, if_true]
        rfl
      · simp only [late, decide_false, Bool.false_eq_true, if_false]
        rfl

/-- What is remembered is the reading of the latest error that was let through. -/
theorem last_foldl (category : Category) (log : Log) (history : List Event) :
    (history.foldl Event.run log).limiter.last category =
      (passed category log history).getLastD (log.limiter.last category) := by
  induction history generalizing log with
  | nil => rfl
  | cons event rest ih =>
    rw [List.foldl_cons, ih, Event.last_run, passed]
    cases event.passed? log category with
    | none => rfl
    | some now => rw [Option.toList_some, List.singleton_append, List.getLastD_cons]; rfl

theorem passed_append (category : Category) (log : Log) (history more : List Event) :
    passed category log (history ++ more) =
      passed category log history ++ passed category (history.foldl Event.run log) more := by
  induction history generalizing log with
  | nil => rfl
  | cons event rest ih =>
    rw [List.cons_append, passed, ih, passed, List.foldl_cons, List.append_assoc]

/-- Readings that are kept are a second behind all that were kept before. -/
theorem spaced_apart (last : Nat) (arriving : List Nat) :
    (∀ now ∈ spaced last arriving, last + limitInterval ≤ now)
      ∧ (spaced last arriving).Pairwise fun earlier later => earlier + limitInterval ≤ later := by
  induction arriving generalizing last with
  | nil => exact ⟨fun _ none => absurd none List.not_mem_nil, .nil⟩
  | cons now rest ih =>
    rw [spaced]
    split
    · next late =>
      rcases ih now with ⟨behind, apart⟩
      refine ⟨?_, .cons behind apart⟩
      intro kept member
      rcases List.mem_cons.mp member with rfl | later
      · exact late
      · have after := behind kept later
        omega
    · exact ih last

/-- Nothing is kept before a second has passed. -/
theorem spaced_of_early {arriving : List Nat} (early : ∀ now ∈ arriving, now < last + limitInterval) :
    spaced last arriving = [] := by
  induction arriving with
  | nil => rfl
  | cons now rest ih =>
    rw [List.forall_mem_cons] at early
    rw [spaced, if_neg (Nat.not_le_of_lt early.1), ih early.2]

/-- After any history, an error is let through exactly when it comes a second behind the latest one of
its category that was let through, or a second behind the start of the clock when there is none.  So
those that are let through in one category are a second apart and in order, and they are the same in
every other process and history in which errors of the category come at the same readings.  Behind
the latest of them nothing is let through, however far the clock goes back, until the clock is a
second ahead of it, and then the next error is. -/
theorem lets_through_once_a_second (process : UInt32) (history : List Event) (category : Category) :
    let kept := passed category (begun process) history
    (∀ now message, ((after process history).limited now category message).1 = true ↔
      match kept.getLast? with
      | none => 1000 ≤ now
      | some last => last + 1000 ≤ now)
    ∧ (kept.Pairwise fun earlier later => earlier + 1000 ≤ later)
    ∧ (∀ other elsewhere, readings category elsewhere = readings category history →
        passed category (begun other) elsewhere = kept)
    ∧ ∀ last, kept.getLast? = some last →
        ∀ more, (∀ now ∈ readings category more, now < last + 1000) →
          passed category (begun process) (history ++ more) = kept
          ∧ ∀ now message,
            ((after process (history ++ more)).limited now category message).1 = true ↔
              last + 1000 ≤ now := by
  intro kept
  have fresh (process : UInt32) : (begun process).limiter.last category = 0 := by
    cases category <;> rfl
  have remembered : (after process history).limiter.last category = kept.getLastD 0 := by
    rw [after, last_foldl, fresh]
  have latest : kept.getLastD 0 = kept.getLast?.getD 0 := List.getLastD_eq_getLast? ..
  refine ⟨?_, (passed_eq category _ history ▸ spaced_apart _ _).2, ?_, ?_⟩
  · intro now message
    rw [limited_iff, remembered, latest]
    cases kept.getLast? with
    | none => rw [Option.getD_none, Nat.zero_add]; rfl
    | some last => rfl
  · intro other elsewhere same
    rw [passed_eq, same, fresh, ← fresh process, ← passed_eq]
  · intro last found more early
    rw [found, Option.getD_some] at latest
    have waiting : (after process history).limiter.last category = last := remembered.trans latest
    have nothing : passed category (after process history) more = [] := by
      rw [passed_eq, waiting]
      exact spaced_of_early early
    have same : passed category (begun process) (history ++ more) = kept := by
      rw [passed_append]
      exact (congrArg (kept ++ ·) nothing).trans (List.append_nil kept)
    refine ⟨same, fun now message => ?_⟩
    rw [limited_iff, after, last_foldl, same, fresh, latest]
    rfl

/-- Errors in two categories and a clock that is set back behind the last one. -/
def setBack : List Event :=
  [.install ⟨true, 0⟩ (some "error"), .limited 1700 .boundsViolation "a",
    .limited 1701 .captureFailed "b", .limited 2699 .boundsViolation "c",
    .limited 2700 .boundsViolation "d", .limited 90 .boundsViolation "e"]

theorem setBack_waits :
    passed .boundsViolation (begun 7) setBack = [1700, 2700]
    ∧ passed .captureFailed (begun 7) setBack = [1701]
    ∧ passed .boundsViolation (begun 7)
        (setBack ++ [.limited 3699 .boundsViolation "f", .limited 9 .invalidRecord "g"]) = [1700, 2700]
    ∧ ((after 7 (setBack ++ [.limited 3699 .boundsViolation "f",
        .limited 9 .invalidRecord "g"])).limited 3700 .boundsViolation "h").1 = true := by
  have kept : passed .boundsViolation (begun 7) setBack = [1700, 2700] := by decide
  rcases lets_through_once_a_second 7 setBack .boundsViolation with ⟨-, -, -, waits⟩
  rcases waits 2700 (by rw [kept]; rfl)
    [.limited 3699 .boundsViolation "f", .limited 9 .invalidRecord "g"] (by decide) with
    ⟨same, decided⟩
  exact ⟨kept, by decide, same.trans kept, (decided 3700 "h").mpr (by decide)⟩

end Log
end DnsResponder
