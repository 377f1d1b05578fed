namespace DnsResponder

/-!
# Calls and what they are answered

A machine takes calls one after another.  Each call is answered at once and leaves a state for the
next one.  Two machines that answer each single call alike, and stay related by it, answer every
sequence of calls alike: so a table can be compared with a plain set or map that is easier to
understand.
-/

variable {Call Reply State Other : Type}

/-- What a machine answers to calls, and the state that they leave. -/
def transcript (step : Call → State → Reply × State) : List Call → State → List Reply × State
  | [], state => ([], state)
  | call :: rest, state =>
    let later := transcript step rest (step call state).2
    ((step call state).1 :: later.1, later.2)

/-- What every call keeps is kept by every sequence of calls. -/
theorem keeps_transcript (kept : State → Prop) {step : Call → State → Reply × State}
    (each : ∀ call state, kept state → kept (step call state).2)
    (calls : List Call) {state : State} (start : kept state) :
    kept (transcript step calls state).2 := by
  induction calls generalizing state with
  | nil => exact start
  | cons call rest ih => exact ih (each call state start)

/-- Two results tell the same and leave related states. -/
def Matches (related : State → Other → Prop) {Told : Type} (first : Told × State)
    (second : Told × Other) : Prop :=
  first.1 = second.1 ∧ related first.2 second.2

/-- Machines that match on each call match on every sequence of calls. -/
theorem matches_transcript {related : State → Other → Prop} {step : Call → State → Reply × State}
    {reference : Call → Other → Reply × Other}
    (each : ∀ call state other, related state other →
      Matches related (step call state) (reference call other))
    (calls : List Call) {state : State} {other : Other} (start : related state other) :
    Matches related (transcript step calls state) (transcript reference calls other) := by
  induction calls generalizing state other with
  | nil => exact ⟨rfl, start⟩
  | cons call rest ih =>
    rcases each call state other start with ⟨told, left⟩
    rcases ih left with ⟨tolds, last⟩
    refine ⟨?_, last⟩
    simp only [transcript, told, tolds]

end DnsResponder
