import DnsResponder.Replay.Session
import DnsResponder.Proofs.Refusal

namespace DnsResponder
namespace Replay

/-!
# What a replay starts from

When a replay gets to its frames, its host has a responder, its jobs have the places 0, 1, 2, … in the
order of the file, and there is at least one worker.
-/

/-! ## Arguments -/

namespace Reading

variable {reading changed : Reading} {option value : String}

theorem workers_withWorkers (given : reading.withWorkers value = .ok changed) :
    0 < changed.workers := by
  unfold withWorkers at given
  split at given
  · cases given
  · cases given
  · next count many _ =>
    cases given
    exact Nat.pos_of_ne_zero many

theorem workers_withValue {read : String → Except UsageError Reading}
    (known : reading.withValue? option = some read) (given : read value = .ok changed)
    (present : 0 < reading.workers) : 0 < changed.workers := by
  unfold withValue? at known
  split at known
  · cases known
    cases given
    exact present
  · cases known
    cases given
    exact present
  · cases known
    cases given
    exact present
  · cases known
    exact workers_withWorkers given
  · cases known

theorem workers_withSwitch (known : reading.withSwitch? option = some changed) :
    changed.workers = reading.workers := by
  unfold withSwitch? at known
  split at known <;> cases known <;> rfl

theorem workers_readAll (arguments : List String) (present : 0 < reading.workers)
    (found : reading.readAll arguments = .ok changed) : 0 < changed.workers := by
  fun_induction readAll reading arguments with
  | case1 reading =>
    cases found
    exact present
  | case2 reading option take value rest known changed given ih =>
    exact ih (workers_withValue known given present) found
  | case5 reading option switched rest known absent ih =>
    exact ih ((workers_withSwitch known).symm ▸ present) found
  | case3 | case4 | case6 => cases found

end Reading

/-- A command line that is read names at least one worker. -/
theorem workers_of_parse {words : List String} {arguments : Arguments}
    (parsed : Arguments.parse words = .ok arguments) : 0 < arguments.workers := by
  rw [Arguments.parse] at parsed
  cases read : Reading.readAll {} words with
  | error wrong =>
    rw [read] at parsed
    cases parsed
  | ok reading =>
    have present := Reading.workers_readAll words Nat.one_pos read
    rw [read] at parsed
    unfold Reading.finish at parsed
    dsimp only at parsed
    split at parsed
    · cases parsed
    · cases parsed
    · cases parsed
      exact present

/-! ## Steps -/

variable {α β : Type}

/-- From a session with a responder, the step gets to values of a kind only, and leaves a session with
a responder. -/
def Yields (kind : α → Prop) (step : Step α) : Prop :=
  ∀ session value left, session.host.responder.isSome = true →
    step.run session = .ok value left → kind value ∧ left.host.responder.isSome = true

section Yielding

variable {kind : α → Prop} {other : β → Prop}

theorem yields_pure {value : α} (suits : kind value) : Yields kind (pure value) := by
  intro session result left present done
  cases done
  exact ⟨suits, present⟩

theorem Yields.bind {step : Step α} {rest : α → Step β} (yields : Yields kind step)
    (later : ∀ value, kind value → Yields other (rest value)) : Yields other (step >>= rest) := by
  intro session result left present done
  simp only [EStateM.run, Bind.bind, EStateM.bind] at done
  split at done
  · next value middle first =>
    rcases yields session value middle present first with ⟨suits, kept⟩
    exact later value suits middle result left kept done
  · cases done

theorem yields_attempt (result : Except Failure α) :
    Yields (fun value => result = .ok value) (attempt result) := by
  intro session value left present done
  cases result with
  | error failure => cases done
  | ok held =>
    cases done
    exact ⟨rfl, present⟩

theorem yields_announce (line : String) :
    Yields (fun _ => True) (modify (·.announce line) : Step Unit) := by
  intro session value left present done
  cases done
  exact ⟨trivial, present⟩

/-- A call that keeps the responder, or puts another in its place. -/
theorem yields_call {make : Host → Bool × Host} (failure : Failure)
    (kept : ∀ host, host.responder.isSome = true → (make host).2.responder.isSome = true) :
    Yields (fun _ => True) (call make failure) := by
  intro session value left present done
  simp only [EStateM.run, call] at done
  split at done
  · cases done
    exact ⟨trivial, kept _ present⟩
  · cases done

theorem yields_forM {values : List α} {each : α → Step Unit}
    (yields : ∀ value, Yields (fun _ => True) (each value)) :
    Yields (fun _ => True) (values.forM each) := by
  induction values with
  | nil => exact yields_pure trivial
  | cons value rest ih => exact (yields value).bind fun _ _ => ih

theorem yields_foldlM {values : List α} {each : β → α → Step β}
    (yields : ∀ held value, Yields (fun _ => True) (each held value)) (start : β) :
    Yields (fun _ => True) (values.foldlM each start) := by
  induction values generalizing start with
  | nil => exact yields_pure trivial
  | cons value rest ih => exact (yields start value).bind fun held _ => ih held

end Yielding

/-! ## Calls that keep the responder -/

section Keeping

variable {host : Host} (now : Nat)

theorem isSome_serve (present : host.responder.isSome = true) (network : Option Bytes) :
    (host.serve now network).2.responder.isSome = true := by
  unfold Host.serve
  split
  · split
    · rfl
    · exact present
  · exact present

theorem isSome_store (present : host.responder.isSome = true) (name : String)
    (stored : Except Dns.NameError Responder) :
    (host.store now name stored).2.responder.isSome = true := by
  cases stored with
  | error cause => exact present
  | ok responder => rfl

theorem isSome_insertA (present : host.responder.isSome = true) (name : Option Bytes)
    (address : Option (BitVec 32)) (ttl : UInt32) :
    (host.insertA now name address ttl).2.responder.isSome = true := by
  unfold Host.insertA
  split
  · exact isSome_store now present ..
  · exact present

theorem isSome_insertAaaa (present : host.responder.isSome = true) (name : Option Bytes)
    (address : Option (BitVec 128)) (ttl : UInt32) :
    (host.insertAaaa now name address ttl).2.responder.isSome = true := by
  unfold Host.insertAaaa
  split
  · exact isSome_store now present ..
  · exact present

end Keeping

/-! ## Preparing -/

section Preparing

variable (now : Nat)

theorem yields_serve (network : String) : Yields (fun _ => True) (serve now network) := by
  apply (yields_attempt _).bind
  intro _ _
  exact yields_call _ fun host present => isSome_serve now present _

theorem yields_store (number : Nat) (record : RecordLine) :
    Yields (fun _ => True) (store now number record) := by
  unfold store
  split
  · exact yields_call _ fun host present => isSome_insertA now present ..
  · exact yields_call _ fun host present => isSome_insertAaaa now present ..

theorem yields_loadRecords (text : List Char) : Yields (fun _ => True) (loadRecords now text) := by
  apply yields_foldlM
  intro loaded ⟨number, line⟩
  apply (yields_attempt _).bind
  intro record _
  cases record with
  | none => exact yields_pure trivial
  | some record =>
    apply (yields_store now number record).bind
    intro _ _
    exact yields_pure trivial

/-- The frames that a file holds, if it can be read. -/
def HoldsFrames (files : String → Except ReadError Bytes) (path : String) (frames : List Bytes) :
    Prop :=
  ∃ octets text, files path = .ok octets ∧ Text.Utf8.decode? octets = some text
    ∧ parseFrames text.toList = .ok frames

/-- The jobs of a replay: each frame of the file with its place in it. -/
def jobsOf (frames : List Bytes) : List Job :=
  frames.zipIdx.map fun (frame, position) => ⟨position, frame⟩

theorem length_jobsOf (frames : List Bytes) : (jobsOf frames).length = frames.length := by
  rw [jobsOf, List.length_map, List.length_zipIdx]

theorem ordered_jobsOf (frames : List Bytes) :
    (jobsOf frames).Pairwise fun first second => first.position < second.position := by
  apply List.pairwise_map.mpr
  apply List.pairwise_map.mp
  rw [List.zipIdx_map_snd]
  exact List.pairwise_lt_range'

theorem yields_readText (files : String → Except ReadError Bytes) (path : String) :
    Yields (fun read => ∃ octets text, files path = .ok octets
      ∧ Text.Utf8.decode? octets = some text ∧ read = text.toList) (readText files path) := by
  intro session read left present done
  rcases yields_attempt _ session read left present done with ⟨found, kept⟩
  refine ⟨?_, kept⟩
  cases given : files path with
  | error cause =>
    rw [given] at found
    cases found
  | ok octets =>
    rw [given] at found
    dsimp only at found
    cases decoded : Text.Utf8.decode? octets with
    | none =>
      rw [decoded] at found
      cases found
    | some text =>
      rw [decoded] at found
      cases found
      exact ⟨octets, text, rfl, decoded, rfl⟩

theorem yields_prepare (arguments : Arguments) (files : String → Except ReadError Bytes) :
    Yields (fun jobs => ∃ frames, HoldsFrames files arguments.frames frames ∧ jobs = jobsOf frames)
      (prepare arguments files now) := by
  apply (yields_forM (yields_serve now)).bind
  intro _ _
  apply (yields_readText files arguments.records).bind
  intro records _
  apply (yields_loadRecords now records).bind
  intro loaded _
  apply (yields_announce _).bind
  intro _ _
  apply (yields_readText files arguments.frames).bind
  rintro read ⟨octets, text, given, decoded, rfl⟩
  apply (yields_attempt _).bind
  intro frames parsed
  exact yields_pure ⟨frames, ⟨octets, text, given, decoded, parsed⟩, rfl⟩

/-- What a replay starts from when it gets to its frames. -/
theorem ready_yields {arguments : Arguments} {processId : String}
    {files : String → Except ReadError Bytes} {now : Nat} {jobs : List Job} {session : Session}
    (found : ready arguments processId files now = .ok (jobs, session)) :
    (∃ frames, HoldsFrames files arguments.frames frames ∧ jobs = jobsOf frames)
      ∧ session.host.responder.isSome = true := by
  rw [ready] at found
  split at found
  · cases found
  · next prepared =>
    cases found
    exact yields_prepare now arguments files _ _ _ rfl prepared

end Preparing

end Replay
end DnsResponder
