import DnsResponder.Host
import DnsResponder.Proofs.Engine.Decision

namespace DnsResponder

/-!
# What becomes of a window

A host hands over a window and the position of a frame in it, and takes both back.  Unless the frame
is sent, they come back as they were, down to the last octet of headroom and tailroom.  This holds
of every responder and every host, so no sequence of calls leads to a state in which it fails.
-/

/-! ## Frames in windows -/

namespace Frame

variable {window : Bytes} {head size : Nat} {frame : Frame}

theorem head_ofWindow (made : ofWindow window head size = .ok frame) : frame.head = head := by
  rw [ofWindow] at made
  split at made
  · next inside =>
    cases made
    exact List.length_take_of_le (Nat.le_trans (Nat.le_add_right ..) inside)
  · cases made

theorem size_ofWindow (made : ofWindow window head size = .ok frame) : frame.size = size := by
  rw [ofWindow] at made
  split at made
  · next inside =>
    cases made
    rw [Frame.size, List.length_take_of_le]
    rw [List.length_drop]
    omega
  · cases made

/-- A window that is put together from its three parts holds the middle one as a frame. -/
theorem ofWindow_append (before octets after : Bytes) :
    ofWindow (before ++ octets ++ after) before.length octets.length =
      .ok ⟨before, octets, after⟩ := by
  have inside : before.length + octets.length ≤ (before ++ octets ++ after).length := by
    rw [List.length_append, List.length_append]
    exact Nat.le_add_right ..
  rw [ofWindow, if_pos inside, ← List.length_append, List.drop_left, List.append_assoc,
    List.take_left, List.drop_left, List.take_left]

/-- The octets of a frame stand in its window where the frame says. -/
theorem take_window (frame : Frame) (rest : Bytes) :
    ((frame.window ++ rest).drop frame.head).take frame.size = frame.octets := by
  rw [window, List.append_assoc, List.append_assoc, head, List.drop_left, size, List.take_left]

theorem length_window (frame : Frame) :
    frame.window.length = frame.head + frame.size + frame.tailroom := by
  rw [window, List.length_append, List.length_append]
  rfl

end Frame

/-! ## Handling through a responder -/

namespace Responder

variable (responder : Responder) (moment : Moment) (frame : Frame) (log : Log)

theorem processWindow_eq (window : Bytes) (head size : Nat) :
    responder.processWindow moment window head size log =
      (Frame.ofWindow window head size).map fun frame => responder.process moment frame log := by
  rw [processWindow, decideWindow]
  cases Frame.ofWindow window head size <;> rfl

theorem processWindow_append (before octets after : Bytes) :
    responder.processWindow moment (before ++ octets ++ after) before.length octets.length log =
      .ok (responder.process moment ⟨before, octets, after⟩ log) := by
  rw [processWindow_eq, Frame.ofWindow_append]
  rfl

theorem action_process :
    (responder.process moment frame log).1 =
      (Engine.handle responder.settings responder.tables frame).action := rfl

theorem frame_process_of_pass (passed : (responder.process moment frame log).1 = .pass) :
    (responder.process moment frame log).2.1 = frame :=
  Engine.frame_of_pass passed

variable {responder moment frame log} {window : Bytes} {head size : Nat} {after : Responder}
  {left : Log}

/-- A window whose frame is not sent comes back as it was, and so does the frame's position. -/
theorem window_of_pass
    (passed : responder.processWindow moment window head size log = .ok (.pass, frame, after, left)) :
    frame.window = window ∧ frame.head = head ∧ frame.size = size := by
  rw [processWindow_eq] at passed
  cases made : Frame.ofWindow window head size with
  | error cause =>
    rw [made] at passed
    cases passed
  | ok entering =>
    rw [made] at passed
    have result : responder.process moment entering log = (.pass, frame, after, left) :=
      Except.ok.inj passed
    have same := responder.frame_process_of_pass moment entering log (congrArg Prod.fst result)
    rw [result] at same
    obtain rfl : frame = entering := same
    exact ⟨Frame.window_ofWindow made, Frame.head_ofWindow made, Frame.size_ofWindow made⟩

end Responder

/-! ## Handling through a host -/

namespace Host

/-- A frame that was decided on is that of the window and the position in the call. -/
theorem of_verdict {host : Host} {call : FrameCall} {responder : Responder} {beyond : Bytes}
    {run : Engine.Run} (decided : host.verdict call = .handled responder beyond run) :
    ∃ (window : Bytes) (head size : Nat) (frame : Frame),
      call = ⟨some window, call.capacity, some head, some size⟩
      ∧ beyond = window.drop call.capacity
      ∧ Frame.ofWindow (window.take call.capacity) head size = .ok frame
      ∧ run = Engine.handle responder.settings responder.tables frame := by
  rcases call with ⟨window, capacity, head, size⟩
  rw [verdict] at decided
  split at decided
  · cases decided
  · cases window with
    | none => cases decided
    | some window =>
      dsimp only at decided
      split at decided
      · cases decided
      · cases head with
        | none => cases decided
        | some head =>
          cases size with
          | none => cases decided
          | some size =>
            dsimp only at decided
            rw [Responder.decideWindow] at decided
            cases made : Frame.ofWindow (window.take capacity) head size with
            | error cause =>
              rw [made] at decided
              cases decided
            | ok frame =>
              rw [made] at decided
              cases decided
              exact ⟨window, head, size, frame, rfl, rfl, made, rfl⟩

/-- A call that does not end in sending hands back its window and its position as they were. -/
theorem call_of_code {host : Host} {moment : Moment} {call : FrameCall}
    (unsent : (host.process moment call).1.code ≤ 0) : (host.process moment call).2.1 = call := by
  rw [process] at unsent ⊢
  cases decided : host.verdict call with
  | refused status => rfl
  | badWindow cause => rfl
  | handled responder beyond run =>
    rcases of_verdict decided with ⟨window, head, size, frame, whole, rfl, made, rfl⟩
    have passed : (Engine.handle responder.settings responder.tables frame).action = .pass := by
      rw [decided] at unsent
      cases action : (Engine.handle responder.settings responder.tables frame).action with
      | pass => rfl
      | transmit =>
        have sent : (FrameStatus.decided
            (Engine.handle responder.settings responder.tables frame).action).code ≤ 0 := unsent
        rw [action] at sent
        exact absurd sent (by decide)
    have same := Engine.frame_of_pass passed
    simp only [account, Responder.account, same, Frame.window_ofWindow made, Frame.head_ofWindow made,
      Frame.size_ofWindow made, List.take_append_drop]
    exact whole.symm

end Host

/-- Whatever is not sent is handed back untouched: by a responder that decides to pass a frame on,
and by a host whose call ends in that decision or in an error. -/
theorem untouched_unless_sent :
    (∀ (responder : Responder) (moment : Moment) (window : Bytes) (head size : Nat) (log : Log)
        (frame : Frame) (after : Responder) (left : Log),
      responder.processWindow moment window head size log = .ok (.pass, frame, after, left) →
        frame.window = window ∧ frame.head = head ∧ frame.size = size) ∧
    ∀ (host : Host) (moment : Moment) (call : Host.FrameCall),
      (host.process moment call).1.code ≤ 0 → (host.process moment call).2.1 = call :=
  ⟨fun _ _ _ _ _ _ _ _ _ passed => Responder.window_of_pass passed,
    fun _ _ _ unsent => Host.call_of_code unsent⟩

namespace Engine.Specimen

/-- A responder that would answer the specimen. -/
def responder : Responder :=
  { settings := {}, tables }

/-- The specimen in a window with two octets of headroom and some of tailroom. -/
def call (tailroom : Nat) : Host.FrameCall where
  window := some ([8, 9] ++ parts.octets ++ List.replicate tailroom 7)
  capacity := 2 + parts.octets.length + tailroom
  head := some 2
  size := some parts.octets.length

end Engine.Specimen

/-- The answer to the specimen counts sixteen octets.  With room for them it is sent.  With room for
fifteen it is refused, after it was found and composed, and the window stays as it was. -/
theorem untouched_without_tailroom :
    ∃ host : Host, (host.process ⟨0, 0, 0⟩ (Engine.Specimen.call 16)).1.code = 1
      ∧ (host.process ⟨0, 0, 0⟩ (Engine.Specimen.call 15)).1.code = 0
      ∧ (host.process ⟨0, 0, 0⟩ (Engine.Specimen.call 15)).2.1 = Engine.Specimen.call 15 := by
  refine ⟨⟨some Engine.Specimen.responder, { processId := "1" }⟩, by decide +kernel,
    by decide +kernel, ?_⟩
  exact untouched_unless_sent.2 _ _ _ (by decide +kernel)

end DnsResponder
