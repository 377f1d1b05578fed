import DnsResponder.Proofs.Bytes
import DnsResponder.Proofs.Window
import DnsResponder.Reply.Edit

namespace DnsResponder
namespace Frame

/-!
# A frame goes forward in its window

The window of a frame belongs to someone else, and only the stretch that the frame occupies is lent
to it.  What is done to a frame moves the ends of this stretch in one direction: octets at its head
become headroom, and octets of the room behind it become its own, as zeros.  `Continues` says so of
two frames in one window, an earlier and a later one, together with what has to be as it was: the
octets before the earlier head and those behind the later end.

A single change continues the frame on which it was tried, with any arguments, and when it is not
possible it leaves the frame as it was.  Since what continues a frame can be continued, nothing else
needs to be known for a whole run.  Growing a frame and giving up octets hand back the frame they
leave whether they succeed or not, and the step of an edit that tries them passes on what it was
handed; so a change that was made by half before it failed would be seen here.
-/

/-- Offset of the first octet behind the frame inside the window. -/
def tail (frame : Frame) : Nat :=
  frame.head + frame.size

variable {earlier middle later : Frame}

theorem tail_add_tailroom (frame : Frame) : frame.tail + frame.tailroom = frame.window.length :=
  frame.length_window.symm

/-! ## Forward in the window -/

/-- A later frame in the window of an earlier one. -/
structure Continues (earlier later : Frame) : Prop where
  capacity : later.window.length = earlier.window.length
  head_le : earlier.head ≤ later.head
  tail_le : earlier.tail ≤ later.tail
  foreign : ∀ place, place < earlier.head ∨ later.tail ≤ place →
    later.window[place]? = earlier.window[place]?

namespace Continues

theorem refl (frame : Frame) : frame.Continues frame :=
  ⟨rfl, Nat.le_refl _, Nat.le_refl _, fun _ _ => rfl⟩

theorem trans (first : earlier.Continues middle) (second : middle.Continues later) :
    earlier.Continues later where
  capacity := second.capacity.trans first.capacity
  head_le := Nat.le_trans first.head_le second.head_le
  tail_le := Nat.le_trans first.tail_le second.tail_le
  foreign place outside := by
    have beforeMiddle : place < middle.head ∨ later.tail ≤ place :=
      outside.imp_left fun inFront => Nat.lt_of_lt_of_le inFront first.head_le
    have behindMiddle : place < earlier.head ∨ middle.tail ≤ place :=
      outside.imp_right fun behind => Nat.le_trans second.tail_le behind
    exact (second.foreign place beforeMiddle).trans (first.foreign place behindMiddle)

variable {before octets after : Bytes} {amount : Nat}

/-- Growing writes over the octets that the frame grows over, and over no others. -/
theorem extended (room : amount ≤ after.length) :
    Continues ⟨before, octets, after⟩
      ⟨before, octets ++ List.replicate amount 0, after.drop amount⟩ := by
  have grown : (after.take amount).length = amount := List.length_take_of_le room
  have zeros : (List.replicate amount (0 : UInt8)).length = amount := List.length_replicate
  refine ⟨?_, Nat.le_refl _, ?_, ?_⟩
  · simp only [window, List.length_append, zeros, List.length_drop]
    omega
  · simp only [tail, head, size, List.length_append]
    omega
  · intro place outside
    simp only [tail, head, size, List.length_append, zeros] at outside
    have around : place < (before ++ octets).length ∨
        (before ++ octets).length + (List.replicate amount (0 : UInt8)).length ≤ place := by
      rw [List.length_append, zeros]
      omega
    calc
      (before ++ (octets ++ List.replicate amount 0) ++ after.drop amount)[place]? =
          ((before ++ octets) ++ (List.replicate amount 0 ++ after.drop amount))[place]? := by
        simp only [List.append_assoc]
      _ = ((before ++ octets) ++ (after.take amount ++ after.drop amount))[place]? :=
        Bytes.getElem?_around (zeros.trans grown.symm) around
      _ = (before ++ octets ++ after)[place]? := by rw [List.take_append_drop]

/-- Giving octets up changes the place of the head, and no octet. -/
theorem advanced (inside : amount ≤ octets.length) :
    Continues ⟨before, octets, after⟩
      ⟨before ++ octets.take amount, octets.drop amount, after⟩ := by
  have given : (octets.take amount).length = amount := List.length_take_of_le inside
  have same : before ++ octets.take amount ++ octets.drop amount ++ after =
      before ++ octets ++ after := by
    rw [List.append_assoc before, List.take_append_drop]
  refine ⟨congrArg List.length same, ?_, ?_, fun place _ => congrArg (·[place]?) same⟩
  · simp only [head, List.length_append]
    omega
  · simp only [tail, head, size, List.length_append, given, List.length_drop]
    omega

theorem overwritten {others : Bytes} (same : others.length = octets.length) :
    Continues ⟨before, octets, after⟩ ⟨before, others, after⟩ := by
  refine ⟨?_, Nat.le_refl _, Nat.le_of_eq (congrArg (before.length + ·) same.symm), ?_⟩
  · simp only [window, List.length_append, same]
  · intro place outside
    rw [window, window, List.append_assoc, List.append_assoc]
    exact Bytes.getElem?_around same outside

end Continues

/-! ## Single changes -/

/-- Something that is done to a frame: growing it, giving up octets at its head, or writing over its
octets.  What is written may be made from the octets there are, and may fail; it has their number. -/
inductive Change
  | extend (amount : Nat)
  | advance (amount : Nat)
  | overwrite (make : Bytes → Option Bytes)
      (sized : ∀ octets made, make octets = some made → made.length = octets.length)

namespace Change

def edit : Change → Reply.Edit Unit
  | .extend amount => Reply.Edit.move (·.extend amount)
  | .advance amount => Reply.Edit.move (·.advance amount)
  | .overwrite make _ => Reply.Edit.step (·.change? make)

/-- The frame behind a change that was tried. -/
def left (frame : Frame) (change : Change) : Frame :=
  match change.edit.run frame with
  | .ok _ frame => frame
  | .error _ frame => frame

/-- Whether there is room for the change. -/
def Possible (frame : Frame) : Change → Prop
  | .extend amount => frame.tail + amount ≤ frame.window.length
  | .advance amount => frame.head + amount ≤ frame.tail
  | .overwrite make _ => (make frame.octets).isSome

/-- What a change is to come to. -/
def Makes (earlier later : Frame) : Change → Prop
  | .extend amount => later.head = earlier.head
      ∧ later.octets = earlier.octets ++ List.replicate amount 0
  | .advance amount => later.head = earlier.head + amount
      ∧ later.octets = earlier.octets.drop amount ∧ later.window = earlier.window
  | .overwrite make _ => later.head = earlier.head ∧ make earlier.octets = some later.octets

/-- A change that is possible is made and goes forward; any other changes nothing. -/
inductive Tried (change : Change) (frame : Frame) : EStateM.Result Stop Frame Unit → Prop
  | made {later : Frame} (possible : change.Possible frame) (makes : change.Makes frame later)
      (continues : frame.Continues later) : Tried change frame (.ok () later)
  | failed (impossible : ¬ change.Possible frame) (stop : Stop) :
      Tried change frame (.error stop frame)

theorem extend_tried (frame : Frame) (amount : Nat) :
    (extend amount).Tried frame ((extend amount).edit.run frame) := by
  have possible : (extend amount).Possible frame ↔ amount ≤ frame.tailroom := by
    rw [Possible, ← frame.tail_add_tailroom]
    exact Nat.add_le_add_iff_left
  simp only [edit, EStateM.run, Reply.Edit.move]
  by_cases room : amount ≤ frame.tailroom
  · rw [Frame.extend, if_pos room]
    exact .made (possible.mpr room) ⟨rfl, rfl⟩ (.extended room)
  · rw [Frame.extend, if_neg room]
    exact .failed (mt possible.mp room) _

theorem advance_tried (frame : Frame) (amount : Nat) :
    (advance amount).Tried frame ((advance amount).edit.run frame) := by
  have possible : (advance amount).Possible frame ↔ amount ≤ frame.size :=
    Nat.add_le_add_iff_left
  simp only [edit, EStateM.run, Reply.Edit.move]
  by_cases inside : amount ≤ frame.size
  · have given : (frame.octets.take amount).length = amount := List.length_take_of_le inside
    have head : (frame.before ++ frame.octets.take amount).length = frame.head + amount := by
      rw [List.length_append, given]
      rfl
    rw [Frame.advance, if_pos inside]
    exact .made (possible.mpr inside) ⟨head, rfl, window_advance (if_pos inside)⟩
      (.advanced inside)
  · rw [Frame.advance, if_neg inside]
    exact .failed (mt possible.mp inside) _

theorem overwrite_tried (frame : Frame) {make : Bytes → Option Bytes}
    (sized : ∀ octets made, make octets = some made → made.length = octets.length) :
    (overwrite make sized).Tried frame ((overwrite make sized).edit.run frame) := by
  simp only [edit, EStateM.run, Reply.Edit.step, change?]
  cases written : make frame.octets with
  | none =>
    refine .failed ?_ _
    rw [Possible, written]
    exact Bool.false_ne_true
  | some octets =>
    refine .made ?_ ⟨rfl, written⟩ (.overwritten (sized _ _ written))
    rw [Possible, written]
    rfl

theorem tried (change : Change) (frame : Frame) : change.Tried frame (change.edit.run frame) := by
  cases change with
  | extend amount => exact extend_tried frame amount
  | advance amount => exact advance_tried frame amount
  | overwrite make sized => exact overwrite_tried frame sized

theorem continues_left (change : Change) (frame : Frame) : frame.Continues (change.left frame) := by
  have tried := change.tried frame
  rw [left]
  generalize change.edit.run frame = result at tried ⊢
  cases tried with
  | made _ _ continues => exact continues
  | failed => exact .refl frame

end Change

/-! ## Runs -/

/-- The frame behind changes that were tried in turn. -/
def leftBy (changes : List Change) (frame : Frame) : Frame :=
  changes.foldl Change.left frame

theorem continues_leftBy (changes : List Change) (frame : Frame) :
    frame.Continues (leftBy changes frame) := by
  induction changes generalizing frame with
  | nil => exact .refl frame
  | cons change rest ih => exact (change.continues_left frame).trans (ih _)

/-- The octets that a frame has grown by read as zeros. -/
theorem zero_of_extended {frame made : Frame} {amount place : Nat}
    (makes : (Change.extend amount).Makes frame made) (behind : frame.tail ≤ place)
    (inside : place < made.tail) : made.window[place]? = some 0 := by
  rcases makes with ⟨head, octets⟩
  have old : (made.before ++ frame.octets).length = frame.tail := by
    rw [List.length_append]
    exact congrArg (· + frame.size) head
  have end_eq : made.tail = frame.tail + amount := by
    rw [tail, size, octets, List.length_append, List.length_replicate, head, ← Nat.add_assoc]
    rfl
  have within : place - frame.tail < amount := by omega
  have new : place - frame.tail < (List.replicate amount (0 : UInt8)).length := by
    rwa [List.length_replicate]
  have split : made.window = (made.before ++ frame.octets) ++
      (List.replicate amount 0 ++ made.after) := by
    simp only [window, octets, List.append_assoc]
  rw [split, List.getElem?_append_right (old ▸ behind), old, List.getElem?_append_left new,
    List.getElem?_replicate_of_lt within]

/-- A frame is made from a window exactly when the window holds it.  Whatever is tried on it, in any
number of steps, its head stays at or before its end and its end within the window, and neither goes
back; the octets before its first head and those behind its present end are the window's own.  Each
further change is made exactly when there is room for it, and goes forward; one that is not possible
leaves the frame and all octets of the window as they were; and what a frame has grown by is zeros. -/
theorem keeps_to_its_window (window : Bytes) (head size : Nat) :
    ((∃ frame, ofWindow window head size = .ok frame) ↔ head + size ≤ window.length)
    ∧ ∀ frame, ofWindow window head size = .ok frame →
      (frame.window = window ∧ frame.head = head ∧ frame.tail = head + size)
      ∧ ∀ changes : List Change,
        let reached := leftBy changes frame
        (reached.head ≤ reached.tail ∧ reached.tail ≤ window.length
          ∧ reached.window.length = window.length)
        ∧ (head ≤ reached.head ∧ head + size ≤ reached.tail)
        ∧ (∀ place, place < head ∨ reached.tail ≤ place →
            reached.window[place]? = window[place]?)
        ∧ ∀ change : Change,
          (∀ stop kept, change.edit.run reached = .error stop kept →
            ¬ change.Possible reached ∧ kept = reached)
          ∧ (∀ made, change.edit.run reached = .ok () made →
            change.Possible reached ∧ change.Makes reached made ∧ reached.Continues made)
          ∧ ∀ amount made, (Change.extend amount).edit.run reached = .ok () made →
            ∀ place, reached.tail ≤ place → place < made.tail → made.window[place]? = some 0 := by
  constructor
  · constructor
    · rintro ⟨frame, made⟩
      rw [← window_ofWindow made, ← head_ofWindow made, ← size_ofWindow made, length_window]
      exact Nat.le_add_right _ _
    · exact fun inside => ⟨_, if_pos inside⟩
  · intro frame made
    have whole := window_ofWindow made
    have start := head_ofWindow made
    have stop : frame.tail = head + size := by rw [tail, start, size_ofWindow made]
    refine ⟨⟨whole, start, stop⟩, fun changes => ?_⟩
    intro reached
    have continues : frame.Continues reached := continues_leftBy changes frame
    have capacity : reached.window.length = window.length := by rw [continues.capacity, whole]
    refine ⟨⟨Nat.le_add_right _ _, ?_, capacity⟩, ?_, ?_, fun change => ⟨?_, ?_, ?_⟩⟩
    · rw [← capacity, ← reached.tail_add_tailroom]
      exact Nat.le_add_right _ _
    · exact ⟨start ▸ continues.head_le, stop ▸ continues.tail_le⟩
    · intro place outside
      rw [continues.foreign place (start ▸ outside), whole]
    · intro stop kept failed
      have tried := change.tried reached
      rw [failed] at tried
      cases tried with
      | failed impossible => exact ⟨impossible, rfl⟩
    · intro later succeeded
      have tried := change.tried reached
      rw [succeeded] at tried
      cases tried with
      | made possible makes goesOn => exact ⟨possible, makes, goesOn⟩
    · intro amount later succeeded place behind inside
      have tried := (Change.extend amount).tried reached
      rw [succeeded] at tried
      cases tried with
      | made _ makes => exact zero_of_extended makes behind inside

/-- A frame of three octets is given up as a whole, cannot grow by five octets, grows by one, and is
written over. -/
def usedUp : List Change :=
  [.advance 3, .extend 5, .extend 1,
    .overwrite (·.patch? 0 [9]) fun _ _ => Bytes.length_of_patch?]

theorem usedUp_keeps_to_its_window :
    ofWindow [1, 2, 3, 4, 5, 6] 1 3 = .ok ⟨[1], [2, 3, 4], [5, 6]⟩
    ∧ leftBy usedUp ⟨[1], [2, 3, 4], [5, 6]⟩ = ⟨[1, 2, 3, 4], [9], [6]⟩
    ∧ (leftBy usedUp ⟨[1], [2, 3, 4], [5, 6]⟩).window[0]? = some 1
    ∧ (leftBy usedUp ⟨[1], [2, 3, 4], [5, 6]⟩).window[5]? = some 6
    ∧ (Change.extend 1).edit.run (leftBy usedUp ⟨[1], [2, 3, 4], [5, 6]⟩) =
      .ok () ⟨[1, 2, 3, 4], [9, 0], []⟩
    ∧ (⟨[1, 2, 3, 4], [9, 0], []⟩ : Frame).window[5]? = some 0 := by
  have made : ofWindow [1, 2, 3, 4, 5, 6] 1 3 = .ok ⟨[1], [2, 3, 4], [5, 6]⟩ := by decide
  have grown : (Change.extend 1).edit.run (leftBy usedUp ⟨[1], [2, 3, 4], [5, 6]⟩) =
      .ok () ⟨[1, 2, 3, 4], [9, 0], []⟩ := rfl
  rcases (keeps_to_its_window [1, 2, 3, 4, 5, 6] 1 3).2 _ made with ⟨-, run⟩
  rcases run usedUp with ⟨-, -, foreign, further⟩
  rcases further (.extend 1) with ⟨-, -, zeros⟩
  exact ⟨made, by decide, foreign 0 (.inl (by decide)), foreign 5 (.inr (by decide)), grown,
    zeros 1 _ grown 5 (by decide) (by decide)⟩

end Frame
end DnsResponder
