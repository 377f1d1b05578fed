import Mathlib.Data.List.Chain
import Mathlib.Data.Sigma.Basic
import DnsResponder.Proofs.Frame.Cursor
import DnsResponder.Proofs.Transcript

namespace DnsResponder

/-!
# Reading piece after piece

A reader asks a cursor for one header after another, passes over octets in between, and may show it
only a front of the data.  A call then has two bounds to keep, the limit of the cursor and the end of
what it is given, and it moves the cursor only when it keeps both.  So the octets that a cursor has
passed are always a front of the data, and each view shows the piece that was added to it.

`Call.Answered` says all that a single call can come to.  What holds of a whole course of calls
follows from it by induction on the calls: the cursor stays `Within` its data, later views stand
behind earlier ones, and as long as nothing was skipped they stand directly behind one another.
-/

namespace Cursor

variable {data given : Bytes} {cursor : Cursor}

/-! ## Single calls -/

/-- What a cursor is asked for: the header that comes next, or to pass over so many octets. -/
inductive Request
  | read (header : Header)
  | skip (size : Nat)

/-- Octets that a request is to pass over. -/
def Request.size : Request → Nat
  | .read header => header.size
  | .skip size => size

/-- A request, with the front of the data that the cursor is given for it. -/
structure Call (data : Bytes) where
  request : Request
  given : Bytes
  front : given <+: data

/-- A view of a header of any kind. -/
abbrev AnyView := (header : Header) × View header

deriving instance DecidableEq for View

/-- What a call is answered.  Octets that are skipped are not shown. -/
inductive Answer
  | view (shown : AnyView)
  | skipped
  | refused (cause : BoundsError)
deriving DecidableEq

namespace Answer

def succeeded : Answer → Bool
  | .refused _ => false
  | _ => true

def view? : Answer → Option AnyView
  | .view shown => some shown
  | _ => none

end Answer

namespace Call

/-- Where the cursor is to stand behind the call. -/
def stop (call : Call data) (cursor : Cursor) : Nat :=
  cursor.position + call.request.size

/-- The answer to a call, and the cursor that the call leaves. -/
def answer (call : Call data) (cursor : Cursor) : Answer × Cursor :=
  match call.request with
  | .read header =>
    match cursor.read call.given header with
    | .ok view next => (.view ⟨header, view⟩, next)
    | .error cause left => (.refused cause, left)
  | .skip size =>
    match cursor.skip call.given size with
    | .ok _ next => (.skipped, next)
    | .error cause left => (.refused cause, left)

/-- Whether the call keeps both of its bounds. -/
def Fits (call : Call data) (cursor : Cursor) : Prop :=
  call.stop cursor ≤ cursor.limit ∧ call.stop cursor ≤ call.given.length

/-- All that a call can come to. -/
inductive Answered (call : Call data) (cursor : Cursor) : Answer × Cursor → Prop
  | viewed {header : Header} (view : View header) (asked : call.request = .read header)
      (fits : call.Fits cursor) (start : view.offset = cursor.position)
      (shown : view.octets = data.extract cursor.position (call.stop cursor)) :
      Answered call cursor (.view ⟨header, view⟩, cursor.after call.request.size)
  | skipped {size : Nat} (asked : call.request = .skip size) (fits : call.Fits cursor) :
      Answered call cursor (.skipped, cursor.after call.request.size)
  | refused (outside : ¬ call.Fits cursor) :
      Answered call cursor
        (.refused (.readPastEnd cursor.position call.request.size cursor.limit), cursor)

end Call

/-- Octets of a front of the data are passed over when both bounds allow it. -/
theorem take_of_front (front : given <+: data) (cursor : Cursor) (size : Nat) :
    cursor.take given size =
      if cursor.position + size ≤ cursor.limit ∧ cursor.position + size ≤ given.length then
        .ok (data.extract cursor.position (cursor.position + size)) (cursor.after size)
      else
        .error (.readPastEnd cursor.position size cursor.limit) cursor := by
  simp only [take, Bytes.slice?_of_front front]
  by_cases limited : cursor.position + size ≤ cursor.limit
  · by_cases inside : cursor.position + size ≤ given.length
    · rw [if_pos limited, if_pos inside, if_pos ⟨limited, inside⟩]
      rfl
    · rw [if_pos limited, if_neg inside, if_neg fun both => inside both.2]
  · rw [if_neg limited, if_neg fun both => limited both.1]

theorem Call.answered (call : Call data) (cursor : Cursor) :
    call.Answered cursor (call.answer cursor) := by
  rcases call with ⟨request, given, front⟩
  have taken := take_of_front front cursor request.size
  cases request with
  | read header =>
    by_cases fits : Fits ⟨.read header, given, front⟩ cursor
    · have found := read_of_take (taken.trans (if_pos fits))
      simp only [answer, found]
      exact .viewed _ rfl fits rfl rfl
    · have refused := read_of_take_error (taken.trans (if_neg fits))
      simp only [answer, refused]
      exact .refused fits
  | skip size =>
    by_cases fits : Fits ⟨.skip size, given, front⟩ cursor
    · have found : cursor.skip given size = .ok () (cursor.after size) :=
        skip_of_take (taken.trans (if_pos fits))
      simp only [answer, found]
      exact .skipped rfl fits
    · have refused : cursor.skip given size =
          .error (.readPastEnd cursor.position size cursor.limit) cursor :=
        skip_of_take_error (taken.trans (if_neg fits))
      simp only [answer, refused]
      exact .refused fits

namespace Call.Answered

variable {call : Call data} {told : Answer × Cursor} (answered : call.Answered cursor told)

include answered

theorem succeeded_iff : told.1.succeeded ↔ call.Fits cursor := by
  cases answered with
  | viewed view asked fits => exact ⟨fun _ => fits, fun _ => rfl⟩
  | skipped asked fits => exact ⟨fun _ => fits, fun _ => rfl⟩
  | refused outside => exact ⟨nofun, fun fits => absurd fits outside⟩

theorem left_eq (succeeded : told.1.succeeded) : told.2 = cursor.after call.request.size := by
  cases answered with
  | viewed => rfl
  | skipped => rfl
  | refused => cases succeeded

theorem position_le : cursor.position ≤ told.2.position := by
  cases answered with
  | viewed => exact Nat.le_add_right _ _
  | skipped => exact Nat.le_add_right _ _
  | refused => exact Nat.le_refl _

/-- A header that was asked for is shown where the cursor stood. -/
theorem viewed_of_read (succeeded : told.1.succeeded) (header : Header)
    (asked : call.request = .read header) :
    ∃ view : View header, told.1 = .view ⟨header, view⟩ ∧ view.offset = cursor.position
      ∧ view.octets = data.extract cursor.position told.2.position := by
  cases answered with
  | viewed view same fits start shown =>
    cases same.symm.trans asked
    exact ⟨view, rfl, start, shown⟩
  | skipped same =>
    cases same.symm.trans asked
  | refused => cases succeeded

theorem refused_unless (failed : ¬ told.1.succeeded) :
    told.1 = .refused (.readPastEnd cursor.position call.request.size cursor.limit)
      ∧ told.2 = cursor := by
  cases answered with
  | viewed => exact absurd rfl failed
  | skipped => exact absurd rfl failed
  | refused => exact ⟨rfl, rfl⟩

end Call.Answered

/-! ## Courses of calls -/

/-- What is answered to calls made in turn, and the cursor that is left. -/
def course (calls : List (Call data)) (cursor : Cursor) : List Answer × Cursor :=
  transcript Call.answer calls cursor

/-- The cursor may read up to the end of the data, and has not passed it. -/
structure Within (data : Bytes) (cursor : Cursor) : Prop where
  position_le : cursor.position ≤ cursor.limit
  limit_eq : cursor.limit = data.length

theorem within_new (data : Bytes) : (new data).Within data :=
  ⟨Nat.zero_le _, rfl⟩

namespace Within

theorem answer (within : cursor.Within data) (call : Call data) :
    (call.answer cursor).2.Within data := by
  have answered := call.answered cursor
  generalize call.answer cursor = result at answered ⊢
  cases answered with
  | viewed view asked fits => exact ⟨fits.1, within.limit_eq⟩
  | skipped asked fits => exact ⟨fits.1, within.limit_eq⟩
  | refused => exact within

theorem course (within : cursor.Within data) (calls : List (Call data)) :
    (course calls cursor).2.Within data :=
  keeps_transcript (Within data) (fun call _ kept => kept.answer call) calls within

end Within

/-- The views among some answers. -/
def viewsOf (answers : List Answer) : List AnyView :=
  answers.filterMap Answer.view?

/-- The octets of all views among some answers. -/
def octetsOf (answers : List Answer) : Bytes :=
  (viewsOf answers).flatMap (·.2.octets)

theorem stop_of_viewed {call : Call data} {header : Header} {view : View header}
    (asked : call.request = .read header) (start : view.offset = cursor.position) :
    view.stop = (cursor.after call.request.size).position := by
  rw [View.stop, start, asked]
  rfl

/-- No view goes back behind the cursor, or over what an earlier view shows. -/
theorem views_ascend (calls : List (Call data)) (cursor : Cursor) :
    (∀ shown ∈ viewsOf (course calls cursor).1, cursor.position ≤ shown.2.offset)
    ∧ (viewsOf (course calls cursor).1).Pairwise
      fun earlier later => earlier.2.stop ≤ later.2.offset := by
  induction calls generalizing cursor with
  | nil => exact ⟨fun _ member => absurd member List.not_mem_nil, .nil⟩
  | cons call rest ih =>
    have answered := call.answered cursor
    rw [course, transcript]
    generalize call.answer cursor = result at answered ⊢
    rcases ih result.2 with ⟨behind, ascending⟩
    have farther : ∀ shown ∈ viewsOf (course rest result.2).1, cursor.position ≤ shown.2.offset :=
      fun shown later => Nat.le_trans answered.position_le (behind shown later)
    cases answered with
    | viewed view asked fits start =>
      -- The later calls are made from the end of this view, so theirs stand behind it.
      have stop := stop_of_viewed asked start
      refine ⟨?_, List.pairwise_cons.mpr ⟨?_, ascending⟩⟩
      · intro shown member
        rcases List.mem_cons.mp member with rfl | later
        · exact Nat.le_of_eq start.symm
        · exact farther shown later
      · intro shown later
        exact stop ▸ behind shown later
    | skipped => exact ⟨farther, ascending⟩
    | refused => exact ⟨farther, ascending⟩

/-- Views between which nothing was skipped go on from the cursor without a gap.  Where the first one
starts is stated as well, for the view that a call before them may have shown. -/
theorem views_adjoin (calls : List (Call data)) (cursor : Cursor)
    (unskipped : .skipped ∉ (course calls cursor).1) :
    (∀ shown ∈ (viewsOf (course calls cursor).1).head?, cursor.position = shown.2.offset)
    ∧ (viewsOf (course calls cursor).1).IsChain
      (fun earlier later => earlier.2.stop = later.2.offset)
    ∧ data.take cursor.position ++ octetsOf (course calls cursor).1 =
      data.take (course calls cursor).2.position := by
  induction calls generalizing cursor with
  | nil => exact ⟨fun _ member => absurd member (Option.not_mem_none _), .nil, List.append_nil _⟩
  | cons call rest ih =>
    have answered := call.answered cursor
    rw [course, transcript] at unskipped ⊢
    generalize call.answer cursor = result at answered unskipped ⊢
    rcases ih result.2 (List.not_mem_of_not_mem_cons unskipped) with ⟨first, chained, joined⟩
    cases answered with
    | viewed view asked fits start shown =>
      have stop := stop_of_viewed asked start
      refine ⟨?_, List.isChain_cons.mpr ⟨?_, chained⟩, ?_⟩
      · rintro _ ⟨⟩
        exact start.symm
      · exact fun later member => stop.trans (first later member)
      · calc
          data.take cursor.position ++ (view.octets ++ octetsOf (course rest _).1)
            = data.take cursor.position ++ data.extract cursor.position (call.stop cursor)
                ++ octetsOf (course rest _).1 := by rw [shown, List.append_assoc]
          _ = data.take (call.stop cursor) ++ octetsOf (course rest _).1 := by
            rw [Call.stop, Bytes.take_append_extract]
          _ = data.take (course rest _).2.position := joined
    | skipped => exact absurd List.mem_cons_self unskipped
    | refused => exact ⟨first, chained, joined⟩

/-- On data whose offsets are numbers of so many bits, a call that keeps its bounds ends at such a
number. -/
theorem Within.fits_iff (within : cursor.Within data) {width : Nat}
    (addressable : data.length < 2 ^ width) (call : Call data) :
    call.Fits cursor ↔ call.stop cursor < 2 ^ width
      ∧ call.stop cursor ≤ cursor.limit ∧ call.stop cursor ≤ call.given.length := by
  constructor
  · intro fits
    have inside : call.stop cursor ≤ data.length := within.limit_eq ▸ fits.1
    exact ⟨Nat.lt_of_le_of_lt inside addressable, fits⟩
  · exact And.right

/-- Whatever headers a cursor is asked for and whatever it is to skip, in any number of calls and with
any fronts of the data, it stays within the data.  A further call succeeds exactly when its position
and size add up without overflow, to an offset behind neither the limit nor the end of what is given.
Then the cursor moves by the size, and a header is shown as the octets moved over, with the offset at
which they start; otherwise the refusal names the position, the size and the limit, and the cursor is
left as it was.  Views of further calls do not overlap.  While nothing is skipped they follow without
a gap on what was passed before, and from the first call on they make up a front of the data. -/
theorem reads_piece_after_piece {width : Nat} (data : Bytes)
    (addressable : data.length < 2 ^ width) (calls : List (Call data)) :
    let answers := (course calls (new data)).1
    let reached := (course calls (new data)).2
    (reached.position ≤ reached.limit ∧ reached.limit = data.length)
    ∧ (∀ call : Call data,
        let stop := reached.position + call.request.size
        let told := (call.answer reached).1
        let left := (call.answer reached).2
        (told.succeeded ↔
          stop < 2 ^ width ∧ stop ≤ reached.limit ∧ stop ≤ call.given.length)
        ∧ (told.succeeded → left = { reached with position := stop })
        ∧ (told.succeeded → ∀ header, call.request = .read header →
          ∃ view : View header, told = .view ⟨header, view⟩ ∧ view.offset = reached.position
            ∧ view.octets = data.extract reached.position left.position)
        ∧ (¬ told.succeeded →
          told = .refused (.readPastEnd reached.position call.request.size reached.limit)
            ∧ left = reached))
    ∧ (∀ more : List (Call data),
        let further := (course more reached).1
        let later := (course more reached).2
        (viewsOf further).Pairwise (fun first second => first.2.stop ≤ second.2.offset)
        ∧ (.skipped ∉ further →
          (viewsOf further).IsChain (fun first second => first.2.stop = second.2.offset)
          ∧ data.take reached.position ++ octetsOf further = data.take later.position))
    ∧ (.skipped ∉ answers →
        octetsOf answers <+: data ∧ (octetsOf answers).length = reached.position) := by
  intro answers reached
  have within : reached.Within data := (within_new data).course calls
  refine ⟨⟨within.position_le, within.limit_eq⟩, fun call => ?_, fun more => ?_, ?_⟩
  · have answered : call.Answered reached (call.answer reached) := call.answered reached
    exact ⟨answered.succeeded_iff.trans (within.fits_iff addressable call), answered.left_eq,
      answered.viewed_of_read, answered.refused_unless⟩
  · exact ⟨(views_ascend more reached).2, fun unskipped => (views_adjoin more reached unskipped).2⟩
  · intro unskipped
    have joined : octetsOf answers = data.take reached.position :=
      (views_adjoin calls (new data) unskipped).2.2
    have inside : reached.position ≤ data.length := within.limit_eq ▸ within.position_le
    rw [joined]
    exact ⟨List.take_prefix _ _, List.length_take_of_le inside⟩

/-- An Ethernet header and the VLAN tag behind it. -/
def taggedFront : Bytes :=
  List.replicate 12 2 ++ [0x81, 0x00, 0x00, 0x07, 0x08, 0x00]

def onTaggedFront (request : Request) : Call taggedFront :=
  ⟨request, taggedFront, List.prefix_rfl⟩

/-- The tag is asked for on a front that ends inside it. -/
def onCutTag : Call taggedFront :=
  ⟨.read .vlan, taggedFront.take 16, List.take_prefix ..⟩

/-- Behind the Ethernet header, as many octets are to be skipped as 64 bits can count. -/
def taggedCalls : List (Call taggedFront) :=
  [onTaggedFront (.read .ethernet), onTaggedFront (.skip (2 ^ 64 - 1)), onCutTag]

theorem taggedFront_is_read_in_pieces :
    let answers := (course taggedCalls (new taggedFront)).1
    let reached := (course taggedCalls (new taggedFront)).2
    let tag := (onTaggedFront (.read .vlan)).answer reached
    taggedFront.length < 2 ^ 64
    ∧ .skipped ∉ answers
    ∧ octetsOf answers <+: taggedFront ∧ (octetsOf answers).length = 14
    ∧ ¬ (onCutTag.answer reached).1.succeeded
    ∧ onCutTag.answer reached = (.refused (.readPastEnd 14 4 18), reached)
    ∧ tag.1.succeeded
    ∧ ∃ view : View .vlan, tag.1 = .view ⟨.vlan, view⟩ ∧ view.offset = 14
      ∧ view.octets = [0x00, 0x07, 0x08, 0x00] := by
  intro answers reached tag
  have few : taggedFront.length < 2 ^ 64 := by decide
  have unskipped : .skipped ∉ answers := by decide
  have failed : ¬ (onCutTag.answer reached).1.succeeded := by decide
  have found : tag.1.succeeded := by decide
  rcases reads_piece_after_piece taggedFront few taggedCalls with ⟨-, single, -, joined⟩
  rcases joined unskipped with ⟨front, length⟩
  rcases single onCutTag with ⟨-, -, -, refusal⟩
  rcases single (onTaggedFront (.read .vlan)) with ⟨-, -, viewed, -⟩
  rcases viewed found .vlan rfl with ⟨view, shown, start, octets⟩
  exact ⟨few, unskipped, front, length, failed, Prod.ext (refusal failed).1 (refusal failed).2, found,
    view, shown, start, octets⟩

end Cursor
end DnsResponder
