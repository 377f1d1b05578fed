import DnsResponder.Frame.Cursor
import DnsResponder.Proofs.Bytes

namespace DnsResponder
namespace Cursor

/-!
# Where a cursor stands

A cursor keeps two numbers, and what it will read next follows from these and the data.  `Before`
says it directly: the cursor has passed a front of the data, a given rest is still to come, and the
limit is the end of the data.  Reading a header then succeeds exactly when the rest is long enough,
and leaves the cursor before what follows the header.
-/

def after (cursor : Cursor) (size : Nat) : Cursor :=
  { cursor with position := cursor.position + size }

/-- The cursor stands in `data` before the octets `rest`, which reach up to its limit. -/
structure Before (cursor : Cursor) (data rest : Bytes) : Prop where
  limit_eq : cursor.limit = data.length
  split : ∃ passed, data = passed ++ rest ∧ passed.length = cursor.position

theorem before_new (data : Bytes) : (new data).Before data data :=
  ⟨rfl, [], rfl, rfl⟩

variable {cursor next left : Cursor} {data octets part rest : Bytes} {size : Nat} {header : Header}
  {cause : BoundsError}

/-- A header is read by passing over its octets. -/
theorem read_of_take (taken : cursor.take data header.size = .ok octets next) :
    cursor.read data header = .ok ⟨cursor.position, octets, length_of_take taken⟩ next := by
  unfold read
  split
  · next found =>
    rw [taken] at found
    cases found
    rfl
  · next found =>
    rw [taken] at found
    cases found

theorem read_of_take_error (refused : cursor.take data header.size = .error cause left) :
    cursor.read data header = .error cause left := by
  unfold read
  split
  · next found =>
    rw [refused] at found
    cases found
  · next found =>
    rw [refused] at found
    cases found
    rfl

theorem skip_of_take (taken : cursor.take data size = .ok octets next) :
    cursor.skip data size = .ok () next := by
  rw [skip, taken]

theorem skip_of_take_error (refused : cursor.take data size = .error cause left) :
    cursor.skip data size = .error cause left := by
  rw [skip, refused]

namespace Before

/-- The octets behind the cursor and those before it are all there are. -/
theorem length_eq (stands : cursor.Before data rest) :
    data.length = cursor.position + rest.length := by
  rcases stands.split with ⟨passed, rfl, reached⟩
  rw [List.length_append, reached]

theorem after (stands : cursor.Before data (part ++ rest)) (extent : part.length = size) :
    (cursor.after size).Before data rest := by
  rcases stands.split with ⟨passed, split, reached⟩
  refine ⟨stands.limit_eq, passed ++ part, ?_, ?_⟩
  · rw [split, List.append_assoc]
  · rw [List.length_append, reached, extent]
    rfl

/-- A part that is there is passed over. -/
theorem take_eq (stands : cursor.Before data (part ++ rest)) (extent : part.length = size) :
    cursor.take data size = .ok part (cursor.after size) := by
  rcases stands.split with ⟨passed, split, reached⟩
  have inside : cursor.position + size ≤ cursor.limit := by
    rw [stands.limit_eq, stands.length_eq, List.length_append, extent]
    omega
  have found := Bytes.slice?_of_split split reached extent
  simp only [take, if_pos inside, found]
  rfl

theorem take_eq_error (stands : cursor.Before data rest) (short : rest.length < size) :
    cursor.take data size = .error (.readPastEnd cursor.position size cursor.limit) cursor := by
  have outside : ¬ cursor.position + size ≤ cursor.limit := by
    rw [stands.limit_eq, stands.length_eq]
    omega
  simp only [take, if_neg outside]

theorem read_eq (stands : cursor.Before data (part ++ rest)) (extent : part.length = header.size) :
    cursor.read data header = .ok ⟨cursor.position, part, extent⟩ (cursor.after header.size) :=
  read_of_take (stands.take_eq extent)

theorem read_eq_error (stands : cursor.Before data rest) (short : rest.length < header.size) :
    cursor.read data header =
      .error (.readPastEnd cursor.position header.size cursor.limit) cursor :=
  read_of_take_error (stands.take_eq_error short)

theorem skip_eq (stands : cursor.Before data (part ++ rest)) (extent : part.length = size) :
    cursor.skip data size = .ok () (cursor.after size) :=
  skip_of_take (stands.take_eq extent)

theorem skip_eq_error (stands : cursor.Before data rest) (short : rest.length < size) :
    cursor.skip data size = .error (.readPastEnd cursor.position size cursor.limit) cursor :=
  skip_of_take_error (stands.take_eq_error short)

/-- A read that succeeded was given its header. -/
theorem of_read {view : View header} (stands : cursor.Before data rest)
    (found : cursor.read data header = .ok view next) :
    ∃ back, rest = view.octets ++ back ∧ view.offset = cursor.position
      ∧ next = cursor.after header.size ∧ next.Before data back := by
  by_cases short : rest.length < header.size
  · rw [stands.read_eq_error short] at found
    cases found
  · have enough : (rest.take header.size).length = header.size :=
      List.length_take_of_le (Nat.le_of_not_lt short)
    have cut : rest = rest.take header.size ++ rest.drop header.size :=
      (List.take_append_drop ..).symm
    rw [cut] at stands
    rw [stands.read_eq enough] at found
    cases found
    exact ⟨_, cut, rfl, rfl, stands.after enough⟩

theorem of_skip (stands : cursor.Before data rest)
    (found : cursor.skip data size = .ok () next) :
    ∃ part back, rest = part ++ back ∧ part.length = size
      ∧ next = cursor.after size ∧ next.Before data back := by
  by_cases short : rest.length < size
  · rw [stands.skip_eq_error short] at found
    cases found
  · have enough : (rest.take size).length = size :=
      List.length_take_of_le (Nat.le_of_not_lt short)
    have cut : rest = rest.take size ++ rest.drop size := (List.take_append_drop ..).symm
    rw [cut] at stands
    rw [stands.skip_eq enough] at found
    cases found
    exact ⟨_, _, cut, enough, rfl, stands.after enough⟩

end Before
end Cursor

namespace View

variable {header : Header} {offset : Nat}

theorem octet_of_split (view : View header) {front back : Bytes} {octet : UInt8}
    (split : view.octets = front ++ octet :: back) (place : front.length = offset)
    (inside : offset < header.size) : view.octet offset inside = octet := by
  subst place
  have long : front.length < view.octets.length := view.size_eq ▸ inside
  calc
    view.octets.get ⟨front.length, long⟩ =
        (front ++ octet :: back).get ⟨front.length, split ▸ long⟩ := List.getElem_of_eq split long
    _ = octet := by
      rw [List.get_eq_getElem, List.getElem_append_right (Nat.le_refl _)]
      simp only [Nat.sub_self, List.getElem_cons_zero]

theorem word_of_split (view : View header) {front back : Bytes} {value : UInt16}
    (split : view.octets = front ++ (Bytes.ofWord value ++ back)) (place : front.length = offset)
    (inside : offset + 1 < header.size) : view.word offset inside = value := by
  have behind : view.octets = (front ++ [UInt8.ofNat (value.toNat / 256)]) ++
      UInt8.ofNat value.toNat :: back := by
    rw [split, List.append_assoc]
    rfl
  have high : view.octet offset (Nat.lt_of_succ_lt inside) = UInt8.ofNat (value.toNat / 256) :=
    view.octet_of_split split place (Nat.lt_of_succ_lt inside)
  have low := view.octet_of_split behind
    (by rw [List.length_append, place, List.length_singleton]) inside
  rw [word, high, low, Bytes.word_octets]

end View
end DnsResponder
