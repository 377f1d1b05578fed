import DnsResponder.Proofs.Text.Blank
import DnsResponder.Proofs.Text.Hex
import DnsResponder.Replay.FrameFile

namespace DnsResponder
namespace Replay

/-!
# A file of frames reads back

Frames can be written down in many ways: the digits in either case and with spacing anywhere between
them, the lines ended in either manner, and blank lines and comments among them.  `Renders` collects
these ways, without a reader in mind, and each of them is read as the frames that it was written for.

A file cannot be read when one of its lines is faulty: it is neither blank nor a comment, and what it
holds besides blanks is not hexadecimal.  Only the first such line is reported, by its number among all
lines.
-/

open Text

/-! ## Writing -/

/-- The blanks that may stand anywhere on the line of a frame. -/
def spacing : List Char :=
  [' ', '\t', '\x0C', '\r']

/-- A line has digits of these values, and else nothing but spacing. -/
inductive Spells : List Char → List Nat → Prop
  | nil : Spells [] []
  | space {c : Char} {line : List Char} {values : List Nat} (blank : c ∈ spacing)
      (rest : Spells line values) : Spells (c :: line) values
  | digit {c : Char} {value : Nat} {line : List Char} {values : List Nat}
      (denotes : Hex.Denotes c value) (rest : Spells line values) :
      Spells (c :: line) (value :: values)

/-- A line is blank, or it is a comment: its first character that is no blank is a number sign. -/
inductive IsPassedOver : List Char → Prop
  | blank {line : List Char} (blank : ∀ c ∈ line, isBlank c = true) : IsPassedOver line
  | comment {front : List Char} (blank : ∀ c ∈ front, isBlank c = true) (rest : List Char) :
      IsPassedOver (front ++ '#' :: rest)

/-- A line shows one frame, or it is passed over and shows none. -/
inductive Shows : List Char → List Bytes → Prop
  | frame {line : List Char} {frame : Bytes} (nonempty : frame ≠ [])
      (spells : Spells line (Hex.halves frame)) : Shows line [frame]
  | nothing {line : List Char} (passed : IsPassedOver line) : Shows line []

/-- A text shows frames line by line.  Each line has an end, with the last one free to have none. -/
inductive Renders : List Bytes → List Char → Prop
  | last {line : List Char} {frames : List Bytes} (single : '\n' ∉ line)
      (shows : Shows line frames) : Renders frames line
  | line {line ending text : List Char} {frames others : List Bytes} (single : '\n' ∉ line)
      (shows : Shows line frames) (ended : ending ∈ [['\n'], ['\r', '\n']])
      (rest : Renders others text) : Renders (frames ++ others) (line ++ ending ++ text)

/-- What stands on a line besides blanks at its ends and ASCII blanks anywhere. -/
def bare (line : List Char) : List Char :=
  (trim line).filter fun c => !isAsciiBlank c

/-- A line is not passed over, and does not hold pairs of digits. -/
structure IsFaulty (line : List Char) : Prop where
  counts : ¬ IsPassedOver line
  unread : (bare line).length % 2 = 1 ∨ ∃ c ∈ bare line, ¬ ∃ value, Hex.Denotes c value

variable {line more : List Char} {frame : Bytes} {frames : List Bytes} {values : List Nat}
  {c : Char} {number : Nat} {lines rest : List (List Char)} {failure : Failure}

/-! ## One line -/

theorem isAsciiBlank_of_spacing (blank : c ∈ spacing) : isAsciiBlank c = true := by
  have each : spacing.all isAsciiBlank = true := by
    decide
  exact List.all_eq_true.mp each c blank

/-- A digit is no blank in any sense, and begins no comment. -/
theorem shown_of_denotes {value : Nat} (denotes : Hex.Denotes c value) :
    isBlank c = false ∧ isAsciiBlank c = false ∧ c ≠ '#' := by
  have each : ("0123456789abcdef".toList ++ "0123456789ABCDEF".toList).all fun c =>
      decide (isBlank c = false ∧ isAsciiBlank c = false ∧ c ≠ '#') := by
    decide
  have digit : c ∈ "0123456789abcdef".toList ++ "0123456789ABCDEF".toList :=
    List.mem_append.mpr (denotes.imp List.mem_of_getElem? List.mem_of_getElem?)
  exact of_decide_eq_true (List.all_eq_true.mp each c digit)

namespace Spells

theorem characters (spells : Spells line values) (member : c ∈ line) :
    c ∈ spacing ∨ ∃ value, Hex.Denotes c value := by
  induction spells with
  | nil => cases member
  | space blank rest ih =>
    rcases List.mem_cons.mp member with rfl | later
    · exact .inl blank
    · exact ih later
  | digit denotes rest ih =>
    rcases List.mem_cons.mp member with rfl | later
    · exact .inr ⟨_, denotes⟩
    · exact ih later

theorem append_space (spells : Spells line values) (blank : c ∈ spacing) :
    Spells (line ++ [c]) values := by
  induction spells with
  | nil => exact .space blank .nil
  | space before rest ih => exact .space before ih
  | digit denotes rest ih => exact .digit denotes ih

/-- Without its blanks, a line is the digits that it spells. -/
theorem filter_eq (spells : Spells line values) :
    (line.filter fun c => !isAsciiBlank c).map (digitValue? 16) = values.map some := by
  induction spells with
  | nil => rfl
  | space blank rest ih =>
    rw [List.filter_cons_of_neg (by simp only [isAsciiBlank_of_spacing blank]; decide), ih]
  | digit denotes rest ih =>
    have shown := (shown_of_denotes denotes).2.1
    rw [List.filter_cons_of_pos (by simp only [shown]; decide), List.map_cons, List.map_cons, ih,
      Hex.denotes_iff.mp denotes]

/-- The blanks at the ends of a line that spells digits are spacing, too. -/
theorem bare_eq (spells : Spells line values) :
    (bare line).map (digitValue? 16) = values.map some := by
  have ascii : ∀ c ∈ line, isBlank c = true → (!isAsciiBlank c) = false := by
    intro c member blank
    rcases spells.characters member with space | ⟨value, denotes⟩
    · rw [isAsciiBlank_of_spacing space]
      rfl
    · exact absurd blank (Bool.eq_false_iff.mp (shown_of_denotes denotes).1)
  rw [bare, filter_trim ascii, spells.filter_eq]

/-- A line that spells something is neither blank nor a comment. -/
theorem counts (spells : Spells line values) (some : values ≠ []) : ¬ IsPassedOver line := by
  rintro (blank | @⟨front, blank, rest⟩)
  · have bared := spells.bare_eq
    rw [bare, trim_of_blank blank] at bared
    exact some (List.map_eq_nil_iff.mp bared.symm)
  · have sign : '#' ∈ front ++ '#' :: rest := List.mem_append_right _ List.mem_cons_self
    rcases spells.characters sign with space | ⟨value, denotes⟩
    · exact absurd space (by decide)
    · exact (shown_of_denotes denotes).2.2 rfl

end Spells

/-- A line is passed over unless its first character that is no blank is there and no number sign. -/
theorem isPassedOver_iff (first : line.dropWhile isBlank = c :: more) :
    IsPassedOver line ↔ c = '#' := by
  have shown := not_isBlank_of_first first
  have split := List.takeWhile_append_dropWhile (p := isBlank) (l := line)
  rw [first] at split
  constructor
  · rintro (blank | ⟨blank, rest⟩)
    · have member : c ∈ line := by
        rw [← split]
        exact List.mem_append_right _ List.mem_cons_self
      exact absurd (blank c member) (Bool.eq_false_iff.mp shown)
    · rw [List.dropWhile_append_of_pos blank] at first
      exact (List.cons.inj first).1.symm
  · rintro rfl
    rw [← split]
    exact .comment (fun c member => List.mem_takeWhile_imp member) more

theorem holdsFrame_trim_iff (line : List Char) :
    holdsFrame (trim line) = true ↔ ¬ IsPassedOver line := by
  cases left : line.dropWhile isBlank with
  | nil =>
    have blank := List.dropWhile_eq_nil_iff.mp left
    rw [trim_of_blank blank]
    exact iff_of_false (by decide) fun counts => counts (.blank blank)
  | cons c rest =>
    rcases exists_trim_eq left with ⟨more, trimmed⟩
    rw [trimmed, isPassedOver_iff left, holdsFrame, decide_eq_true_iff, List.head?_cons, ne_eq,
      ne_eq, Option.some.injEq]
    exact and_iff_right (List.cons_ne_nil c more)

/-! ## The lines of a text -/

theorem parseFrame_trim (number : Nat) (line : List Char) :
    parseFrame number (trim line) = (Hex.decode (bare line)).mapError (.badFrame number) := rfl

/-- The frames of lines, of which the first has this number. -/
def framesOf (number : Nat) : List (List Char) → Except Failure (List Bytes)
  | [] => .ok []
  | line :: rest =>
    if holdsFrame (trim line) then do
      let frame ← parseFrame number (trim line)
      let frames ← framesOf (number + 1) rest
      return frame :: frames
    else framesOf (number + 1) rest

theorem framesOf_zipIdx (start : Nat) (lines : List (List Char)) :
    ((((lines.zipIdx start).map fun (line, index) => (index + 1, trim line)).filter
      fun (_, line) => holdsFrame line).mapM fun (number, line) => parseFrame number line) =
      framesOf (start + 1) lines := by
  induction lines generalizing start with
  | nil => rfl
  | cons line rest ih =>
    rw [List.zipIdx_cons, List.map_cons, framesOf, ← ih]
    by_cases holds : holdsFrame (trim line) = true
    · simp only [List.filter_cons, holds, if_true, List.mapM_cons]
    · simp only [List.filter_cons, holds, if_false, Bool.false_eq_true]

/-- The carriage return of a line end is a blank at the end of its line. -/
theorem trim_chomped (line : List Char) :
    trim (if line.getLast? = some '\r' then line.dropLast else line) = trim line := by
  split
  · next ended =>
    have whole : line.dropLast ++ ['\r'] = line := List.dropLast_append_getLast? _ ended
    have same := trim_append_blank line.dropLast (c := '\r') (by decide)
    rw [whole] at same
    exact same.symm
  · rfl

theorem framesOf_congr {other : List Char} {others : List (List Char)}
    (same : trim line = trim other)
    (later : framesOf (number + 1) rest = framesOf (number + 1) others) :
    framesOf number (line :: rest) = framesOf number (other :: others) := by
  rw [framesOf, framesOf, same, later]

/-- The lines are what stands between line feeds: carriage returns before these make no difference,
and neither does an empty rest behind the last of them. -/
theorem framesOf_ended (number : Nat) (ended : List (List Char)) (last : List Char) :
    framesOf number ((ended.map fun line =>
      if line.getLast? = some '\r' then line.dropLast else line) ++ [last].filter (· ≠ [])) =
      framesOf number (ended ++ [last]) := by
  induction ended generalizing number with
  | nil =>
    cases last with
    | nil => rfl
    | cons c more => rfl
  | cons line rest ih => exact framesOf_congr (trim_chomped line) (ih _)

theorem framesOf_lines (number : Nat) (text : List Char) :
    framesOf number (Text.lines text) = framesOf number (text.splitOn '\n') := by
  rcases List.eq_nil_or_concat (text.splitOn '\n') with none | ⟨ended, last, parts⟩
  · exact absurd none (List.splitOn_ne_nil '\n' text)
  · rw [List.concat_eq_append] at parts
    rw [Text.lines, parts, List.dropLast_concat, List.getLast?_concat, Option.toList_some]
    exact framesOf_ended number ended last

theorem parseFrames_eq (text : List Char) :
    parseFrames text = framesOf 1 (text.splitOn '\n') :=
  (framesOf_zipIdx 0 (Text.lines text)).trans (framesOf_lines 1 text)

/-! ## What lines add -/

theorem framesOf_of_passed (passed : IsPassedOver line) :
    framesOf number (line :: rest) = framesOf (number + 1) rest := by
  rw [framesOf, if_neg]
  rw [holdsFrame_trim_iff]
  exact not_not_intro passed

theorem framesOf_of_read (counts : ¬ IsPassedOver line)
    (read : Hex.decode (bare line) = .ok frame) :
    framesOf number (line :: rest) = (framesOf (number + 1) rest).map ([frame] ++ ·) := by
  rw [framesOf, if_pos ((holdsFrame_trim_iff line).mpr counts), parseFrame_trim, read]
  rfl

/-- Frames that a line shows come first. -/
theorem Shows.framesOf_eq (shows : Shows line frames) (number : Nat) (rest : List (List Char)) :
    framesOf number (line :: rest) = (framesOf (number + 1) rest).map (frames ++ ·) := by
  cases shows with
  | @frame frame nonempty spells =>
    have some : Hex.halves frame ≠ [] := by
      intro none
      have size := Hex.length_halves frame
      rw [none, List.length_nil] at size
      exact nonempty (List.eq_nil_of_length_eq_zero (by omega))
    exact framesOf_of_read (spells.counts some) (Hex.decode_eq_ok_iff.mpr spells.bare_eq)
  | nothing passed =>
    rw [framesOf_of_passed passed]
    cases framesOf (number + 1) rest <;> rfl

/-- A line is as it was with a carriage return behind it. -/
theorem Shows.append_return (shows : Shows line frames) : Shows (line ++ ['\r']) frames := by
  cases shows with
  | frame nonempty spells => exact .frame nonempty (spells.append_space (by decide))
  | nothing passed =>
    refine .nothing ?_
    cases passed with
    | blank blank =>
      apply IsPassedOver.blank
      intro c member
      rcases List.mem_append.mp member with before | last
      · exact blank c before
      · rw [List.mem_singleton.mp last]
        decide
    | @comment front blank rest =>
      rw [List.append_assoc]
      exact .comment blank (rest ++ ['\r'])

theorem Renders.framesOf_eq {text : List Char} (renders : Renders frames text) (number : Nat) :
    framesOf number (text.splitOn '\n') = .ok frames := by
  induction renders generalizing number with
  | last single shows =>
    rw [List.splitOn_eq_singleton single, shows.framesOf_eq, framesOf]
    exact congrArg Except.ok (List.append_nil _)
  | @line line ending text frames others single shows ended rest ih =>
    have added (whole : List Char) (shows : Shows whole frames) (unbroken : '\n' ∉ whole) :
        framesOf number ((whole ++ '\n' :: text).splitOn '\n') = .ok (frames ++ others) := by
      rw [List.splitOn_append_cons_self_of_not_mem unbroken, shows.framesOf_eq, ih]
      rfl
    rcases List.mem_cons.mp ended with rfl | other
    · rw [List.append_assoc]
      exact added line shows single
    · have whole : line ++ ending ++ text = line ++ ['\r'] ++ '\n' :: text := by
        rw [List.mem_singleton.mp other, List.append_assoc, List.append_assoc]
        rfl
      rw [whole]
      apply added _ shows.append_return
      rw [List.mem_append, not_or]
      exact ⟨single, by decide⟩

/-! ## Faults -/

theorem IsFaulty.framesOf_eq (faulty : IsFaulty line) (number : Nat) (rest : List (List Char)) :
    ∃ cause, framesOf number (line :: rest) = .error (.badFrame number cause) := by
  cases read : Hex.decode (bare line) with
  | ok frame =>
    rcases Hex.exists_decode_iff.mp ⟨frame, read⟩ with ⟨even, digits⟩
    rcases faulty.unread with odd | ⟨c, member, none⟩
    · omega
    · exact absurd (digits c member) none
  | error cause =>
    refine ⟨cause, ?_⟩
    rw [framesOf, if_pos ((holdsFrame_trim_iff line).mpr faulty.counts), parseFrame_trim, read]
    rfl

/-- A line that is not faulty adds frames and lets the rest decide. -/
theorem exists_of_not_faulty (sound : ¬ IsFaulty line) :
    ∃ frames, ∀ number rest,
      framesOf number (line :: rest) = (framesOf (number + 1) rest).map (frames ++ ·) := by
  by_cases passed : IsPassedOver line
  · exact ⟨[], (Shows.nothing passed).framesOf_eq⟩
  · have readable : (bare line).length % 2 = 0 ∧ ∀ c ∈ bare line, ∃ value, Hex.Denotes c value := by
      constructor
      · by_contra odd
        exact sound ⟨passed, .inl (by omega)⟩
      · intro c member
        by_contra none
        exact sound ⟨passed, .inr ⟨c, member, none⟩⟩
    rcases Hex.exists_decode_iff.mpr readable with ⟨frame, read⟩
    exact ⟨[frame], fun number rest => framesOf_of_read passed read⟩

theorem exists_error (faulty : ∃ line ∈ lines, IsFaulty line) (number : Nat) :
    ∃ failure, framesOf number lines = .error failure := by
  induction lines generalizing number with
  | nil =>
    rcases faulty with ⟨line, none, -⟩
    cases none
  | cons line rest ih =>
    by_cases here : IsFaulty line
    · rcases here.framesOf_eq number rest with ⟨cause, failed⟩
      exact ⟨_, failed⟩
    · rcases faulty with ⟨other, member, there⟩
      rcases List.mem_cons.mp member with rfl | later
      · exact absurd there here
      · rcases exists_of_not_faulty here with ⟨frames, added⟩
        rcases ih ⟨other, later, there⟩ (number + 1) with ⟨failure, failed⟩
        exact ⟨failure, by rw [added, failed]; rfl⟩

/-- A failure reports the first faulty line. -/
theorem exists_first_faulty (failed : framesOf number lines = .error failure) :
    ∃ before line after cause, lines = before ++ line :: after
      ∧ (∀ earlier ∈ before, ¬ IsFaulty earlier) ∧ IsFaulty line
      ∧ failure = .badFrame (number + before.length) cause := by
  induction lines generalizing number with
  | nil => cases failed
  | cons line rest ih =>
    by_cases here : IsFaulty line
    · rcases here.framesOf_eq number rest with ⟨cause, reported⟩
      rw [reported] at failed
      cases failed
      exact ⟨[], line, rest, cause, rfl, nofun, here, rfl⟩
    · rcases exists_of_not_faulty here with ⟨frames, added⟩
      rw [added, map_eq_error_iff] at failed
      rcases ih failed with ⟨before, faulty, after, cause, rfl, sound, there, reported⟩
      refine ⟨line :: before, faulty, after, cause, rfl, ?_, there, ?_⟩
      · exact List.forall_mem_cons.mpr ⟨here, sound⟩
      · rw [reported, List.length_cons, Nat.add_assoc, Nat.add_comm 1]

/-- Every rendering of frames is read as these frames.  A text cannot be read exactly when one of its
lines is faulty, and then the failure names the number of the first such line, counted from one among
all lines. -/
theorem reads_back_or_reports_first_fault (text : List Char) :
    (∀ frames, Renders frames text → parseFrames text = .ok frames)
    ∧ ((∃ failure, parseFrames text = .error failure) ↔
      ∃ line ∈ text.splitOn '\n', IsFaulty line)
    ∧ ∀ failure, parseFrames text = .error failure →
      ∃ before line after cause, text.splitOn '\n' = before ++ line :: after
        ∧ (∀ earlier ∈ before, ¬ IsFaulty earlier) ∧ IsFaulty line
        ∧ failure = .badFrame (before.length + 1) cause
        ∧ failure.message = s!"frame on line {before.length + 1}" := by
  rw [parseFrames_eq]
  refine ⟨fun frames renders => renders.framesOf_eq 1,
    ⟨?_, fun faulty => exists_error faulty 1⟩, ?_⟩
  · rintro ⟨failure, failed⟩
    rcases exists_first_faulty failed with ⟨before, line, after, cause, parts, -, faulty, -⟩
    exact ⟨line, parts ▸ List.mem_append_right before List.mem_cons_self, faulty⟩
  · intro failure failed
    rcases exists_first_faulty failed with ⟨before, line, after, cause, parts, sound, faulty, rfl⟩
    rw [Nat.add_comm 1]
    exact ⟨before, line, after, cause, parts, sound, faulty, rfl, rfl⟩

/-- A comment with a carriage return, a frame with blanks inside its octets, a blank line, and a frame
on a line without an end. -/
def mixedFile : List Char :=
  ['#', 'z', '\r', '\n'] ++ ['0', 'a', ' ', 'b', '\t', 'C', '\n'] ++ ['\n'] ++ [' ', 'f', 'F', '\r']

theorem renders_mixedFile : Renders [[0x0A, 0xBC], [0xFF]] mixedFile := by
  have comment : Shows ['#', 'z'] [] := .nothing (@IsPassedOver.comment [] nofun ['z'])
  have first : Shows ['0', 'a', ' ', 'b', '\t', 'C'] [[0x0A, 0xBC]] :=
    .frame (by decide) <| .digit (by decide) <| .digit (by decide) <|
      .space (by decide) <| .digit (by decide) <| .space (by decide) <| .digit (by decide) .nil
  have blank : Shows [] [] := .nothing (.blank nofun)
  have last : Shows [' ', 'f', 'F', '\r'] [[0xFF]] :=
    .frame (by decide) <| .space (by decide) <| .digit (by decide) <| .digit (by decide) <|
      .space (by decide) .nil
  have lines := Renders.line (by decide) comment (.tail _ (.head _)) <|
    Renders.line (by decide) first (.head _) <|
    Renders.line (by decide) blank (.head _) <| .last (by decide) last
  exact lines

/-- The mixed file is read, and it cannot be read with three digits on a line behind it. -/
theorem mixedFile_is_read :
    Renders [[0x0A, 0xBC], [0xFF]] mixedFile
    ∧ parseFrames mixedFile = .ok [[0x0A, 0xBC], [0xFF]]
    ∧ ∃ failure, parseFrames (mixedFile ++ ['\n', 'a', 'b', 'c']) = .error failure := by
  have counts : ¬ IsPassedOver ['a', 'b', 'c'] := by
    rw [isPassedOver_iff rfl]
    decide
  have faulty : IsFaulty ['a', 'b', 'c'] := ⟨counts, .inl rfl⟩
  refine ⟨renders_mixedFile, (reads_back_or_reports_first_fault _).1 _ renders_mixedFile, ?_⟩
  exact (reads_back_or_reports_first_fault _).2.1.mpr ⟨_, by decide, faulty⟩

end Replay
end DnsResponder
