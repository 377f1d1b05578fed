import DnsResponder.Text.Blank
import Mathlib.Data.List.DropRight

namespace DnsResponder
namespace Text

/-!
# What trimming leaves

Trimming takes blanks away at both ends of a text and nothing else.  What is left begins with the first
character that is no blank, and a blank more at the end makes no difference.  Where all blanks are
passed over anyway, trimming makes no difference at all.
-/

variable {text rest : List Char} {c : Char}

theorem trim_eq (text : List Char) : trim text = (text.dropWhile isBlank).rdropWhile isBlank := rfl

theorem trim_of_blank (blank : ∀ c ∈ text, isBlank c = true) : trim text = [] := by
  rw [trim_eq, List.dropWhile_eq_nil_iff.mpr blank, List.rdropWhile_nil]

theorem not_isBlank_of_first (first : text.dropWhile isBlank = c :: rest) : isBlank c = false := by
  have nonempty : text.dropWhile isBlank ≠ [] := by
    rw [first]
    exact List.cons_ne_nil c rest
  have head := List.head_dropWhile_not isBlank nonempty
  simpa only [first, List.head_cons] using head

/-- What is left begins with the first character that is no blank. -/
theorem exists_trim_eq (first : text.dropWhile isBlank = c :: rest) :
    ∃ more, trim text = c :: more := by
  have shown := Bool.eq_false_iff.mp (not_isBlank_of_first first)
  cases left : (c :: rest).rdropWhile isBlank with
  | nil => exact absurd (List.rdropWhile_eq_nil_iff.mp left c List.mem_cons_self) shown
  | cons other more =>
    have begins := left ▸ List.rdropWhile_prefix isBlank (c :: rest)
    rw [trim_eq, first, left, (List.cons_prefix_cons.mp begins).1]
    exact ⟨more, rfl⟩

theorem trim_append_blank (text : List Char) (blank : isBlank c = true) :
    trim (text ++ [c]) = trim text := by
  rw [trim_eq, trim_eq, List.dropWhile_append]
  split
  · next none =>
    rw [List.isEmpty_iff.mp none, List.dropWhile_cons_of_pos blank, List.dropWhile_nil]
  · exact List.rdropWhile_concat_pos isBlank _ c blank

theorem filter_dropWhile {drops keeps : Char → Bool}
    (unseen : ∀ c ∈ text, drops c = true → keeps c = false) :
    (text.dropWhile drops).filter keeps = text.filter keeps := by
  induction text with
  | nil => rfl
  | cons c text ih =>
    rw [List.forall_mem_cons] at unseen
    rw [List.dropWhile_cons]
    split
    · next dropped =>
      rw [ih unseen.2, List.filter_cons_of_neg (Bool.eq_false_iff.mp (unseen.1 dropped))]
    · rfl

/-- Trimming before blanks are filtered out makes no difference. -/
theorem filter_trim {keeps : Char → Bool} (unseen : ∀ c ∈ text, isBlank c = true → keeps c = false) :
    (trim text).filter keeps = text.filter keeps := by
  have inner : ∀ c ∈ (text.dropWhile isBlank).reverse, isBlank c = true → keeps c = false :=
    fun c member => unseen c ((List.dropWhile_sublist _).subset (List.mem_reverse.mp member))
  rw [trim, List.filter_reverse, filter_dropWhile inner, List.filter_reverse, List.reverse_reverse,
    filter_dropWhile unseen]

end Text
end DnsResponder
