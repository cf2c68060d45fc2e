import Mathlib.Data.List.Infix
import Mathlib.Data.List.TakeWhile
import SiteIndex.Text.Blank
import SiteIndex.Text.Line

/-!
Lines and blanks of a text that is put together from others: a line that is followed by its end is found
again, and trimming leaves alone what neither begins nor ends with a blank.
-/

namespace SiteIndex.Text

theorem dropWhile_eq_self_of_head {test : Char → Bool} {text : List Char}
    (head : ∀ c, text.head? = some c → test c = false) : text.dropWhile test = text := by
  cases text with
  | nil => rfl
  | cons c rest => rw [List.dropWhile_cons, head c rfl, if_neg Bool.false_ne_true]

theorem dropEndWhile_eq_self {test : Char → Bool} {text : List Char}
    (last : ∀ c, text.getLast? = some c → test c = false) : dropEndWhile test text = text := by
  rw [dropEndWhile, dropWhile_eq_self_of_head, List.reverse_reverse]
  simpa only [List.head?_reverse] using last

theorem trimBlank_eq_self {text : List Char} (unblank : ∀ c ∈ text, isBlank c = false) :
    trimBlank text = text := by
  rw [trimBlank, dropWhile_eq_self_of_head fun c head => unblank c (List.mem_of_head? head)]
  exact dropEndWhile_eq_self fun c last => unblank c (List.mem_of_getLast? last)

theorem mem_of_mem_trimBlank {c : Char} {text : List Char} (within : c ∈ trimBlank text) :
    c ∈ text := by
  rw [trimBlank, trimEndBlank, dropEndWhile, List.mem_reverse] at within
  have inner := (List.dropWhile_sublist _).subset within
  exact (List.dropWhile_sublist _).subset (List.mem_reverse.mp inner)

theorem isBlank_of_isDigit {c : Char} (digit : c.isDigit = true) : isBlank c = false := by
  have range : 48 ≤ c.toNat ∧ c.toNat ≤ 57 := by
    simpa [Char.isDigit, UInt32.le_iff_toNat_le] using digit
  simp only [isBlank, Bool.or_eq_false_iff, Bool.and_eq_false_iff, decide_eq_false_iff_not,
    beq_eq_false_iff_ne]
  omega

theorem dropReturn_eq_self {line : List Char} (last : line.getLast? ≠ some '\r') :
    dropReturn line = line :=
  if_neg last

/-- A line that is followed by its end is the next line, and what comes after the end comes after it. -/
theorem nextLine?_append {line : List Char} (inside : '\n' ∉ line)
    (last : line.getLast? ≠ some '\r') (rest : List Char) :
    nextLine? (line ++ '\n' :: rest) = some (line, rest) := by
  have within : ∀ c ∈ line, (c != '\n') = true := fun c among =>
    bne_iff_ne.mpr fun same => inside (same ▸ among)
  have taken : (line ++ '\n' :: rest).takeWhile (· != '\n') = line := by
    rw [List.takeWhile_append_of_pos within, List.takeWhile_cons_of_neg (by decide), List.append_nil]
  have dropped : (line ++ '\n' :: rest).dropWhile (· != '\n') = '\n' :: rest := by
    rw [List.dropWhile_append_of_pos within, List.dropWhile_cons_of_neg (by decide)]
  unfold nextLine?
  split
  · next empty => simp at empty
  · simp only [taken, dropped, dropReturn_eq_self last]

/-- A text without a line feed is its own first line, if it has one. -/
theorem firstLine?_getD_of_unbroken {text : List Char} (unbroken : '\n' ∉ text) :
    (firstLine? text).getD [] = text := by
  have within : ∀ c ∈ text, (c != '\n') = true := fun c among =>
    bne_iff_ne.mpr fun same => unbroken (same ▸ among)
  cases text with
  | nil => rfl
  | cons c rest =>
    simp only [firstLine?, nextLine?, List.takeWhile_eq_self_iff.mpr within,
      List.dropWhile_eq_nil_iff.mpr within, Option.map_some, Option.getD_some]

end SiteIndex.Text
