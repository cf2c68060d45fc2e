import SiteIndex.Text.Numeral

/-!
Whole numbers in decimal notation. A number is read from digits alone, perhaps behind a sign, and the
digits that a number is written in, with any zeros before them, are read as that number.
-/

namespace SiteIndex.Text

theorem digitValue?_eq (c : Char) :
    digitValue? c = if c.isDigit then some (c.toNat - '0'.toNat) else none := by
  have same : ('0' ≤ c ∧ c ≤ '9') ↔ c.isDigit = true := by
    simp [Char.isDigit, Char.le_def]
  simp only [digitValue?, same]

theorem foldDigits?_eq (before : Nat) (text : List Char) :
    foldDigits? before text =
      if text.all Char.isDigit then some (Nat.ofDigitChars 10 text before) else none := by
  induction text generalizing before with
  | nil => simp [foldDigits?]
  | cons c rest ih =>
    rw [foldDigits?, digitValue?_eq, List.all_cons, Nat.ofDigitChars_cons]
    split
    · next digit => rw [Option.bind_some, ih, digit, Bool.true_and]
    · next other => simp [other]

theorem readDigits?_eq_some_iff {text : List Char} {n : Nat} :
    readDigits? text = some n ↔
      text ≠ [] ∧ (∀ c ∈ text, c.isDigit = true) ∧ n = Nat.ofDigitChars 10 text 0 := by
  cases text with
  | nil => simp [readDigits?]
  | cons c rest =>
    have filled : c :: rest ≠ [] := List.cons_ne_nil c rest
    have digit : readDigits? (c :: rest) = foldDigits? 0 (c :: rest) := rfl
    rw [digit, foldDigits?_eq, Option.ite_none_right_eq_some, List.all_eq_true,
      Option.some_inj]
    exact ⟨fun ⟨digits, same⟩ => ⟨filled, digits, same.symm⟩,
      fun ⟨_, digits, same⟩ => ⟨digits, same.symm⟩⟩

/-- A number below `2 ^ bits` is read from its digits, before which a plus sign may stand. -/
theorem readUnsigned?_eq_some_iff {bits : Nat} {text : List Char} {n : Nat} :
    readUnsigned? bits text = some n ↔
      ∃ digits, (text = digits ∨ text = '+' :: digits) ∧ readDigits? digits = some n ∧
        n < Nat.pow 2 bits := by
  unfold readUnsigned?
  split
  · next digits =>
    simp only [Option.filter_eq_some_iff, decide_eq_true_eq]
    constructor
    · exact fun read => ⟨digits, .inr rfl, read⟩
    · rintro ⟨digits', rfl | same, read, small⟩
      · -- no digit is a plus sign
        have signed := (readDigits?_eq_some_iff.mp read).2.1 '+' (List.mem_cons_self ..)
        exact absurd signed (by decide)
      · cases same
        exact ⟨read, small⟩
  · next unsigned =>
    simp only [Option.filter_eq_some_iff, decide_eq_true_eq]
    constructor
    · exact fun read => ⟨text, .inl rfl, read⟩
    · rintro ⟨digits', rfl | same, read, small⟩
      · exact ⟨read, small⟩
      · exact absurd same (unsigned digits')

theorem readUnsigned?_of_digits {bits n : Nat} {digits : List Char}
    (read : readDigits? digits = some n) (small : n < Nat.pow 2 bits) :
    readUnsigned? bits digits = some n :=
  readUnsigned?_eq_some_iff.mpr ⟨digits, .inl rfl, read, small⟩

/-- Without a minus sign a signed number is read as one that has none. -/
theorem readSigned?_of_unsigned {bits : Nat} {text : List Char} (unsigned : '-' ∉ text) :
    readSigned? bits text = (readUnsigned? bits text).map fun n : Nat => (n : Int) := by
  unfold readSigned?
  split
  · exact absurd (List.mem_cons_self ..) unsigned
  · cases readUnsigned? bits text <;> rfl

/-- The digits of a number, after any zeros, are read as the number. -/
theorem readDigits?_toDigits (zeros n : Nat) :
    readDigits? (List.replicate zeros '0' ++ Nat.toDigits 10 n) = some n := by
  refine readDigits?_eq_some_iff.mpr ⟨?_, fun c within => ?_, ?_⟩
  · exact List.append_ne_nil_of_right_ne_nil _ Nat.toDigits_ne_nil
  · rcases List.mem_append.mp within with zero | digit
    · rw [List.eq_of_mem_replicate zero]
      decide
    · exact Nat.isDigit_of_mem_toDigits (by decide) (by decide) digit
  · rw [Nat.ofDigitChars_append, Nat.ofDigitChars_replicate_zero, Nat.mul_zero,
      Nat.ofDigitChars_ten_toDigits]

end SiteIndex.Text
