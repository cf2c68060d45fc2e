import Mathlib.Tactic.SplitIfs
import SiteIndex.Proofs.Text.LetterCase

/-!
Texts and their bytes are ordered alike. UTF-8 encodes a character as the digits of its number to
the base 64, the highest first, behind a mark that grows with how many there are.
-/

namespace SiteIndex.Text

theorem digits_lt {v w : Nat} (below : v < w) :
    v / 64 < w / 64 ∨ v / 64 = w / 64 ∧ v % 64 < w % 64 := by
  omega

/-- Of two texts that differ in their first characters, the bytes are in the order of these,
whatever follows. -/
theorem utf8EncodeChar_append_lt {c d : Char} (below : c < d) (first second : List UInt8) :
    String.utf8EncodeChar c ++ first < String.utf8EncodeChar d ++ second := by
  have order : c.val.toNat < d.val.toNat := below
  have bound : d.val.toNat < 0x110000 := by
    rcases d.valid with low | high
    · exact Nat.lt_trans low (by decide)
    · exact high.2
  have twice (v : Nat) : v / 4096 = v / 64 / 64 := (Nat.div_div_eq_div_mul v 64 64).symm
  have thrice (v : Nat) : v / 262144 = v / 64 / 64 / 64 := by
    rw [Nat.div_div_eq_div_mul, Nat.div_div_eq_div_mul]
  have lowest := digits_lt order
  have middle := @digits_lt (c.val.toNat / 64) (d.val.toNat / 64)
  have highest := @digits_lt (c.val.toNat / 64 / 64) (d.val.toNat / 64 / 64)
  unfold String.utf8EncodeChar
  dsimp only
  split_ifs
  all_goals
    simp only [List.cons_append, List.nil_append, List.cons_lt_cons_iff, UInt8.lt_iff_toNat_lt,
      ← UInt8.toNat_inj, UInt8.toNat_ofNat', twice, thrice]
    omega

theorem flatMap_utf8EncodeChar_lt {first second : List Char} (before : first < second) :
    first.flatMap String.utf8EncodeChar < second.flatMap String.utf8EncodeChar := by
  induction before with
  | @nil c rest =>
      obtain ⟨byte, bytes, encoded⟩ :=
        List.exists_cons_of_ne_nil (String.utf8EncodeChar_ne_nil (c := c))
      rw [List.flatMap_cons, List.flatMap_nil, encoded]
      exact List.nil_lt_cons _ _
  | rel below =>
      rw [List.flatMap_cons, List.flatMap_cons]
      exact utf8EncodeChar_append_lt below _ _
  | cons _ ih =>
      rw [List.flatMap_cons, List.flatMap_cons]
      exact List.append_left_lt ih

theorem toUTF8_lt_iff {first second : String} :
    first.toUTF8.toList < second.toUTF8.toList ↔ first < second := by
  rw [toList_toUTF8, toList_toUTF8, String.lt_iff]
  refine ⟨fun before => Decidable.byContradiction fun behind => ?_, flatMap_utf8EncodeChar_lt⟩
  rcases List.le_iff_lt_or_eq.mp (List.not_lt.mp behind) with turned | same
  · exact List.lt_asymm before (flatMap_utf8EncodeChar_lt turned)
  · exact List.lt_irrefl _ (same ▸ before)

end SiteIndex.Text
