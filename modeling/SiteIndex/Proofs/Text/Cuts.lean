import SiteIndex.Proofs.Text.LetterCase
import SiteIndex.Proofs.Text.Place

/-!
Texts by the offsets of their bytes. A text can be cut where a character starts or the text ends, and
nowhere else. The bytes of ASCII characters stand for these alone, so a reader of bytes comes upon them
where a reader of characters does.
-/

namespace SiteIndex.Text

/-- What comes before so many bytes of a text and what comes after, if the text can be cut there. -/
def cutAt? : (offset : Nat) → (text : List Char) → Option (List Char × List Char)
  | 0, text => some ([], text)
  | _ + 1, [] => none
  | offset + 1, c :: rest =>
      if c.utf8Size ≤ offset + 1 then
        (cutAt? (offset + 1 - c.utf8Size) rest).map fun (front, back) => (c :: front, back)
      else none

/-- What lies between two offsets, if they are in order and the text can be cut at both. -/
def slice? (text : List Char) (first last : Nat) : Option (List Char) :=
  if first ≤ last then
    (cutAt? first text).bind fun (_, back) => (cutAt? (last - first) back).map Prod.fst
  else none

/-- The offset of the first character from `first` on that passes a test, if there is such a character; no
answer if the text cannot be cut at `first`. -/
def seek? (test : Char → Bool) (text : List Char) (first : Nat) : Option (Option Nat) :=
  (cutAt? first text).map fun (_, back) =>
    match back.dropWhile fun c => !test c with
    | [] => none
    | _ :: _ => some (first + byteSize (back.takeWhile fun c => !test c))

/-- A byte of a text, if there are so many. -/
def byteAt? (text : List Char) (index : Nat) : Option UInt8 :=
  (text.flatMap String.utf8EncodeChar)[index]?

/-- A character starts there, or the text ends. -/
def Boundary (text : List Char) (offset : Nat) : Prop :=
  ∃ front back, text = front ++ back ∧ byteSize front = offset

section
variable {text front back inner : List Char} {offset first last : Nat}

theorem cutAt?_append (front back : List Char) :
    cutAt? (byteSize front) (front ++ back) = some (front, back) := by
  induction front with
  | nil =>
      change cutAt? 0 back = _
      rw [cutAt?]
  | cons c front ih =>
      have wide : c.utf8Size + byteSize front ≠ 0 := Nat.ne_of_gt (Nat.add_pos_left c.utf8Size_pos _)
      obtain ⟨size, sized⟩ := Nat.exists_eq_succ_of_ne_zero wide
      have left : size + 1 - c.utf8Size = byteSize front := by omega
      change cutAt? (c.utf8Size + byteSize front) (c :: (front ++ back)) = _
      rw [sized, cutAt?, if_pos (by omega), left, ih]
      rfl

theorem Boundary.le (boundary : Boundary text offset) : offset ≤ byteSize text := by
  obtain ⟨front, back, rfl, rfl⟩ := boundary
  rw [byteSize_append]
  exact Nat.le_add_right _ _

theorem slice?_append (front inner back : List Char) :
    slice? (front ++ (inner ++ back)) (byteSize front) (byteSize (front ++ inner)) = some inner := by
  rw [slice?, byteSize_append, if_pos (Nat.le_add_right _ _), cutAt?_append, Option.bind_some,
    Nat.add_sub_cancel_left]
  dsimp only
  rw [cutAt?_append]
  rfl

theorem seek?_append (test : Char → Bool) (front back : List Char) :
    seek? test (front ++ back) (byteSize front) =
      some (match back.dropWhile fun c => !test c with
        | [] => none
        | _ :: _ => some (byteSize (front ++ back.takeWhile fun c => !test c))) := by
  rw [seek?, cutAt?_append, byteSize_append]
  rfl

theorem length_utf8 (text : List Char) :
    (text.flatMap String.utf8EncodeChar).length = byteSize text := by
  induction text with
  | nil => rfl
  | cons c rest ih =>
      rw [List.flatMap_cons, List.length_append, ih, String.length_utf8EncodeChar]
      rfl

theorem byteAt?_append (front back : List Char) (index : Nat) :
    byteAt? (front ++ back) (byteSize front + index) = byteAt? back index := by
  rw [byteAt?, List.flatMap_append, ← length_utf8,
    List.getElem?_append_right (Nat.le_add_right _ _), Nat.add_sub_cancel_left]
  rfl

theorem utf8EncodeChar_ascii {c : Char} (ascii : c.toNat ≤ 0x7f) :
    String.utf8EncodeChar c = [c.toUInt8] :=
  if_pos ascii

theorem utf8Size_ascii {c : Char} (ascii : c.toNat ≤ 0x7f) : c.utf8Size = 1 := by
  rw [← String.length_utf8EncodeChar, utf8EncodeChar_ascii ascii, List.length_singleton]

/-- The byte of an ASCII character is no byte of any other character. -/
theorem eq_of_mem_utf8EncodeChar {c d : Char} (ascii : c.toNat ≤ 0x7f)
    (within : c.toUInt8 ∈ String.utf8EncodeChar d) : d = c := by
  have byte : c.toUInt8.toNat = c.toNat := Nat.mod_eq_of_lt (by change c.toNat < 256; omega)
  rcases Nat.lt_or_ge 0x7f d.toNat with beyond | ascii'
  · have high := high_of_mem_utf8EncodeChar beyond _ within
    omega
  · have byte' : d.toUInt8.toNat = d.toNat := Nat.mod_eq_of_lt (by change d.toNat < 256; omega)
    rw [utf8EncodeChar_ascii ascii', List.mem_singleton] at within
    rw [← Char.toNat_inj, ← byte, ← byte', within]

/-- Where the byte of an ASCII character stands first, that character does. -/
theorem byteAt?_zero_iff {c : Char} (ascii : c.toNat ≤ 0x7f) :
    byteAt? text 0 = some c.toUInt8 ↔ ∃ rest, text = c :: rest := by
  constructor
  · intro here
    cases text with
    | nil => cases here
    | cons d rest =>
        have filled : 0 < (String.utf8EncodeChar d).length := by
          rw [String.length_utf8EncodeChar]
          exact d.utf8Size_pos
        rw [byteAt?, List.flatMap_cons, List.getElem?_append_left filled] at here
        exact ⟨rest, by rw [eq_of_mem_utf8EncodeChar ascii (List.mem_of_getElem? here)]⟩
  · rintro ⟨rest, rfl⟩
    rw [byteAt?, List.flatMap_cons, utf8EncodeChar_ascii ascii]
    rfl

/-- Where the byte of an ASCII character stands last, that character does. -/
theorem byteAt?_last_iff {c : Char} (ascii : c.toNat ≤ 0x7f) (filled : byteSize front ≠ 0) :
    byteAt? (front ++ back) (byteSize front - 1) = some c.toUInt8 ↔ front.getLast? = some c := by
  have within : byteSize front - 1 < (front.flatMap String.utf8EncodeChar).length := by
    rw [length_utf8]
    omega
  rw [byteAt?, List.flatMap_append, List.getElem?_append_left within, ← length_utf8,
    ← List.getLast?_eq_getElem?]
  rcases List.eq_nil_or_concat front with rfl | ⟨before, d, rfl⟩
  · exact absurd rfl filled
  rw [List.concat_eq_append, List.flatMap_append, List.flatMap_singleton, List.getLast?_append,
    List.getLast?_concat]
  constructor
  · intro last
    have wide : String.utf8EncodeChar d ≠ [] := by
      rw [← List.length_pos_iff, String.length_utf8EncodeChar]
      exact d.utf8Size_pos
    obtain ⟨byte, ends⟩ := Option.ne_none_iff_exists'.mp (mt List.getLast?_eq_none_iff.mp wide)
    rw [ends, Option.some_or, Option.some_inj] at last
    subst last
    rw [eq_of_mem_utf8EncodeChar ascii (List.mem_of_getLast? ends)]
  · intro same
    cases same
    rw [utf8EncodeChar_ascii ascii]
    rfl

end
end SiteIndex.Text
