import Mathlib.Data.List.TakeWhile
import SiteIndex.Proofs.Template.Reading
import SiteIndex.Proofs.Template.Scan

/-!
Where a reader of characters stands, and what a reader of bytes finds there. At every place that the one
comes to the other can cut the text, and what stands there is the same sign to both.
-/

namespace SiteIndex.Text

/-- The place in a text that has `front` before it. -/
structure Place.After (text front : List Char) (place : Place) : Prop where
  split : text = front ++ place.rest
  offset : place.offset = byteSize front
  lineStart : place.lineStart = (front.getLast?.map (· == '\n')).getD true

namespace Place.After

variable {text front taken rest : List Char} {place : Place}

theorem start (text : List Char) : (Place.start text).After text [] := ⟨rfl, rfl, rfl⟩

theorem boundary (after : place.After text front) : Boundary text place.offset :=
  ⟨front, place.rest, after.split, after.offset.symm⟩

theorem past (after : place.After text front) (seen : place.rest = taken ++ rest) :
    (place.past taken).After text (front ++ taken) ∧ (place.past taken).rest = rest := by
  have left : (place.past taken).rest = rest := by
    rw [Place.rest_past, seen, List.drop_left]
  refine ⟨⟨?_, ?_, ?_⟩, left⟩
  · rw [left, List.append_assoc, ← seen, ← after.split]
  · rw [byteSize_append, ← after.offset]
    rfl
  · rw [Place.past, after.lineStart, List.getLast?_append]
    cases taken.getLast? <;> rfl

theorem skip (after : place.After text front) (count : Nat) :
    (place.skip count).After text (front ++ place.rest.take count) :=
  (after.past (List.take_append_drop count place.rest).symm).1

theorem toEnd (after : place.After text front) :
    place.toEnd.After text (front ++ place.rest) ∧ place.toEnd.rest = [] :=
  after.past (List.append_nil place.rest).symm

theorem afterRun (after : place.After text front) (test : Char → Bool) :
    (place.afterRun test).After text (front ++ place.run test) ∧
      (place.afterRun test).rest = place.rest.dropWhile test :=
  after.past (List.takeWhile_append_dropWhile ..).symm

/-- Where a text can be cut there is a place. -/
theorem of_boundary {offset : Nat} (boundary : Boundary text offset) :
    ∃ place front, Place.at? text offset = some place ∧ place.After text front ∧
      place.offset = offset := by
  obtain ⟨front, back, rfl, rfl⟩ := boundary
  have whole : (Place.start (front ++ back)).rest = front ++ back := rfl
  obtain ⟨after, -⟩ := (start (front ++ back)).past whole
  have skipped : (Place.start (front ++ back)).past front =
      (Place.start (front ++ back)).skip front.length := by
    rw [Place.skip]
    exact congrArg _ List.take_left.symm
  refine ⟨_, front, ?_, after, after.offset⟩
  have found := Place.at?_start_skip (front ++ back) front.length
  rwa [← skipped, after.offset] at found

theorem seek? (after : place.After text front) (test : Char → Bool) :
    Text.seek? test text place.offset =
      some (match (place.afterRun fun c => !test c).rest with
        | [] => none
        | _ :: _ => some (place.afterRun fun c => !test c).offset) := by
  obtain ⟨onward, left⟩ := after.afterRun fun c => !test c
  rw [left, onward.offset, after.offset]
  conv => lhs; rw [after.split]
  rw [seek?_append]
  rfl

theorem byteAt? (after : place.After text front) (index : Nat) :
    Text.byteAt? text (place.offset + index) = Text.byteAt? place.rest index := by
  rw [after.offset]
  conv => lhs; rw [after.split]
  exact byteAt?_append front place.rest index

theorem offset_of_nil (after : place.After text front) (none : place.rest = []) :
    place.offset = byteSize text := by
  rw [after.split, none, List.append_nil, after.offset]

end Place.After

end SiteIndex.Text

namespace SiteIndex.Template

open SiteIndex.Text

/-- What a diagnostic says of a text is so: an `@(` stands where it says, and behind it the name that it
says and a `)`, or none. -/
def Diagnostic.Points (text : List Char) : Diagnostic → Prop
  | unknownSymbol name offset => ∃ front back,
      text = front ++ '@' :: '(' :: (name.toList ++ ')' :: back) ∧ byteSize front = offset ∧
        ')' ∉ name.toList
  | recursionLimit _ => True
  | unterminatedInvocation offset => ∃ front back,
      text = front ++ '@' :: '(' :: back ∧ byteSize front = offset ∧ ')' ∉ back

/-- An invocation as it is read by offsets. -/
inductive ReadsInvocation (text : List Char) (place : Place) : Sign → Prop
  | unterminated (unclosed : seek? (· == ')') text (place.offset + 2) = some none)
      (points : (Diagnostic.unterminatedInvocation place.offset).Points text) :
      ReadsInvocation text place .unterminated
  | invocation {name : String} {hasBody : Bool} {resume : Place} {close : Nat} {front : List Char}
      (closed : seek? (· == ')') text (place.offset + 2) = some (some close))
      (named : slice? text (place.offset + 2) close = some name.toList)
      (body : byteAt? text (close + 1) = some '\x7b'.toUInt8 ↔ hasBody = true)
      (onward : resume.offset = if hasBody then close + 2 else close + 1)
      (after : resume.After text front)
      (points : (Diagnostic.unknownSymbol name place.offset).Points text) :
      ReadsInvocation text place (.invocation name hasBody resume)

/-- A sign as it is told by bytes. -/
inductive Looks (text : List Char) (place : Place) : Sign → Prop
  | closing (byte : byteAt? text place.offset = some '\x7d'.toUInt8) : Looks text place .closing
  | separator (byte : byteAt? text place.offset = some '~'.toUInt8)
      (alone : standsAlone? text place.offset = some true)
      (onward : (place.skip 2).offset = place.offset + 2) : Looks text place .separator
  | tilde (byte : byteAt? text place.offset = some '~'.toUInt8)
      (beside : standsAlone? text place.offset = some false) : Looks text place .plain
  | invocation {sign : Sign} (byte : byteAt? text place.offset = some '@'.toUInt8)
      (opened : byteAt? text (place.offset + 1) = some '('.toUInt8)
      (reads : ReadsInvocation text place sign) : Looks text place sign
  | ampersat (byte : byteAt? text place.offset = some '@'.toUInt8)
      (unopened : byteAt? text (place.offset + 1) ≠ some '('.toUInt8) : Looks text place .plain

/-- What the search from an offset comes upon. -/
inductive ComesUpon (text : List Char) (offset : Nat) (here : Place) : Sign → Prop
  | endOfText (none : seek? isSpecial text offset = some none) (whole : here.offset = byteSize text) :
      ComesUpon text offset here .endOfText
  | special {sign : Sign} (found : seek? isSpecial text offset = some (some here.offset))
      (onward : (here.skip 1).offset = here.offset + 1) (looks : Looks text here sign) :
      ComesUpon text offset here sign

theorem utf8Size_special {c : Char} (special : isSpecial c = true) : c.utf8Size = 1 := by
  have kinds : (c = '@' ∨ c = '\x7d') ∨ c = '~' := by simpa [isSpecial] using special
  obtain (rfl | rfl) | rfl := kinds <;> rfl

section
variable {text front : List Char} {place : Place} (after : place.After text front)
include after

theorem byteAt?_here {c : Char} {rest : List Char} (seen : place.rest = c :: rest)
    (ascii : c.toNat ≤ 0x7f) : byteAt? text place.offset = some c.toUInt8 := by
  have here := after.byteAt? 0
  rw [Nat.add_zero, (byteAt?_zero_iff ascii).mpr ⟨rest, seen⟩] at here
  exact here

theorem byteAt?_next_iff {c d : Char} {rest : List Char} (seen : place.rest = c :: rest)
    (ascii : c.toNat ≤ 0x7f) (ascii' : d.toNat ≤ 0x7f) :
    byteAt? text (place.offset + 1) = some d.toUInt8 ↔ rest.head? = some d := by
  have single : byteSize [c] = 1 := utf8Size_ascii ascii
  have next : byteAt? (c :: rest) (byteSize [c] + 0) = byteAt? rest 0 := byteAt?_append [c] rest 0
  rw [after.byteAt?, seen, ← single, ← Nat.add_zero (byteSize [c]), next, byteAt?_zero_iff ascii',
    List.head?_eq_some_iff]

/-- The byte before a place is that of a line feed where a line starts there. -/
theorem byteAt?_before (inside : place.offset ≠ 0) :
    ∃ byte, byteAt? text (place.offset - 1) = some byte ∧
      (byte == '\n'.toUInt8) = place.lineStart := by
  have filled : byteSize front ≠ 0 := after.offset ▸ inside
  have within : place.offset - 1 < (text.flatMap String.utf8EncodeChar).length := by
    rw [length_utf8]
    have far := after.boundary.le
    omega
  obtain ⟨byte, here⟩ : ∃ byte, byteAt? text (place.offset - 1) = some byte :=
    ⟨_, List.getElem?_eq_getElem within⟩
  have last : byteAt? text (place.offset - 1) = some '\n'.toUInt8 ↔ front.getLast? = some '\n' := by
    rw [after.offset]
    conv => lhs; rw [after.split]
    exact byteAt?_last_iff (by decide) filled
  refine ⟨byte, here, ?_⟩
  rw [after.lineStart, Bool.eq_iff_iff, beq_iff_eq, ← Option.some_inj, ← here, last]
  cases ends : front.getLast? with
  | none =>
      rw [List.getLast?_eq_none_iff.mp ends] at filled
      exact absurd rfl filled
  | some c => simp

/-- A tilde is alone on its line where a line starts with it and ends behind it. -/
theorem standsAlone?_eq {rest : List Char} (seen : place.rest = '~' :: rest) :
    standsAlone? text place.offset = some (place.lineStart && rest.head? == some '\n') := by
  have next : (byteAt? text (place.offset + 1) == some '\n'.toUInt8) =
      (rest.head? == some '\n') := by
    rw [Bool.eq_iff_iff, beq_iff_eq, beq_iff_eq]
    exact byteAt?_next_iff after seen (by decide) (by decide)
  unfold standsAlone?
  rw [next]
  by_cases outset : place.offset = 0
  · have bare : front = [] := by
      cases front with
      | nil => rfl
      | cons c front =>
          have wide : 0 < c.utf8Size + byteSize front := Nat.add_pos_left c.utf8Size_pos _
          exact absurd (after.offset.symm.trans outset) (Nat.ne_of_gt wide)
    rw [if_pos outset, after.lineStart, bare]
    rfl
  · obtain ⟨byte, here, same⟩ := byteAt?_before after outset
    rw [if_neg outset, here, Option.map_some, same]

/-- Behind `@(` both readers find the same. -/
theorem readsInvocation {opened : List Char} (seen : place.rest = '@' :: '(' :: opened) :
    ReadsInvocation text place (invocationAt place) := by
  have begun : (place.skip 2).After text (front ++ ['@', '(']) := by
    have skipped := after.skip 2
    rwa [seen] at skipped
  have inside : (place.skip 2).rest = opened := by rw [Place.rest_skip, seen]; rfl
  have entered : (place.skip 2).offset = place.offset + 2 := by
    rw [begun.offset, byteSize_append, after.offset]
    rfl
  obtain ⟨ended, left⟩ := begun.afterRun isNameChar
  have found := begun.seek? (· == ')')
  rw [entered] at found
  change seek? (· == ')') text (place.offset + 2) =
    some (match ((place.skip 2).afterRun isNameChar).rest with
      | [] => none
      | _ :: _ => some ((place.skip 2).afterRun isNameChar).offset) at found
  have unclosed : ')' ∉ (place.skip 2).run isNameChar := fun within =>
    absurd (List.all_eq_true.mp List.all_takeWhile ')' within) (by decide)
  have named : slice? text (place.offset + 2) ((place.skip 2).afterRun isNameChar).offset =
      some (String.ofList ((place.skip 2).run isNameChar)).toList := by
    rw [ended.offset, ← entered, begun.offset, String.toList_ofList]
    conv => lhs; rw [ended.split, List.append_assoc]
    exact slice?_append _ _ _
  have head := List.head?_dropWhile_not isNameChar (place.skip 2).rest
  rw [← left] at head
  unfold invocationAt
  dsimp only
  generalize (place.skip 2).run isNameChar = name at ended unclosed named
  generalize (place.skip 2).afterRun isNameChar = close at ended left found named head
  have points {c : Char} {back : List Char} (here : close.rest = c :: back) (paren : c = ')') :
      (Diagnostic.unknownSymbol (String.ofList name) place.offset).Points text :=
    ⟨front, back, by simpa [here, paren] using ended.split, after.offset.symm, by simpa using unclosed⟩
  split
  · next none =>
    rw [none] at found left
    have all := List.dropWhile_eq_nil_iff.mp left.symm
    rw [inside] at all
    exact .unterminated found ⟨front, opened, seen ▸ after.split, after.offset.symm,
      fun within => absurd (all ')' within) (by decide)⟩
  · next paren rest here =>
    rw [here] at found head
    have closing : paren = ')' := by simpa [isNameChar] using head
    subst closing
    have wide : (close.skip 2).offset = close.offset + 2 := by
      rw [Place.skip, here]
      rfl
    have braced : byteAt? text (close.offset + 1) = some '\x7b'.toUInt8 :=
      (byteAt?_next_iff ended here (by decide) (by decide)).mpr rfl
    exact .invocation found named (iff_of_true braced rfl) wide (ended.skip 2) (points here rfl)
  · next paren rest unbraced here =>
    rw [here] at found head
    have closing : paren = ')' := by simpa [isNameChar] using head
    subst closing
    have wide : (close.skip 1).offset = close.offset + 1 := by
      rw [Place.skip, here]
      rfl
    have plain : byteAt? text (close.offset + 1) ≠ some '\x7b'.toUInt8 := by
      rw [ne_eq, byteAt?_next_iff ended here (by decide) (by decide), List.head?_eq_some_iff]
      rintro ⟨behind, rfl⟩
      exact unbraced _ rfl
    exact .invocation found named (iff_of_false plain Bool.false_ne_true) wide (ended.skip 1)
      (points here rfl)

/-- What a special character is a sign of is told by the bytes around it. -/
theorem looks {c : Char} {rest : List Char} (seen : place.rest = c :: rest)
    (special : isSpecial c = true) : Looks text place (signAt place) := by
  have kinds : (c = '@' ∨ c = '\x7d') ∨ c = '~' := by simpa [isSpecial] using special
  obtain (rfl | rfl) | rfl := kinds
  · have byte := byteAt?_here after seen (by decide)
    have next := byteAt?_next_iff after seen (by decide) (show '('.toNat ≤ 0x7f by decide)
    by_cases opened : rest.head? = some '('
    · obtain ⟨behind, rfl⟩ := List.head?_eq_some_iff.mp opened
      have sign : signAt place = invocationAt place := by
        unfold signAt
        rw [seen]
        rfl
      rw [sign]
      exact .invocation byte (next.mpr opened) (readsInvocation after seen)
    · have sign : signAt place = .plain := by
        unfold signAt
        rw [seen]
        split <;> simp_all
      rw [sign]
      exact .ampersat byte (next.not.mpr opened)
  · have sign : signAt place = .closing := by
      unfold signAt
      rw [seen]
      rfl
    rw [sign]
    exact .closing (byteAt?_here after seen (by decide))
  · have byte := byteAt?_here after seen (by decide)
    have alone := standsAlone?_eq after seen
    cases lone : place.lineStart && rest.head? == some '\n' with
    | true =>
        obtain ⟨start, last⟩ := Bool.and_eq_true_iff.mp lone
        obtain ⟨behind, rfl⟩ := List.head?_eq_some_iff.mp (beq_iff_eq.mp last)
        have sign : signAt place = .separator := by
          unfold signAt
          rw [seen]
          exact if_pos start
        rw [sign]
        refine .separator byte (alone.trans (congrArg some lone)) ?_
        rw [Place.skip, seen]
        rfl
    | false =>
        have sign : signAt place = .plain := by
          unfold signAt
          rw [seen]
          split <;> simp_all
        rw [sign]
        exact .tilde byte (alone.trans (congrArg some lone))

/-- Both readers come upon the same next sign. -/
theorem comesUpon :
    ComesUpon text place.offset (nextSpecial place) (signAt (nextSpecial place)) := by
  have sought := after.seek? isSpecial
  obtain ⟨here, left⟩ := after.afterRun fun c => !isSpecial c
  have head := List.head?_dropWhile_not (fun c => !isSpecial c) place.rest
  rw [← left] at head
  unfold nextSpecial
  generalize (place.afterRun fun c => !isSpecial c) = next at *
  cases seen : next.rest with
  | nil =>
      have sign : signAt next = .endOfText := by
        unfold signAt
        rw [seen]
      rw [seen] at sought
      rw [sign]
      exact .endOfText sought (here.offset_of_nil seen)
  | cons c rest =>
      rw [seen] at head sought
      have special : isSpecial c = true := by simpa using head
      refine .special sought ?_ (looks here seen special)
      rw [Place.skip, seen]
      exact congrArg (next.offset + ·) (utf8Size_special special)

end
end SiteIndex.Template
