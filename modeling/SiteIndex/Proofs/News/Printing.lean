import SiteIndex.News.Item
import SiteIndex.Proofs.Text.Line
import SiteIndex.Proofs.Text.Numeral

/-!
The dates of news, read and printed. A line is read in the parts that its first two hyphens cut it into, as
far as these are numbers; a date that has been read is read back from the form in which it is printed, with
whatever title stands below it.
-/

namespace SiteIndex.News

open SiteIndex.Text

/-- The parts of a text that its first two hyphens, or the only one, separate. -/
structure CutAtHyphens (text : List Char) (parts : List (List Char)) : Prop where
  joined : ['-'].intercalate parts = text
  count : 1 ≤ parts.length ∧ parts.length ≤ 3
  unhyphened : ∀ part ∈ parts.take 2, '-' ∉ part

/-- The number in the first part, if there is one: 31 bits and a sign. -/
def yearIn (parts : List (List Char)) : Option Int :=
  parts[0]?.bind fun part => readSigned? 31 (trimBlank part)

/-- The number in a later part, if there is one: 32 bits without a sign. -/
def numberIn (parts : List (List Char)) (index : Nat) : Option Nat :=
  parts[index]?.bind fun part => readUnsigned? 32 (trimBlank part)

/-- The components before the first one that is missing, brought into range, and those of the first of
January 1970 from there on. -/
def Date.kept (year : Option Int) (month day : Option Nat) : Date where
  year := year.getD 1970
  month := ((year.bind fun _ => month).map (clampTo 1 12)).getD 1
  day := ((year.bind fun _ => month.bind fun _ => day).map (clampTo 1 31)).getD 1

/-- A date that can have been read. -/
structure Date.InRange (date : Date) : Prop where
  year : 0 ≤ date.year ∧ date.year ≤ 2147483647
  month : 1 ≤ date.month ∧ date.month ≤ 12
  day : 1 ≤ date.day ∧ date.day ≤ 31

namespace Date

theorem cutHyphen_of_unhyphened {text : List Char} (unhyphened : '-' ∉ text) :
    cutHyphen text = (text, none) := by
  have within : ∀ c ∈ text, (c != '-') = true := fun c among =>
    bne_iff_ne.mpr fun same => unhyphened (same ▸ among)
  rw [cutHyphen, List.dropWhile_eq_nil_iff.mpr within]

theorem cutHyphen_append {text : List Char} (unhyphened : '-' ∉ text) (rest : List Char) :
    cutHyphen (text ++ '-' :: rest) = (text, some rest) := by
  have within : ∀ c ∈ text, (c != '-') = true := fun c among =>
    bne_iff_ne.mpr fun same => unhyphened (same ▸ among)
  rw [cutHyphen, List.dropWhile_append_of_pos within, List.dropWhile_cons_of_neg (by decide),
    List.takeWhile_append_of_pos within, List.takeWhile_cons_of_neg (by decide), List.append_nil]

theorem exists_cutAtHyphens (text : List Char) : ∃ parts, CutAtHyphens text parts := by
  by_cases hyphened : '-' ∈ text
  · obtain ⟨first, rest, rfl, free⟩ := List.eq_append_cons_of_mem hyphened
    by_cases again : '-' ∈ rest
    · obtain ⟨second, rest, rfl, free'⟩ := List.eq_append_cons_of_mem again
      exact ⟨[first, second, rest], by simp, by simp, by simp [free, free']⟩
    · exact ⟨[first, rest], by simp, by simp, by simp [free, again]⟩
  · exact ⟨[text], by simp, by simp, by simp [hyphened]⟩

/-- A line is read in the parts that its hyphens cut it into. -/
theorem read_of_cut {line : List Char} {parts : List (List Char)}
    (cut : CutAtHyphens (trimBlank line) parts) :
    read line = (kept (yearIn parts) (numberIn parts 1) (numberIn parts 2),
      (yearIn parts).isSome && (numberIn parts 1).isSome && (numberIn parts 2).isSome) := by
  obtain ⟨joined, ⟨some, few⟩, unhyphened⟩ := cut
  match parts with
  | [] => cases some
  | [first] =>
    simp only [List.intercalate_singleton] at joined
    simp only [List.take, List.forall_mem_cons] at unhyphened
    simp only [read, ← joined, cutHyphen_of_unhyphened unhyphened.1, yearIn, numberIn]
    simp only [List.getElem?_cons_zero, List.getElem?_cons_succ, List.getElem?_nil, Option.bind_some,
      Option.bind_none]
    cases readSigned? 31 (trimBlank first) <;> rfl
  | [first, second] =>
    simp only [List.intercalate_cons_cons, List.intercalate_singleton, List.append_assoc,
      List.singleton_append] at joined
    simp only [List.take, List.forall_mem_cons] at unhyphened
    simp only [read, ← joined, cutHyphen_append unhyphened.1, yearIn, numberIn, Option.getD_some,
      cutHyphen_of_unhyphened unhyphened.2.1]
    simp only [List.getElem?_cons_zero, List.getElem?_cons_succ, List.getElem?_nil, Option.bind_some,
      Option.bind_none]
    cases readSigned? 31 (trimBlank first) <;> cases readUnsigned? 32 (trimBlank second) <;> rfl
  | [first, second, third] =>
    simp only [List.intercalate_cons_cons, List.intercalate_singleton, List.append_assoc,
      List.singleton_append] at joined
    simp only [List.take, List.forall_mem_cons] at unhyphened
    simp only [read, ← joined, cutHyphen_append unhyphened.1, yearIn, numberIn, Option.getD_some,
      cutHyphen_append unhyphened.2.1]
    simp only [List.getElem?_cons_zero, List.getElem?_cons_succ, Option.bind_some]
    cases readSigned? 31 (trimBlank first) <;> cases readUnsigned? 32 (trimBlank second) <;>
      cases readUnsigned? 32 (trimBlank third) <;> rfl
  | _ :: _ :: _ :: _ :: _ =>
    simp only [List.length_cons] at few
    omega

theorem clampTo_mem (n : Nat) {low high : Nat} (proper : low ≤ high) :
    low ≤ clampTo low high n ∧ clampTo low high n ≤ high := by
  unfold clampTo
  split
  · omega
  · split <;> omega

theorem clampTo_eq_self {low high n : Nat} (within : low ≤ n ∧ n ≤ high) :
    clampTo low high n = n := by
  rw [clampTo, if_neg (by omega), if_neg (by omega)]

/-- The part before the first hyphen is read without a sign. -/
theorem yearIn_mem {text : List Char} {parts : List (List Char)} {year : Int}
    (cut : CutAtHyphens text parts) (read : yearIn parts = some year) :
    0 ≤ year ∧ year ≤ 2147483647 := by
  obtain ⟨part, first, read⟩ := Option.bind_eq_some_iff.mp read
  have unhyphened : '-' ∉ part :=
    cut.unhyphened part (List.mem_of_getElem? (i := 0) (by rw [List.getElem?_take_of_lt (by decide), first]))
  rw [readSigned?_of_unsigned fun within => unhyphened (mem_of_mem_trimBlank within)] at read
  obtain ⟨n, number, rfl⟩ := Option.map_eq_some_iff.mp read
  obtain ⟨_, _, _, small⟩ := readUnsigned?_eq_some_iff.mp number
  have bound : Nat.pow 2 31 = 2147483648 := by decide
  omega

theorem inRange_kept {text : List Char} {parts : List (List Char)} (cut : CutAtHyphens text parts)
    (month day : Option Nat) : InRange (kept (yearIn parts) month day) where
  year := by
    cases read : yearIn parts with
    | none => simp [kept]
    | some year => exact yearIn_mem cut read
  month := by
    cases within : (yearIn parts).bind fun _ => month with
    | none => simp [kept, within]
    | some n => simpa [kept, within] using clampTo_mem n (by decide)
  day := by
    cases within : (yearIn parts).bind fun _ => month.bind fun _ => day with
    | none => simp [kept, within]
    | some n => simpa [kept, within] using clampTo_mem n (by decide)

/-- The digits of a number, with zeros before them that fill `width`. -/
def digitsOf (width n : Nat) : List Char :=
  List.replicate (width - (Nat.toDigits 10 n).length) '0' ++ Nat.toDigits 10 n

theorem isDigit_of_mem_digitsOf {width n : Nat} {c : Char} (within : c ∈ digitsOf width n) :
    c.isDigit = true := by
  rcases List.mem_append.mp within with zero | digit
  · rw [List.eq_of_mem_replicate zero]
    decide
  · exact Nat.isDigit_of_mem_toDigits (by decide) (by decide) digit

theorem unhyphened_digitsOf (width n : Nat) : '-' ∉ digitsOf width n := fun within =>
  absurd (isDigit_of_mem_digitsOf within) (by decide)

theorem readUnsigned?_digitsOf {bits n : Nat} (width : Nat) (small : n < Nat.pow 2 bits) :
    readUnsigned? bits (digitsOf width n) = some n :=
  readUnsigned?_of_digits (readDigits?_toDigits _ n) small

theorem toList_join_paddedPieces (width n : Nat) :
    (String.join (paddedPieces width n)).toList = digitsOf width n := by
  have unsigned : ¬ (n : Int) < 0 := by omega
  simp only [paddedPieces, if_neg unsigned, Int.natAbs_natCast, List.nil_append, List.length_nil,
    Nat.sub_zero, Nat.toString_eq_ofList_toDigits, String.length_ofList, String.toList_join,
    List.flatMap_append, List.flatMap_replicate, List.flatMap_singleton, String.toList_ofList]
  rw [digitsOf, show "0".toList = ['0'] from rfl, List.flatten_replicate_singleton]

/-- The form in which a date is printed that does not lie before the year zero. -/
theorem toList_text (year month day : Nat) :
    (Date.text ⟨year, month, day⟩).toList =
      digitsOf 4 year ++ '-' :: (digitsOf 2 month ++ '-' :: digitsOf 2 day) := by
  simp only [text, pieces, String.join_append, String.toList_append, toList_join_paddedPieces,
    List.append_assoc]
  rfl

theorem cutAtHyphens_text (year month day : Nat) :
    CutAtHyphens (Date.text ⟨year, month, day⟩).toList
      [digitsOf 4 year, digitsOf 2 month, digitsOf 2 day] where
  joined := by rw [toList_text]; simp
  count := by simp
  unhyphened := by simp [unhyphened_digitsOf]

/-- Digits and hyphens are all that is printed. -/
theorem mem_text {year month day : Nat} {c : Char}
    (within : c ∈ (Date.text ⟨year, month, day⟩).toList) : c.isDigit = true ∨ c = '-' := by
  simp only [toList_text, List.mem_append, List.mem_cons] at within
  rcases within with digit | hyphen | digit | hyphen | digit
  · exact .inl (isDigit_of_mem_digitsOf digit)
  · exact .inr hyphen
  · exact .inl (isDigit_of_mem_digitsOf digit)
  · exact .inr hyphen
  · exact .inl (isDigit_of_mem_digitsOf digit)

theorem isBlank_of_mem_text {date : Date} (range : date.InRange) :
    ∀ c ∈ date.text.toList, isBlank c = false := by
  obtain ⟨year, month, day⟩ := date
  obtain ⟨year, rfl⟩ := Int.eq_ofNat_of_zero_le range.year.1
  intro c within
  rcases mem_text within with digit | rfl
  · exact isBlank_of_isDigit digit
  · decide

theorem trimBlank_digitsOf (width n : Nat) : trimBlank (digitsOf width n) = digitsOf width n :=
  trimBlank_eq_self fun _ within => isBlank_of_isDigit (isDigit_of_mem_digitsOf within)

theorem yearIn_digitsOf {year : Nat} (small : year < Nat.pow 2 31) (later : List (List Char)) :
    yearIn (digitsOf 4 year :: later) = some (year : Int) := by
  rw [yearIn, List.getElem?_cons_zero, Option.bind_some, trimBlank_digitsOf,
    readSigned?_of_unsigned (unhyphened_digitsOf 4 year), readUnsigned?_digitsOf 4 small]
  rfl

theorem numberIn_digitsOf {parts : List (List Char)} {index width n : Nat}
    (there : parts[index]? = some (digitsOf width n)) (small : n < Nat.pow 2 32) :
    numberIn parts index = some n := by
  rw [numberIn, there, Option.bind_some, trimBlank_digitsOf, readUnsigned?_digitsOf width small]

/-- A date in range is read from the form in which it is printed. -/
theorem read_text {date : Date} (range : date.InRange) : read date.text.toList = (date, true) := by
  have trimmed := trimBlank_eq_self (isBlank_of_mem_text range)
  obtain ⟨year, month, day⟩ := date
  obtain ⟨⟨nonnegative, few⟩, monthRange, dayRange⟩ := range
  obtain ⟨year, rfl⟩ := Int.eq_ofNat_of_zero_le nonnegative
  have bound31 : Nat.pow 2 31 = 2147483648 := by decide
  have bound32 : Nat.pow 2 32 = 4294967296 := by decide
  dsimp only at few monthRange dayRange
  have monthRead : numberIn [digitsOf 4 year, digitsOf 2 month, digitsOf 2 day] 1 = some month :=
    numberIn_digitsOf rfl (by omega)
  have dayRead : numberIn [digitsOf 4 year, digitsOf 2 month, digitsOf 2 day] 2 = some day :=
    numberIn_digitsOf rfl (by omega)
  rw [read_of_cut (trimmed.symm ▸ cutAtHyphens_text year month day), yearIn_digitsOf (by omega),
    monthRead, dayRead]
  simp only [kept, Option.getD_some, Option.bind_some, Option.map_some, clampTo_eq_self monthRange,
    clampTo_eq_self dayRange, Option.isSome_some, Bool.and_self]

end Date

/-- The line from which the date of news is read. -/
theorem read_date (text : String) :
    ((read text).1, (read text).2.1) = Date.read ((firstLine? text.toList).getD []) := by
  unfold read firstLine?
  cases nextLine? text.toList <;> rfl

/-- A date and a title, each on a line of its own, are read as they are. -/
theorem read_text_title {date : Date} (range : date.InRange) {title : String}
    (unbroken : '\n' ∉ title.toList) (last : title.toList.getLast? ≠ some '\r') :
    read (date.text ++ "\n" ++ title) = (date, true, title) := by
  have unblank := Date.isBlank_of_mem_text range
  have inside : '\n' ∉ date.text.toList := fun within =>
    absurd (unblank '\n' within) (by decide)
  have unreturned : date.text.toList.getLast? ≠ some '\r' := fun returned =>
    absurd (unblank '\r' (List.mem_of_getLast? returned)) (by decide)
  have chars : (date.text ++ "\n" ++ title).toList = date.text.toList ++ '\n' :: title.toList := by
    simp
  have kept : dropEndWhile (· == '\r') title.toList = title.toList :=
    dropEndWhile_eq_self fun c final => beq_eq_false_iff_ne.mpr fun same => last (same ▸ final)
  simp only [read, chars, nextLine?_append inside unreturned, Option.getD_some, Date.read_text range,
    firstLine?_getD_of_unbroken unbroken, kept, String.ofList_toList]

/-- The date that is read from a text lies in range, and it is read back, with any title, from the form
in which it is printed. It has the components that stand in the first line, between its first two
hyphens, before the first one that is not a number. -/
theorem read_survives_printing (text : String) :
    (read text).1.InRange ∧
    (∀ title : String, '\n' ∉ title.toList → title.toList.getLast? ≠ some '\r' →
      read ((read text).1.text ++ "\n" ++ title) = ((read text).1, true, title)) ∧
    (∃ parts, CutAtHyphens (trimBlank ((firstLine? text.toList).getD [])) parts) ∧
    ∀ parts, CutAtHyphens (trimBlank ((firstLine? text.toList).getD [])) parts →
      (read text).1 = .kept (yearIn parts) (numberIn parts 1) (numberIn parts 2) ∧
      ((read text).2.1 = true ↔
        (yearIn parts).isSome ∧ (numberIn parts 1).isSome ∧ (numberIn parts 2).isSome) := by
  obtain ⟨parts, cut⟩ := Date.exists_cutAtHyphens (trimBlank ((firstLine? text.toList).getD []))
  have found {parts : List (List Char)}
      (cut : CutAtHyphens (trimBlank ((firstLine? text.toList).getD [])) parts) :=
    Prod.mk.inj ((read_date text).trans (Date.read_of_cut cut))
  have range : (read text).1.InRange := (found cut).1 ▸ Date.inRange_kept cut _ _
  refine ⟨range, fun title => read_text_title range, ⟨parts, cut⟩, fun parts cut => ?_⟩
  refine ⟨(found cut).1, ?_⟩
  rw [(found cut).2, Bool.and_eq_true, Bool.and_eq_true, and_assoc]

theorem read_survives_printing_clamped :
    (read "2020-13-00\nx").1 = ⟨2020, 12, 1⟩ ∧
    read ((read "2020-13-00\nx").1.text ++ "\n" ++ "We moved") = (⟨2020, 12, 1⟩, true, "We moved") := by
  have cut : CutAtHyphens (trimBlank ((firstLine? "2020-13-00\nx".toList).getD []))
      ["2020".toList, "13".toList, "00".toList] := ⟨by decide +kernel, by decide, by decide +kernel⟩
  obtain ⟨_, back, _, found⟩ := read_survives_printing "2020-13-00\nx"
  have date : (read "2020-13-00\nx").1 = ⟨2020, 12, 1⟩ := (found _ cut).1.trans (by decide +kernel)
  have again := back "We moved" (by decide +kernel) (by decide +kernel)
  exact ⟨date, again.trans (by rw [date])⟩

end SiteIndex.News
