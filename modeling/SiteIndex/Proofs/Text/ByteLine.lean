import SiteIndex.Text.ByteLine

/-!
The first lines of a file's bytes. They are what stands in front of them up to a line feed, or
everything where there are too few line feeds; what comes behind that line feed makes no difference
to them.
-/

namespace SiteIndex.Text

/-- The first lines of some bytes, their line feeds included, so many of them at the most. -/
def leadingLines : (lines : Nat) → List UInt8 → List UInt8
  | 0, _ => []
  | _ + 1, [] => []
  | lines + 1, byte :: rest =>
      byte :: if byte = 0x0a then leadingLines lines rest else leadingLines (lines + 1) rest

@[simp]
theorem leadingLines_zero (bytes : List UInt8) : leadingLines 0 bytes = [] := by
  cases bytes <;> rfl

@[simp]
theorem leadingLines_nil (lines : Nat) : leadingLines lines [] = [] := by
  cases lines <;> rfl

theorem leadingLines_feed (lines : Nat) (rest : List UInt8) :
    leadingLines (lines + 1) (0x0a :: rest) = 0x0a :: leadingLines lines rest := rfl

theorem leadingLines_other {byte : UInt8} (other : byte ≠ 0x0a) (lines : Nat) (rest : List UInt8) :
    leadingLines (lines + 1) (byte :: rest) = byte :: leadingLines (lines + 1) rest := by
  rw [leadingLines, if_neg other]

theorem leadingLines_eq_nil {lines : Nat} {bytes : List UInt8}
    (none : leadingLines (lines + 1) bytes = []) : bytes = [] := by
  cases bytes with
  | nil => rfl
  | cons byte rest => cases none

theorem leadingLines_leads (lines : Nat) (bytes : List UInt8) : leadingLines lines bytes <+: bytes := by
  induction bytes generalizing lines with
  | nil => simp
  | cons byte rest ih =>
      cases lines with
      | zero => simp
      | succ lines =>
          refine List.cons_prefix_cons.mpr ⟨rfl, ?_⟩
          split <;> exact ih _

theorem leadingLines_of_count_lt {lines : Nat} {bytes : List UInt8} (few : bytes.count 0x0a < lines) :
    leadingLines lines bytes = bytes := by
  induction bytes generalizing lines with
  | nil => exact leadingLines_nil lines
  | cons byte rest ih =>
      obtain ⟨lines, rfl⟩ := Nat.exists_eq_add_one_of_ne_zero (Nat.ne_zero_of_lt few)
      by_cases feed : byte = 0x0a
      · rw [feed, List.count_cons_self] at few
        rw [feed, leadingLines_feed, ih (Nat.lt_of_succ_lt_succ few)]
      · rw [List.count_cons_of_ne feed] at few
        rw [leadingLines_other feed, ih few]

/-- Where there are enough line feeds in front, what comes behind them makes no difference. -/
theorem leadingLines_append {lines : Nat} {bytes : List UInt8} (enough : lines ≤ bytes.count 0x0a)
    (more : List UInt8) : leadingLines lines (bytes ++ more) = leadingLines lines bytes := by
  induction bytes generalizing lines with
  | nil =>
      cases Nat.le_zero.mp enough
      rw [leadingLines_zero, leadingLines_zero]
  | cons byte rest ih =>
      cases lines with
      | zero => rw [leadingLines_zero, leadingLines_zero]
      | succ lines =>
          by_cases feed : byte = 0x0a
          · rw [feed, List.count_cons_self] at enough
            rw [feed, List.cons_append, leadingLines_feed, leadingLines_feed,
              ih (Nat.le_of_succ_le_succ enough)]
          · rw [List.count_cons_of_ne feed] at enough
            rw [List.cons_append, leadingLines_other feed, leadingLines_other feed, ih enough]

/-- Bytes without a line feed belong to the first line. -/
theorem leadingLines_append_of_not_mem {bytes : List UInt8} (unbroken : 0x0a ∉ bytes) (lines : Nat)
    (more : List UInt8) :
    leadingLines (lines + 1) (bytes ++ more) = bytes ++ leadingLines (lines + 1) more := by
  induction bytes with
  | nil => rfl
  | cons byte rest ih =>
      have other : byte ≠ 0x0a := fun feed => unbroken (feed ▸ List.mem_cons_self)
      have further : 0x0a ∉ rest := fun within => unbroken (List.mem_cons_of_mem _ within)
      rw [List.cons_append, leadingLines_other other, ih further, List.cons_append]

/-- After the first line come the others. -/
theorem leadingLines_succ (lines : Nat) (bytes : List UInt8) :
    leadingLines (lines + 1) bytes =
      leadingLines 1 bytes ++ leadingLines lines (bytes.drop (leadingLines 1 bytes).length) := by
  induction bytes with
  | nil => simp
  | cons byte rest ih =>
      by_cases feed : byte = 0x0a
      · simp [feed, leadingLines_feed]
      · simp [leadingLines_other feed, ih]

theorem count_leadingLines_le (lines : Nat) (bytes : List UInt8) :
    (leadingLines lines bytes).count 0x0a ≤ lines := by
  induction bytes generalizing lines with
  | nil => simp
  | cons byte rest ih =>
      cases lines with
      | zero => simp
      | succ lines =>
          by_cases feed : byte = 0x0a
          · rw [feed, leadingLines_feed, List.count_cons_self]
            exact Nat.succ_le_succ (ih lines)
          · rw [leadingLines_other feed, List.count_cons_of_ne feed]
            exact ih (lines + 1)

theorem count_leadingLines {lines : Nat} {bytes : List UInt8} (enough : lines ≤ bytes.count 0x0a) :
    (leadingLines lines bytes).count 0x0a = lines := by
  induction bytes generalizing lines with
  | nil => simp [Nat.le_zero.mp enough]
  | cons byte rest ih =>
      cases lines with
      | zero => simp
      | succ lines =>
          by_cases feed : byte = 0x0a
          · rw [feed, List.count_cons_self] at enough
            rw [feed, leadingLines_feed, List.count_cons_self, ih (Nat.le_of_succ_le_succ enough)]
          · rw [List.count_cons_of_ne feed] at enough
            rw [leadingLines_other feed, List.count_cons_of_ne feed, ih enough]

theorem getLast?_leadingLines {lines : Nat} {bytes : List UInt8}
    (enough : lines + 1 ≤ bytes.count 0x0a) :
    (leadingLines (lines + 1) bytes).getLast? = some 0x0a := by
  induction bytes generalizing lines with
  | nil => cases enough
  | cons byte rest ih =>
      by_cases feed : byte = 0x0a
      · rw [feed, List.count_cons_self] at enough
        rw [feed, leadingLines_feed, List.getLast?_cons]
        cases lines with
        | zero => simp
        | succ lines => rw [ih (Nat.le_of_succ_le_succ enough), Option.getD_some]
      · rw [List.count_cons_of_ne feed] at enough
        rw [leadingLines_other feed, List.getLast?_cons, ih enough, Option.getD_some]

/-- With the first line goes one line feed. -/
theorem count_drop_leadingLine {bytes : List UInt8} (broken : 0x0a ∈ bytes) :
    (bytes.drop (leadingLines 1 bytes).length).count 0x0a + 1 = bytes.count 0x0a := by
  have split : leadingLines 1 bytes ++ bytes.drop (leadingLines 1 bytes).length = bytes :=
    List.prefix_iff_eq_append.mp (leadingLines_leads 1 bytes)
  have counted := congrArg (List.count 0x0a) split
  rw [List.count_append, count_leadingLines (List.count_pos_iff.mpr broken)] at counted
  omega

theorem endsInLineFeed_iff {bytes : ByteArray} :
    endsInLineFeed bytes = true ↔ bytes.data.toList.getLast? = some 0x0a := by
  rw [endsInLineFeed, ← Array.getLast?_toList, beq_iff_eq]

theorem eq_of_toList_eq {first second : ByteArray} (same : first.data.toList = second.data.toList) :
    first = second :=
  ByteArray.ext (Array.toList_inj.mp same)

/-- The bytes of `part` are those of `content` up to its line feed number `lines`, that one
included, or all where there are fewer. -/
structure UpToLineFeed (lines : Nat) (content part : ByteArray) : Prop where
  leads : part.data.toList <+: content.data.toList
  enough : lines ≤ content.data.toList.count 0x0a →
    part.data.toList.count 0x0a = lines ∧ endsInLineFeed part = true
  few : content.data.toList.count 0x0a < lines → part = content

theorem upToLineFeed_of_leadingLines {lines : Nat} (positive : 0 < lines) {content part : ByteArray}
    (leading : part.data.toList = leadingLines lines content.data.toList) :
    UpToLineFeed lines content part where
  leads := leading ▸ leadingLines_leads lines _
  enough enough := by
    refine ⟨leading ▸ count_leadingLines enough, ?_⟩
    obtain ⟨lines, rfl⟩ := Nat.exists_eq_add_one_of_ne_zero (Nat.ne_of_gt positive)
    rw [endsInLineFeed_iff, leading, getLast?_leadingLines enough]
  few few := eq_of_toList_eq (leading.trans (leadingLines_of_count_lt few))

theorem eq_of_prefix_of_ends {part more : List UInt8} (begins : part <+: more)
    (same : part.count 0x0a = more.count 0x0a) (ends : more.getLast? = some 0x0a) : part = more := by
  obtain ⟨rest, rfl⟩ := begins
  rw [List.count_append] at same
  have unbroken : 0x0a ∉ rest := List.count_eq_zero.mp (by omega)
  rw [List.getLast?_append] at ends
  cases last : rest.getLast? with
  | none => rw [List.getLast?_eq_none_iff.mp last, List.append_nil]
  | some byte =>
      rw [last] at ends
      cases ends
      exact absurd (List.mem_of_getLast? last) unbroken

/-- There is only one such part. -/
theorem UpToLineFeed.unique {lines : Nat} {content part part' : ByteArray}
    (first : UpToLineFeed lines content part) (second : UpToLineFeed lines content part') :
    part = part' := by
  rcases Nat.lt_or_ge (content.data.toList.count 0x0a) lines with few | enough
  · rw [first.few few, second.few few]
  · obtain ⟨count, ends⟩ := first.enough enough
    obtain ⟨count', ends'⟩ := second.enough enough
    rw [endsInLineFeed_iff] at ends ends'
    apply eq_of_toList_eq
    rcases List.prefix_or_prefix_of_prefix first.leads second.leads with shorter | longer
    · exact eq_of_prefix_of_ends shorter (count.trans count'.symm) ends'
    · exact (eq_of_prefix_of_ends longer (count'.trans count.symm) ends).symm

section
variable (content : ByteArray)

theorem toList_extract (start stop : Nat) :
    (content.extract start stop).data.toList = (content.data.toList.drop start).take (stop - start) := by
  rw [ByteArray.data_extract, Array.toList_extract, List.extract_eq_take_drop]

theorem drop_of_size_le {offset : Nat} (outside : content.size ≤ offset) :
    content.data.toList.drop offset = [] :=
  List.drop_eq_nil_of_le (by rwa [Array.length_toList])

theorem lineEnd_eq {offset : Nat} (within : offset ≤ content.size) :
    lineEnd content offset =
      offset + (leadingLines 1 (content.data.toList.drop offset)).length := by
  have ahead {offset : Nat} (inside : offset < content.size) :
      content.data.toList.drop offset = content[offset] :: content.data.toList.drop (offset + 1) :=
    List.drop_eq_getElem_cons (by rwa [Array.length_toList])
  fun_induction lineEnd content offset with
  | case1 offset inside feed =>
      rw [ahead inside, feed, leadingLines_feed, leadingLines_zero, List.length_singleton]
  | case2 offset inside other ih =>
      rw [ih inside, ahead inside, leadingLines_other other, List.length_cons, Nat.zero_add]
      omega
  | case3 offset outside =>
      rw [drop_of_size_le content (Nat.not_lt.mp outside), leadingLines_nil]
      exact Nat.le_antisymm (Nat.not_lt.mp outside) within

theorem lineEnd_of_size_le {offset : Nat} (outside : content.size ≤ offset) :
    lineEnd content offset = content.size := by
  rw [lineEnd, dif_neg (Nat.not_lt.mpr outside)]

/-- What is cut out from `offset` to the end of the line is the first line there. -/
theorem toList_lineAt (offset : Nat) :
    (lineAt content offset).data.toList = leadingLines 1 (content.data.toList.drop offset) := by
  rw [lineAt, toList_extract]
  rcases Nat.le_total offset content.size with within | outside
  · rw [lineEnd_eq content within, Nat.add_sub_cancel_left]
    exact (List.prefix_iff_eq_take.mp (leadingLines_leads 1 _)).symm
  · rw [drop_of_size_le content outside, List.take_nil, leadingLines_nil]

theorem endsInLineFeed_lineAt (offset : Nat) :
    endsInLineFeed (lineAt content offset) = true ↔ 0x0a ∈ content.data.toList.drop offset := by
  rw [endsInLineFeed_iff, toList_lineAt]
  constructor
  · intro last
    exact (leadingLines_leads 1 _).subset (List.mem_of_getLast? last)
  · intro broken
    exact getLast?_leadingLines (List.count_pos_iff.mpr broken)

end

end SiteIndex.Text
