import SiteIndex.Listing.Entry

/-!
Letter case in bytes and in characters. In UTF-8 the bytes of capital ASCII letters stand for these and for
nothing else, so that folding the bytes of a text is encoding the text in small letters.
-/

namespace SiteIndex.Text

open SiteIndex.Listing

theorem toList_loop (bytes : ByteArray) (index : Nat) (taken : List UInt8) :
    ByteArray.toList.loop bytes index taken = taken.reverse ++ bytes.data.toList.drop index := by
  fun_induction ByteArray.toList.loop bytes index taken with
  | case1 index taken inside ih =>
      have within : index < bytes.data.toList.length := inside
      have read : bytes.get! index = bytes.data.toList[index] := by
        simp [ByteArray.get!, getElem!_pos, inside]
      rw [ih, List.drop_eq_getElem_cons within, read]
      simp
  | case2 index taken past =>
      simp [List.drop_eq_nil_of_le (Nat.le_of_not_lt past : bytes.data.toList.length ≤ index)]

theorem toList_eq_data (bytes : ByteArray) : bytes.toList = bytes.data.toList := by
  rw [ByteArray.toList, toList_loop]
  rfl

theorem toList_toUTF8 (text : String) :
    text.toUTF8.toList = text.toList.flatMap String.utf8EncodeChar := by
  have encoded : text.toUTF8 = (text.toList.flatMap String.utf8EncodeChar).toByteArray :=
    String.utf8Encode_toList.symm
  rw [toList_eq_data, encoded, List.data_toByteArray]

theorem toList_toUTF8_inj {first second : String} :
    first.toUTF8.toList = second.toUTF8.toList ↔ first = second := by
  refine ⟨fun same => ?_, fun same => same ▸ rfl⟩
  rw [toList_eq_data, toList_eq_data] at same
  exact String.toByteArray_inj.mp (ByteArray.ext (Array.toList_inj.mp same))

theorem toNat_foldCase (byte : UInt8) :
    (foldCase byte).toNat =
      if 0x41 ≤ byte.toNat ∧ byte.toNat ≤ 0x5a then byte.toNat + 0x20 else byte.toNat := by
  unfold foldCase
  simp only [UInt8.le_iff_toNat_le]
  change (if 0x41 ≤ byte.toNat ∧ byte.toNat ≤ 0x5a then byte + 0x20 else byte).toNat = _
  split
  · change (byte.toNat + 0x20) % 256 = _
    omega
  · rfl

theorem toNat_toLower (c : Char) :
    c.toLower.toNat = if 0x41 ≤ c.toNat ∧ c.toNat ≤ 0x5a then c.toNat + 0x20 else c.toNat := by
  unfold Char.toLower
  simp only [ge_iff_le, UInt32.le_iff_toNat_le]
  change (if h : 0x41 ≤ c.toNat ∧ c.toNat ≤ 0x5a then _ else c : Char).toNat = _
  split
  · change (c.val + 0x20).toNat = _
    rw [UInt32.toNat_add]
    change (c.toNat + 0x20) % 4294967296 = _
    omega
  · rfl

/-- No byte of a character that takes several is that of a letter. -/
theorem high_of_mem_utf8EncodeChar {c : Char} (beyond : 0x7f < c.toNat) :
    ∀ byte ∈ String.utf8EncodeChar c, 0x80 ≤ byte.toNat := by
  have several : ¬ c.val.toNat ≤ 0x7f := Nat.not_le.mpr beyond
  unfold String.utf8EncodeChar
  dsimp only
  rw [if_neg several]
  repeat' split
  all_goals
    simp only [List.forall_mem_cons, List.not_mem_nil, false_implies, implies_true, and_true,
      UInt8.toNat_ofNat']
    omega

theorem map_foldCase_utf8EncodeChar (c : Char) :
    (String.utf8EncodeChar c).map foldCase = String.utf8EncodeChar c.toLower := by
  have lower := toNat_toLower c
  rcases Nat.lt_or_ge 0x7f c.toNat with beyond | ascii
  · have kept : c.toLower = c := by rw [← Char.toNat_inj, lower, if_neg (by omega)]
    have unfolded : ∀ byte ∈ String.utf8EncodeChar c, foldCase byte = byte := by
      intro byte within
      have high := high_of_mem_utf8EncodeChar beyond byte within
      rw [← UInt8.toNat_inj, toNat_foldCase, if_neg (by omega)]
    rw [kept, List.map_congr_left unfolded, List.map_id']
  · have single {c : Char} (ascii : c.toNat ≤ 0x7f) :
        String.utf8EncodeChar c = [UInt8.ofNat c.toNat] := if_pos ascii
    have ascii' : c.toLower.toNat ≤ 0x7f := by
      rw [lower]
      split <;> omega
    rw [single ascii, single ascii', List.map_singleton, List.singleton_inj, ← UInt8.toNat_inj,
      toNat_foldCase, UInt8.toNat_ofNat', UInt8.toNat_ofNat', lower]
    split <;> split <;> omega

theorem foldedBytes_eq (name : String) : foldedBytes name = name.toLower.toUTF8.toList := by
  have letters : name.toLower.toList = name.toList.map Char.toLower := String.toList_map
  rw [foldedBytes, toList_toUTF8, toList_toUTF8, letters, List.map_flatMap, List.flatMap_map]
  simp only [map_foldCase_utf8EncodeChar]

/-- Names are the same to the order of listings when they are the same in small letters. -/
theorem foldedBytes_inj {first second : String} :
    foldedBytes first = foldedBytes second ↔ first.toLower = second.toLower := by
  rw [foldedBytes_eq, foldedBytes_eq, toList_toUTF8_inj]

end SiteIndex.Text
