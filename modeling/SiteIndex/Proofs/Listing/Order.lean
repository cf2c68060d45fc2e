import SiteIndex.Proofs.Listing.Entering

/-!
The order of a listing. Names are compared as the lists of their bytes are, capitals taken as small
letters, and an entry that is put in keeps a listing in that order.
-/

namespace SiteIndex.Listing

open SiteIndex.FileSystem

theorem compareBytes_eq_lt (first second : List UInt8) :
    compareBytes first second = .lt ↔ first < second := by
  fun_induction compareBytes first second with
  | case1 => simp
  | case2 => simp
  | case3 => simp
  | case4 a as b bs below => simp [List.cons_lt_cons_iff, below]
  | case5 a as b bs below above =>
      have other : a ≠ b := fun same => below (same ▸ above)
      simp [List.cons_lt_cons_iff, below, other]
  | case6 a as b bs below above ih =>
      have same : a = b := UInt8.le_antisymm (UInt8.not_lt.mp above) (UInt8.not_lt.mp below)
      simp [same, ih]

theorem compareBytes_eq_gt (first second : List UInt8) :
    compareBytes first second = .gt ↔ second < first := by
  fun_induction compareBytes first second with
  | case1 => simp
  | case2 => simp
  | case3 => simp
  | case4 a as b bs below =>
      have other : b ≠ a := fun same => UInt8.lt_irrefl _ (same ▸ below)
      simp [List.cons_lt_cons_iff, other, UInt8.not_lt.mpr (UInt8.le_of_lt below)]
  | case5 a as b bs below above => simp [List.cons_lt_cons_iff, above]
  | case6 a as b bs below above ih =>
      have same : a = b := UInt8.le_antisymm (UInt8.not_lt.mp above) (UInt8.not_lt.mp below)
      simp [same, ih]

/-- A name that does not come behind another. -/
def NotBehind (first second : String) : Prop :=
  compareNames first second ≠ .gt

theorem notBehind_iff (first second : String) :
    NotBehind first second ↔ foldedBytes first ≤ foldedBytes second := by
  rw [NotBehind, compareNames, ne_eq, compareBytes_eq_gt, List.not_lt]

theorem NotBehind.trans {first second third : String} (early : NotBehind first second)
    (late : NotBehind second third) : NotBehind first third := by
  rw [notBehind_iff] at *
  exact List.le_trans early late

theorem insertEntry_ordered {entries : List Entry}
    (ordered : (entries.map Entry.name).Pairwise NotBehind) (entry : Entry) :
    ((insertEntry entry entries).map Entry.name).Pairwise NotBehind := by
  induction entries with
  | nil => simp [insertEntry]
  | cons other rest ih =>
      obtain ⟨first, others⟩ := List.pairwise_cons.mp ordered
      unfold insertEntry
      split
      · next before =>
        have ahead : NotBehind entry.name other.name := by simp [NotBehind, before]
        refine List.pairwise_cons.mpr ⟨fun name within => ?_, ordered⟩
        rcases List.mem_cons.mp within with rfl | further
        · exact ahead
        · exact ahead.trans (first name further)
      · next behind =>
        refine List.pairwise_cons.mpr ⟨fun name within => ?_, ih others⟩
        have within' := ((insertEntry_perm entry rest).map Entry.name).mem_iff.mp within
        rcases List.mem_cons.mp within' with rfl | further
        · rw [notBehind_iff]
          exact List.not_lt.mp fun before =>
            behind ((compareBytes_eq_lt _ _).mpr before)
        · exact first name further

end SiteIndex.Listing
