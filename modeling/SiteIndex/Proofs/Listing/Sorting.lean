import SiteIndex.Proofs.Listing.Order
import SiteIndex.Proofs.Text.LetterCase

/-!
Listings as stable sorts. However entries come into a snapshot, directories and files are each listed as a
stable sort of those that have come: nothing is lost, names stand in order, and entries whose names differ
in letter case alone stand as they came.
-/

namespace SiteIndex.Listing

theorem compareBytes_eq_eq (first second : List UInt8) :
    compareBytes first second = .eq ↔ first = second := by
  fun_induction compareBytes first second with
  | case1 => simp
  | case2 => simp
  | case3 => simp
  | case4 a as b bs below =>
      have other : a ≠ b := fun same => UInt8.lt_irrefl _ (same ▸ below)
      simp [other]
  | case5 a as b bs _ above =>
      have other : a ≠ b := fun same => UInt8.lt_irrefl _ (same ▸ above)
      simp [other]
  | case6 a as b bs below above ih =>
      have same : a = b := UInt8.le_antisymm (UInt8.not_lt.mp above) (UInt8.not_lt.mp below)
      simp [same, ih]

/-- Names that differ in letter case alone are level, and no others. -/
theorem compareNames_eq_eq (first second : String) :
    compareNames first second = .eq ↔ first.toLower = second.toLower := by
  rw [compareNames, compareBytes_eq_eq, Text.foldedBytes_inj]

theorem compareNames_swap (first second : String) :
    compareNames first second = (compareNames second first).swap := by
  unfold compareNames
  generalize foldedBytes first = here
  generalize foldedBytes second = there
  cases turned : compareBytes there here with
  | lt => exact (compareBytes_eq_gt here there).mpr ((compareBytes_eq_lt there here).mp turned)
  | eq => exact (compareBytes_eq_eq here there).mpr ((compareBytes_eq_eq there here).mp turned).symm
  | gt => exact (compareBytes_eq_lt here there).mpr ((compareBytes_eq_gt there here).mp turned)

instance : Std.TransCmp compareNames where
  eq_swap := compareNames_swap _ _
  isLE_trans early late :=
    Ordering.isLE_iff_ne_gt.mpr
      (NotBehind.trans (Ordering.isLE_iff_ne_gt.mp early) (Ordering.isLE_iff_ne_gt.mp late))

/-- Whether the entry's name differs from this one in letter case at the most. -/
def Entry.isLevel (name : String) (entry : Entry) : Bool :=
  compareNames entry.name name == .eq

theorem Entry.isLevel_iff {name : String} {entry : Entry} :
    entry.isLevel name = true ↔ foldedBytes entry.name = foldedBytes name := by
  rw [isLevel, beq_iff_eq, compareNames, compareBytes_eq_eq]

/-- Whether the first entry does not come behind the second. -/
def Entry.precedes (first second : Entry) : Bool :=
  (compareNames first.name second.name).isLE

theorem Entry.precedes_iff {first second : Entry} :
    first.precedes second = true ↔ NotBehind first.name second.name :=
  Ordering.isLE_iff_ne_gt

/-- The entries that have come are listed in order, those that are level as they came. -/
structure SortsStably (came listed : List Entry) : Prop where
  perm : listed.Perm came
  ordered : (listed.map Entry.name).Pairwise NotBehind
  stable : ∀ name, listed.filter (·.isLevel name) = came.filter (·.isLevel name)

/-- An entry is put behind those that it is level with. -/
theorem filter_insertEntry {entries : List Entry}
    (ordered : (entries.map Entry.name).Pairwise NotBehind) (entry : Entry) (name : String) :
    (insertEntry entry entries).filter (·.isLevel name) =
      entries.filter (·.isLevel name) ++ [entry].filter (·.isLevel name) := by
  induction entries with
  | nil => rfl
  | cons other rest ih =>
      obtain ⟨first, others⟩ := List.pairwise_cons.mp ordered
      unfold insertEntry
      split
      · next before =>
        -- all that are there come behind the entry, and so none of them is level with it
        have below : foldedBytes entry.name < foldedBytes other.name :=
          (compareBytes_eq_lt _ _).mp before
        have apart (level : entry.isLevel name = true) :
            (other :: rest).filter (·.isLevel name) = [] := by
          refine List.filter_eq_nil_iff.mpr fun later within levelToo => ?_
          have further : foldedBytes other.name ≤ foldedBytes later.name := by
            rcases List.mem_cons.mp within with rfl | behind
            · exact List.le_refl _
            · exact (notBehind_iff _ _).mp (first later.name (List.mem_map_of_mem behind))
          rw [Entry.isLevel_iff.mp levelToo, ← Entry.isLevel_iff.mp level] at further
          exact List.not_lt.mpr further below
        rw [List.filter_cons]
        split
        · next level =>
          rw [apart level]
          simp [level]
        · next level => simp [level]
      · rw [List.filter_cons, List.filter_cons, ih others]
        split <;> rfl

theorem SortsStably.insert {came listed : List Entry} (sorts : SortsStably came listed)
    (entry : Entry) : SortsStably (came ++ [entry]) (insertEntry entry listed) where
  perm := calc
    (insertEntry entry listed).Perm (entry :: listed) := insertEntry_perm entry listed
    (entry :: listed).Perm (entry :: came) := sorts.perm.cons entry
    (entry :: came).Perm (came ++ [entry]) := (List.perm_append_singleton entry came).symm
  ordered := insertEntry_ordered sorts.ordered entry
  stable name := by
    rw [filter_insertEntry sorts.ordered, sorts.stable, List.filter_append]

theorem sortsStably_mergeSort (came : List Entry) :
    SortsStably came (came.mergeSort Entry.precedes) := by
  have transitive (first second third : Entry) (early : first.precedes second = true)
      (late : second.precedes third = true) : first.precedes third = true :=
    Entry.precedes_iff.mpr ((Entry.precedes_iff.mp early).trans (Entry.precedes_iff.mp late))
  have total (first second : Entry) :
      (first.precedes second || second.precedes first) = true := by
    rw [Entry.precedes, Entry.precedes, compareNames_swap second.name]
    cases compareNames first.name second.name <;> rfl
  have perm := List.mergeSort_perm came Entry.precedes
  refine ⟨perm, ?_, fun name => ?_⟩
  · rw [List.pairwise_map]
    exact (List.pairwise_mergeSort transitive total came).imp Entry.precedes_iff.mp
  · -- entries that are level are in order as they came, and what is in order is kept by the sort
    have level : (came.filter (·.isLevel name)).Pairwise fun first second =>
        first.precedes second = true := by
      refine List.pairwise_of_forall_mem_list fun first within second within' => ?_
      rw [Entry.precedes_iff, notBehind_iff, Entry.isLevel_iff.mp (List.mem_filter.mp within).2,
        Entry.isLevel_iff.mp (List.mem_filter.mp within').2]
      exact List.le_refl _
    have kept := (List.sublist_mergeSort transitive total level List.filter_sublist).filter
      (·.isLevel name)
    rw [List.filter_filter] at kept
    simp only [Bool.and_self] at kept
    exact (kept.eq_of_length (perm.filter _).length_eq.symm).symm

theorem Entry.isLevel_self (entry : Entry) : entry.isLevel entry.name = true :=
  Entry.isLevel_iff.mpr rfl

theorem notBehind_head {first : Entry} {rest : List Entry}
    (ordered : ((first :: rest).map Entry.name).Pairwise NotBehind) {entry : Entry}
    (within : entry ∈ first :: rest) : NotBehind first.name entry.name := by
  rcases List.mem_cons.mp within with rfl | further
  · exact (notBehind_iff _ _).mpr (List.le_refl _)
  · exact List.rel_of_pairwise_cons ordered (List.mem_map_of_mem further)

section
variable {listed other : List Entry}

theorem mem_iff_of_level
    (level : ∀ name, listed.filter (·.isLevel name) = other.filter (·.isLevel name))
    (entry : Entry) : entry ∈ listed ↔ entry ∈ other := by
  have here (entries : List Entry) :
      entry ∈ entries ↔ entry ∈ entries.filter (·.isLevel entry.name) := by
    rw [List.mem_filter, and_iff_left entry.isLevel_self]
  rw [here listed, level, ← here other]

/-- Lists in order with the same entries level with each name are the same. -/
theorem eq_of_level (ordered : (listed.map Entry.name).Pairwise NotBehind)
    (ordered' : (other.map Entry.name).Pairwise NotBehind)
    (level : ∀ name, listed.filter (·.isLevel name) = other.filter (·.isLevel name)) :
    listed = other := by
  have member := mem_iff_of_level level
  induction listed generalizing other with
  | nil =>
      cases other with
      | nil => rfl
      | cons first _ => exact absurd ((member first).mpr List.mem_cons_self) List.not_mem_nil
  | cons first rest ih =>
      cases other with
      | nil => exact absurd ((member first).mp List.mem_cons_self) List.not_mem_nil
      | cons first' rest' =>
          have same : foldedBytes first.name = foldedBytes first'.name := List.le_antisymm
            ((notBehind_iff _ _).mp (notBehind_head ordered ((member first').mpr List.mem_cons_self)))
            ((notBehind_iff _ _).mp (notBehind_head ordered' ((member first).mp List.mem_cons_self)))
          have heads := level first.name
          rw [List.filter_cons_of_pos first.isLevel_self,
            List.filter_cons_of_pos (Entry.isLevel_iff.mpr same.symm)] at heads
          obtain ⟨rfl, -⟩ := List.cons.inj heads
          have tails (name : String) :
              rest.filter (·.isLevel name) = rest'.filter (·.isLevel name) := by
            have whole := level name
            rw [List.filter_cons, List.filter_cons] at whole
            split at whole
            · exact (List.cons.inj whole).2
            · exact whole
          rw [ih ordered.of_cons ordered'.of_cons tails (mem_iff_of_level tails)]

/-- There is one stable sort. -/
theorem sortsStably_iff {came : List Entry} :
    SortsStably came listed ↔ listed = came.mergeSort Entry.precedes := by
  refine ⟨fun sorts => ?_, fun same => same ▸ sortsStably_mergeSort came⟩
  exact eq_of_level sorts.ordered (sortsStably_mergeSort came).ordered fun name =>
    (sorts.stable name).trans ((sortsStably_mergeSort came).stable name).symm

end

/-- The entries that have come are listed, directories apart from the others. -/
structure Snapshot.Lists (snapshot : Snapshot) (came : List Entry) : Prop where
  directories : SortsStably (came.filter Entry.isDirectory) snapshot.directories
  files : SortsStably (came.filter fun entry => !entry.isDirectory) snapshot.files

namespace Snapshot

variable {snapshot : Snapshot} {came : List Entry}

theorem lists_empty (parent : Option Nat) (entryName : Option String) (path : String) :
    (empty parent entryName path).Lists [] :=
  ⟨⟨.nil, .nil, fun _ => rfl⟩, ⟨.nil, .nil, fun _ => rfl⟩⟩

theorem Lists.insert (lists : snapshot.Lists came) (entry : Entry) :
    (snapshot.insert entry).Lists (came ++ [entry]) := by
  unfold Snapshot.insert
  split
  · next kind =>
    refine ⟨?_, ?_⟩
    · simpa [kind] using lists.directories.insert entry
    · simpa [kind] using lists.files
  · next kind =>
    refine ⟨?_, ?_⟩
    · simpa [kind] using lists.directories
    · simpa [kind] using lists.files.insert entry

theorem Lists.foldl_insert (lists : snapshot.Lists came) (further : List Entry) :
    (further.foldl Snapshot.insert snapshot).Lists (came ++ further) := by
  induction further generalizing snapshot came with
  | nil => simpa using lists
  | cons entry rest ih => simpa using ih (lists.insert entry)

theorem lists_foldl_insert (parent : Option Nat) (entryName : Option String) (path : String)
    (came : List Entry) :
    (came.foldl Snapshot.insert (empty parent entryName path)).Lists came :=
  (lists_empty parent entryName path).foldl_insert came

end Snapshot

end SiteIndex.Listing
