import SiteIndex.Proofs.Listing.Entering
import SiteIndex.Proofs.Settings.Names

/-!
How sidecars are recognised. The description suffix is looked for from the left, and behind each
occurrence the search goes on where that one ends, so an occurrence that overlaps an earlier one is passed
over. This does no harm as long as what then follows the earlier one begins with a dot; a suffix of which
that cannot be said leaves some sidecars unrecognised.
-/

namespace SiteIndex.Sidecar

open SiteIndex.Listing

/-- What may follow the suffix in the name of a sidecar. -/
def Closes (rest : List Char) : Prop :=
  rest = [] ∨ rest.head? = some '.'

/-- The suffix stands at the end of the name or before a dot. -/
def Bears (suffix name : String) : Prop :=
  ∃ stem rest : String, name = stem ++ suffix ++ rest ∧ Closes rest.toList

/-- Wherever a second occurrence of the suffix begins inside of a first one, a dot follows the first. -/
def OverlapsAtDots (suffix : List Char) : Prop :=
  ∀ shift < suffix.length, 0 < shift → suffix.drop shift <+: suffix →
    (suffix.drop (suffix.length - shift)).head? = some '.'

instance (suffix : List Char) : Decidable (OverlapsAtDots suffix) :=
  inferInstanceAs (Decidable (∀ shift < suffix.length, _))

section
variable {suffix : List Char}

/-- What is found follows an occurrence, and one that does not begin before the search does. -/
theorem split_of_mem_restsAfter (nonempty : suffix ≠ []) {inside : Nat} {text rest : List Char}
    (found : rest ∈ restsAfter suffix inside text) :
    ∃ stem, text = stem ++ suffix ++ rest ∧ inside ≤ stem.length := by
  induction text generalizing inside with
  | nil =>
      unfold restsAfter at found
      rw [if_neg (by simpa using nonempty)] at found
      cases found
  | cons c text ih =>
      cases inside with
      | succ inside =>
          obtain ⟨stem, rfl, behind⟩ := ih found
          exact ⟨c :: stem, rfl, Nat.succ_le_succ behind⟩
      | zero =>
          unfold restsAfter at found
          split at found
          · next here =>
            rcases List.mem_cons.mp found with rfl | further
            · refine ⟨[], ?_, Nat.zero_le _⟩
              rw [List.nil_append]
              exact List.prefix_iff_eq_append.mp (List.isPrefixOf_iff_prefix.mp here) |>.symm
            · obtain ⟨stem, rfl, _⟩ := ih further
              exact ⟨c :: stem, rfl, Nat.zero_le _⟩
          · obtain ⟨stem, rfl, _⟩ := ih found
            exact ⟨c :: stem, rfl, Nat.zero_le _⟩

/-- An occurrence is found unless the search begins behind its first character, or finds an earlier one
that it overlaps. -/
theorem mem_restsAfter_or_overlapped (nonempty : suffix ≠ []) (stem rest : List Char) (inside : Nat) :
    rest ∈ restsAfter suffix inside (stem ++ suffix ++ rest) ∨ stem.length < inside ∨
      ∃ lead trail, lead ++ suffix = suffix ++ trail ∧ lead ≠ [] ∧ lead.length < suffix.length ∧
        trail ++ rest ∈ restsAfter suffix inside (stem ++ suffix ++ rest) := by
  induction stem generalizing inside with
  | nil =>
      cases inside with
      | succ inside => exact .inr (.inl (Nat.succ_pos inside))
      | zero =>
          obtain ⟨c, more, rfl⟩ := List.exists_cons_of_ne_nil nonempty
          refine .inl ?_
          have here : (c :: more).isPrefixOf (c :: (more ++ rest)) = true :=
            List.isPrefixOf_iff_prefix.mpr (List.prefix_append (c :: more) rest)
          simp [restsAfter, here]
  | cons c stem ih =>
      cases inside with
      | succ inside =>
          rcases ih inside with found | behind | overlapped
          · exact .inl found
          · exact .inr (.inl (Nat.succ_lt_succ behind))
          · exact .inr (.inr overlapped)
      | zero =>
          have text : c :: stem ++ suffix ++ rest = c :: (stem ++ suffix ++ rest) := rfl
          rw [text]
          unfold restsAfter
          split
          · next here =>
            rcases ih (suffix.length - 1) with found | behind | ⟨lead, trail, same, begun, short, found⟩
            · exact .inl (List.mem_cons_of_mem _ found)
            · -- the occurrence at `c` is the earlier one
              have short : (c :: stem).length < suffix.length := by
                rw [List.length_cons]
                omega
              obtain ⟨trail, same⟩ : suffix <+: c :: stem ++ suffix :=
                List.prefix_of_prefix_length_le (List.isPrefixOf_iff_prefix.mp here)
                  (List.prefix_append (c :: stem ++ suffix) rest) (by simp; omega)
              refine .inr (.inr ⟨c :: stem, trail, same.symm, List.cons_ne_nil c stem, short, ?_⟩)
              rw [← text, ← same, List.append_assoc, List.drop_left]
              exact List.mem_cons_self
            · exact .inr (.inr ⟨lead, trail, same, begun, short, List.mem_cons_of_mem _ found⟩)
          · exact (ih 0).imp_right fun other => .inr (other.resolve_left (Nat.not_lt_zero _))

/-- What follows the earlier of two occurrences that overlap. -/
theorem OverlapsAtDots.head? (atDots : OverlapsAtDots suffix) {lead trail : List Char}
    (same : lead ++ suffix = suffix ++ trail) (begun : lead ≠ [])
    (short : lead.length < suffix.length) : trail.head? = some '.' := by
  have whole : suffix = suffix.drop lead.length ++ trail := by
    have dropped := congrArg (List.drop lead.length) same
    rwa [List.drop_left, List.drop_append_of_le_length (Nat.le_of_lt short)] at dropped
  have length : (suffix.drop lead.length).length = suffix.length - lead.length := List.length_drop
  have last : suffix.drop (suffix.length - lead.length) = trail := by
    rw [← length]
    conv => lhs; arg 2; rw [whole]
    exact List.drop_left
  rw [← last]
  exact atDots lead.length short (List.length_pos_iff.mpr begun) ⟨trail, whole.symm⟩

/-- Where two occurrences overlap and nothing else follows, only the first is found. -/
theorem rest_of_overlapping (nonempty : suffix ≠ []) {trail rest : List Char}
    (short : trail.length < suffix.length) (found : rest ∈ restsAfter suffix 0 (suffix ++ trail)) :
    rest = trail := by
  obtain ⟨c, more, rfl⟩ := List.exists_cons_of_ne_nil nonempty
  have here : (c :: more).isPrefixOf (c :: (more ++ trail)) = true :=
    List.isPrefixOf_iff_prefix.mpr (List.prefix_append (c :: more) trail)
  rw [List.cons_append, restsAfter, if_pos here] at found
  rcases List.mem_cons.mp found with rfl | further
  · simp
  · obtain ⟨stem, text, behind⟩ := split_of_mem_restsAfter nonempty further
    have lengths := congrArg List.length text
    simp only [List.length_append, List.length_cons, Nat.add_sub_cancel] at lengths behind short
    omega

end

theorem isDescription_iff_rest (conventions : Conventions) (name : String) :
    isDescription conventions name = true ↔
      ∃ rest ∈ restsAfter conventions.descriptionSuffix.toList 0 name.toList, Closes rest := by
  simp [isDescription, Closes]

section
variable {conventions : Conventions} (nonempty : conventions.descriptionSuffix.toList ≠ [])
include nonempty

/-- Whatever is taken for a sidecar is one. -/
theorem bears_of_isDescription {name : String} (taken : isDescription conventions name = true) :
    Bears conventions.descriptionSuffix name := by
  obtain ⟨rest, found, closes⟩ := (isDescription_iff_rest conventions name).mp taken
  obtain ⟨stem, whole, _⟩ := split_of_mem_restsAfter nonempty found
  refine ⟨String.ofList stem, String.ofList rest, ?_, by rwa [String.toList_ofList]⟩
  rw [← String.toList_inj]
  simpa using whole

theorem isDescription_of_bears
    (atDots : OverlapsAtDots conventions.descriptionSuffix.toList) {name : String}
    (bears : Bears conventions.descriptionSuffix name) : isDescription conventions name = true := by
  obtain ⟨stem, rest, rfl, closes⟩ := bears
  rw [isDescription_iff_rest, String.toList_append, String.toList_append]
  rcases mem_restsAfter_or_overlapped nonempty stem.toList rest.toList 0 with
    found | behind | ⟨lead, trail, same, begun, short, found⟩
  · exact ⟨_, found, closes⟩
  · exact absurd behind (Nat.not_lt_zero _)
  · have dot := atDots.head? same begun short
    refine ⟨_, found, .inr ?_⟩
    rw [List.head?_append, dot]
    rfl

/-- Where a suffix overlaps itself, it describes an entry that is named for what lies before the overlap. -/
theorem overlapsAtDots_of_recognised
    (recognised : ∀ name, Bears conventions.descriptionSuffix name →
      isDescription conventions name = true) :
    OverlapsAtDots conventions.descriptionSuffix.toList := by
  intro shift short positive again
  generalize letters : conventions.descriptionSuffix.toList = suffix at *
  have length : (suffix.drop shift).length = suffix.length - shift := List.length_drop
  have whole : suffix.drop shift ++ suffix.drop (suffix.length - shift) = suffix := by
    rw [← length]
    exact List.prefix_iff_eq_append.mp again
  have overlap : suffix.take shift ++ suffix =
      suffix ++ suffix.drop (suffix.length - shift) := by
    conv => lhs; arg 2; rw [← whole]
    rw [← List.append_assoc, List.take_append_drop]
  have bears : Bears conventions.descriptionSuffix
      (String.ofList (suffix.take shift) ++ conventions.descriptionSuffix) :=
    ⟨String.ofList (suffix.take shift), "", by simp, .inl rfl⟩
  obtain ⟨rest, found, closes⟩ := (isDescription_iff_rest _ _).mp (recognised _ bears)
  rw [String.toList_append, String.toList_ofList, letters, overlap] at found
  have left : (suffix.drop (suffix.length - shift)).length = shift := by
    rw [List.length_drop]
    omega
  obtain rfl := rest_of_overlapping nonempty (left.symm ▸ short) found
  refine closes.resolve_left fun none => ?_
  rw [none] at left
  exact absurd left (Nat.ne_of_lt positive)

end

/-- What a snapshot lists has been let in by its name. -/
theorem include_of_visit {arena later : Arena} {files : FileSystem} {settings : Settings}
    {parent : Option Nat} {path : String} {id : Nat} {snapshot : Snapshot} {entry : Entry}
    (visited : arena.visit files settings parent path = .ok (later, id))
    (found : later.get? id = some snapshot) (listed : entry ∈ snapshot.entries) :
    Inclusion.classify files settings path entry.name = .include := by
  unfold Arena.visit Arena.enter at visited
  split at visited
  · cases visited
  · split at visited
    · cases visited
    · cases visited
      rw [Arena.get?_push] at found
      cases found
      obtain ⟨name, accepted, made⟩ := List.mem_filterMap.mp (Snapshot.mem_entries_foldl_insert listed)
      rw [(name_of_entryAt? made).1]
      exact eq_of_beq (List.mem_filter.mp accepted).2

/-- Under valid settings a name that is taken for a sidecar bears the suffix at its end or before a dot, and
every name that does is taken for one if and only if the suffix overlaps itself at dots alone. Then the
description and the icon of an entry are never listed, whatever its name. -/
theorem recognised_iff_overlapsAtDots {settings : Settings} (valid : settings.defect? = none) :
    (∀ name, isDescription settings.conventions name = true →
      Bears settings.conventions.descriptionSuffix name) ∧
    ((∀ name, isDescription settings.conventions name = true ↔
        Bears settings.conventions.descriptionSuffix name) ↔
      OverlapsAtDots settings.conventions.descriptionSuffix.toList) ∧
    (OverlapsAtDots settings.conventions.descriptionSuffix.toList → ∀ name sidecar,
      sidecar = name ++ settings.conventions.descriptionSuffix ∨
          sidecar = iconName settings.conventions name →
        (∀ files directory, Inclusion.classify files settings directory sidecar = .exclude) ∧
        ∀ (arena later : Arena) files parent path id snapshot,
          arena.visit files settings parent path = .ok (later, id) →
          later.get? id = some snapshot → ∀ entry ∈ snapshot.entries, entry.name ≠ sidecar) := by
  have nonempty : settings.conventions.descriptionSuffix.toList ≠ [] := fun none => by
    have dotted := Settings.dotted (Settings.isSuffix_description valid)
    rw [none] at dotted
    cases dotted
  refine ⟨fun name => bears_of_isDescription nonempty,
    ⟨fun recognised => overlapsAtDots_of_recognised nonempty fun name => (recognised name).mpr,
      fun atDots name => ⟨bears_of_isDescription nonempty, isDescription_of_bears nonempty atDots⟩⟩,
    fun atDots name sidecar kind => ?_⟩
  have bears : Bears settings.conventions.descriptionSuffix sidecar := by
    rcases kind with rfl | rfl
    · exact ⟨name, "", by simp, .inl rfl⟩
    · exact ⟨name, settings.conventions.iconSuffix, rfl, .inr (Settings.dotted (Settings.isSuffix_icon valid))⟩
  have excluded (files : FileSystem) (directory : String) :
      Inclusion.classify files settings directory sidecar = .exclude :=
    if_pos (isDescription_of_bears nonempty atDots bears)
  refine ⟨excluded, fun arena later files parent path id snapshot visited found entry listed same => ?_⟩
  have included := include_of_visit visited found listed
  rw [same, excluded] at included
  cases included

/-- With the stock suffix all sidecars are recognised. -/
theorem recognised_iff_overlapsAtDots_stock :
    Settings.stock.defect? = none ∧
      (∀ name, isDescription .stock name = true ↔ Bears ".d" name) ∧
      ∀ files directory, Inclusion.classify files .stock directory "photo.jpg.d.jpeg" = .exclude := by
  have valid : Settings.stock.defect? = none := by decide
  have atDots : OverlapsAtDots Settings.stock.conventions.descriptionSuffix.toList := by decide
  obtain ⟨_, exactly, unlisted⟩ := recognised_iff_overlapsAtDots valid
  exact ⟨valid, exactly.mpr atDots,
    (unlisted atDots "photo.jpg" "photo.jpg.d.jpeg" (.inr (by decide))).1⟩

/-- The suffix `.de.d` is valid, and with it the description of `photo.de` is not recognised. -/
theorem description_unrecognised :
    let conventions : Conventions := { Conventions.stock with descriptionSuffix := ".de.d" }
    let settings : Settings := ⟨.stock, .stock, conventions⟩
    settings.defect? = none ∧ Bears ".de.d" ("photo.de" ++ ".de.d") ∧
      isDescription conventions ("photo.de" ++ ".de.d") = false ∧
      Inclusion.classify .empty settings "" ("photo.de" ++ ".de.d") = .include := by
  intro conventions settings
  exact ⟨by decide, ⟨"photo.de", "", by decide, .inl rfl⟩, by decide, by decide⟩

end SiteIndex.Sidecar
