import SiteIndex.Proofs.Text.ByteOrder
import SiteIndex.Template.Widget

/-!
What the names of widgets resolve to. The table ascends in the bytes of its names, so that halving
it never drops the half in which a name stands, and a name that stands nowhere is not found: what
resolves are the rows of the table, and nothing that is only like them.
-/

namespace SiteIndex.Template.Widget

open SiteIndex.Text

/-- Each row stands before the later ones in the order of the bytes of their names. -/
def Ascends (rows : Array (String × Widget)) : Prop :=
  rows.toList.Pairwise fun row later => row.1.toUTF8.toList < later.1.toUTF8.toList

theorem registry_ascends : Ascends registry := by
  have ordered : registry.toList.Pairwise fun row later => row.1 < later.1 := by
    decide +kernel
  exact ordered.imp toUTF8_lt_iff.mpr

section
variable {rows : Array (String × Widget)} (ascends : Ascends rows) {first second : Nat}
  {row later : String × Widget} (here : rows[first]? = some row) (there : rows[second]? = some later)
include ascends here there

theorem Ascends.name_lt (before : first < second) : row.1 < later.1 := by
  obtain ⟨inside, rfl⟩ := Array.getElem?_eq_some_iff.mp here
  obtain ⟨inside', rfl⟩ := Array.getElem?_eq_some_iff.mp there
  exact toUTF8_lt_iff.mp (List.pairwise_iff_getElem.mp ascends first second inside inside' before)

theorem Ascends.index_lt (below : row.1 < later.1) : first < second := by
  rcases Nat.lt_trichotomy first second with before | same | behind
  · exact before
  · subst same
    cases here.symm.trans there
    exact absurd below (String.lt_irrefl _)
  · exact absurd (ascends.name_lt there here behind) (String.lt_asymm below)

/-- A name stands in one row only. -/
theorem Ascends.index_unique (same : row.1 = later.1) : first = second := by
  rcases Nat.lt_trichotomy first second with before | equal | behind
  · exact absurd (same ▸ ascends.name_lt here there before) (String.lt_irrefl _)
  · exact equal
  · exact absurd (same ▸ ascends.name_lt there here behind) (String.lt_irrefl _)

end

/-- Halving finds what stands in the range, and nothing else. -/
theorem searchRows_eq_some_iff {rows : Array (String × Widget)} (ascends : Ascends rows)
    {name : String} {widget : Widget} {low high : Nat} (within : high ≤ rows.size) :
    searchRows rows name low high = some widget ↔
      ∃ index, low ≤ index ∧ index < high ∧ rows[index]? = some (name, widget) := by
  fun_induction searchRows rows name low high with
  | case1 low high left middle past =>
      have inside : middle < rows.size := by omega
      simp [inside] at past
  | case2 low high left middle other found =>
      constructor
      · rintro ⟨⟩
        exact ⟨middle, by omega, by omega, found⟩
      · rintro ⟨index, -, -, stands⟩
        cases ascends.index_unique found stands rfl
        cases found.symm.trans stands
        rfl
  | case3 low high left middle symbol other found distinct below ih =>
      rw [ih within]
      refine exists_congr fun index => ?_
      constructor
      · rintro ⟨behind, stands⟩
        exact ⟨by omega, stands⟩
      · rintro ⟨-, before, stands⟩
        exact ⟨ascends.index_lt found stands below, before, stands⟩
  | case4 low high left middle symbol other found distinct unbelow ih =>
      have above : name < symbol :=
        Decidable.byContradiction fun level =>
          distinct (String.le_antisymm (String.not_lt.mp level) (String.not_lt.mp unbelow))
      rw [ih (by omega)]
      refine exists_congr fun index => ?_
      constructor
      · rintro ⟨behind, before, stands⟩
        exact ⟨behind, by omega, stands⟩
      · rintro ⟨behind, -, stands⟩
        exact ⟨behind, ascends.index_lt stands found above, stands⟩
  | case5 low high empty =>
      constructor
      · exact nofun
      · rintro ⟨index, behind, before, -⟩
        omega

theorem ofName?_eq_some_iff {name : String} {widget : Widget} :
    ofName? name = some widget ↔ (name, widget) ∈ registry := by
  rw [ofName?, searchRows_eq_some_iff registry_ascends (Nat.le_refl _), Array.mem_iff_getElem?]
  refine exists_congr fun index => ?_
  constructor
  · rintro ⟨-, -, stands⟩
    exact stands
  · intro stands
    exact ⟨Nat.zero_le _, (Array.getElem?_eq_some_iff.mp stands).1, stands⟩

/-- Going through the rows one by one finds the same. -/
theorem ofName?_eq_find? (name : String) :
    ofName? name = (registry.find? fun row => row.1 == name).map Prod.snd := by
  cases finds : registry.find? fun row => row.1 == name with
  | some row =>
      have named : row.1 = name := by simpa using Array.find?_some finds
      exact ofName?_eq_some_iff.mpr (named ▸ Array.mem_of_find?_eq_some finds)
  | none =>
      refine Option.eq_none_iff_forall_ne_some.mpr fun widget resolves => ?_
      have absent := Array.find?_eq_none.mp finds _ (ofName?_eq_some_iff.mp resolves)
      exact absent (beq_self_eq_true name)

/-- One of the names begins the other, or they differ in letter case at the most. -/
def Akin (name other : String) : Prop :=
  name.toList <+: other.toList ∨ other.toList <+: name.toList ∨
    name.toList.map Char.toLower = other.toList.map Char.toLower

instance (name other : String) : Decidable (Akin name other) :=
  inferInstanceAs (Decidable (_ ∨ _ ∨ _))

/-- The names in the table that begin others in it. -/
def nested : List (String × String) :=
  [("files", "filesize"), ("news", "newsname")]

theorem nested_of_akin : ∀ row ∈ registry, ∀ other ∈ registry, Akin row.1 other.1 →
    row.1 = other.1 ∨ (row.1, other.1) ∈ nested ∨ (other.1, row.1) ∈ nested := by
  decide +kernel

/-- A name resolves to a widget if and only if that is a row of the table; halving the table and
going through it find the same. What is akin to a name in the table without being that name does
not resolve, `files` beside `filesize` and `news` beside `newsname` apart. -/
theorem names_resolve_exactly :
    Ascends registry ∧
    (∀ name widget, ofName? name = some widget ↔ (name, widget) ∈ registry) ∧
    (∀ name, ofName? name = (registry.find? fun row => row.1 == name).map Prod.snd) ∧
    ∀ row ∈ registry, ∀ name, name ≠ row.1 → Akin row.1 name →
      ofName? name = none ∨ (row.1, name) ∈ nested ∨ (name, row.1) ∈ nested := by
  refine ⟨registry_ascends, fun _ _ => ofName?_eq_some_iff, ofName?_eq_find?, ?_⟩
  intro row listed name other akin
  cases resolves : ofName? name with
  | none => exact .inl rfl
  | some widget =>
      have listed' := ofName?_eq_some_iff.mp resolves
      exact .inr ((nested_of_akin row listed _ listed' akin).resolve_left other.symm)

theorem names_resolve_exactly_newsname :
    ("newsname", newsName) ∈ registry ∧ ofName? "newsname" = some newsName ∧
      ofName? "newsnam" = none ∧ ofName? "newsnames" = none ∧ ofName? "NewsName" = none := by
  obtain ⟨-, exact, -, akin⟩ := names_resolve_exactly
  have listed : ("newsname", newsName) ∈ registry := by decide +kernel
  have unresolved (name : String) (other : name ≠ "newsname") (like : Akin "newsname" name)
      (apart : ¬ (("newsname", name) ∈ nested ∨ (name, "newsname") ∈ nested)) :
      ofName? name = none :=
    (akin _ listed name other like).resolve_right apart
  refine ⟨listed, (exact _ _).mpr listed, ?_, ?_, ?_⟩
  · exact unresolved _ (by decide) (by decide +kernel) (by decide)
  · exact unresolved _ (by decide) (by decide +kernel) (by decide)
  · exact unresolved _ (by decide) (by decide +kernel) (by decide)

end SiteIndex.Template.Widget
