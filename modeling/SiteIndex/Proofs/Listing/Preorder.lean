import Mathlib.Data.List.Forall2

/-!
Directories in pre-order: each before what is below it, and what is below one name before what is below
the next. `lists` tells which names of directories a directory lists; where it lists each once, every
directory that can be reached comes once.
-/

namespace SiteIndex.Listing

/-- The directories with these names below the one with this trail, and all below them. -/
inductive PreorderBelow (lists : List String → List String → Prop) :
    (trail names : List String) → (visited : List (List String)) → Prop
  | none (trail : List String) : PreorderBelow lists trail [] []
  | next {trail : List String} {name : String} {rest names : List String}
      {inner later : List (List String)} (listed : lists (trail ++ [name]) names)
      (inside : PreorderBelow lists (trail ++ [name]) names inner)
      (beside : PreorderBelow lists trail rest later) :
      PreorderBelow lists trail (name :: rest) ((trail ++ [name]) :: (inner ++ later))

/-- The root and all directories below it. -/
def Preorder (lists : List String → List String → Prop) (visited : List (List String)) : Prop :=
  ∃ names inner, lists [] names ∧ PreorderBelow lists [] names inner ∧ visited = [] :: inner

/-- The directories visited from the one with this trail, `levels` levels down at the most. -/
def Toured (lists : List String → List String → Prop) :
    (levels : Nat) → (trail : List String) → (visited : List (List String)) → Prop
  | 0, _, visited => visited = []
  | levels + 1, trail, visited =>
      ∃ names visits, lists trail names ∧
        List.Forall₂ (fun name => Toured lists levels (trail ++ [name])) names visits ∧
        visited = trail :: visits.flatten

section
variable {lists lists' : List String → List String → Prop} {trail names : List String}
  {visited visited' : List (List String)}

theorem PreorderBelow.mono (preorder : PreorderBelow lists trail names visited)
    (more : ∀ trail names, lists trail names → lists' trail names) :
    PreorderBelow lists' trail names visited := by
  induction preorder with
  | none trail => exact .none trail
  | next listed _ _ inside beside => exact .next (more _ _ listed) inside beside

theorem Preorder.mono (preorder : Preorder lists visited)
    (more : ∀ trail names, lists trail names → lists' trail names) : Preorder lists' visited := by
  obtain ⟨names, inner, listed, below, rfl⟩ := preorder
  exact ⟨names, inner, more _ _ listed, below.mono more, rfl⟩

/-- What comes below a directory is listed. -/
theorem PreorderBelow.listed (preorder : PreorderBelow lists trail names visited) :
    ∀ further ∈ visited, ∃ names, lists further names := by
  induction preorder with
  | none => exact nofun
  | next listed _ _ inside beside =>
      intro further within
      rcases List.mem_cons.mp within with rfl | within
      · exact ⟨_, listed⟩
      · exact (List.mem_append.mp within).elim (inside further) (beside further)

theorem Preorder.listed (preorder : Preorder lists visited) :
    ∀ further ∈ visited, ∃ names, lists further names := by
  obtain ⟨names, inner, listed, below, rfl⟩ := preorder
  intro further within
  rcases List.mem_cons.mp within with rfl | within
  · exact ⟨_, listed⟩
  · exact below.listed further within

section
variable (single : ∀ trail names names', lists trail names → lists trail names' → names = names')
include single

theorem PreorderBelow.unique (first : PreorderBelow lists trail names visited)
    (second : PreorderBelow lists trail names visited') : visited = visited' := by
  induction first generalizing visited' with
  | none =>
      cases second
      rfl
  | next listed _ _ inside beside =>
      cases second with
      | next listed' inside' beside' =>
          cases single _ _ _ listed listed'
          rw [inside inside', beside beside']

/-- Where it is settled what a directory lists, there is one pre-order. -/
theorem Preorder.unique (first : Preorder lists visited) (second : Preorder lists visited') :
    visited = visited' := by
  obtain ⟨names, inner, listed, below, rfl⟩ := first
  obtain ⟨names', inner', listed', below', rfl⟩ := second
  cases single _ _ _ listed listed'
  rw [below.unique single below']

end

/-- A tour that is deeper than any directory lies goes through all of them. -/
theorem PreorderBelow.of_visits {levels : Nat} {visits : List (List (List String))}
    (inside : ∀ name visited, name ∈ names → Toured lists levels (trail ++ [name]) visited →
      ∃ names' inner, lists (trail ++ [name]) names' ∧
        PreorderBelow lists (trail ++ [name]) names' inner ∧ visited = (trail ++ [name]) :: inner)
    (all : List.Forall₂ (fun name => Toured lists levels (trail ++ [name])) names visits) :
    PreorderBelow lists trail names visits.flatten := by
  induction all with
  | nil => exact .none trail
  | cons first _ ih =>
      obtain ⟨names', inner, listed, below, rfl⟩ := inside _ _ (List.mem_cons_self ..) first
      exact .next listed below (ih fun name visited within =>
        inside name visited (List.mem_cons_of_mem _ within))

theorem Toured.preorder {Stands : List String → Prop} {limit : Nat}
    (leads : ∀ trail names, Stands trail → lists trail names → ∀ name ∈ names, Stands (trail ++ [name]))
    (bounded : ∀ trail, Stands trail → trail.length < limit) {levels : Nat}
    (enough : limit ≤ trail.length + levels) (stands : Stands trail)
    (toured : Toured lists levels trail visited) :
    ∃ names inner, lists trail names ∧ PreorderBelow lists trail names inner ∧
      visited = trail :: inner := by
  induction levels generalizing trail visited with
  | zero =>
      have := bounded trail stands
      omega
  | succ levels ih =>
      obtain ⟨names, visits, listed, all, rfl⟩ := toured
      refine ⟨names, visits.flatten, listed, .of_visits (fun name visited within below => ?_) all, rfl⟩
      exact ih (by simp; omega) (leads _ _ stands listed name within) below

/-- The directories that can be reached from the root: it, and each entry that is a directory, where
`child` tells the entries of a directory that are. -/
inductive Reachable (child : List String → String → Prop) : (trail : List String) → Prop
  | root : Reachable child []
  | entry {trail : List String} {name : String} (above : Reachable child trail)
      (listed : child trail name) : Reachable child (trail ++ [name])

/-- What is reached below an entry is reached through it. -/
theorem Reachable.passes {child : List String → String → Prop} {trail further : List String}
    {name : String} (reached : Reachable child further) (below : trail ++ [name] <+: further) :
    child trail name := by
  induction reached with
  | root => exact absurd (List.prefix_nil.mp below) (by simp)
  | entry above listed ih =>
      rcases List.prefix_concat_iff.mp below with same | inside
      · obtain ⟨outer, last⟩ := List.append_inj' same rfl
        rw [outer, List.head_eq_of_cons_eq last]
        exact listed
      · exact ih inside

/-- All that comes below a directory is below one of the names. -/
theorem PreorderBelow.inside (preorder : PreorderBelow lists trail names visited) :
    ∀ further ∈ visited, ∃ name ∈ names, trail ++ [name] <+: further := by
  induction preorder with
  | none => exact nofun
  | next _ _ _ inside beside =>
      intro further within
      rcases List.mem_cons.mp within with rfl | within
      · exact ⟨_, List.mem_cons_self .., List.prefix_refl _⟩
      · rcases List.mem_append.mp within with within | within
        · obtain ⟨name, _, below⟩ := inside further within
          exact ⟨_, List.mem_cons_self .., (List.prefix_append _ _).trans below⟩
        · obtain ⟨name, listed, below⟩ := beside further within
          exact ⟨name, List.mem_cons_of_mem _ listed, below⟩

theorem name_eq_of_both {first second : String} {further : List String}
    (below : trail ++ [first] <+: further) (below' : trail ++ [second] <+: further) :
    first = second := by
  have same := (List.prefix_of_prefix_length_le below below' (by simp)).eq_of_length (by simp)
  simpa using same

/-- What a tour comes to below a directory is below one of the names. -/
theorem Toured.inside_of_visits {levels : Nat} {visits : List (List (List String))}
    (inside : ∀ name visited, Toured lists levels (trail ++ [name]) visited →
      ∀ further ∈ visited, trail ++ [name] <+: further)
    (all : List.Forall₂ (fun name => Toured lists levels (trail ++ [name])) names visits) :
    ∀ further ∈ visits.flatten, ∃ name ∈ names, trail ++ [name] <+: further := by
  induction all with
  | nil => exact nofun
  | cons first _ ih =>
      intro further within
      rcases List.mem_append.mp within with within | within
      · exact ⟨_, List.mem_cons_self .., inside _ _ first further within⟩
      · obtain ⟨name, listed, below⟩ := ih further within
        exact ⟨name, List.mem_cons_of_mem _ listed, below⟩

theorem Toured.inside {levels : Nat} (toured : Toured lists levels trail visited) :
    ∀ further ∈ visited, trail <+: further := by
  induction levels generalizing trail visited with
  | zero =>
      cases toured
      exact nofun
  | succ levels ih =>
      obtain ⟨names, visits, _, all, rfl⟩ := toured
      refine List.forall_mem_cons.mpr ⟨List.prefix_refl _, fun further within => ?_⟩
      obtain ⟨name, _, below⟩ := inside_of_visits (fun _ _ => ih) all further within
      exact (List.prefix_append _ _).trans below

section
variable (once : ∀ trail names, lists trail names → names.Nodup)
include once

/-- No directory comes twice. -/
theorem PreorderBelow.nodup (preorder : PreorderBelow lists trail names visited)
    (apart : names.Nodup) : visited.Nodup := by
  induction preorder with
  | none => exact .nil
  | @next trail name rest names inner later listed inside beside ih ih' =>
      obtain ⟨other, apart⟩ := List.nodup_cons.mp apart
      have above (further : List String) (within : further ∈ inner) :
          trail ++ [name] <+: further ∧ trail ++ [name] ≠ further := by
        obtain ⟨name', _, below⟩ := inside.inside further within
        refine ⟨(List.prefix_append _ _).trans below, fun same => ?_⟩
        have longer := below.length_le
        simp [← same] at longer
      have aside (further : List String) (within : further ∈ later) :
          ¬ trail ++ [name] <+: further := by
        intro below
        obtain ⟨name', listed', below'⟩ := beside.inside further within
        exact other (name_eq_of_both below below' ▸ listed')
      refine List.nodup_cons.mpr ⟨fun within => ?_, List.nodup_append.mpr
        ⟨ih (once _ _ listed), ih' apart, fun further within further' within' same => ?_⟩⟩
      · rcases List.mem_append.mp within with within | within
        · exact (above _ within).2 rfl
        · exact aside _ within (List.prefix_refl _)
      · exact aside further' within' (same ▸ (above further within).1)

theorem Preorder.nodup (preorder : Preorder lists visited) : visited.Nodup := by
  obtain ⟨names, inner, listed, below, rfl⟩ := preorder
  refine List.nodup_cons.mpr ⟨fun within => ?_, below.nodup once (once _ _ listed)⟩
  obtain ⟨name, _, longer⟩ := below.inside _ within
  simpa using longer.length_le

/-- A tour comes to no directory twice, whether it goes down all the way or not. -/
theorem Toured.nodup {levels : Nat} (toured : Toured lists levels trail visited) : visited.Nodup := by
  induction levels generalizing trail visited with
  | zero =>
      cases toured
      exact List.nodup_nil
  | succ levels ih =>
      obtain ⟨names, visits, listed, all, rfl⟩ := toured
      refine List.nodup_cons.mpr ⟨fun within => ?_, ?_⟩
      · obtain ⟨name, _, below⟩ := inside_of_visits (fun _ _ => Toured.inside) all _ within
        have longer := below.length_le
        simp only [List.length_append, List.length_singleton] at longer
        omega
      have apart := once _ _ listed
      clear listed
      induction all with
      | nil => exact List.nodup_nil
      | cons first rest more =>
          obtain ⟨other, apart⟩ := List.nodup_cons.mp apart
          refine List.nodup_append.mpr ⟨ih first, more apart, ?_⟩
          rintro further within _ within' rfl
          obtain ⟨name, listed, below⟩ :=
            inside_of_visits (fun _ _ => Toured.inside) rest further within'
          exact other (name_eq_of_both (first.inside further within) below ▸ listed)

end

section
variable {child : List String → String → Prop}
  (tells : ∀ trail names, lists trail names → ∀ name, name ∈ names ↔ child trail name)
include tells

theorem PreorderBelow.reachable (preorder : PreorderBelow lists trail names visited)
    (reached : Reachable child trail) (listed : ∀ name ∈ names, child trail name) :
    ∀ further ∈ visited, Reachable child further := by
  induction preorder with
  | none => exact nofun
  | next listed' _ _ inside beside =>
      have entered := reached.entry (listed _ (List.mem_cons_self ..))
      intro further within
      rcases List.mem_cons.mp within with rfl | within
      · exact entered
      · rcases List.mem_append.mp within with within | within
        · exact inside entered (fun name named => (tells _ _ listed' name).mp named) further within
        · exact beside reached (fun name named => listed name (List.mem_cons_of_mem _ named)) further
            within

/-- With a directory come those that it lists. -/
theorem PreorderBelow.closed (preorder : PreorderBelow lists trail names visited) :
    (∀ name ∈ names, trail ++ [name] ∈ visited) ∧
      ∀ further ∈ visited, ∀ name, child further name → further ++ [name] ∈ visited := by
  induction preorder with
  | none => exact ⟨nofun, nofun⟩
  | next listed _ _ inside beside =>
      refine ⟨fun name within => ?_, fun further within name named => ?_⟩
      · rcases List.mem_cons.mp within with rfl | within
        · exact List.mem_cons_self ..
        · exact List.mem_cons_of_mem _ (List.mem_append_right _ (beside.1 name within))
      · refine List.mem_cons_of_mem _ (List.mem_append.mpr ?_)
        rcases List.mem_cons.mp within with rfl | within
        · exact .inl (inside.1 name ((tells _ _ listed name).mpr named))
        · exact (List.mem_append.mp within).imp (inside.2 further · name named)
            (beside.2 further · name named)

theorem Preorder.mem_iff (preorder : Preorder lists visited) (further : List String) :
    further ∈ visited ↔ Reachable child further := by
  obtain ⟨names, inner, listed, below, rfl⟩ := preorder
  constructor
  · intro within
    rcases List.mem_cons.mp within with rfl | within
    · exact .root
    · exact below.reachable tells .root (fun name named => (tells _ _ listed name).mp named) further
        within
  · intro reached
    induction reached with
    | root => exact List.mem_cons_self ..
    | @entry trail name _ named within =>
        refine List.mem_cons_of_mem _ ?_
        rcases List.mem_cons.mp within with rfl | within
        · exact (below.closed tells).1 name ((tells _ _ listed name).mpr named)
        · exact (below.closed tells).2 trail within name named

end
end

end SiteIndex.Listing
