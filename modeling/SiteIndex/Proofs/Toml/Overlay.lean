import SiteIndex.Proofs.Toml.Keys
import SiteIndex.Settings.Loading

/-!
What a value laid over another leads to under each path of keys. Where the overlay has a value other than
a table, that value stands; where it has a table, it goes on into that table; and what it does not name
stays as it was.
-/

namespace SiteIndex
namespace Toml

/-- The overlay where there may be nothing to lay it over. -/
def laidOn (base : Option Toml) (upper : Toml) : Toml :=
  match base with
  | some under => overlay under upper
  | none => upper

/-- What there is under a key, if there is a table that has it. -/
def under? (base : Option Toml) (key : String) : Option Toml :=
  match base with
  | some (.table entries) => entries.lookup key
  | _ => none

/-- On the way along `path` there is a value that has nothing inside it. -/
def Ends (value : Toml) (path : List String) : Prop :=
  ∃ front found, front <+: path ∧ front ≠ path ∧ value.at? front = some found ∧
    found.isTable = false

theorem at?_nil (value : Toml) : value.at? [] = some value := by
  cases value <;> rfl

theorem at?_cons (value : Toml) (key : String) (path : List String) :
    value.at? (key :: path) = (under? (some value) key).bind fun inner => inner.at? path := by
  cases value <;> rfl

theorem bind_at?_cons (base : Option Toml) (key : String) (path : List String) :
    (base.bind fun value => value.at? (key :: path)) =
      (under? base key).bind fun inner => inner.at? path := by
  cases base with
  | none => rfl
  | some value => exact at?_cons value key path

theorem under?_of_plain {value : Toml} (plain : value.isTable = false) (key : String) :
    under? (some value) key = none := by
  cases value <;> first | rfl | cases plain

theorem overlay_of_plain {upper : Toml} (plain : upper.isTable = false) (base : Toml) :
    overlay base upper = upper := by
  cases upper <;> first | rfl | cases plain

/-- Only a table is kept to be laid over; anything else gives way. -/
theorem overlay_of_replaced {base : Toml} (plain : base.isTable = false) (upper : Toml) :
    overlay base upper = upper := by
  cases upper with
  | table entries => cases base <;> first | rfl | cases plain
  | _ => rfl

theorem laidOn_of_plain {upper : Toml} (plain : upper.isTable = false) (base : Option Toml) :
    laidOn base upper = upper := by
  cases base with
  | none => rfl
  | some under => exact overlay_of_plain plain under

theorem lookup_overlayEntries {entries : Entries} (distinct : (entries.map Prod.fst).Nodup)
    (base : Entries) (key : String) :
    (overlayEntries base entries).lookup key =
      match entries.lookup key with
      | some value => some (laidOn (base.lookup key) value)
      | none => base.lookup key := by
  induction entries generalizing base with
  | nil => rfl
  | cons pair rest ih =>
    obtain ⟨first, value⟩ := pair
    obtain ⟨fresh, distinct⟩ := List.nodup_cons.mp distinct
    have merged : overlayEntries base ((first, value) :: rest) =
        overlayEntries (putKey first (laidOn (base.lookup first) value) base) rest := by
      rw [overlayEntries]
      rfl
    rw [merged, ih distinct, lookup_putKey, lookup_cons_eq_ite]
    by_cases same : key = first
    · subst same
      have missing : rest.lookup key = none := by
        refine List.lookup_eq_none_iff.mpr fun pair later => bne_iff_ne.mpr fun again => fresh ?_
        exact List.mem_map.mpr ⟨pair, later, again.symm⟩
      simp [missing]
    · simp [same]

/-- A table laid over anything is a table again, which under a key has what the table has there, laid
over what was there before. -/
theorem laidOn_table {entries : Entries} (distinct : (entries.map Prod.fst).Nodup)
    (base : Option Toml) :
    ∃ merged, laidOn base (.table entries) = .table merged ∧
      ∀ key, merged.lookup key =
        match entries.lookup key with
        | some value => some (laidOn (under? base key) value)
        | none => under? base key := by
  have alone : ∀ key, entries.lookup key =
      match entries.lookup key with
      | some value => some (laidOn none value)
      | none => none := by
    intro key
    cases entries.lookup key <;> rfl
  cases base with
  | none => exact ⟨entries, rfl, alone⟩
  | some under =>
    cases under with
    | table under => exact ⟨_, by rw [laidOn, overlay], lookup_overlayEntries distinct under⟩
    | _ => exact ⟨entries, rfl, alone⟩

theorem at?_laidOn_of_found {upper value : Toml} {path : List String} (once : upper.KeysOnce)
    (found : upper.at? path = some value) (base : Option Toml) :
    (laidOn base upper).at? path =
      some (laidOn (base.bind fun under => under.at? path) value) := by
  induction path generalizing upper base with
  | nil =>
    rw [at?_nil] at found
    cases found
    simp [at?_nil]
  | cons key path ih =>
    rw [at?_cons] at found
    obtain ⟨inner, named, beyond⟩ := Option.bind_eq_some_iff.mp found
    cases once with
    | plain plain =>
      rw [under?_of_plain plain] at named
      cases named
    | table distinct inside =>
      obtain ⟨merged, same, lookup⟩ := laidOn_table distinct base
      have merged : under? (some (.table merged)) key = some (laidOn (under? base key) inner) := by
        change List.lookup key _ = _ at named
        rw [under?, lookup, named]
      rw [same, at?_cons, merged, bind_at?_cons]
      exact ih (inside _ (mem_of_lookup named)) beyond _

theorem at?_laidOn_of_missing {upper : Toml} {path : List String} (once : upper.KeysOnce)
    (missing : upper.at? path = none) (unended : ¬ upper.Ends path) (base : Option Toml) :
    (laidOn base upper).at? path = base.bind fun under => under.at? path := by
  induction path generalizing upper base with
  | nil =>
    rw [at?_nil] at missing
    cases missing
  | cons key path ih =>
    cases once with
    | plain plain =>
      exact absurd ⟨[], upper, List.nil_prefix, (List.cons_ne_nil _ _).symm, at?_nil upper, plain⟩ unended
    | @table entries distinct inside =>
      obtain ⟨merged, same, lookup⟩ := laidOn_table distinct base
      rw [same, at?_cons, bind_at?_cons, under?, lookup]
      cases named : entries.lookup key with
      | none => rfl
      | some inner =>
        have beyond : ∀ path, (Toml.table entries).at? (key :: path) = inner.at? path := by
          intro path
          rw [at?_cons, under?, named]
          rfl
        refine ih (inside _ (mem_of_lookup named)) (by rw [← beyond, missing]) ?_ _
        rintro ⟨front, found, within, short, held, plain⟩
        refine unended ⟨key :: front, found, List.cons_prefix_cons.mpr ⟨rfl, within⟩, ?_,
          by rw [beyond, held], plain⟩
        exact fun whole => short (List.cons.inj whole).2

theorem putKey_of_lookup {entries : Entries} {key : String} {value : Toml}
    (held : entries.lookup key = some value) : putKey key value entries = entries := by
  induction entries with
  | nil => cases held
  | cons pair rest ih =>
    obtain ⟨first, old⟩ := pair
    rw [lookup_cons_eq_ite] at held
    rw [putKey]
    split at held
    · next same =>
      cases held
      rw [if_pos same.symm]
    · next other => rw [if_neg (Ne.symm other), ih held]

/-- Entries change nothing where each is there already and takes no more from what is laid over it. -/
theorem overlayEntries_of_held {base entries : Entries}
    (held : ∀ pair ∈ entries, ∃ stood, base.lookup pair.1 = some stood ∧
      overlay stood pair.2 = stood) : overlayEntries base entries = base := by
  induction entries with
  | nil => rfl
  | cons pair rest ih =>
    obtain ⟨key, value⟩ := pair
    obtain ⟨stood, found, same⟩ := held _ (List.mem_cons_self ..)
    simp only [overlayEntries, found, same, putKey_of_lookup found]
    exact ih fun other later => held other (List.mem_cons_of_mem _ later)

/-- Laying a value over what it has been laid over changes nothing. -/
theorem overlay_laidOn {upper : Toml} (once : upper.KeysOnce) (base : Option Toml) :
    overlay (laidOn base upper) upper = laidOn base upper := by
  induction once generalizing base with
  | plain plain => rw [overlay_of_plain plain, laidOn_of_plain plain]
  | @table entries distinct inside ih =>
    obtain ⟨merged, same, lookup⟩ := laidOn_table distinct base
    rw [same, overlay, overlayEntries_of_held]
    intro pair among
    refine ⟨laidOn (under? base pair.1) pair.2, ?_, ih pair among _⟩
    rw [lookup, lookup_of_mem distinct among]

/-- An overlay changes what it names and nothing else. That its tables hold each key once is so of
whatever has been read from a file (`Settings.keysOnce_loadFile`). -/
theorem overlay_changes_named {upper : Toml} (once : upper.KeysOnce) (base : Toml) :
    (∀ path value, upper.at? path = some value → value.isTable = false →
      (overlay base upper).at? path = some value) ∧
    (∀ path, upper.at? path = none → ¬ upper.Ends path →
      (overlay base upper).at? path = base.at? path) ∧
    (∀ path value, upper.at? path = some value → value.isTable = true →
      (∀ under, base.at? path = some under → under.isTable = false) →
      (overlay base upper).at? path = some value) ∧
    overlay (overlay base upper) upper = overlay base upper := by
  refine ⟨fun path value named plain => ?_, fun path missing unended => ?_,
    fun path value named _ replaced => ?_, overlay_laidOn once (some base)⟩
  · have found := at?_laidOn_of_found once named (some base)
    rwa [laidOn_of_plain plain] at found
  · exact at?_laidOn_of_missing once missing unended (some base)
  · have found := at?_laidOn_of_found once named (some base)
    rw [Option.bind_some] at found
    cases held : base.at? path with
    | none => rwa [held] at found
    | some under =>
      have laid : laidOn (some under) value = value := overlay_of_replaced (replaced under held) value
      rwa [held, laid] at found

theorem overlay_changes_named_nested :
    KeysOnce (.table [("t", .table [("y", .integer 5)])]) ∧
    (overlay (.table [("t", .table [("x", .integer 1), ("y", .integer 2)])])
      (.table [("t", .table [("y", .integer 5)])])).at? ["t", "y"] = some (.integer 5) ∧
    (overlay (.table [("t", .table [("x", .integer 1), ("y", .integer 2)])])
      (.table [("t", .table [("y", .integer 5)])])).at? ["t", "x"] = some (.integer 1) := by
  have once : KeysOnce (.table [("t", .table [("y", .integer 5)])]) := by
    refine .table (by decide) fun pair among => ?_
    rw [List.mem_singleton.mp among]
    refine .table (by decide) fun pair among => ?_
    rw [List.mem_singleton.mp among]
    exact .plain rfl
  have laws := overlay_changes_named once (.table [("t", .table [("x", .integer 1), ("y", .integer 2)])])
  refine ⟨once, laws.1 ["t", "y"] _ rfl rfl, laws.2.1 ["t", "x"] rfl ?_⟩
  rintro ⟨front, found, within, short, held, plain⟩
  simp only [List.prefix_cons_iff, List.prefix_nil] at within
  rcases within with rfl | ⟨_, rfl, rfl | ⟨_, rfl, rfl⟩⟩
  · cases held
    cases plain
  · cases held
    cases plain
  · exact short rfl

end Toml

/-- What is laid over the stock settings holds each of its keys once. -/
theorem Settings.keysOnce_loadFile {files : FileSystem} {root : String} {overrides : Toml}
    (loaded : loadFile files root = .ok (some overrides)) : overrides.KeysOnce := by
  rw [loadFile] at loaded
  split at loaded
  · cases loaded
  · cases loaded
  · split at loaded
    · next read =>
      cases loaded
      exact Toml.keysOnce_read? read
    · cases loaded

end SiteIndex
