import SiteIndex.Proofs.Toml.Overlay

/-!
Filling in defaults. A stock value says what may be given in its place, and has what is not given: a table
is given by the keys that differ, or by an array of values in the order of its keys. Whether what is given
has been laid over the stock value before makes no difference.
-/

namespace SiteIndex.Toml

variable {α : Type}

mutual

/-- What is given, with the stock value wherever nothing is. A text may be given as a moment. There is no
answer if a key is not one of the stock value's, or if something is given that is of another kind. -/
def fillIn : (stock given : Toml) → Option Toml
  | .string _, .string value => some (.string value)
  | .string _, .moment value => some (.string value.text)
  | .integer (.ofNat _), .integer (.ofNat value) => some (.integer (.ofNat value))
  | .table stock, .table given =>
      if given.all fun pair => (stock.lookup pair.1).isSome then
        (fillKeys stock given).map .table
      else none
  | .table stock, .array given => (fillPlaces stock given).map .table
  | _, _ => none

def fillKeys : (stock given : Entries) → Option Entries
  | [], _ => some []
  | (key, stock) :: rest, given => do
      let filled ← match given.lookup key with
        | some value => fillIn stock value
        | none => some stock
      let others ← fillKeys rest given
      return (key, filled) :: others

/-- The values are given for the first keys of the stock value; for the others it stands. -/
def fillPlaces : (stock : Entries) → (given : List Toml) → Option Entries
  | stock, [] => some stock
  | [], _ :: _ => none
  | (key, stock) :: rest, value :: given => do
      let filled ← fillIn stock value
      let others ← fillPlaces rest given
      return (key, filled) :: others

end

/-- What can be filled in: texts, counts, and tables of such. -/
inductive Stock : Toml → Prop where
  | string (value : String) : Stock (.string value)
  | count (value : Nat) : Stock (.integer (.ofNat value))
  | table {entries : Entries} (distinct : (entries.map Prod.fst).Nodup)
      (inner : ∀ pair ∈ entries, Stock pair.2) : Stock (.table entries)

/-- What is given in place of a stock value, or that value if nothing is. -/
def fillOne (stock : Toml) : Option Toml → Option Toml
  | some given => fillIn stock given
  | none => some stock

theorem fillKeys_cons (key : String) (stock : Toml) (rest given : Entries) :
    fillKeys ((key, stock) :: rest) given =
      (fillOne stock (given.lookup key)).bind fun filled =>
        (fillKeys rest given).map ((key, filled) :: ·) := by
  rw [fillKeys]
  cases given.lookup key <;> simp only [fillOne, Option.bind_eq_bind, Option.map_eq_bind] <;> rfl

theorem fillPlaces_cons (key : String) (stock value : Toml) (rest : Entries) (given : List Toml) :
    fillPlaces ((key, stock) :: rest) (value :: given) =
      (fillIn stock value).bind fun filled => (fillPlaces rest given).map ((key, filled) :: ·) := by
  simp only [fillPlaces, Option.bind_eq_bind, Option.map_eq_bind]
  rfl

theorem fillIn_table (stock given : Entries) :
    fillIn (.table stock) (.table given) =
      if given.all fun pair => (stock.lookup pair.1).isSome then
        (fillKeys stock given).map .table
      else none := by
  rw [fillIn]

/-- Only what is given for each key counts. -/
theorem fillKeys_congr {stock given given' : Entries}
    (same : ∀ pair ∈ stock,
      fillOne pair.2 (given.lookup pair.1) = fillOne pair.2 (given'.lookup pair.1)) :
    fillKeys stock given = fillKeys stock given' := by
  induction stock with
  | nil => rw [fillKeys, fillKeys]
  | cons pair rest ih =>
    obtain ⟨first, others⟩ := List.forall_mem_cons.mp same
    rw [fillKeys_cons, fillKeys_cons, first, ih others]

/-- Where nothing is given that differs, the stock value stands. -/
theorem fillKeys_of_same {stock given : Entries}
    (same : ∀ pair ∈ stock, fillOne pair.2 (given.lookup pair.1) = some pair.2) :
    fillKeys stock given = some stock := by
  induction stock with
  | nil => rw [fillKeys]
  | cons pair rest ih =>
    obtain ⟨first, others⟩ := List.forall_mem_cons.mp same
    rw [fillKeys_cons, first, ih others]
    rfl

/-- What is given first can be filled in first. -/
theorem fillKeys_given {stock rest : Entries} {key : String} {under : Toml}
    (distinct : (stock.map Prod.fst).Nodup) (held : stock.lookup key = some under)
    (last : rest.lookup key = none) (value : Toml) :
    fillKeys stock ((key, value) :: rest) =
      (fillIn under value).bind fun filled => fillKeys (putKey key filled stock) rest := by
  induction stock with
  | nil => cases held
  | cons pair others ih =>
    obtain ⟨first, stock⟩ := pair
    obtain ⟨fresh, distinct⟩ := List.nodup_cons.mp distinct
    rw [lookup_cons_eq_ite] at held
    rw [fillKeys_cons, lookup_cons_eq_ite]
    by_cases same : key = first
    · subst same
      rw [if_pos rfl] at held
      cases held
      have unnamed : fillKeys others ((key, value) :: rest) = fillKeys others rest := by
        refine fillKeys_congr fun pair among => ?_
        have other : pair.1 ≠ key := fun again =>
          fresh (List.mem_map.mpr ⟨pair, among, again⟩)
        rw [lookup_cons_eq_ite, if_neg other]
      rw [if_pos rfl, unnamed]
      refine Option.bind_congr fun filled _ => ?_
      rw [putKey, if_pos rfl, fillKeys_cons, last]
      rfl
    · rw [if_neg same] at held
      rw [if_neg (Ne.symm same), ih distinct held]
      have next : ∀ filled, fillKeys (putKey key filled ((first, stock) :: others)) rest =
          (fillOne stock (rest.lookup first)).bind fun found =>
            (fillKeys (putKey key filled others) rest).map ((first, found) :: ·) := by
        intro filled
        rw [putKey, if_neg (Ne.symm same), fillKeys_cons]
      simp only [next]
      cases fillIn under value <;> cases fillOne stock (rest.lookup first) <;> rfl

theorem putKey_append {before : List (String × α)} {key : String}
    (fresh : key ∉ before.map Prod.fst) (value old : α) (after : List (String × α)) :
    putKey key value (before ++ (key, old) :: after) = before ++ (key, value) :: after := by
  induction before with
  | nil => rw [List.nil_append, List.nil_append, putKey, if_pos rfl]
  | cons pair rest ih =>
    obtain ⟨other, later⟩ := not_or.mp (mt List.mem_cons.mpr fresh)
    rw [List.cons_append, putKey, if_neg (Ne.symm other), ih later, List.cons_append]

theorem lookup_isSome_iff {entries : List (String × α)} {key : String} :
    (entries.lookup key).isSome = true ↔ key ∈ entries.map Prod.fst := by
  cases found : entries.lookup key with
  | none => simpa using not_mem_of_lookup found
  | some value => simpa using ⟨value, mem_of_lookup found⟩

theorem lookup_of_not_mem {entries : List (String × α)} {key : String}
    (absent : key ∉ entries.map Prod.fst) : entries.lookup key = none := by
  rw [← Option.not_isSome_iff_eq_none, lookup_isSome_iff]
  exact absent

theorem all_lookup_iff (stock given : Entries) :
    (given.all fun pair => (stock.lookup pair.1).isSome) = true ↔
      ∀ key value, given.lookup key = some value → (stock.lookup key).isSome = true := by
  rw [List.all_eq_true]
  constructor
  · exact fun known key value found => known _ (mem_of_lookup found)
  · rintro known ⟨key, value⟩ among
    cases found : given.lookup key with
    | none => exact absurd (List.mem_map_of_mem among) (not_mem_of_lookup found)
    | some first => exact known key first found

theorem Stock.keysOnce {stock : Toml} (fillable : stock.Stock) : stock.KeysOnce := by
  induction fillable with
  | string value => exact .plain rfl
  | count value => exact .plain rfl
  | table distinct _ ih => exact .table distinct ih

theorem Stock.fillIn_self {stock : Toml} (fillable : stock.Stock) :
    fillIn stock stock = some stock := by
  induction fillable with
  | string value => rw [fillIn]
  | count value => rw [fillIn]
  | @table entries distinct _ ih =>
    have known : ∀ key value, entries.lookup key = some value →
        (entries.lookup key).isSome = true := by
      intro key value found
      rw [found]
      rfl
    rw [fillIn_table, if_pos ((all_lookup_iff _ _).mpr known), fillKeys_of_same]
    · rfl
    · intro pair among
      rw [lookup_of_mem distinct among]
      exact ih pair among

/-- A stock value is filled in with what is given just as well when that has been laid over it. -/
theorem Stock.fillIn_overlay {stock given : Toml} (fillable : stock.Stock) (once : given.KeysOnce) :
    fillIn stock (overlay stock given) = fillIn stock given := by
  induction fillable generalizing given with
  | string value => rw [overlay_of_replaced rfl]
  | count value => rw [overlay_of_replaced rfl]
  | @table entries distinct inner ih =>
    cases once with
    | plain plain => rw [overlay_of_plain plain]
    | @table given differing within =>
      have laid := lookup_overlayEntries differing entries
      -- each key finds the stock value, or what is given laid over it
      have same : ∀ pair ∈ entries,
          fillOne pair.2 ((overlayEntries entries given).lookup pair.1) =
            fillOne pair.2 (given.lookup pair.1) := by
        rintro ⟨key, under⟩ among
        rw [laid, lookup_of_mem distinct among]
        cases found : given.lookup key with
        | none => exact (inner _ among).fillIn_self
        | some value => exact ih _ among (within _ (mem_of_lookup found))
      have known :
          ((overlayEntries entries given).all fun pair => (entries.lookup pair.1).isSome) =
            given.all fun pair => (entries.lookup pair.1).isSome := by
        rw [Bool.eq_iff_iff, all_lookup_iff, all_lookup_iff]
        constructor
        · exact fun all key value found => all key _ (by rw [laid, found])
        · intro all key value found
          rw [laid] at found
          cases named : given.lookup key with
          | none =>
            rw [named] at found
            exact Option.isSome_iff_exists.mpr ⟨value, found⟩
          | some value => exact all key value named
      rw [overlay, fillIn_table, fillIn_table, known, fillKeys_congr same]

/-- A table that is laid over another still holds each key once. -/
theorem KeysOnce.overlay {base given : Toml} (under : base.KeysOnce) (once : given.KeysOnce) :
    (Toml.overlay base given).KeysOnce := by
  induction once generalizing base with
  | plain plain =>
    rw [overlay_of_plain plain]
    exact .plain plain
  | @table given distinct inner ih =>
    cases under with
    | plain plain =>
      rw [overlay_of_replaced plain]
      exact .table distinct inner
    | @table entries differing within =>
      rw [Toml.overlay]
      suffices laid : EntriesOnce KeysOnce (overlayEntries entries given) from
        .table laid.distinct laid.inner
      have start : EntriesOnce KeysOnce entries := ⟨differing, within⟩
      clear differing within distinct
      induction given generalizing entries with
      | nil => exact start
      | cons pair rest ih' =>
        obtain ⟨first, others⟩ := List.forall_mem_cons.mp inner
        obtain ⟨firstLaid, othersLaid⟩ := List.forall_mem_cons.mp ih
        rw [overlayEntries]
        refine ih' others (fun pair among => othersLaid pair among) (start.putKey ?_)
        cases found : entries.lookup pair.1 with
        | none => exact first
        | some value => exact firstLaid (start.of_lookup found)

end SiteIndex.Toml
