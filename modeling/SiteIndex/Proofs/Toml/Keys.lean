import SiteIndex.Toml.Document

/-!
Tables hold each of their keys once. A table is kept as a list, in which a key might stand twice; no
document leads to one that does, since every line of it is stored under a key that is not there yet or
goes into the table that is.
-/

namespace SiteIndex.Toml

/-- No key stands twice, and what stands under them is `good`. -/
structure EntriesOnce {α : Type} (good : α → Prop) (entries : List (String × α)) : Prop where
  distinct : (entries.map Prod.fst).Nodup
  inner : ∀ pair ∈ entries, good pair.2

/-- Each table to which a path of keys leads holds each of its keys once. -/
inductive KeysOnce : Toml → Prop where
  | plain {value : Toml} (plain : value.isTable = false) : KeysOnce value
  | table {entries : Entries} (distinct : (entries.map Prod.fst).Nodup)
      (inner : ∀ pair ∈ entries, KeysOnce pair.2) : KeysOnce (.table entries)

section Entries

variable {α : Type} {good : α → Prop} {entries : List (String × α)} {key : String}

theorem lookup_cons_eq_ite (first other : String) (value : α) (rest : List (String × α)) :
    List.lookup other ((first, value) :: rest) =
      if other = first then some value else rest.lookup other := by
  by_cases same : other = first
  · rw [if_pos same, same, List.lookup_cons_self]
  · rw [if_neg same, List.lookup_cons, beq_eq_false_iff_ne.mpr same]

theorem lookup_putKey (key other : String) (value : α) (entries : List (String × α)) :
    (putKey key value entries).lookup other =
      if other = key then some value else entries.lookup other := by
  induction entries with
  | nil => exact lookup_cons_eq_ite ..
  | cons pair rest ih =>
    obtain ⟨first, old⟩ := pair
    rw [putKey]
    split
    · next held =>
      subst held
      simp only [lookup_cons_eq_ite]
      split <;> rfl
    · next held =>
      simp only [lookup_cons_eq_ite, ih]
      by_cases found : other = first
      · simp [found, held]
      · simp [found]

theorem mem_putKey {value : α} {pair : String × α} (stored : pair ∈ putKey key value entries) :
    pair = (key, value) ∨ pair ∈ entries := by
  induction entries with
  | nil => exact .inl (by simpa [putKey] using stored)
  | cons first rest ih =>
    rw [putKey] at stored
    split at stored
    · next held =>
      rcases List.mem_cons.mp stored with rfl | later
      · exact .inl (by rw [held])
      · exact .inr (List.mem_cons_of_mem _ later)
    · rcases List.mem_cons.mp stored with rfl | later
      · exact .inr (List.mem_cons_self ..)
      · exact (ih later).imp_right (List.mem_cons_of_mem _)

theorem nodup_putKey {value : α} (distinct : (entries.map Prod.fst).Nodup) :
    ((putKey key value entries).map Prod.fst).Nodup := by
  induction entries with
  | nil => simp [putKey]
  | cons first rest ih =>
    obtain ⟨fresh, distinct⟩ := List.nodup_cons.mp distinct
    rw [putKey]
    split
    · exact List.nodup_cons.mpr ⟨fresh, distinct⟩
    · next other =>
      refine List.nodup_cons.mpr ⟨fun again => ?_, ih distinct⟩
      obtain ⟨pair, stored, same⟩ := List.mem_map.mp again
      rcases mem_putKey stored with rfl | old
      · exact other same.symm
      · exact fresh (List.mem_map.mpr ⟨pair, old, same⟩)

theorem mem_of_lookup {value : α} (found : entries.lookup key = some value) :
    (key, value) ∈ entries := by
  obtain ⟨before, after, rfl, -⟩ := List.lookup_eq_some_iff.mp found
  exact List.mem_append_right _ (List.mem_cons_self ..)

theorem not_mem_of_lookup (missing : entries.lookup key = none) : key ∉ entries.map Prod.fst := by
  intro held
  obtain ⟨pair, stored, rfl⟩ := List.mem_map.mp held
  simpa using List.lookup_eq_none_iff.mp missing pair stored

theorem lookup_of_mem {value : α} (distinct : (entries.map Prod.fst).Nodup)
    (stored : (key, value) ∈ entries) : entries.lookup key = some value := by
  obtain ⟨before, after, rfl⟩ := List.append_of_mem stored
  refine List.lookup_eq_some_iff.mpr ⟨before, after, rfl, fun pair earlier => ?_⟩
  rw [List.map_append, List.nodup_append] at distinct
  have other := distinct.2.2 _ (List.mem_map_of_mem earlier) key (List.mem_map_of_mem
    (List.mem_cons_self (a := (key, value))))
  exact bne_iff_ne.mpr other.symm

theorem EntriesOnce.nil : EntriesOnce good ([] : List (String × α)) :=
  ⟨List.nodup_nil, fun _ inside => nomatch inside⟩

theorem EntriesOnce.of_lookup (once : EntriesOnce good entries) {value : α}
    (found : entries.lookup key = some value) : good value :=
  once.inner _ (mem_of_lookup found)

theorem EntriesOnce.putKey {value : α} (once : EntriesOnce good entries) (fits : good value) :
    EntriesOnce good (Toml.putKey key value entries) := by
  refine ⟨nodup_putKey once.distinct, fun pair stored => ?_⟩
  rcases mem_putKey stored with rfl | old
  · exact fits
  · exact once.inner pair old

theorem EntriesOnce.filter (once : EntriesOnce good entries) (keep : String × α → Bool) :
    EntriesOnce good (entries.filter keep) :=
  ⟨once.distinct.sublist (List.filter_sublist.map _), fun pair stays =>
    once.inner pair (List.mem_filter.mp stays).1⟩

theorem EntriesOnce.append {value : α} (once : EntriesOnce good entries) (fits : good value)
    (fresh : key ∉ entries.map Prod.fst) : EntriesOnce good (entries ++ [(key, value)]) := by
  refine ⟨?_, fun pair stored => ?_⟩
  · rw [List.map_append]
    refine List.nodup_append.mpr ⟨once.distinct, List.nodup_cons.mpr ⟨List.not_mem_nil, List.nodup_nil⟩,
      fun other held last stored same => fresh ?_⟩
    have same : other = key := same.trans (List.mem_singleton.mp stored)
    exact same ▸ held
  · rcases List.mem_append.mp stored with old | last
    · exact once.inner pair old
    · rw [List.mem_singleton.mp last]
      exact fits

end Entries

theorem kept_foldlM {σ ι : Type} {good : σ → Prop} {add : σ → ι → Option σ} {items : List ι}
    (each : ∀ item ∈ items, ∀ now next, good now → add now item = some next → good next)
    {start last : σ} (fits : good start) (added : items.foldlM add start = some last) :
    good last := by
  induction items generalizing start with
  | nil =>
    cases added
    exact fits
  | cons item rest ih =>
    rw [List.foldlM_cons] at added
    obtain ⟨next, here, there⟩ := Option.bind_eq_some_iff.mp added
    exact ih (fun other among => each other (List.mem_cons_of_mem _ among))
      (each item (List.mem_cons_self ..) _ _ fits here) there

namespace Part

/-- Each table to which a path of keys leads holds each of its keys once. -/
inductive KeysOnce : Part → Prop where
  | leaf {value : Toml} (once : value.KeysOnce) : KeysOnce (.leaf value)
  | branch {origin : Origin} {entries : Entries} (distinct : (entries.map Prod.fst).Nodup)
      (inner : ∀ pair ∈ entries, KeysOnce pair.2) : KeysOnce (.branch origin entries)
  | series {last : Entries} {closed : List Entries} : KeysOnce (.series last closed)

/-- The entries of a table in which each key stands once, and so in the tables inside it. -/
abbrev Once (entries : Entries) : Prop :=
  EntriesOnce KeysOnce entries

theorem KeysOnce.of_branch {origin : Origin} {entries : Entries}
    (once : KeysOnce (.branch origin entries)) : Once entries := by
  cases once with
  | branch distinct inner => exact ⟨distinct, inner⟩

theorem Once.branch {origin : Origin} {entries : Entries} (once : Once entries) :
    KeysOnce (.branch origin entries) :=
  .branch once.distinct once.inner

theorem once_descend {change : Entries → Option Entries}
    (kept : ∀ entries changed, Once entries → change entries = some changed → Once changed)
    {path : List String} {entries changed : Entries} (once : Once entries)
    (descended : descend change path entries = some changed) : Once changed := by
  induction path generalizing entries changed with
  | nil => exact kept entries changed once descended
  | cons key path ih =>
    rw [descend] at descended
    split at descended
    · obtain ⟨inner, below, stored⟩ := Option.bind_eq_some_iff.mp descended
      cases stored
      exact once.putKey (ih .nil below).branch
    · next found =>
      obtain ⟨inner, below, stored⟩ := Option.bind_eq_some_iff.mp descended
      cases stored
      exact once.putKey (ih (once.of_lookup found).of_branch below).branch
    · obtain ⟨inner, below, stored⟩ := Option.bind_eq_some_iff.mp descended
      cases stored
      exact once.putKey .series
    · cases descended

theorem once_openTable {key : String} {entries changed : Entries} (once : Once entries)
    (opened : openTable key entries = some changed) : Once changed := by
  rw [openTable] at opened
  split at opened
  · next missing =>
    cases opened
    exact once.append (Once.branch .nil) (not_mem_of_lookup missing)
  · next inner found =>
    cases opened
    refine EntriesOnce.append (once.filter _) (once.of_lookup found).of_branch.branch fun held => ?_
    obtain ⟨pair, stays, same⟩ := List.mem_map.mp held
    simpa [same] using (List.mem_filter.mp stays).2
  · cases opened

theorem once_openElement {key : String} {entries changed : Entries} (once : Once entries)
    (opened : openElement key entries = some changed) : Once changed := by
  rw [openElement] at opened
  split at opened
  · cases opened
    exact once.putKey .series
  · cases opened
    exact once.putKey .series
  · cases opened

theorem once_addDotted {value : Toml} (fits : value.KeysOnce) {path : List String} {key : String}
    {entries changed : Entries} (once : Once entries)
    (added : addDotted value path key entries = some changed) : Once changed := by
  induction path generalizing entries changed with
  | nil =>
    rw [addDotted, addLeaf] at added
    split at added
    · cases added
    · cases added
      exact once.putKey (.leaf fits)
  | cons step path ih =>
    rw [addDotted] at added
    split at added
    · obtain ⟨inner, below, stored⟩ := Option.bind_eq_some_iff.mp added
      cases stored
      exact once.putKey (ih .nil below).branch
    · next found =>
      split at added
      · cases added
      · obtain ⟨inner, below, stored⟩ := Option.bind_eq_some_iff.mp added
        cases stored
        exact once.putKey (ih (once.of_lookup found).of_branch below).branch
    · split at added
      · cases added
      · obtain ⟨inner, below, stored⟩ := Option.bind_eq_some_iff.mp added
        cases stored
        exact once.putKey .series
    · cases added

theorem values_eq_map (entries : Entries) :
    values entries = entries.map fun pair => (pair.1, pair.2.value) := by
  induction entries with
  | nil => rfl
  | cons pair rest ih =>
    obtain ⟨key, part⟩ := pair
    rw [values, ih, List.map_cons]

theorem KeysOnce.value {part : Part} (once : part.KeysOnce) : part.value.KeysOnce := by
  induction once with
  | leaf once => exact once
  | @branch origin entries distinct inner ih =>
    rw [Part.value, values_eq_map]
    refine .table ?_ fun pair stored => ?_
    · rw [List.map_map]
      exact distinct
    · obtain ⟨inside, held, rfl⟩ := List.mem_map.mp stored
      exact ih inside held
  | series => exact .plain rfl

theorem Once.table {entries : Entries} (once : Once entries) :
    Toml.KeysOnce (.table (values entries)) :=
  (once.branch : KeysOnce (.branch .header entries)).value

end Part

theorem Assembly.once_add {assembly added : Assembly} {line : Reader.Line}
    (fits : ∀ path key value, line = .pair path key value → value.KeysOnce)
    (once : Part.Once assembly.entries) (grown : assembly.add line = some added) :
    Part.Once added.entries := by
  cases line with
  | empty =>
    cases grown
    exact once
  | table path key =>
    obtain ⟨entries, descended, stored⟩ := Option.bind_eq_some_iff.mp grown
    cases stored
    exact Part.once_descend (fun _ _ => Part.once_openTable) once descended
  | element path key =>
    obtain ⟨entries, descended, stored⟩ := Option.bind_eq_some_iff.mp grown
    cases stored
    exact Part.once_descend (fun _ _ => Part.once_openElement) once descended
  | pair path key value =>
    obtain ⟨entries, descended, stored⟩ := Option.bind_eq_some_iff.mp grown
    cases stored
    exact Part.once_descend (fun _ _ => Part.once_addDotted (fits _ _ _ rfl)) once descended

theorem unmarkedEntries?_keeps {entries turned : Entries}
    (unmarked : unmarkedEntries? entries = some turned) :
    turned.map Prod.fst = entries.map Prod.fst ∧
      ∀ pair ∈ turned, ∃ old ∈ entries, unmarked? old.2 = some pair.2 := by
  induction entries generalizing turned with
  | nil =>
    rw [unmarkedEntries?] at unmarked
    cases unmarked
    exact ⟨rfl, by simp⟩
  | cons pair rest ih =>
    obtain ⟨key, value⟩ := pair
    rw [unmarkedEntries?] at unmarked
    obtain ⟨first, here, unmarked⟩ := Option.bind_eq_some_iff.mp unmarked
    obtain ⟨others, there, unmarked⟩ := Option.bind_eq_some_iff.mp unmarked
    cases unmarked
    obtain ⟨keys, found⟩ := ih there
    refine ⟨by rw [List.map_cons, List.map_cons, keys], fun pair held => ?_⟩
    rcases List.mem_cons.mp held with rfl | later
    · exact ⟨_, List.mem_cons_self .., here⟩
    · obtain ⟨old, stood, unmarked⟩ := found pair later
      exact ⟨old, List.mem_cons_of_mem _ stood, unmarked⟩

/-- A table stands for a moment, or its entries are unmarked one by one. -/
theorem unmarked?_table {entries : Entries} {turned : Toml}
    (unmarked : unmarked? (.table entries) = some turned) :
    (∃ moment, turned = .moment moment) ∨
      ∃ inside, unmarkedEntries? entries = some inside ∧ turned = .table inside := by
  cases entries with
  | nil =>
    rw [unmarked?] at unmarked
    cases unmarked
    exact .inr ⟨[], rfl, rfl⟩
  | cons pair rest =>
    obtain ⟨key, value⟩ := pair
    by_cases marked : key = momentMarker
    · simp only [unmarked?, if_pos marked] at unmarked
      split at unmarked
      · obtain ⟨moment, -, rfl⟩ := Option.map_eq_some_iff.mp unmarked
        exact .inl ⟨moment, rfl⟩
      · cases unmarked
    · simp only [unmarked?, if_neg marked] at unmarked
      obtain ⟨first, here, unmarked⟩ := Option.bind_eq_some_iff.mp unmarked
      obtain ⟨others, there, unmarked⟩ := Option.bind_eq_some_iff.mp unmarked
      cases unmarked
      exact .inr ⟨(key, first) :: others, by simp [unmarkedEntries?, here, there], rfl⟩

/-- Turning tables into the moments they stand for leaves the other tables their keys. -/
theorem KeysOnce.unmarked {value turned : Toml} (once : value.KeysOnce)
    (unmarked : unmarked? value = some turned) : turned.KeysOnce := by
  induction once generalizing turned with
  | @plain value plain =>
    cases value with
    | table => cases plain
    | array items =>
      simp only [unmarked?] at unmarked
      obtain ⟨others, -, rfl⟩ := Option.map_eq_some_iff.mp unmarked
      exact .plain rfl
    | string | integer | float | boolean | moment =>
      simp only [unmarked?] at unmarked
      cases unmarked
      exact .plain rfl
  | @table entries distinct inner ih =>
    obtain ⟨moment, rfl⟩ | ⟨inside, turned, rfl⟩ := unmarked?_table unmarked
    · exact .plain rfl
    · obtain ⟨keys, found⟩ := unmarkedEntries?_keeps turned
      refine .table (keys ▸ distinct) fun pair held => ?_
      obtain ⟨old, stood, unmarked⟩ := found pair held
      exact ih old stood unmarked

namespace Reader

variable {α β : Type} {good : α → Prop}

/-- Whatever the reader answers is `good`. -/
def Answers (reader : Reader α) (good : α → Prop) : Prop :=
  ∀ text answer rest, reader text = some (answer, rest) → good answer

theorem answers_any {reader : Reader α} : reader.Answers fun _ => True :=
  fun _ _ _ _ => trivial

theorem answers_refuse : (refuse : Reader α).Answers good :=
  fun _ _ _ read => nomatch read

theorem answers_return {answer : α} (fits : good answer) : (return answer : Reader α).Answers good := by
  intro text other rest read
  cases read
  exact fits

theorem Answers.bind {reader : Reader β} {next : β → Reader α} {found : β → Prop}
    (first : reader.Answers found) (later : ∀ answer, found answer → (next answer).Answers good) :
    (reader >>= next).Answers good := by
  intro text answer rest read
  obtain ⟨⟨between, left⟩, here, there⟩ := Option.bind_eq_some_iff.mp read
  exact later between (first _ _ _ here) _ _ _ there

theorem answers_after {reader : Reader β} {next : β → Reader α}
    (later : ∀ answer, (next answer).Answers good) : (reader >>= next).Answers good :=
  answers_any.bind fun answer _ => later answer

theorem Answers.orElse {reader : Reader α} {other : Unit → Reader α} (first : reader.Answers good)
    (second : (other ()).Answers good) : (HOrElse.hOrElse reader other).Answers good := by
  intro text answer rest read
  change (reader text).orElse (fun _ => other () text) = some (answer, rest) at read
  cases here : reader text with
  | none =>
    rw [here] at read
    exact second _ _ _ read
  | some found =>
    rw [here] at read
    cases read
    exact first _ _ _ here

theorem answers_map {reader : Reader β} {change : β → α} (fits : ∀ answer, good (change answer)) :
    (change <$> reader).Answers good := by
  intro text answer rest read
  obtain ⟨⟨between, left⟩, -, there⟩ := Option.bind_eq_some_iff.mp read
  cases there
  exact fits between

theorem answers_many {item : Reader α} (each : item.Answers good) (limit : Nat) :
    (many item limit).Answers fun answers => ∀ answer ∈ answers, good answer := by
  suffices from_ : ∀ taken, (∀ answer ∈ taken, good answer) →
      (manyFrom item limit taken).Answers fun answers => ∀ answer ∈ answers, good answer from
    from_ [] (by simp)
  induction limit with
  | zero =>
    intro taken fits text answers rest read
    cases read
    simpa using fits
  | succ limit ih =>
    intro taken fits text answers rest read
    rw [manyFrom] at read
    split at read
    · cases read
      simpa using fits
    · next value left here =>
      refine ih (value :: taken) (fun answer among => ?_) _ _ _ read
      rcases List.mem_cons.mp among with rfl | earlier
      · exact each _ _ _ here
      · exact fits answer earlier

theorem answers_separated {item : Reader α} (each : item.Answers good) (separator : Reader Unit)
    (limit : Nat) :
    (separated item separator limit).Answers fun answers => ∀ answer ∈ answers, good answer := by
  refine each.bind fun first fits => (answers_many (answers_after fun _ => each) limit).bind
    fun others rest => answers_return ?_
  simpa using ⟨fits, rest⟩

theorem keysOnce_scalar : scalar.Answers KeysOnce := by
  refine (answers_map fun _ => .plain rfl).orElse ?_
  refine (answers_map fun _ => .plain rfl).orElse ?_
  refine (answers_map fun _ => .plain rfl).orElse ?_
  exact answers_map fun _ => .plain rfl

theorem keysOnce_arrayOf (item : Reader Toml) : (arrayOf item).Answers KeysOnce := by
  refine answers_after fun _ => answers_after fun text => answers_after fun items => ?_
  cases items with
  | none => exact answers_after fun _ => answers_after fun _ => answers_return (.plain rfl)
  | some items =>
    exact answers_after fun _ => answers_after fun _ => answers_after fun _ =>
      answers_return (.plain rfl)

theorem keysOnce_inlineTableOf {item : Reader Toml} (each : item.Answers KeysOnce) :
    (inlineTableOf item).Answers KeysOnce := by
  have pair : Reader.Answers
      (do let key ← key; char '='; blanks; let value ← item; blanks; return (key, value))
      fun (found : (List String × String) × Toml) => found.2.KeysOnce :=
    answers_after fun _ => answers_after fun _ => answers_after fun _ =>
      each.bind fun _ once => answers_after fun _ => answers_return once
  refine answers_after fun _ => answers_after fun text => Answers.bind
    ((answers_separated pair _ _).orElse (answers_return (by simp))) fun pairs once => ?_
  refine answers_after fun _ => answers_after fun _ => ?_
  simp only
  split
  · next entries added =>
    have held : Part.Once entries :=
      kept_foldlM (fun pair among _ _ => Part.once_addDotted (once pair among)) .nil added
    exact answers_return held.table
  · exact answers_refuse

theorem keysOnce_valueWith {nested : Reader Toml} (inner : nested.Answers KeysOnce) :
    (valueWith nested).Answers KeysOnce := by
  refine answers_after fun next => ?_
  split
  · exact answers_map fun _ => .plain rfl
  · exact answers_map fun _ => .plain rfl
  · exact keysOnce_arrayOf nested
  · exact keysOnce_inlineTableOf inner
  · exact keysOnce_scalar

theorem keysOnce_value (nesting : Nat) : (value nesting).Answers KeysOnce := by
  induction nesting with
  | zero =>
    refine answers_after fun next => ?_
    split
    · exact answers_refuse
    · exact answers_refuse
    · exact keysOnce_valueWith answers_refuse
  | succ nesting inner => exact keysOnce_valueWith inner

theorem keysOnce_line :
    line.Answers fun found => ∀ path key value, found = .pair path key value → value.KeysOnce := by
  refine answers_after fun _ => answers_after fun next => ?_
  split
  · exact answers_refuse
  · exact answers_after fun _ => answers_return (by simp)
  · exact answers_after fun _ => answers_return (by simp)
  · exact answers_after fun _ => answers_return (by simp)
  · exact answers_after fun _ => answers_after fun _ => answers_return (by grind)
  · refine answers_after fun _ => answers_after fun _ => answers_after fun _ =>
      (keysOnce_value nestingLimit).bind fun value once => answers_after fun _ => answers_return ?_
    rintro _ _ _ ⟨⟩
    exact once

end Reader

/-- What a document is read as holds each key of its tables once. -/
theorem keysOnce_read? {text : String} {document : Toml} (read : read? text = some document) :
    document.KeysOnce := by
  obtain ⟨⟨lines, rest⟩, found, read⟩ := Option.bind_eq_some_iff.mp read
  simp only at read
  split at read
  · obtain ⟨assembly, added, read⟩ := Option.bind_eq_some_iff.mp read
    have each := Reader.answers_many Reader.keysOnce_line _ _ _ _ found
    have once : Part.Once assembly.entries :=
      kept_foldlM (fun line among _ _ => Assembly.once_add (each line among)) .nil added
    exact once.table.unmarked read
  · cases read

end SiteIndex.Toml
