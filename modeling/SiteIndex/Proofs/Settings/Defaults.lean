import SiteIndex.Proofs.Toml.Filling

/-!
Settings and their defaults. Reading a group of fields fills in its stock value with what is given, and so
the settings that a table stands for are the same whether it is read as it is or laid over the stock
settings first.
-/

namespace SiteIndex.Settings

namespace Fields

variable {α : Type}

/-- The fields are printed under their keys, and to store what is given for one that has its stock value is
to fill that in. -/
structure Fills (fields : Fields α) (print : α → Toml.Entries) (stock : α) (good : Toml → Prop) :
    Prop where
  keys : ∀ value, (print value).map Prod.fst = fields.map Prod.fst
  distinct : (fields.map Prod.fst).Nodup
  stores : ∀ field ∈ fields, ∀ given value under, good given →
    (print value).lookup field.1 = some under → (print stock).lookup field.1 = some under →
    (field.2 given value).map print =
      (Toml.fillIn under given).map fun filled => Toml.putKey field.1 filled (print value)

section
variable {fields : Fields α} {print : α → Toml.Entries} {stock start : α} {good : Toml → Prop}
  (fills : fields.Fills print stock good)
include fills

theorem Fills.distinct_print (value : α) : ((print value).map Prod.fst).Nodup := by
  rw [fills.keys]
  exact fills.distinct

theorem Fills.lookup_isSome (value : α) (key : String) :
    ((print value).lookup key).isSome = (fields.lookup key).isSome := by
  rw [Bool.eq_iff_iff, Toml.lookup_isSome_iff, Toml.lookup_isSome_iff, fills.keys]

/-- The entries of a table are stored one after another. Each key stands once, so that each finds its
field as it was at the start. -/
theorem Fills.readEntries {entries : Toml.Entries} (once : Toml.EntriesOnce good entries)
    (untouched : ∀ pair ∈ entries, (print start).lookup pair.1 = (print stock).lookup pair.1) :
    (fields.readEntries start entries).map print =
      if entries.all fun pair => ((print start).lookup pair.1).isSome then
        Toml.fillKeys (print start) entries
      else none := by
  induction entries generalizing start with
  | nil => exact (Toml.fillKeys_of_same fun pair among => rfl).symm
  | cons pair rest ih =>
    obtain ⟨key, given⟩ := pair
    obtain ⟨fresh, distinct⟩ := List.nodup_cons.mp once.distinct
    obtain ⟨fits, others⟩ := List.forall_mem_cons.mp once.inner
    obtain ⟨here, later⟩ := List.forall_mem_cons.mp untouched
    have known := fills.lookup_isSome start key
    rw [Fields.readEntries, List.all_cons]
    cases found : fields.lookup key with
    | none =>
      rw [found] at known
      simp [known]
    | some store =>
      rw [found] at known
      obtain ⟨under, held⟩ := Option.isSome_iff_exists.mp known
      have last : rest.lookup key = none := Toml.lookup_of_not_mem fresh
      have stored : (store given start).map print =
          (Toml.fillIn under given).map fun filled => Toml.putKey key filled (print start) :=
        fills.stores _ (Toml.mem_of_lookup found) given start under fits held (here ▸ held)
      rw [known, Option.isSome_some, Bool.true_and,
        Toml.fillKeys_given (fills.distinct_print start) held last]
      cases changed : store given start with
      | none =>
        rw [changed, Option.map_none] at stored
        rw [Option.map_eq_none_iff.mp stored.symm]
        simp [changed]
      | some next =>
        rw [changed, Option.map_some] at stored
        obtain ⟨filled, fill, printed⟩ := Option.map_eq_some_iff.mp stored.symm
        have untouched' : ∀ pair ∈ rest,
            (print next).lookup pair.1 = (print stock).lookup pair.1 := by
          intro pair within
          have other : pair.1 ≠ key := fun again => fresh (List.mem_map.mpr ⟨pair, within, again⟩)
          rw [← printed, Toml.lookup_putKey, if_neg other]
          exact later pair within
        have onward := ih ⟨distinct, others⟩ untouched'
        simp only [fills.lookup_isSome next, ← fills.lookup_isSome start] at onward
        rw [fill, Option.bind_some, printed, ← onward]
        simp [changed]

/-- The values of an array are stored in the order of the fields. -/
theorem Fills.readItems {left : Fields α} (within : left ⊆ fields) {done todo : Toml.Entries}
    (printed : print start = done ++ todo) (untouched : todo ⊆ print stock)
    (along : todo.map Prod.fst = left.map Prod.fst) {items : List Toml}
    (fits : ∀ item ∈ items, good item) :
    (Fields.readItems left start items).map print =
      (Toml.fillPlaces todo items).map (done ++ ·) := by
  induction items generalizing left start done todo with
  | nil => simp [Fields.readItems, Toml.fillPlaces, printed]
  | cons given rest ih =>
    obtain ⟨first, others⟩ := List.forall_mem_cons.mp fits
    cases todo with
    | nil =>
      cases left with
      | nil => rfl
      | cons => cases along
    | cons pair todo =>
      cases left with
      | nil => cases along
      | cons field left =>
        obtain ⟨key, under⟩ := pair
        obtain ⟨name, store⟩ := field
        obtain ⟨rfl, alongside⟩ := List.cons.inj along
        obtain ⟨here, untouched⟩ := List.cons_subset.mp untouched
        obtain ⟨among, within⟩ := List.cons_subset.mp within
        have distinct := fills.distinct_print start
        have held : (print start).lookup key = some under :=
          Toml.lookup_of_mem distinct (printed ▸ List.mem_append_right _ (List.mem_cons_self ..))
        have stored := fills.stores _ among given start under first held
          (Toml.lookup_of_mem (fills.distinct_print stock) here)
        have fresh : key ∉ done.map Prod.fst := by
          rw [printed, List.map_append, List.map_cons] at distinct
          exact fun again => (List.nodup_append.mp distinct).2.2 _ again _ (List.mem_cons_self ..) rfl
        simp only [printed, Toml.putKey_append fresh] at stored
        rw [Fields.readItems, Toml.fillPlaces_cons]
        cases changed : store given start with
        | none =>
          rw [changed, Option.map_none] at stored
          rw [Option.map_eq_none_iff.mp stored.symm]
          simp
        | some next =>
          rw [changed, Option.map_some] at stored
          obtain ⟨filled, fill, next'⟩ := Option.map_eq_some_iff.mp stored.symm
          have printed' : print next = (done ++ [(key, filled)]) ++ todo := by
            rw [← next', List.append_assoc, List.singleton_append]
          have onward := ih within printed' untouched alongside others
          rw [fill, Option.bind_some]
          simp [onward, Function.comp_def]

/-- Reading a table fills in the stock value. -/
theorem Fills.read_table {entries : Toml.Entries} (once : Toml.EntriesOnce good entries) :
    (fields.read stock (.table entries)).map (fun value => .table (print value)) =
      Toml.fillIn (.table (print stock)) (.table entries) := by
  have reads := fills.readEntries once fun pair _ => rfl
  rw [Fields.read, Toml.fillIn_table, ← Function.comp_def, ← Option.map_map, reads]
  split <;> rfl

end

/-- A group whose fields hold no tables is filled in whatever is given. -/
theorem Fills.read {fields : Fields α} {print : α → Toml.Entries} {stock : α}
    (fills : fields.Fills print stock fun _ => True) {given : Toml} (once : given.KeysOnce) :
    (fields.read stock given).map (fun value => .table (print value)) =
      Toml.fillIn (.table (print stock)) given := by
  cases once with
  | @table entries distinct _ => exact fills.read_table ⟨distinct, fun _ _ => trivial⟩
  | plain plain =>
    cases given with
    | array items =>
      have reads := fills.readItems (List.Subset.refl _) (List.nil_append (print stock)).symm
        (List.Subset.refl _) (fills.keys stock) fun item (_ : item ∈ items) => trivial
      rw [Fields.read, Toml.fillIn, ← Function.comp_def, ← Option.map_map, reads]
      simp
    | table => cases plain
    | _ => rw [Fields.read, Toml.fillIn] <;> simp

/-- A field that holds a text is given as a text or as a moment. -/
theorem fills_text {print : α → Toml.Entries} {key : String} {put : String → α → α}
    (puts : ∀ text value, print (put text value) = Toml.putKey key (.string text) (print value))
    (given : Toml) (value : α) (old : String) :
    (text put given value).map print =
      (Toml.fillIn (.string old) given).map fun filled => Toml.putKey key filled (print value) := by
  cases given <;> simp [text, Toml.fillIn, puts]

theorem fills_count {print : α → Toml.Entries} {key : String} {put : Nat → α → α}
    (puts : ∀ (count : Nat) value,
      print (put count value) = Toml.putKey key (.integer count) (print value))
    (given : Toml) (value : α) (old : Nat) :
    (count put given value).map print =
      (Toml.fillIn (.integer old) given).map fun filled =>
        Toml.putKey key filled (print value) := by
  cases given with
  | integer number => cases number <;> simp [count, Toml.fillIn, puts]
  | _ => simp [count, Toml.fillIn]

end Fields

def templateEntries (names : TemplateNames) : Toml.Entries := [
  ("index", .string names.index),
  ("sitemap", .string names.sitemap),
  ("newsfeed", .string names.newsfeed)]

def outputEntries (names : OutputNames) : Toml.Entries := [
  ("index", .string names.index),
  ("sitemap", .string names.sitemap),
  ("newsfeed", .string names.newsfeed)]

def conventionEntries (conventions : Conventions) : Toml.Entries := [
  ("description_suffix", .string conventions.descriptionSuffix),
  ("directory_description", .string conventions.directoryDescription),
  ("directory_content", .string conventions.directoryContent),
  ("news_suffix", .string conventions.newsSuffix),
  ("link_suffix", .string conventions.linkSuffix),
  ("icon_suffix", .string conventions.iconSuffix),
  ("directory_icon", .string conventions.directoryIcon),
  ("file_icon", .string conventions.fileIcon),
  ("max_lines", .integer conventions.maxLines)]

def toEntries (settings : Settings) : Toml.Entries := [
  ("templates", .table (templateEntries settings.templates)),
  ("outputs", .table (outputEntries settings.outputs)),
  ("conventions", .table (conventionEntries settings.conventions))]

theorem toToml_eq (settings : Settings) : settings.toToml = .table settings.toEntries :=
  rfl

theorem templateFields_fills :
    templateFields.Fills templateEntries .stock fun _ => True where
  keys _ := rfl
  distinct := by decide
  stores := by
    simp only [templateFields, List.forall_mem_cons]
    refine ⟨?_, ?_, ?_, List.forall_mem_nil _⟩ <;>
    · rintro given value _ - ⟨⟩ -
      exact Fields.fills_text (fun _ _ => rfl) given value _

theorem outputFields_fills :
    outputFields.Fills outputEntries .stock fun _ => True where
  keys _ := rfl
  distinct := by decide
  stores := by
    simp only [outputFields, List.forall_mem_cons]
    refine ⟨?_, ?_, ?_, List.forall_mem_nil _⟩ <;>
    · rintro given value _ - ⟨⟩ -
      exact Fields.fills_text (fun _ _ => rfl) given value _

theorem conventionFields_fills :
    conventionFields.Fills conventionEntries .stock fun _ => True where
  keys _ := rfl
  distinct := by decide
  stores := by
    simp only [conventionFields, List.forall_mem_cons]
    refine ⟨?_, ?_, ?_, ?_, ?_, ?_, ?_, ?_, ?_, List.forall_mem_nil _⟩ <;>
    · rintro given value _ - ⟨⟩ -
      first
        | exact Fields.fills_text (fun _ _ => rfl) given value _
        | exact Fields.fills_count (fun _ _ => rfl) given value _

/-- A section that has its stock value is filled in by reading it as a group of fields. -/
theorem Fields.fills_section {β : Type} {group : Fields β} {entries : β → Toml.Entries} {stock : β}
    (fills : group.Fills entries stock fun _ => True) {key : String} {put : β → Settings → Settings}
    (puts : ∀ value settings,
      (put value settings).toEntries = Toml.putKey key (.table (entries value)) settings.toEntries)
    {given : Toml} (once : given.KeysOnce) (settings : Settings) :
    ((group.read stock given).map fun value => put value settings).map toEntries =
      (Toml.fillIn (.table (entries stock)) given).map fun filled =>
        Toml.putKey key filled settings.toEntries := by
  rw [← fills.read once, Option.map_map, Option.map_map]
  exact congrArg (Option.map · _) (funext fun value => puts value settings)

theorem fields_fills : fields.Fills toEntries .stock Toml.KeysOnce where
  keys _ := rfl
  distinct := by decide
  stores := by
    simp only [fields, List.forall_mem_cons]
    refine ⟨?_, ?_, ?_, List.forall_mem_nil _⟩
    · rintro given settings _ once - ⟨⟩
      have puts (templates) (settings : Settings) : toEntries { settings with templates } =
          Toml.putKey "templates" (.table (templateEntries templates)) settings.toEntries := rfl
      exact Fields.fills_section templateFields_fills puts once settings
    · rintro given settings _ once - ⟨⟩
      have puts (outputs) (settings : Settings) : toEntries { settings with outputs } =
          Toml.putKey "outputs" (.table (outputEntries outputs)) settings.toEntries := rfl
      exact Fields.fills_section outputFields_fills puts once settings
    · rintro given settings _ once - ⟨⟩
      have puts (conventions) (settings : Settings) : toEntries { settings with conventions } =
          Toml.putKey "conventions" (.table (conventionEntries conventions)) settings.toEntries := rfl
      exact Fields.fills_section conventionFields_fills puts once settings

theorem stock_fillable : (toToml .stock).Stock := by
  rw [toToml_eq]
  refine .table (by decide) ?_
  simp only [toEntries, List.forall_mem_cons]
  refine ⟨.table (by decide) ?_, .table (by decide) ?_, .table (by decide) ?_,
    List.forall_mem_nil _⟩
  · simp only [templateEntries, List.forall_mem_cons]
    exact ⟨.string _, .string _, .string _, List.forall_mem_nil _⟩
  · simp only [outputEntries, List.forall_mem_cons]
    exact ⟨.string _, .string _, .string _, List.forall_mem_nil _⟩
  · simp only [conventionEntries, List.forall_mem_cons]
    exact ⟨.string _, .string _, .string _, .string _, .string _, .string _, .string _, .string _,
      .count _, List.forall_mem_nil _⟩

theorem toToml_injective {settings settings' : Settings}
    (same : settings.toToml = settings'.toToml) : settings = settings' := by
  obtain ⟨templates, outputs, conventions⟩ := settings
  obtain ⟨templates', outputs', conventions'⟩ := settings'
  cases templates
  cases outputs
  cases conventions
  cases conventions'
  simp_all [toToml, Int.natCast_inj]

/-- The settings that a table stands for are the stock settings, filled in with it. -/
theorem map_toToml_ofToml? {entries : Toml.Entries} (once : (Toml.table entries).KeysOnce) :
    (ofToml? (.table entries)).map toToml = Toml.fillIn (toToml .stock) (.table entries) := by
  cases once with
  | plain plain => cases plain
  | table distinct inner => exact fields_fills.read_table ⟨distinct, inner⟩

theorem ofToml?_eq_some_iff {entries : Toml.Entries} (once : (Toml.table entries).KeysOnce)
    {settings : Settings} :
    ofToml? (.table entries) = some settings ↔
      Toml.fillIn (toToml .stock) (.table entries) = some settings.toToml := by
  rw [← map_toToml_ofToml? once]
  constructor
  · exact congrArg (Option.map toToml)
  · exact fun same => Option.map_injective (fun _ _ => toToml_injective) same

theorem ofToml?_eq_none_iff {entries : Toml.Entries} (once : (Toml.table entries).KeysOnce) :
    ofToml? (.table entries) = none ↔
      Toml.fillIn (toToml .stock) (.table entries) = none := by
  rw [← map_toToml_ofToml? once, Option.map_eq_none_iff]

/-- A table reads the same when it has been laid over the stock settings. -/
theorem ofToml?_overlay {entries : Toml.Entries} (once : (Toml.table entries).KeysOnce) :
    ofToml? (Toml.overlay (toToml .stock) (.table entries)) = ofToml? (.table entries) := by
  have laid : (Toml.overlay (toToml .stock) (.table entries)).KeysOnce :=
    stock_fillable.keysOnce.overlay once
  have filled := stock_fillable.fillIn_overlay once
  rw [toToml_eq, Toml.overlay] at laid filled ⊢
  rw [← toToml_eq, ← map_toToml_ofToml? laid, ← map_toToml_ofToml? once] at filled
  exact Option.map_injective (fun _ _ => toToml_injective) filled

theorem accept_eq_ok_iff {value : Toml} {settings : Settings} :
    accept value = .ok settings ↔ ofToml? value = some settings ∧ settings.defect? = none := by
  unfold accept
  cases ofToml? value with
  | none => simp
  | some read =>
    dsimp only
    cases found : read.defect? with
    | none =>
      constructor
      · rintro ⟨⟩
        exact ⟨rfl, found⟩
      · rintro ⟨⟨⟩, -⟩
        rfl
    | some defect =>
      constructor
      · rintro ⟨⟩
      · rintro ⟨⟨⟩, valid⟩
        cases found.symm.trans valid

theorem accept_eq_malformed_iff {value : Toml} :
    accept value = .error .malformed ↔ ofToml? value = none := by
  unfold accept
  cases ofToml? value with
  | none => simp
  | some read =>
    dsimp only
    cases read.defect? <;> simp

theorem accept_eq_invalid_iff {value : Toml} {defect : Defect} :
    accept value = .error (.invalid defect) ↔
      ∃ settings, ofToml? value = some settings ∧ settings.defect? = some defect := by
  unfold accept
  cases ofToml? value with
  | none => simp
  | some read =>
    dsimp only
    cases found : read.defect? <;> simp [found]

/-- To lay a table over the stock settings and to read it alone come to the same settings, or to the same
error: the stock settings are filled in with the table and then validated. That a table holds each key once
is so of whatever has been read from a file (`keysOnce_loadFile`). -/
theorem resolve_over_stock {given : Toml.Entries} (once : (Toml.table given).KeysOnce) :
    resolve (toToml .stock) (some (.table given)) = accept (.table given) ∧
      (∀ settings, accept (.table given) = .ok settings ↔
        Toml.fillIn (toToml .stock) (.table given) = some settings.toToml ∧
          settings.defect? = none) ∧
      (accept (.table given) = .error .malformed ↔
        Toml.fillIn (toToml .stock) (.table given) = none) ∧
      ∀ defect, accept (.table given) = .error (.invalid defect) ↔
        ∃ settings : Settings,
          Toml.fillIn (toToml .stock) (.table given) = some settings.toToml ∧
            settings.defect? = some defect := by
  refine ⟨?_, fun settings => ?_, ?_, fun defect => ?_⟩
  · rw [resolve, accept, accept, ofToml?_overlay once]
  · rw [accept_eq_ok_iff, ofToml?_eq_some_iff once]
  · rw [accept_eq_malformed_iff, ofToml?_eq_none_iff once]
  · simp only [accept_eq_invalid_iff, ofToml?_eq_some_iff once]

theorem resolve_over_stock_sparse :
    Toml.KeysOnce (.table [("outputs", .array [.string "main.htm"]),
      ("conventions", .table [("max_lines", .integer 20)])]) ∧
    resolve (toToml .stock) (some (.table [("outputs", .array [.string "main.htm"]),
      ("conventions", .table [("max_lines", .integer 20)])])) =
      .ok { Settings.stock with
        outputs := { OutputNames.stock with index := "main.htm" }
        conventions := { Conventions.stock with maxLines := 20 } } := by
  have once : Toml.KeysOnce (.table [("outputs", .array [.string "main.htm"]),
      ("conventions", .table [("max_lines", .integer 20)])]) := by
    refine .table (by decide) ?_
    simp only [List.forall_mem_cons]
    exact ⟨.plain rfl, .table (by decide) (by simpa using .plain rfl), List.forall_mem_nil _⟩
  refine ⟨once, ?_⟩
  rw [(resolve_over_stock once).1]
  rfl

end SiteIndex.Settings
