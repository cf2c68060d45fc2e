import SiteIndex.Toml.Basic

/-!
How the tables of a TOML document grow from its lines. A table is opened by its own header, or comes
about on the way to another header or by a dotted key. Which of these it was decides what may still
be added: a header opens a table once, and a dotted key extends only what dotted keys have made.
-/

namespace SiteIndex.Toml

inductive Origin where
  | header
  | wayToHeader
  | dottedKey
  deriving DecidableEq, Repr

/-- A part of a document in the making. -/
inductive Part where
  | leaf (value : Toml)
  | branch (origin : Origin) (entries : List (String × Part))
  /-- The tables of an array: the last, which is still open, and those before it, backwards. -/
  | series (last : List (String × Part)) (closed : List (List (String × Part)))

namespace Part

abbrev Entries : Type := List (String × Part)

/-- Changes what stands under a path of headers, making tables on the way. -/
def descend (change : Entries → Option Entries) : (path : List String) → Entries → Option Entries
  | [], entries => change entries
  | key :: path, entries =>
      match entries.lookup key with
      | none => do
          let inner ← descend change path []
          return putKey key (.branch .wayToHeader inner) entries
      | some (.branch origin inner) => do
          let inner ← descend change path inner
          return putKey key (.branch origin inner) entries
      | some (.series inner closed) => do
          let inner ← descend change path inner
          return putKey key (.series inner closed) entries
      | some (.leaf _) => none

/-- Opens the table `key` for its own header. It comes after what is there, even if it came about
before that on the way to another header. -/
def openTable (key : String) (entries : Entries) : Option Entries :=
  match entries.lookup key with
  | none => some (entries ++ [(key, .branch .header [])])
  | some (.branch .wayToHeader inner) =>
      some (entries.filter (fun (other, _) => other != key) ++ [(key, .branch .header inner)])
  | some _ => none

/-- Opens one more table of the array `key`. -/
def openElement (key : String) (entries : Entries) : Option Entries :=
  match entries.lookup key with
  | none => some (putKey key (.series [] []) entries)
  | some (.series inner closed) => some (putKey key (.series [] (inner :: closed)) entries)
  | some _ => none

/-- Stores a value under a key that is not there yet. -/
def addLeaf (key : String) (value : Toml) (entries : Entries) : Option Entries :=
  if (entries.lookup key).isSome then none else some (putKey key (.leaf value) entries)

/-- Stores a value under a dotted key. The last table on the way must have come about by dotted
keys. -/
def addDotted (value : Toml) : (path : List String) → (key : String) → Entries → Option Entries
  | [], key, entries => addLeaf key value entries
  | step :: path, key, entries =>
      match entries.lookup step with
      | none => do
          let inner ← addDotted value path key []
          return putKey step (.branch .dottedKey inner) entries
      | some (.branch origin inner) =>
          if origin = .header ∨ (path = [] ∧ origin ≠ .dottedKey) then none
          else do
            let inner ← addDotted value path key inner
            return putKey step (.branch origin inner) entries
      | some (.series inner closed) =>
          if path = [] then none
          else do
            let inner ← addDotted value path key inner
            return putKey step (.series inner closed) entries
      | some (.leaf _) => none

mutual

def value : Part → Toml
  | .leaf value => value
  | .branch _ entries => .table (values entries)
  | .series last closed => .array ((seriesValues closed).reverse ++ [.table (values last)])

def values : List (String × Part) → List (String × Toml)
  | [] => []
  | (key, part) :: rest => (key, value part) :: values rest

def seriesValues : List (List (String × Part)) → List Toml
  | [] => []
  | entries :: rest => .table (values entries) :: seriesValues rest

end

end Part
end SiteIndex.Toml
