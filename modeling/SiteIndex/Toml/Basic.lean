import SiteIndex.Decimal.Binary64
import SiteIndex.Toml.Moment

/-!
TOML values. A table keeps its keys in the order in which they were given; looking a key up finds the
first, and storing under a key that is there replaces what it held.
-/

namespace SiteIndex

inductive Toml where
  | string (value : String)
  | integer (value : Int)
  | float (value : Decimal.Binary64)
  | boolean (value : Bool)
  | moment (value : Toml.Moment)
  | array (items : List Toml)
  | table (entries : List (String × Toml))

namespace Toml

abbrev Entries : Type := List (String × Toml)

/-- Stores `value` under `key`. -/
def putKey {α : Type} (key : String) (value : α) : List (String × α) → List (String × α)
  | [] => [(key, value)]
  | (other, old) :: rest =>
      if other = key then (other, value) :: rest else (other, old) :: putKey key value rest

/-- What a value holds under a path of keys, itself if the path is empty. -/
def at? : Toml → List String → Option Toml
  | value, [] => some value
  | .table entries, key :: path => (entries.lookup key).bind fun value => value.at? path
  | _, _ :: _ => none

def isTable : Toml → Bool
  | .table _ => true
  | _ => false

end Toml
end SiteIndex
