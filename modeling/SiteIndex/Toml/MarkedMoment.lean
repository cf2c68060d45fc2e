import SiteIndex.Toml.Scalar

/-!
Tables that stand for moments. A moment travels through some formats as a table with one reserved
key, the marker, which holds its text. A document may spell such a table out itself: whatever table
begins with the marker is the moment that the marker's value spells, and the rest of it is not looked
at. Where the marker comes later it is a key like any other.
-/

namespace SiteIndex.Toml

def momentMarker : String := "$__toml_private_datetime"

/-- The moment that a text spells. An hour may be 24 here, and an offset is limited only to a day. -/
def Moment.ofText? (text : String) : Option Moment := do
  let withinDay := fun hours minutes => decide (hours * 60 + minutes ≤ 24 * 60)
  let reader := Reader.momentOf (Reader.timeOfDay 24) (Reader.offsetThat withinDay)
  match ← reader text.toList with
  | (spelled, []) => some spelled
  | (_, _ :: _) => none

mutual

/-- The value with every table that begins with the marker turned into its moment; nothing if one of
them does not spell any. -/
def unmarked? : Toml → Option Toml
  | .table [] => some (.table [])
  | .table ((key, value) :: rest) =>
      if key = momentMarker then
        match value with
        | .string text => .moment <$> Moment.ofText? text
        | _ => none
      else do
        let value ← unmarked? value
        return .table ((key, value) :: (← unmarkedEntries? rest))
  | .array items => .array <$> unmarkedItems? items
  | value => some value

def unmarkedEntries? : Entries → Option Entries
  | [] => some []
  | (key, value) :: rest => do
      let value ← unmarked? value
      return (key, value) :: (← unmarkedEntries? rest)

def unmarkedItems? : List Toml → Option (List Toml)
  | [] => some []
  | value :: rest => do
      let value ← unmarked? value
      return value :: (← unmarkedItems? rest)

end

end SiteIndex.Toml
