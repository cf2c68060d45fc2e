import SiteIndex.Toml.Basic

/-!
Laying one TOML value over another. Where both have a table, the tables are merged key by key;
anything else in the overlay replaces what lies under it.
-/

namespace SiteIndex.Toml

mutual

def overlay (base : Toml) : Toml → Toml
  | .table entries =>
      match base with
      | .table under => .table (overlayEntries under entries)
      | _ => .table entries
  | value => value

/-- Lays the entries over `base`, one after another. -/
def overlayEntries (base : Entries) : Entries → Entries
  | [] => base
  | (key, value) :: rest =>
      let merged := match base.lookup key with
        | some under => overlay under value
        | none => value
      overlayEntries (putKey key merged base) rest

end

end SiteIndex.Toml
