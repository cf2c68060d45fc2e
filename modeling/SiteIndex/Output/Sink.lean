import SiteIndex.FileSystem.Access

/-!
What an expansion writes to. A sink also says which files can be read while it is being written,
because what is written to a file may be among them.
-/

namespace SiteIndex

structure Sink (ε σ : Type) where
  write : ByteArray → σ → Except ε Unit × σ
  files : σ → FileSystem

/-- A sink in memory that has room for so many bytes, or for any number. -/
structure Tray where
  files : FileSystem
  held : ByteArray
  room : Option Nat

inductive TrayFull where
  | full
  deriving DecidableEq, Repr

def TrayFull.message : TrayFull → String
  | full => "sink full"

namespace Tray

def empty (files : FileSystem) (room : Option Nat) : Tray :=
  ⟨files, .empty, room⟩

/-- Takes what there is room for, and fails if that is not all. -/
def write (bytes : ByteArray) (tray : Tray) : Except TrayFull Unit × Tray :=
  match tray.room with
  | none => (.ok (), { tray with held := tray.held ++ bytes })
  | some room =>
      if bytes.size ≤ room then
        (.ok (), { tray with held := tray.held ++ bytes, room := some (room - bytes.size) })
      else
        (.error .full, { tray with held := tray.held ++ bytes.extract 0 room, room := some 0 })

def sink : Sink TrayFull Tray where
  write := write
  files := Tray.files

end Tray
end SiteIndex
