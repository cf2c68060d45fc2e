/-!
Entries of a directory and the order in which they are listed: by name, byte by byte, with capital
and small ASCII letters taken as equal. An entry is put in behind those that equal it, so names that
differ in case alone keep the order in which they came.
-/

namespace SiteIndex.Listing

structure Entry where
  name : String
  /-- The size in kilobytes, rounded to the nearest. -/
  sizeKb : Nat
  isDirectory : Bool
  deriving DecidableEq, Repr

def Entry.ofSize (name : String) (bytes : Nat) (isDirectory : Bool) : Entry :=
  ⟨name, (bytes + 512) / 1024, isDirectory⟩

/-- The small letter for a capital ASCII letter, any other byte as it is. -/
def foldCase (byte : UInt8) : UInt8 :=
  if 0x41 ≤ byte ∧ byte ≤ 0x5a then byte + 0x20 else byte

def foldedBytes (name : String) : List UInt8 :=
  name.toUTF8.toList.map foldCase

/-- The order of the first bytes that differ; a list comes before those that continue it. -/
def compareBytes : List UInt8 → List UInt8 → Ordering
  | [], [] => .eq
  | [], _ :: _ => .lt
  | _ :: _, [] => .gt
  | a :: as, b :: bs => if a < b then .lt else if b < a then .gt else compareBytes as bs

def compareNames (a b : String) : Ordering :=
  compareBytes (foldedBytes a) (foldedBytes b)

/-- Puts `entry` before the first entry with a greater name. -/
def insertEntry (entry : Entry) : List Entry → List Entry
  | [] => [entry]
  | other :: rest =>
      if compareNames entry.name other.name = .lt then entry :: other :: rest
      else other :: insertEntry entry rest

end SiteIndex.Listing
