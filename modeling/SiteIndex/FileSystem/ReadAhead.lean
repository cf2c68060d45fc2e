import SiteIndex.FileSystem.Access
import SiteIndex.Text.ByteLine

/-!
Reading a file line by line and ahead of the lines asked for. The file is read in chunks, and only
when the last chunk is used up: a line that lies in it is as the file was when the chunk was read,
whatever has been written to the file since.
-/

namespace SiteIndex

open SiteIndex.Text

/-- A file open for reading: how many of its bytes have been read, the chunk read last, and how many
bytes of that have been taken. -/
structure ReadAhead where
  location : Location
  offset : Nat
  chunk : ByteArray
  taken : Nat

namespace ReadAhead

def chunkSize : Nat := 8192

def ofLocation (location : Location) : ReadAhead :=
  ⟨location, 0, .empty, 0⟩

/-- How far the file has been read once chunks after `offset` reach up to `stop`. -/
def chunksEnd (content : ByteArray) (offset stop : Nat) : Nat :=
  let chunks := (stop - offset + (chunkSize - 1)) / chunkSize
  max stop (min content.size (offset + chunks * chunkSize))

/-- Takes the next line, its line feed included. At the end of the file there are no bytes in it. -/
def takeLine (reader : ReadAhead) (files : FileSystem) :
    Except FileError (ByteArray × ReadAhead) :=
  let line := lineAt reader.chunk reader.taken
  if endsInLineFeed line then .ok (line, { reader with taken := reader.taken + line.size })
  else
    match files.content reader.location with
    | .error cause => .error cause
    | .ok content =>
        let stop := max reader.offset (lineEnd content reader.offset)
        let offset := chunksEnd content reader.offset stop
        .ok (line ++ content.extract reader.offset stop,
          { reader with offset, chunk := content.extract stop offset, taken := 0 })

end ReadAhead
end SiteIndex
