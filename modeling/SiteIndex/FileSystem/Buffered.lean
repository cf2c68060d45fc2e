import SiteIndex.FileSystem.Access

/-!
Writing to a file through a buffer. Bytes wait in the buffer until more come than fit, so what
stands in the file lags behind what has been written, until the buffer is flushed.
-/

namespace SiteIndex

structure BufferedFile where
  file : OpenFile
  waiting : ByteArray

namespace BufferedFile

/-- How many bytes the buffer holds. -/
def capacity : Nat := 8192

def ofFile (file : OpenFile) : BufferedFile :=
  ⟨file, .empty⟩

/-- Passes what waits on to the file. What cannot be written stays in the buffer. -/
def flush (out : BufferedFile) (files : FileSystem) :
    Except FileError Unit × FileSystem × BufferedFile :=
  match files.write out.file out.waiting with
  | .ok (files, file) => (.ok (), files, ofFile file)
  | .error cause => (.error cause, files, out)

/-- Takes `bytes` when the buffer has been emptied as far as it has to be. A piece that would fill
the buffer alone goes straight to the file. -/
def take (out : BufferedFile) (bytes : ByteArray) (files : FileSystem) :
    Except FileError Unit × FileSystem × BufferedFile :=
  if capacity ≤ bytes.size then
    match files.write out.file bytes with
    | .ok (files, file) => (.ok (), files, { out with file })
    | .error cause => (.error cause, files, out)
  else (.ok (), files, { out with waiting := out.waiting ++ bytes })

def write (out : BufferedFile) (bytes : ByteArray) (files : FileSystem) :
    Except FileError Unit × FileSystem × BufferedFile :=
  if out.waiting.size + bytes.size ≤ capacity then take out bytes files
  else match out.flush files with
    | (.ok _, files, out) => take out bytes files
    | failed => failed

end BufferedFile
end SiteIndex
