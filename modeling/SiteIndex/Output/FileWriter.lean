import SiteIndex.FileSystem.Buffered
import SiteIndex.Output.Sink

/-!
A file of the file system as a sink. What has reached the file can be read while more is written.
-/

namespace SiteIndex

structure FileWriter where
  files : FileSystem
  out : BufferedFile

namespace FileWriter

def write (bytes : ByteArray) (writer : FileWriter) : Except FileError Unit × FileWriter :=
  let (result, files, out) := writer.out.write bytes writer.files
  (result, ⟨files, out⟩)

def sink : Sink FileError FileWriter where
  write := write
  files := FileWriter.files

end FileWriter
end SiteIndex
