/-!
Lines of a file's bytes, which need not be text. A line here keeps its line feed.
-/

namespace SiteIndex.Text

/-- Where the line that `offset` lies in ends: behind its line feed, or at the end of the content. -/
def lineEnd (content : ByteArray) (offset : Nat) : Nat :=
  if h : offset < content.size then
    if content[offset] = 0x0a then offset + 1 else lineEnd content (offset + 1)
  else content.size
termination_by content.size - offset

/-- The bytes from `offset` to the end of the line. -/
def lineAt (content : ByteArray) (offset : Nat) : ByteArray :=
  content.extract offset (lineEnd content offset)

def endsInLineFeed (bytes : ByteArray) : Bool :=
  bytes.data.back? == some 0x0a

end SiteIndex.Text
