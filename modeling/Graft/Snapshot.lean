import Graft.Fingerprint
import Graft.Text.Bytes
import Graft.Text.Line

/-!
# Snapshots

A snapshot is what was read of a file: its lines, its line ending, and the fingerprint by which a
later change of the file is noticed.

* `Snapshot.text_ofText`: a snapshot keeps its text.
* `Snapshot.isUnchanged_ofText`: the bytes that a snapshot was made from count as unchanged.
-/

namespace Graft

/-- A file as it was read. -/
structure Snapshot where
  /-- The path that was read. -/
  path : String
  /-- The lines of the text, with their terminators. -/
  lines : List Line
  /-- The line ending of the text. -/
  ending : LineEnding
  /-- The fingerprint of the bytes that were read. -/
  fingerprint : UInt64
  deriving DecidableEq, Repr

namespace Snapshot

/-- The snapshot of a file with the given text. -/
def ofText (path : String) (text : Text) : Snapshot where
  path := path
  lines := text.lines
  ending := .detect text
  fingerprint := Graft.fingerprint text.bytes

/-- The text that was read. -/
def text (snapshot : Snapshot) : Text :=
  snapshot.lines.flatten

/-- Whether bytes have the fingerprint of the snapshot. -/
def isUnchanged (snapshot : Snapshot) (bytes : ByteArray) : Bool :=
  Graft.fingerprint bytes = snapshot.fingerprint

/-- A snapshot keeps its text. -/
@[simp]
theorem text_ofText (path : String) (text : Text) : (ofText path text).text = text :=
  Text.flatten_lines text

/-- The bytes that a snapshot was made from count as unchanged. -/
@[simp]
theorem isUnchanged_ofText (path : String) (text : Text) :
    (ofText path text).isUnchanged text.bytes := by
  simp [isUnchanged, ofText]

end Snapshot

end Graft
