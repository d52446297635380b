import Graft.Text

/-!
# Text as bytes

Files hold bytes; a text is stored in UTF-8.

* `Text.ofBytes?_bytes`: a stored text reads back as itself.
* `Text.bytes_of_ofBytes?`: bytes that read as a text are that text, stored.
-/

namespace Graft.Text

/-- The bytes that a text is stored as. -/
def bytes (t : Text) : ByteArray :=
  (String.ofList t).toUTF8

/-- The text that the bytes store, when they are valid UTF-8. -/
def ofBytes? (b : ByteArray) : Option Text :=
  (String.fromUTF8? b).map String.toList

/-- A stored text reads back as itself. -/
@[simp]
theorem ofBytes?_bytes (t : Text) : ofBytes? (bytes t) = some t := by
  have h : String.fromUTF8? (String.ofList t).toUTF8 = some (String.ofList t) :=
    dif_pos (String.ofList t).isValidUTF8
  rw [ofBytes?, bytes, h]
  simp

/-- Bytes that read as a text are that text, stored. -/
theorem bytes_of_ofBytes? {b : ByteArray} {t : Text} (h : ofBytes? b = some t) : bytes t = b := by
  unfold ofBytes? String.fromUTF8? at h
  split at h
  · simp only [Option.map_some, Option.some.injEq] at h
    subst h
    simp only [bytes, String.ofList_toList]
    rfl
  · simp at h

/-- Bytes read as a text exactly when they are that text, stored. -/
theorem ofBytes?_eq_some_iff {b : ByteArray} {t : Text} : ofBytes? b = some t ↔ b = bytes t := by
  constructor
  · intro h
    exact (bytes_of_ofBytes? h).symm
  · rintro rfl
    exact ofBytes?_bytes t

end Graft.Text
