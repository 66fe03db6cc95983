/-!
# Text buffers

A text with a cursor. What is written goes to the cursor, over the text that stands there, and the
cursor moves behind it.

`TextBuffer.drain` takes the text out of a buffer and leaves the buffer empty for more.
-/

namespace ChargingReport

/-- A text and a place in it. -/
structure TextBuffer where
  content : List Char
  cursor : Nat
  inRange : cursor ≤ content.length

namespace TextBuffer

/-- A buffer without text. -/
def empty : TextBuffer := ⟨[], 0, Nat.le_refl _⟩

/-- The text of the buffer. -/
def text (b : TextBuffer) : String := String.ofList b.content

/-- Writes a text at the cursor, over what stands there. -/
def write (b : TextBuffer) (written : List Char) : TextBuffer where
  content := b.content.take b.cursor ++ written ++ b.content.drop (b.cursor + written.length)
  cursor := b.cursor + written.length
  inRange := by
    have h := b.inRange
    simp only [List.length_append, List.length_take]
    omega

/-- Moves the cursor to the front. -/
def rewind (b : TextBuffer) : TextBuffer := ⟨b.content, 0, Nat.zero_le _⟩

/-- Cuts the text at the cursor. -/
def truncate (b : TextBuffer) : TextBuffer where
  content := b.content.take b.cursor
  cursor := b.cursor
  inRange := by
    have h := b.inRange
    simp only [List.length_take]
    omega

/-- The text of the buffer, and the buffer emptied. -/
def drain (b : TextBuffer) : String × TextBuffer := (b.text, b.rewind.truncate)

end TextBuffer

end ChargingReport
