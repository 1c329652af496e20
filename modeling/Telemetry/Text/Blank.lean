/-!
# Text — blank characters

The white space of the Unicode standard, as a predicate on characters,
and the trimming built on it. Frames, node strings and time stamps are
all trimmed by this one class, which is wider than the six characters
of `Char.isWhitespace`.
-/

namespace Telemetry

namespace Text

/-- A character is blank when the standard's `White_Space` property
holds of it. -/
def isBlank (c : Char) : Bool :=
  let n := c.toNat
  (0x09 ≤ n && n ≤ 0x0D) || n == 0x20 || n == 0x85 || n == 0xA0 || n == 0x1680 ||
  (0x2000 ≤ n && n ≤ 0x200A) || n == 0x2028 || n == 0x2029 || n == 0x202F ||
  n == 0x205F || n == 0x3000

/-- Drops blanks at the front. -/
def trimFront (cs : List Char) : List Char := cs.dropWhile isBlank

/-- Drops blanks at both ends. -/
def trim (cs : List Char) : List Char :=
  ((trimFront cs).reverse.dropWhile isBlank).reverse

/-- What is left after dropping blanks at the front starts with none. -/
theorem head?_trimFront (cs : List Char) :
    ∀ c, (trimFront cs).head? = some c → isBlank c = false := by
  intro c h
  have := List.head?_dropWhile_not isBlank cs
  rw [trimFront] at h
  rw [h] at this
  simpa using this

end Text

end Telemetry
