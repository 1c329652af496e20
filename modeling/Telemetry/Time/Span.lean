import Telemetry.Time.Instant
/-!
# Time — spans

A length of time in whole milliseconds, and the text shown for it: in
seconds from one second on, else in milliseconds. A duration may be finer,
down to nanoseconds, but policies are read from whole milliseconds, and
nothing here tells shorter times apart.
-/

namespace Telemetry

namespace Time

/-- A length of time, in whole milliseconds. -/
structure Span where
  millis : Nat
  deriving DecidableEq, Repr, Inhabited

namespace Span

instance : LT Span := ⟨fun a b => a.millis < b.millis⟩
instance (a b : Span) : Decidable (a < b) := inferInstanceAs (Decidable (a.millis < b.millis))

/-- The digits after the point: three, without the zeros at the end. -/
def fractionDigits (millis : Nat) : List Char :=
  ((Instant.padded 3 millis).reverse.dropWhile (· == '0')).reverse

/-- The text of a span: `0ns`, `999ms`, `15s`, `1.5s`. -/
def text (s : Span) : String :=
  if s.millis = 0 then "0ns"
  else if s.millis < 1000 then toString s.millis ++ "ms"
  else
    let whole := toString (s.millis / 1000)
    if s.millis % 1000 = 0 then whole ++ "s"
    else whole ++ "." ++ String.ofList (fractionDigits (s.millis % 1000)) ++ "s"

end Span

end Time

end Telemetry
