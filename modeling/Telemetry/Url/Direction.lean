import Telemetry.Text.Mark
/-!
# Url — directions of labels

Where a domain name holds a letter that is written from right to left,
each of its labels has to begin and end with a letter or number of its
own direction, so that labels do not run into each other when they are
shown. The classes are those of Unicode 15.
-/

namespace Telemetry

namespace Label

open Text

/-- How a character runs. -/
inductive Direction where
  /-- From left to right. -/
  | left
  /-- From right to left. -/
  | right
  /-- A letter of the Arabic script. -/
  | arabic
  | arabicDigit
  | digit
  /-- A sign within numbers, or one that runs as what is around it. -/
  | neutral
  /-- A mark on the character before it. -/
  | mark
  deriving DecidableEq, Repr

/-- Letters from right to left. -/
def rightLetters : CharSet := .ofTable "
5be 5c0 5c3 5c6 5d0-5f4 7c0-7ea 7f4-7f5 7fa 7fe-815 81a 824 828 830-858 85e 10800-1091b
10920-10a00 10a10-10a35 10a40-10ae4 10aeb-10b35 10b40-10cff 10e80-10ea9 10ead-10eb1 10f00-10f27
10f70-10f81 10f86-10ff6 1e800-1e8cf 1e922-1e943 1e94b-1e95f"

/-- Arabic letters. -/
def arabicLetters : CharSet := .ofTable "
608 60b 60d 61b-64a 66d-66f 671-6d5 6e5-6e6 6ee-6ef 6fa-710 712-72f 74d-7a5 7b1 860-88e 8a0-8c9
fbb2-fbc2 fe73 10d00-10d23 10f30-10f45 10f51-10f59 1ec71-1ed3d"

/-- Arabic digits. -/
def arabicDigits : CharSet := .ofTable "660-669 66b-66c 10d30-10e7e"

/-- Other digits. -/
def digits : CharSet := .ofTable "30-39 6f0-6f9 102e1-102fb"

/-- Signs within numbers, and what has no direction. -/
def neutrals : CharSet := .ofTable "
2b 2d 2212
2c 2e-2f 3a 60c 2044
23-25 a2-a5 b0-b1 58f 609-60a 66a 9f2-9f3 9fb af1 bf9 e3f 17db 2030-2032 20a0-20c0 212e 2213
a838-a839 11fdd-11fe0 1e2ff
9-d 1c-22 26-2a 3b-60 7b-7e a1 a6-ae b6-d7 f7 2b9-2ba 2c2-2cf 2d2-2ed 2ef-2ff 375 3f6 58a-58e
606-607 60e-60f 6de 6e9 7f6-7f9 bf3-bf8 bfa c78-c7e f3a-f3d 1390-1399 1400 169b-169c 17f0-180a
1940-1945 19de-19ff 2010-2027 2035-2043 2045-205e 2104-2129 213a-214d 218a-2211 2214-2335
237b-2394 2396-26ab 26ad-27ff 2900-2bff 2ce5-2cea 2cf9-2cff 2e00-3004 3008-3020 3030 3037
303d-303f 30a0 30fb 31c0-31e3 4dc0-4dff a490-a4c6 a60d-a60f a673 a67e-a67f a700-a721 a788
a828-a82b a874-a877 ab6a-ab6b fd3e-fdff fe45-fe46 10101 10140-1018c 10190-101a0 1091f 10b39-10b3f
11052-11065 11660-1166c 11fd5-11fdc 11fe1-11ff1 16fe2 1d1e9-1d241 1d245 1d300-1d356 1eef0-1f12f
1f16d-1f16f 1f1ad 1f260-1fbca
200c-200d"

/-- Marks that run as letters from left to right. -/
def leftMarks : CharSet := .ofTable "cbf cc6 11a07-11a08 11c3f"

/-- The direction of a character. -/
def Direction.of (c : Char) : Direction :=
  if nonspacingMarks.contains c && !leftMarks.contains c then .mark
  else if rightLetters.contains c then .right
  else if arabicLetters.contains c then .arabic
  else if arabicDigits.contains c then .arabicDigit
  else if digits.contains c then .digit
  else if neutrals.contains c then .neutral
  else .left

/-- Whether a character makes the directions of a name matter. -/
def Direction.isTurned : Direction → Bool
  | .right | .arabic | .arabicDigit => true
  | _ => false

/-- The last direction before the marks at the end. -/
def lastDirection? (ds : List Direction) : Option Direction :=
  (ds.reverse.dropWhile (· == .mark)).head?

/-- Whether a label from left to right keeps its direction. -/
def keepsLeft (ds : List Direction) : Bool :=
  !ds.any Direction.isTurned && (lastDirection? ds).all fun d => d == .left || d == .digit

/-- Whether a label from right to left keeps its direction. -/
def keepsRight (ds : List Direction) : Bool :=
  !ds.contains .left && !(ds.contains .digit && ds.contains .arabicDigit) &&
    (lastDirection? ds).all fun d => d.isTurned || d == .digit

/-- Whether a label keeps its direction. -/
def keepsDirection (label : List Char) : Bool :=
  let ds := label.map Direction.of
  match ds with
  | [] => true
  | .left :: _ => keepsLeft ds
  | .right :: _ | .arabic :: _ => keepsRight ds
  | _ => false

end Label

end Telemetry
