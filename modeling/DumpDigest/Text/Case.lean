import DumpDigest.Text.Case.Runs

/-! # Case mappings

Upper and lower case of single characters by the standard's full mappings, without regard to the
characters around them: the upper case of `ß` is `SS`, the lower case of `Σ` is always `σ`.
-/

namespace DumpDigest.Text

/-- Where a run sends a code point. -/
def CaseRun.image? (run : CaseRun) (code : Nat) : Option Nat :=
  if run.first ≤ code && code ≤ run.last && (code - run.first) % run.stride == 0 then
    some (run.target + (code - run.first))
  else
    none

/-- The image of a character beyond ASCII under a case mapping. -/
def mapCase (runs : List CaseRun) (expansions : List (Nat × List Nat)) (c : Char) : List Char :=
  match expansions.lookup c.toNat with
  | some codes => codes.map Char.ofNat
  | none =>
    match runs.findSome? (·.image? c.toNat) with
    | some code => [Char.ofNat code]
    | none => [c]

/-- The upper case of a character, which may be several characters. -/
def upper (c : Char) : List Char :=
  if c.toNat < 0x80 then [c.toUpper] else mapCase upperRuns upperExpansions c

/-- The lower case of a character, which may be several characters. -/
def lower (c : Char) : List Char :=
  if c.toNat < 0x80 then [c.toLower] else mapCase lowerRuns lowerExpansions c

/-- The text with its first character in upper case and all others in lower case. -/
def capitalize (text : String) : String :=
  match text.toList with
  | [] => ""
  | first :: others => String.ofList (upper first ++ others.flatMap lower)

end DumpDigest.Text
