import DumpDigest.Decimal.Shortest

/-! # Layouts of float text

How the shortest digits of a float are laid out as text. A `Layout` holds the decisions of one
format; the two formats of this library are `plain`, in which values are shown, and `json`.
-/

namespace DumpDigest.Decimal

/-- The decisions of a text format for floats. -/
structure Layout where
  /-- Which of two equally short and equally near decimals is taken. -/
  tie : Tie
  /-- The least exponent of the first digit that is written without an exponent mark. -/
  leastPositional : Int
  /-- The mark of an exponent that is not negative. -/
  plusMark : String
  /-- The text of an infinity without its sign. -/
  infinity : String
  /-- Whether an infinity has a sign. -/
  signedInfinity : Bool
  /-- The text of a float that is not a number. -/
  notANumber : String

namespace Layout

/-- Floats in displayed values: positional from `1e-4` on, exponents without a plus sign. -/
def plain : Layout :=
  ⟨.away, -4, "", "inf", true, "NaN"⟩

/-- Floats in JSON: positional from `1e-5` on, exponents always signed, and `null` for what JSON has
no number for. -/
def json : Layout :=
  ⟨.even, -5, "+", "null", false, "null"⟩

/-- The exponents below this one are written positionally, from the layout's least on. -/
def positionalEnd : Int := 16

/-- Digits with the point after `place` of them, at least one digit on either side of it. -/
def withPoint (digits : List Char) (place : Int) : String :=
  let padded := List.replicate (1 - place).toNat '0' ++ digits ++
    List.replicate (place + 1 - digits.length).toNat '0'
  let whole := max place 1
  String.ofList (padded.take whole.toNat ++ '.' :: padded.drop whole.toNat)

/-- The text of a positive decimal. -/
def positive (layout : Layout) (decimal : Scientific) : String :=
  let digits := Nat.toDigits 10 decimal.digits
  let exponent := decimal.exponent + digits.length - 1
  if layout.leastPositional ≤ exponent && exponent < positionalEnd then
    withPoint digits (exponent + 1)
  else
    let fraction := if digits.length ≤ 1 then [] else '.' :: digits.drop 1
    let sign := if exponent < 0 then "-" else layout.plusMark
    String.ofList (digits.take 1 ++ fraction) ++ "e" ++ sign ++ exponent.natAbs.repr

/-- The sign before a number. -/
def sign (negative : Bool) : String :=
  if negative then "-" else ""

/-- The text of a float. -/
def text (layout : Layout) (x : Float) : String :=
  match FloatClass.of x with
  | .notANumber => layout.notANumber
  | .infinite negative => sign (negative && layout.signedInfinity) ++ layout.infinity
  | .zero negative => sign negative ++ "0.0"
  | .finite negative value => sign negative ++ layout.positive (value.shortest layout.tie)

end Layout

end DumpDigest.Decimal
