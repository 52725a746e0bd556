import CloudInventory.Binary64.Shortest

/-!
# Layouts of a decimal

Two ways to write the shortest decimal of a double. The plain layout never uses
an exponent and shows no point where the value is whole. The scientific layout
is plain with a point near one and switches to an exponent elsewhere.
-/

namespace CloudInventory

namespace Decimal

/-- Digits with a point after `whole` of them; zeros fill the gap on either side. -/
def pointed (digits : List Char) (whole : Int) (keepPoint : Bool) : List Char :=
  if whole ≤ 0 then
    '0' :: '.' :: (List.replicate (-whole).toNat '0' ++ digits)
  else
    let count := whole.toNat
    if digits.length ≤ count then
      digits ++ List.replicate (count - digits.length) '0' ++
        (if keepPoint then ['.', '0'] else [])
    else
      digits.take count ++ '.' :: digits.drop count

/-- The number of digits before the point in plain notation; zero or less for a
value below one. -/
def wholeDigits (d : Decimal) : Int :=
  ((Text.numeral d.digits).length : Int) + d.exponent

/-- Plain notation without an exponent; a whole value shows no point. -/
def plain (d : Decimal) : List Char :=
  if d.digits = 0 then ['0']
  else pointed (Text.numeral d.digits) d.wholeDigits false

/-- The exponents of the leading digit that are written without exponent. -/
def isPositional (leading : Int) : Bool :=
  decide (-5 ≤ leading) && decide (leading ≤ 15)

/-- One digit before the point, then the exponent with its sign. -/
def withExponent (digits : List Char) (leading : Int) : List Char :=
  let mantissa := match digits with
    | first :: second :: rest => first :: '.' :: second :: rest
    | short => short
  let sign := if leading < 0 then '-' else '+'
  mantissa ++ 'e' :: sign :: Text.numeral leading.natAbs

/-- Plain notation with a point for leading exponents from -5 to 15, and an
exponent outside. -/
def scientific (d : Decimal) : List Char :=
  if d.digits = 0 then ['0', '.', '0']
  else
    let digits := Text.numeral d.digits
    if isPositional (d.wholeDigits - 1) then pointed digits d.wholeDigits true
    else withExponent digits (d.wholeDigits - 1)

end Decimal

namespace Binary64

/-- A minus sign for a negative number, zero included. -/
def signChars (x : Binary64) : List Char :=
  if x.negative then ['-'] else []

/-- The shortest plain text of the number, as messages and identifiers show it. -/
def plainChars (x : Binary64) : List Char :=
  x.signChars ++ (x.shortest .up).plain

/-- The shortest text of the number as a JSON literal: it always shows a point
or an exponent, so it reads back as a fractional literal. -/
def literalChars (x : Binary64) : List Char :=
  x.signChars ++ (x.shortest .even).scientific

end Binary64

end CloudInventory
