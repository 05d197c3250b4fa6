import TopologyExporter.Number.Binary64

/-!
# Reading numbers

Decimal digits, and binary numbers from their decimal notation.
-/

namespace TopologyExporter

/-- The value of decimal digits. -/
def digitsValue (digits : List Char) : Nat :=
  digits.foldl (fun n c => n * 10 + (c.toNat - '0'.toNat)) 0

/-- The number that a text of decimal digits alone stands for. -/
def decimal? (cs : List Char) : Option Nat :=
  if cs.isEmpty || !cs.all Char.isDigit then none else some (digitsValue cs)

/-- A whole number with or without a sign. -/
def signedDecimal? : List Char → Option Int
  | '-' :: rest => (decimal? rest).map fun n => -n
  | '+' :: rest => (decimal? rest).map Int.ofNat
  | cs => (decimal? cs).map Int.ofNat

namespace Binary64

/-- Beyond this many places on either side of the point a number is infinite or zero. -/
def greatestPlace : Int := 5000

/-- The value of a decimal number without sign: digits, perhaps a point among them, perhaps an
exponent after them. -/
def ofUnsigned? (negative : Bool) (cs : List Char) : Option Binary64 := do
  let isMark (c : Char) : Bool := c = 'e' || c = 'E'
  let mantissa := cs.takeWhile fun c => !isMark c
  let exponent ←
    match cs.drop mantissa.length with
    | [] => some 0
    | _ :: rest => signedDecimal? rest
  let whole := mantissa.takeWhile (· ≠ '.')
  let fraction := (mantissa.drop whole.length).drop 1
  let digits := digitsValue (← some (whole ++ fraction) >>= fun ds =>
    if ds.isEmpty || !ds.all Char.isDigit then none else some ds)
  let exponent := exponent - fraction.length
  if digits = 0 then some (zero negative)
  else
    -- powers of ten that could not change the result are never computed
    let order := exponent + (toString digits).length
    if greatestPlace < order then some (infinite negative)
    else if order < -greatestPlace then some (zero negative)
    else some (ofDecimal negative digits exponent)

/-- The value of a text: a decimal number, `inf`, `infinity` or `nan` in any case, with or without
a sign. -/
def ofText? (text : String) : Option Binary64 :=
  let (negative, cs) :=
    match text.toList with
    | '-' :: rest => (true, rest)
    | '+' :: rest => (false, rest)
    | cs => (false, cs)
  match String.ofList (cs.map Char.toLower) with
  | "inf" => some (infinite negative)
  | "infinity" => some (infinite negative)
  | "nan" => some nan
  | _ => ofUnsigned? negative cs

end Binary64

end TopologyExporter
