namespace TopicWiki.Decimal

/-- A finite double is `mantissa * 2 ^ exponent`, up to its sign. -/
structure Binary where
  negative : Bool
  mantissa : Nat
  exponent : Int
  deriving DecidableEq, Repr

def Binary.ofFloat? (x : Float) : Option Binary :=
  let bits := x.toBits.toNat
  let negative := bits / Nat.pow 2 63 = 1
  let biased : Nat := bits / Nat.pow 2 52 % Nat.pow 2 11
  let fraction := bits % Nat.pow 2 52
  if biased = 2047 then none
  else if biased = 0 then some ⟨negative, fraction, -1074⟩
  else some ⟨negative, fraction + Nat.pow 2 52, (biased : Int) - 1075⟩

def wholeValue? (x : Float) : Option Int := do
  let b ← Binary.ofFloat? x
  let size ←
    if 0 ≤ b.exponent then some (b.mantissa * Nat.pow 2 b.exponent.toNat)
    else
      let scale := Nat.pow 2 (-b.exponent).toNat
      if b.mantissa % scale = 0 then some (b.mantissa / scale) else none
  return if b.negative then -(size : Int) else size

def totalRank (x : Float) : Int :=
  let bits := x.toBits.toNat
  if bits < Nat.pow 2 63 then bits else Nat.pow 2 63 - 1 - (bits : Int)

/-- Twice the distance between a double and the end of the interval of reals that round to it, on
    the side toward zero, in quarters of its last binary place. It is shorter below a power of two. -/
def Binary.lowerGap (x : Binary) : Nat :=
  if x.mantissa = Nat.pow 2 52 ∧ x.exponent ≠ -1074 then 1 else 2

structure Digits where
  digits : Nat
  exponent : Int
  deriving DecidableEq, Repr

def powerRatio (base : Nat) (exponent : Int) : Nat × Nat :=
  if 0 ≤ exponent then (base.pow exponent.toNat, 1) else (1, base.pow (-exponent).toNat)

/-- Whether `candidate * 10 ^ exponent` rounds to the double. The ends of the interval count if the
    mantissa is even. -/
def Binary.readsBack (x : Binary) (candidate : Nat) (exponent : Int) : Bool :=
  let (tenNum, tenDen) := powerRatio 10 exponent
  let (twoNum, twoDen) := powerRatio 2 (x.exponent - 2)
  let value := candidate * tenNum * twoDen
  let unit := twoNum * tenDen
  let low := (4 * x.mantissa - x.lowerGap) * unit
  let high := (4 * x.mantissa + 2) * unit
  if x.mantissa % 2 = 0 then low ≤ value && value ≤ high else low < value && value < high

def Binary.neighbours (x : Binary) (exponent : Int) : Nat × Bool :=
  let (tenNum, tenDen) := powerRatio 10 exponent
  let (twoNum, twoDen) := powerRatio 2 x.exponent
  let num := x.mantissa * twoNum * tenDen
  let den := twoDen * tenNum
  (num / den, 2 * (num % den) ≤ den)

def Binary.onGrid? (x : Binary) (exponent : Int) : Option Digits :=
  let (low, lowNearer) := x.neighbours exponent
  let first := if lowNearer then low else low + 1
  let second := if lowNearer then low + 1 else low
  if x.readsBack first exponent then some ⟨first, exponent⟩
  else if x.readsBack second exponent then some ⟨second, exponent⟩
  else none

def digitCount (n : Nat) : Nat :=
  (Nat.toDigits 10 n).length

def Binary.leadingExponent (x : Binary) : Int :=
  let (twoNum, twoDen) := powerRatio 2 x.exponent
  let num := x.mantissa * twoNum
  if twoDen ≤ num then digitCount (num / twoDen) - 1
  else -(digitCount ((twoDen - 1) / num) : Int)

def Digits.normalize (d : Digits) : Digits :=
  let text := (Nat.toDigits 10 d.digits).reverse
  let zeros := (text.takeWhile (· == '0')).length
  if d.digits = 0 then ⟨0, 0⟩ else ⟨d.digits / Nat.pow 10 zeros, d.exponent + zeros⟩

/-- The fewest digits that read back as the double, the nearest ones of that length. -/
def Binary.shortest (x : Binary) : Digits :=
  if x.mantissa = 0 then ⟨0, 0⟩
  else
    let lead := x.leadingExponent
    let grids := (List.range 18).map fun (n : Nat) => lead + 1 - (n : Int)
    ((grids.findSome? x.onGrid?).getD ⟨0, 0⟩).normalize

def Digits.positional (d : Digits) : String :=
  let text := Nat.toDigits 10 d.digits
  if 0 ≤ d.exponent then String.ofList (text ++ List.replicate d.exponent.toNat '0')
  else
    let places := (-d.exponent).toNat
    let padded := List.replicate (places + 1 - text.length) '0' ++ text
    let whole := padded.length - places
    String.ofList (padded.take whole ++ ['.'] ++ padded.drop whole)

def Digits.scientific (d : Digits) : String :=
  let text := Nat.toDigits 10 d.digits
  let power := d.exponent + (text.length - 1 : Nat)
  let fraction := if text.length ≤ 1 then [] else '.' :: text.drop 1
  String.ofList (text.take 1 ++ fraction) ++ "e" ++ toString power

def printedFloat (x : Float) : String :=
  match Binary.ofFloat? x with
  | none => if x.isNaN then "NaN" else if x < 0 then "-inf" else "inf"
  | some b =>
    let text := b.shortest.positional
    (if b.negative then "-" else "") ++ text ++ (if text.contains '.' then "" else ".0")

/-- The value as it is written inside a list or a map: the exponent form below 10^-4 and from 10^16
    on. -/
def nestedFloat (x : Float) : String :=
  match Binary.ofFloat? x with
  | none => printedFloat x
  | some b =>
    let d := b.shortest
    let power := d.exponent + ((digitCount d.digits - 1 : Nat) : Int)
    if b.mantissa ≠ 0 ∧ (power < -4 ∨ 16 ≤ power) then
      (if b.negative then "-" else "") ++ d.scientific
    else printedFloat x

/-- The value as data text: the exponent form below 10^-5 and from 10^16 on. -/
def dataFloat (x : Float) : String :=
  match Binary.ofFloat? x with
  | none => "null"
  | some b =>
    let d := b.shortest
    let power := d.exponent + ((digitCount d.digits - 1 : Nat) : Int)
    let text :=
      if power < -5 ∨ 16 ≤ power then d.scientific
      else
        let text := d.positional
        text ++ (if text.contains '.' then "" else ".0")
    (if b.negative then "-" else "") ++ text

end TopicWiki.Decimal
