import VibeScript.Number.Decimal

/-!
How the digits of a number are laid out: all places written, or one digit before the point and a
power of ten behind. A `Layout` states where the first form ends and what else a format decides.
-/

namespace VibeScript

/-- The decisions of a format for finite numbers. -/
structure Layout where
  /-- Magnitudes from ten to this power on are written with all their places. -/
  leastPlain : Int
  /-- Magnitudes from ten to this power on are written with a power of ten. -/
  leastLarge : Int
  /-- Whether a whole number written with all its places ends in `.0`. -/
  pointed : Bool
  /-- Whether the minus sign of zero is written. -/
  zeroSigned : Bool
  /-- Which of two equally near decimal fractions is written. -/
  tie : Decimal.Tie

namespace Layout

/-- Digits with all their places, at least one of them before the point. -/
def places (l : Layout) (d : Decimal) : Text :=
  let ds := Text.ofNat d.digits
  let whole : Text := ds ++ List.replicate d.exponent.toNat '0'
  let fraction := (-d.exponent).toNat
  if fraction = 0 then (if l.pointed then whole ++ ".0" else whole)
  else if fraction < ds.length then
    ds.take (ds.length - fraction) ++ '.' :: ds.drop (ds.length - fraction)
  else "0." ++ List.replicate (fraction - ds.length) '0' ++ ds

/-- One digit, the others behind a point, and the power of ten with its sign. -/
def scientific (d : Decimal) : Text :=
  let ds := Text.ofNat d.digits
  let power := d.exponent + (ds.length - 1 : Nat)
  let mantissa := match ds with
    | first :: second :: more => first :: '.' :: second :: more
    | single => single
  mantissa ++ 'e' :: (if power < 0 then '-' else '+') :: Text.ofNat power.natAbs

/-- Whether a magnitude above zero is written with all its places. -/
def isPlain (l : Layout) (m : Magnitude) : Bool :=
  (Decimal.mk 1 l.leastPlain).magnitude.rank ≤ m.rank &&
    m.rank < (Decimal.mk 1 l.leastLarge).magnitude.rank

/-- The text of a finite magnitude. -/
def magnitude (l : Layout) (m : Magnitude) : Text :=
  if m.rank = 0 then l.places ⟨0, 0⟩
  else if l.isPlain m then l.places (.shortest l.tie m)
  else scientific (.shortest l.tie m)

/-- The text of a finite number. -/
def signed (l : Layout) (negative : Bool) (m : Magnitude) : Text :=
  if negative && (l.zeroSigned || m.rank != 0) then '-' :: l.magnitude m else l.magnitude m

end Layout

namespace Number

/-- Numbers are shown with all their places from a millionth up to, but not including, ten to the
power 21, whole numbers without a point and zero without a sign. -/
def shown : Layout := ⟨-6, 21, false, false, .up⟩

/-- The text of a number. -/
def text : Number → Text
  | undefined => "NaN"
  | signed negative m =>
    if m.isFinite then shown.signed negative m
    else if negative then "-Infinity" else "Infinity"

end Number

end VibeScript
