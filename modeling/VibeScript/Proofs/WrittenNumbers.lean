import VibeScript.Proofs.Numerals
import Mathlib.Data.List.TakeWhile

/-!
How numbers that are written read back. Digits with all their places are a numeral for what they
stand for, on whichever side of them the point and the zeros are (`Layout.spells_places`). What is
written for a magnitude reads as that magnitude, so a number that is written with all its places and
its sign is a numeral that states it (`Layout.ofNumeral_signed`). All other numbers are written with
a power of ten (`Layout.hasPower_signed`).

A reader that knows powers of ten as well reads all of them, whatever the layout, so the layout
decides nothing but how a number looks and whether zero shows its sign (`Layout.read?_signed`).
-/

namespace VibeScript

open Pattern

/-! ### Digits -/

namespace Text

theorem isDigit_digit : ∀ k < 10, (digit k).isDigit = true := by decide

theorem toNat_digit : ∀ k < 10, (digit k).toNat - '0'.toNat = k := by decide

theorem ofNat_mem_digits (n : Nat) : ofNat n ∈ digits := by
  rw [mem_digits]
  fun_induction ofNat n with
  | case1 n hn => simpa using isDigit_digit n hn
  | case2 n hn ih =>
    refine ⟨by simp, fun c hc => ?_⟩
    rcases List.mem_append.1 hc with hc | hc
    · exact ih.2 c hc
    · rw [List.mem_singleton.1 hc]
      exact isDigit_digit _ (Nat.mod_lt n (by decide))

theorem toNat_concat (t : Text) (c : Char) :
    toNat (t ++ [c]) = 10 * toNat t + (c.toNat - '0'.toNat) := by
  rw [toNat, List.foldl_append]
  rfl

/-- The digits of a number stand for it. -/
theorem toNat_ofNat (n : Nat) : toNat (ofNat n) = n := by
  fun_induction ofNat n with
  | case1 n hn => simpa [toNat] using toNat_digit n hn
  | case2 n hn ih =>
    rw [toNat_concat, ih, toNat_digit _ (Nat.mod_lt n (by decide))]
    omega

/-- A zero behind digits is a factor of ten. -/
theorem toNat_append_zeros (t : Text) (n : Nat) :
    toNat (t ++ List.replicate n '0') = toNat t * Nat.pow 10 n := by
  induction n with
  | zero => simp
  | succ n ih =>
    have hzero : '0'.toNat - '0'.toNat = 0 := rfl
    rw [List.replicate_succ', ← List.append_assoc, toNat_concat, ih, hzero, Nat.add_zero,
      Nat.mul_comm, Nat.mul_assoc, Decimal.power_succ]

/-- Zeros in front of digits count for nothing. -/
theorem toNat_zeros_append (n : Nat) (t : Text) : toNat (List.replicate n '0' ++ t) = toNat t := by
  induction n with
  | zero => rfl
  | succ n ih => exact ih

end Text

/-! ### Runs of digits -/

namespace Pattern

variable {ds : Text}

theorem isDigit_zeros (n : Nat) : ∀ c ∈ List.replicate n '0', c.isDigit = true := by
  intro c hc
  rw [(List.mem_replicate.1 hc).2]
  rfl

theorem append_zeros_mem_digits (h : ds ∈ digits) (n : Nat) :
    ds ++ List.replicate n '0' ∈ digits := by
  obtain ⟨hne, hall⟩ := mem_digits.1 h
  exact mem_digits.2 ⟨by simp [hne], List.forall_mem_append.2 ⟨hall, isDigit_zeros n⟩⟩

theorem zeros_append_mem_digits (h : ds ∈ digits) (n : Nat) :
    List.replicate n '0' ++ ds ∈ digits := by
  obtain ⟨hne, hall⟩ := mem_digits.1 h
  exact mem_digits.2 ⟨by simp [hne], List.forall_mem_append.2 ⟨isDigit_zeros n, hall⟩⟩

theorem zero_mem_digits : List.replicate 1 '0' ∈ digits := mem_digits.2 ⟨by decide, isDigit_zeros 1⟩

theorem take_mem_digits (h : ds ∈ digits) {n : Nat} (hn : 0 < n) : ds.take n ∈ digits := by
  obtain ⟨hne, hall⟩ := mem_digits.1 h
  have hlength := List.length_pos_iff.2 hne
  refine mem_digits.2 ⟨?_, fun c hc => hall c (List.mem_of_mem_take hc)⟩
  rw [← List.length_pos_iff, List.length_take]
  omega

theorem drop_mem_digits (h : ds ∈ digits) {n : Nat} (hn : n < ds.length) : ds.drop n ∈ digits := by
  refine mem_digits.2 ⟨?_, fun c hc => (mem_digits.1 h).2 c (List.mem_of_mem_drop hc)⟩
  rw [← List.length_pos_iff, List.length_drop]
  omega

end Pattern

/-! ### All places -/

namespace Decimal

/-- Whether a text is an unsigned numeral and reads as what a decimal fraction amounts to. -/
structure Spells (t : Text) (d : Decimal) : Prop where
  mem : t ∈ unsignedNumeral
  magnitude_eq : (ofNumeral t).magnitude = d.magnitude

variable {ds es t : Text} {d d' : Decimal}

theorem Spells.congr (h : Spells t d) (heq : d.magnitude = d'.magnitude) : Spells t d' :=
  ⟨h.mem, h.magnitude_eq.trans heq⟩

theorem all_ne_point (h : ds ∈ Pattern.digits) : ∀ c ∈ ds, (c != '.') = true := by
  refine Text.not_mem_iff_all_ne.1 fun hmem => ?_
  cases (mem_digits.1 h).2 '.' hmem

theorem ofNumeral_digits (h : ds ∈ Pattern.digits) : ofNumeral ds = ⟨Text.toNat ds, 0⟩ := by
  rw [ofNumeral, List.filter_eq_self.2 (all_ne_point h),
    List.dropWhile_eq_nil_iff.2 (all_ne_point h)]
  rfl

theorem spells_digits (h : ds ∈ Pattern.digits) : Spells ds ⟨Text.toNat ds, 0⟩ :=
  ⟨mem_unsignedNumeral.2 (.inl h), congrArg Decimal.magnitude (ofNumeral_digits h)⟩

/-- Digits, a point and more digits state all the digits, the last of them behind the point. -/
theorem ofNumeral_pointed (hds : ds ∈ Pattern.digits) (hes : es ∈ Pattern.digits) :
    ofNumeral (ds ++ '.' :: es) = ⟨Text.toNat (ds ++ es), -es.length⟩ := by
  have hstops : Text.Stops (· != '.') ('.' :: es) := Text.stops_cons.2 rfl
  rw [ofNumeral, Text.dropWhile_run (all_ne_point hds) hstops, List.filter_append,
    List.filter_eq_self.2 (all_ne_point hds), List.filter_cons_of_neg (by decide),
    List.filter_eq_self.2 (all_ne_point hes)]
  rfl

theorem spells_pointed (hds : ds ∈ Pattern.digits) (hes : es ∈ Pattern.digits) :
    Spells (ds ++ '.' :: es) ⟨Text.toNat (ds ++ es), -es.length⟩ :=
  ⟨mem_unsignedNumeral.2 (.inr (.inr (.inl ⟨ds, hds, es, hes, rfl⟩))),
    congrArg Decimal.magnitude (ofNumeral_pointed hds hes)⟩

/-- A point and a zero behind a whole number change nothing. -/
theorem spells_point_zero (hds : ds ∈ Pattern.digits) (h : Spells ds d) :
    Spells (ds ++ '.' :: List.replicate 1 '0') d := by
  refine (spells_pointed hds zero_mem_digits).congr ?_
  rw [← h.magnitude_eq, (spells_digits hds).magnitude_eq, Text.toNat_append_zeros]
  exact magnitude_shift _ (-1)

/-- Zeros behind the digits stand for the factors of ten. -/
theorem spells_zeros_behind (h : 0 ≤ d.exponent) :
    Spells (Text.ofNat d.digits ++ List.replicate d.exponent.toNat '0') d := by
  refine (spells_digits (append_zeros_mem_digits (Text.ofNat_mem_digits _) _)).congr ?_
  have hneg : (-d.exponent).toNat = 0 := by omega
  rw [Text.toNat_append_zeros, Text.toNat_ofNat]
  simp only [magnitude, hneg, Int.toNat_zero, Int.neg_zero, power_zero, Nat.mul_one]

/-- A point between the digits stands for the negative power of ten. -/
theorem spells_point_between {n : Nat} (hn : n ≠ 0) (hexponent : d.exponent = -n)
    (h : n < (Text.ofNat d.digits).length) :
    Spells ((Text.ofNat d.digits).take ((Text.ofNat d.digits).length - n) ++
      '.' :: (Text.ofNat d.digits).drop ((Text.ofNat d.digits).length - n)) d := by
  have hds := Text.ofNat_mem_digits d.digits
  have hspells := spells_pointed
    (take_mem_digits hds (show 0 < (Text.ofNat d.digits).length - n by omega))
    (drop_mem_digits hds (show (Text.ofNat d.digits).length - n < _ by omega))
  have hlength : (Text.ofNat d.digits).length - ((Text.ofNat d.digits).length - n) = n := by omega
  rwa [List.take_append_drop, Text.toNat_ofNat, List.length_drop, hlength, ← hexponent] at hspells

/-- So do a point in front and zeros behind it. -/
theorem spells_zeros_in_front {n : Nat} (hexponent : d.exponent = -n)
    (h : (Text.ofNat d.digits).length ≤ n) :
    Spells (List.replicate 1 '0' ++ '.' ::
      (List.replicate (n - (Text.ofNat d.digits).length) '0' ++ Text.ofNat d.digits)) d := by
  have hds := Text.ofNat_mem_digits d.digits
  have hspells := spells_pointed zero_mem_digits
    (zeros_append_mem_digits hds (n - (Text.ofNat d.digits).length))
  have hlength : n - (Text.ofNat d.digits).length + (Text.ofNat d.digits).length = n := by omega
  rwa [← List.append_assoc, List.replicate_append_replicate, Text.toNat_zeros_append,
    Text.toNat_ofNat, List.length_append, List.length_replicate, hlength, ← hexponent] at hspells

end Decimal

theorem Magnitude.eq_zero_iff (m : Magnitude) : m = zero ↔ m.rank = 0 := by
  obtain ⟨rank, _⟩ := m
  simp [zero]

namespace Layout

/-- Digits with all their places are a numeral for what they stand for. -/
theorem spells_places (l : Layout) (d : Decimal) : Decimal.Spells (l.places d) d := by
  unfold places
  simp only
  split
  case isTrue hfraction =>
    have hwhole := Decimal.spells_zeros_behind (d := d) (by omega)
    split
    · exact Decimal.spells_point_zero
        (append_zeros_mem_digits (Text.ofNat_mem_digits _) _) hwhole
    · exact hwhole
  case isFalse hfraction =>
    have hexponent : d.exponent = -((-d.exponent).toNat : Int) := by omega
    split
    case isTrue hlength => exact Decimal.spells_point_between hfraction hexponent hlength
    case isFalse hlength => exact Decimal.spells_zeros_in_front hexponent (by omega)

/-- A magnitude written with all its places reads back. -/
theorem spells_magnitude {l : Layout} {m : Magnitude} (h : m.rank = 0 ∨ l.isPlain m = true) :
    l.magnitude m ∈ unsignedNumeral ∧ (Decimal.ofNumeral (l.magnitude m)).magnitude = m := by
  unfold magnitude
  by_cases hzero : m.rank = 0
  · have hnothing : (⟨0, 0⟩ : Decimal).magnitude = .zero := by decide +kernel
    rw [if_pos hzero, m.eq_zero_iff.2 hzero]
    exact ⟨(l.spells_places _).mem, (l.spells_places _).magnitude_eq.trans hnothing⟩
  · rw [if_neg hzero, if_pos (h.resolve_left hzero)]
    exact ⟨(l.spells_places _).mem,
      (l.spells_places _).magnitude_eq.trans (Decimal.magnitude_shortest _ m)⟩

end Layout

/-! ### Signs -/

theorem Number.ofNumeral_minus (t : Text) :
    ofNumeral ('-' :: t) = signed true (Decimal.ofNumeral t).magnitude := rfl

/-- A numeral without a sign states no negative number. -/
theorem Number.ofNumeral_unsigned {t : Text} (h : t ∈ unsignedNumeral) :
    ofNumeral t = signed false (Decimal.ofNumeral t).magnitude := by
  have hhead (c : Char) (hc : c ∈ ['+', '-']) (u : Text) : t ≠ c :: u := by
    rintro rfl
    rcases List.mem_pair.1 hc with rfl | rfl <;>
      rcases chars_of_mem_unsignedNumeral h List.mem_cons_self with hdigit | hpoint <;>
      contradiction
  have hminus : (t.head? == some '-') = false := by
    rw [beq_eq_false_iff_ne]
    intro heq
    obtain ⟨u, rfl⟩ := List.head?_eq_some_iff.1 heq
    exact hhead '-' (by decide) u rfl
  rw [ofNumeral, hminus]
  unfold Decimal.unsigned
  split
  · exact absurd rfl (hhead '+' (by decide) _)
  · exact absurd rfl (hhead '-' (by decide) _)
  · rfl

namespace Layout

variable {l : Layout} {negative : Bool} {m : Magnitude}

theorem signed_zero (h : l.zeroSigned = false) :
    l.signed negative .zero = l.magnitude .zero := by
  refine if_neg ?_
  simp [h, Magnitude.zero]

/-- Every number but zero is written with its sign. -/
theorem signed_of_ne_zero (hzero : m.rank ≠ 0) :
    l.signed negative m = if negative then '-' :: l.magnitude m else l.magnitude m := by
  rw [signed, bne_iff_ne.2 hzero, Bool.or_true, Bool.and_true]

/-- A number written with all its places and its sign is a numeral and reads back. -/
theorem ofNumeral_signed (negative : Bool) (h : l.isPlain m = true) (hzero : m.rank ≠ 0) :
    l.signed negative m ∈ numeral ∧
      Number.ofNumeral (l.signed negative m) = .signed negative m := by
  obtain ⟨hmem, hmagnitude⟩ := spells_magnitude (.inr h)
  rw [signed_of_ne_zero hzero]
  cases negative with
  | true =>
    rw [if_pos rfl, Number.ofNumeral_minus, hmagnitude]
    exact ⟨mem_numeral.2 (.inl ⟨_, hmem, .inr rfl⟩), rfl⟩
  | false =>
    rw [if_neg Bool.false_ne_true, Number.ofNumeral_unsigned hmem, hmagnitude]
    exact ⟨mem_numeral.2 (.inr hmem), rfl⟩

end Layout

/-! ### Powers of ten -/

/-- Whether a text has a power of ten at its end: an `e`, a sign and digits. In front of them there
are digits, points and minus signs. -/
def Text.HasPower (t : Text) : Prop :=
  ∃ front sign power, t = front ++ 'e' :: sign :: power ∧
    (∀ c ∈ front, c.isDigit = true ∨ c ∈ ['.', '-']) ∧ sign ∈ ['-', '+'] ∧
    ∀ c ∈ power, c.isDigit = true

theorem Text.HasPower.minus {t : Text} (h : HasPower t) : HasPower ('-' :: t) := by
  obtain ⟨front, sign, power, rfl, hfront, hsign, hpower⟩ := h
  exact ⟨'-' :: front, sign, power, rfl, List.forall_mem_cons.2 ⟨.inr (by decide), hfront⟩, hsign,
    hpower⟩

/-- The characters of numbers with a power of ten. -/
theorem Text.HasPower.chars {t : Text} (h : HasPower t) :
    ∀ c ∈ t, c.isDigit = true ∨ c ∈ ['.', '+', '-', 'e'] := by
  obtain ⟨front, sign, power, rfl, hfront, hsign, hpower⟩ := h
  rw [List.forall_mem_append, List.forall_mem_cons, List.forall_mem_cons]
  refine ⟨fun c hc => (hfront c hc).imp_right ?_, .inr (by decide), .inr ?_,
    fun c hc => .inl (hpower c hc)⟩
  · exact fun hc => List.subset_def.1 (by decide) hc
  · exact List.subset_def.1 (by decide) hsign

namespace Layout

variable {l : Layout} {m : Magnitude}

/-- In front of the power of ten there is a numeral, and both together state the decimal
fraction. -/
theorem exists_mantissa (d : Decimal) : ∃ (mantissa : Text) (power : Int),
    scientific d =
      mantissa ++ 'e' :: (if power < 0 then '-' else '+') :: Text.ofNat power.natAbs ∧
    mantissa ∈ unsignedNumeral ∧
    Decimal.ofNumeral mantissa = ⟨d.digits, d.exponent - power⟩ := by
  have hds := Text.ofNat_mem_digits d.digits
  have hdigits := Text.toNat_ofNat d.digits
  refine ⟨_, _, rfl, ?_⟩
  split
  case h_1 first second more heq =>
    rw [heq] at hds hdigits
    have hfirst := take_mem_digits hds (n := 1) (by decide)
    have hmore := drop_mem_digits hds (n := 1) (by simp)
    refine ⟨(Decimal.spells_pointed hfirst hmore).mem,
      (Decimal.ofNumeral_pointed hfirst hmore).trans ?_⟩
    simp only [List.take_append_drop, hdigits, heq, List.length_cons, List.length_drop]
    congr 1
    omega
  case h_2 heq =>
    refine ⟨(Decimal.spells_digits hds).mem, (Decimal.ofNumeral_digits hds).trans ?_⟩
    have hlength : (Text.ofNat d.digits).length ≤ 1 := by
      cases hcons : Text.ofNat d.digits with
      | nil => simp
      | cons first more =>
        cases more with
        | nil => simp
        | cons second more => exact absurd hcons (heq first second more)
    rw [hdigits]
    congr 1
    omega

theorem hasPower_scientific (d : Decimal) : Text.HasPower (scientific d) := by
  obtain ⟨mantissa, power, hd, hmem, _⟩ := exists_mantissa d
  refine ⟨mantissa, _, _, hd, ?mantissa, ?sign, (mem_digits.1 (Text.ofNat_mem_digits _)).2⟩
  case sign => split <;> decide
  case mantissa =>
    intro c hc
    refine (chars_of_mem_unsignedNumeral hmem hc).imp_right ?_
    rintro rfl
    exact List.mem_cons_self

/-- A number that is written neither as zero nor with all its places has a power of ten. -/
theorem hasPower_signed (negative : Bool) (h : ¬ l.isPlain m = true) (hzero : m.rank ≠ 0) :
    Text.HasPower (l.signed negative m) := by
  rw [signed_of_ne_zero hzero, magnitude, if_neg hzero, if_neg h]
  cases negative with
  | false => exact hasPower_scientific _
  | true => exact (hasPower_scientific _).minus

/-- The characters of a number that is written. -/
theorem chars_signed (l : Layout) (s : Bool) (m : Magnitude) :
    ∀ c ∈ l.signed s m, c.isDigit = true ∨ c ∈ ['.', '+', '-', 'e'] := by
  have hmagnitude : ∀ c ∈ l.magnitude m, c.isDigit = true ∨ c ∈ ['.', '+', '-', 'e'] := by
    by_cases hm : m.rank = 0 ∨ l.isPlain m = true
    · intro c hc
      refine (chars_of_mem_unsignedNumeral (spells_magnitude hm).1 hc).imp_right ?_
      rintro rfl
      decide
    · rw [not_or] at hm
      rw [magnitude, if_neg hm.1, if_neg hm.2]
      exact (hasPower_scientific _).chars
  rw [signed]
  split
  · exact List.forall_mem_cons.2 ⟨.inr (by decide), hmagnitude⟩
  · exact hmagnitude

end Layout

/-! ### Reading numbers -/

/-- Whether a text is digits, one of them at least. -/
def Text.isDigits (t : Text) : Bool := !t.isEmpty && t.all Char.isDigit

theorem Text.isDigits_iff {t : Text} : isDigits t = true ↔ t ∈ digits := by
  rw [mem_digits, isDigits, Bool.and_eq_true, List.all_eq_true]
  simp

namespace Decimal

/-- The power of ten behind a numeral: an `e`, a sign and digits, or nothing. -/
def power? : Text → Option Int
  | [] => some 0
  | 'e' :: '+' :: ds => if Text.isDigits ds then some (Text.toNat ds) else none
  | 'e' :: '-' :: ds => if Text.isDigits ds then some (-Text.toNat ds) else none
  | _ => none

/-- The decimal fraction that a numeral states, with or without a power of ten behind it. -/
def read? (t : Text) : Option Decimal :=
  let mantissa := t.takeWhile (· != 'e')
  if isUnsignedNumeral mantissa then
    (power? (t.dropWhile (· != 'e'))).map fun power =>
      ⟨(ofNumeral mantissa).digits, (ofNumeral mantissa).exponent + power⟩
  else none

theorem read?_append {mantissa t : Text} (hmem : mantissa ∈ unsignedNumeral)
    (ht : Text.Stops (· != 'e') t) :
    read? (mantissa ++ t) = (power? t).map fun power =>
      ⟨(ofNumeral mantissa).digits, (ofNumeral mantissa).exponent + power⟩ := by
  have hrun : ∀ c ∈ mantissa, (c != 'e') = true := by
    refine Text.not_mem_iff_all_ne.1 fun he => ?_
    rcases chars_of_mem_unsignedNumeral hmem he with h | h <;> cases h
  rw [read?, Text.takeWhile_run hrun ht, Text.dropWhile_run hrun ht,
    if_pos (isUnsignedNumeral_of_mem hmem)]

/-- A numeral reads as what it states. -/
theorem read?_of_mem {t : Text} (h : t ∈ unsignedNumeral) : read? t = some (ofNumeral t) := by
  have hread := read?_append h (t := []) (by simp [Text.Stops])
  rw [List.append_nil] at hread
  rw [hread, power?, Option.map_some, Int.add_zero]

theorem power?_power (power : Int) :
    power? ('e' :: (if power < 0 then '-' else '+') :: Text.ofNat power.natAbs) = some power := by
  have hdigits := Text.isDigits_iff.2 (Text.ofNat_mem_digits power.natAbs)
  split
  all_goals
    rw [power?, if_pos hdigits, Text.toNat_ofNat]
    congr 1
    omega

/-- A decimal fraction written with a power of ten reads back. -/
theorem read?_scientific (d : Decimal) : read? (Layout.scientific d) = some d := by
  obtain ⟨mantissa, power, hd, hmem, hnumeral⟩ := Layout.exists_mantissa d
  rw [hd, read?_append hmem (Text.stops_cons.2 rfl), power?_power, Option.map_some, hnumeral,
    Int.sub_add_cancel]

/-- No sign is read in front of a decimal fraction. -/
theorem read?_minus (t : Text) : read? ('-' :: t) = none := by
  rw [read?]
  refine if_neg fun h => ?_
  rw [isUnsignedNumeral_iff, List.takeWhile_cons_of_pos (by decide)] at h
  rcases chars_of_mem_unsignedNumeral h List.mem_cons_self with h | h <;> cases h

end Decimal

/-- The number that a text states: a decimal fraction, with a minus sign in front if it has one. -/
def Number.read? : Text → Option Number
  | '-' :: t => (Decimal.read? t).map fun d => .signed true d.magnitude
  | t => (Decimal.read? t).map fun d => .signed false d.magnitude

namespace Layout

/-- In every layout a magnitude reads back. -/
theorem read?_magnitude (l : Layout) (m : Magnitude) :
    ∃ d : Decimal, Decimal.read? (l.magnitude m) = some d ∧ d.magnitude = m := by
  by_cases h : m.rank = 0 ∨ l.isPlain m = true
  · obtain ⟨hmem, hmagnitude⟩ := spells_magnitude h
    exact ⟨_, Decimal.read?_of_mem hmem, hmagnitude⟩
  · rw [not_or] at h
    refine ⟨_, ?_, Decimal.magnitude_shortest l.tie m⟩
    rw [magnitude, if_neg h.1, if_neg h.2]
    exact Decimal.read?_scientific _

/-- In every layout a number reads back, but for the minus sign of zero where it is not written. -/
theorem read?_signed (l : Layout) (negative : Bool) (m : Magnitude) :
    Number.read? (l.signed negative m) =
      some (.signed (negative && (l.zeroSigned || m.rank != 0)) m) := by
  obtain ⟨d, hread, hmagnitude⟩ := l.read?_magnitude m
  have hminus (t : Text) : l.magnitude m ≠ '-' :: t := by
    intro h
    rw [h, Decimal.read?_minus] at hread
    cases hread
  rw [signed]
  split
  case isTrue h => rw [Number.read?, hread, h, Option.map_some, hmagnitude]
  case isFalse h =>
    rw [Number.read?, hread, Option.map_some, hmagnitude, Bool.eq_false_iff.2 h]
    exact hminus

end Layout

end VibeScript
