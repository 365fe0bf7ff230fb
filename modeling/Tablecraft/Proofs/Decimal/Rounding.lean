import Mathlib.Tactic.Ring
import Tablecraft.Decimal.Shortest

namespace Tablecraft.Decimal.Binary64

variable {n d q m x y : Nat} {e : Int}

theorem unit_eq : unit = 2 ^ 52 := rfl

structure RoundsTo (n d q : Nat) : Prop where
  lower : 2 * (q * d) ≤ 2 * n + d
  upper : 2 * n ≤ 2 * (q * d) + d
  even : q % 2 = 1 → 2 * (q * d) ≠ 2 * n + d ∧ 2 * n ≠ 2 * (q * d) + d

theorem roundHalfEven_roundsTo (hd : 0 < d) : RoundsTo n d (roundHalfEven n d) := by
  have hn : n / d * d + n % d = n := by rw [Nat.mul_comm]; exact Nat.div_add_mod n d
  have hr : n % d < d := Nat.mod_lt n hd
  have hsucc : (n / d + 1) * d = n / d * d + d := Nat.succ_mul _ _
  rw [roundHalfEven]
  split
  · constructor <;> omega
  · split
    · constructor <;> omega
    · have hhalf : 2 * (n % d) = d := by omega
      rcases Nat.mod_two_eq_zero_or_one (n / d) with h | h
      · rw [h, Nat.add_zero]
        constructor <;> omega
      · rw [h]
        constructor <;> omega

theorem RoundsTo.le {q' : Nat} (hd : 0 < d) (h : RoundsTo n d q) (h' : RoundsTo n d q') : q ≤ q' := by
  by_contra hlt
  -- two nearest integers are neighbours half a unit away, and one of them is odd
  have hle : q' * d + d ≤ q * d := by
    rw [← Nat.succ_mul]
    exact Nat.mul_le_mul_right d (by omega)
  have hlower := h.lower
  have hupper := h'.upper
  have hnext : q * d = q' * d + d := by omega
  have hq : q = q' + 1 := Nat.eq_of_mul_eq_mul_right hd (by rw [hnext, Nat.succ_mul])
  rcases Nat.mod_two_eq_zero_or_one q with hparity | hparity
  · exact (h'.even (by omega)).2 (by omega)
  · exact (h.even hparity).1 (by omega)

theorem RoundsTo.roundHalfEven_eq (hd : 0 < d) (h : RoundsTo n d q) : roundHalfEven n d = q :=
  Nat.le_antisymm ((roundHalfEven_roundsTo hd).le hd h) (h.le hd (roundHalfEven_roundsTo hd))

theorem RoundsTo.ge (h : RoundsTo n d q) {a : Nat} (ha : a * d ≤ n) (hd : 0 < d) : a ≤ q := by
  by_contra hlt
  have hle := Nat.mul_le_mul_right d (show q + 1 ≤ a by omega)
  have hupper := h.upper
  rw [Nat.succ_mul] at hle
  omega

theorem RoundsTo.le_of_lt (h : RoundsTo n d q) {a : Nat} (ha : n < a * d) : q ≤ a := by
  by_contra hlt
  have hle := Nat.mul_le_mul_right d (show a + 1 ≤ q by omega)
  have hlower := h.lower
  rw [Nat.succ_mul] at hle
  omega

theorem RoundsTo.eq_of_one (h : RoundsTo n 1 q) : q = n := by
  have hlower := h.lower
  have hupper := h.upper
  omega

theorem scaled_one (x : Nat) (e : Int) : scaled x 1 e = (x * 2 ^ (-e).toNat, 2 ^ e.toNat) := by
  rw [scaled]
  split
  · rw [show (-e).toNat = 0 by omega]
    simp [Nat.pow_eq]
  · rw [show e.toNat = 0 by omega]
    simp [Nat.pow_eq]

/-- The leading bit of `x` is the top bit of a significand exactly at one exponent. -/
theorem log2_eq_iff (hx : x ≠ 0) :
    (x.log2 : Int) = e + 52 ↔
      unit * 2 ^ e.toNat ≤ x * 2 ^ (-e).toNat ∧ x * 2 ^ (-e).toNat < 2 * unit * 2 ^ e.toNat := by
  have hlow : 2 ^ (x.log2 + (-e).toNat) ≤ x * 2 ^ (-e).toNat := by
    rw [Nat.pow_add]
    exact Nat.mul_le_mul_right _ (Nat.log2_self_le hx)
  have hhigh : x * 2 ^ (-e).toNat < 2 ^ (x.log2 + 1 + (-e).toNat) := by
    rw [Nat.pow_add]
    exact Nat.mul_lt_mul_of_pos_right Nat.lt_log2_self (Nat.two_pow_pos _)
  have hunit : unit * 2 ^ e.toNat = 2 ^ (52 + e.toNat) := by rw [unit_eq, ← Nat.pow_add]
  have htwice : 2 * unit * 2 ^ e.toNat = 2 ^ (53 + e.toNat) := by
    rw [unit_eq, ← Nat.pow_succ', ← Nat.pow_add]
  rw [hunit, htwice]
  constructor
  · intro h
    constructor
    · rwa [show 52 + e.toNat = x.log2 + (-e).toNat by omega]
    · rwa [show 53 + e.toNat = x.log2 + 1 + (-e).toNat by omega]
  · rintro ⟨h, h'⟩
    have hlt := (Nat.pow_lt_pow_iff_right (by decide : 1 < 2)).1 (Nat.lt_of_le_of_lt h hhigh)
    have hlt' := (Nat.pow_lt_pow_iff_right (by decide : 1 < 2)).1 (Nat.lt_of_le_of_lt hlow h')
    omega

theorem exponentOf_one (hx : x ≠ 0) : exponentOf x 1 = (x.log2 : Int) - 52 := by
  have hunit := ((log2_eq_iff (e := (x.log2 : Int) - 52) hx).1 (by omega)).1
  rw [exponentOf, show Nat.log2 1 = 0 by decide]
  simp only [Int.natCast_zero, Int.sub_zero, scaled_one, if_neg (Nat.not_lt.2 hunit)]
  rw [minExponent]
  omega

/-- The rounded significand, renormalised where it reaches the next binade. -/
theorem ofFraction_one (hx : x ≠ 0) (he : (x.log2 : Int) = e + 52) :
    ofFraction x 1 =
      if roundHalfEven (x * 2 ^ (-e).toNat) (2 ^ e.toNat) = 2 * unit then
        if maxExponent < e + 1 then .infinite else .finite unit (e + 1)
      else if maxExponent < e then .infinite
      else .finite (roundHalfEven (x * 2 ^ (-e).toNat) (2 ^ e.toNat)) e := by
  rw [ofFraction, exponentOf_one hx, show (x.log2 : Int) - 52 = e by omega, scaled_one]
  dsimp only
  split <;> rfl

theorem ofDecimal_zero (hx : x ≠ 0) (h : digitCount x ≤ 310) : ofDecimal x 0 = ofFraction x 1 := by
  rw [ofDecimal, if_neg hx]
  dsimp only
  rw [if_neg (by omega), if_neg (by omega), if_pos (Int.le_refl 0)]
  simp

theorem ofFraction_of_ofDecimal (hx : x ≠ 0) (h : ofDecimal x 0 = .finite m e) :
    ofFraction x 1 = .finite m e := by
  by_cases hdigits : digitCount x ≤ 310
  · rw [← h, ofDecimal_zero hx hdigits]
  · rw [ofDecimal, if_neg hx] at h
    dsimp only at h
    rw [if_pos (by omega)] at h
    cases h

def below (m : Nat) (e : Int) : Nat := if m = unit ∧ minExponent < e then 1 else 2

/-- `x` is within half a unit of `m · 2 ^ e`, a quarter below the least significand of a binade. The
bounds belong to even significands. -/
structure Near (m : Nat) (e : Int) (x : Nat) : Prop where
  lower : 4 * (m * 2 ^ e.toNat) ≤ 4 * (x * 2 ^ (-e).toNat) + below m e * 2 ^ e.toNat
  upper : 4 * (x * 2 ^ (-e).toNat) ≤ 4 * (m * 2 ^ e.toNat) + 2 * 2 ^ e.toNat
  even : m % 2 = 1 → 4 * (m * 2 ^ e.toNat) ≠ 4 * (x * 2 ^ (-e).toNat) + below m e * 2 ^ e.toNat ∧
    4 * (x * 2 ^ (-e).toNat) ≠ 4 * (m * 2 ^ e.toNat) + 2 * 2 ^ e.toNat

structure Normal (m : Nat) (e : Int) : Prop where
  unit_le : unit ≤ m
  lt_unit : m < 2 * unit
  exponent_le : e ≤ maxExponent

theorem below_pos (m : Nat) (e : Int) : 0 < below m e := by
  rw [below]
  split <;> decide

theorem below_le (m : Nat) (e : Int) : below m e ≤ 2 := by
  rw [below]
  split <;> decide

theorem interval_eq (m : Nat) (e : Int) : Shortest.interval m e =
    ⟨(4 * m - below m e) * 2 ^ e.toNat, 4 * m * 2 ^ e.toNat, (4 * m + 2) * 2 ^ e.toNat,
      4 * 2 ^ (-e).toNat, m % 2 == 0⟩ := rfl

theorem contains_iff_near (hm : 0 < m) : (Shortest.interval m e).contains x 1 = true ↔ Near m e x := by
  have hlow : (4 * m - below m e) * 2 ^ e.toNat + below m e * 2 ^ e.toNat = 4 * (m * 2 ^ e.toNat) := by
    rw [← Nat.add_mul, Nat.sub_add_cancel (by have := below_le m e; omega), Nat.mul_assoc]
  have hhigh : (4 * m + 2) * 2 ^ e.toNat = 4 * (m * 2 ^ e.toNat) + 2 * 2 ^ e.toNat := by ring
  have hx : x * (4 * 2 ^ (-e).toNat) = 4 * (x * 2 ^ (-e).toNat) := by ring
  simp only [interval_eq, Shortest.Interval.contains, Nat.mul_one, hx]
  split
  · rename_i heven
    have heven : m % 2 = 0 := by simpa using heven
    rw [Bool.and_eq_true, decide_eq_true_iff, decide_eq_true_iff]
    constructor
    · rintro ⟨h, h'⟩
      exact ⟨by omega, by omega, by omega⟩
    · rintro ⟨h, h', -⟩
      exact ⟨by omega, by omega⟩
  · rename_i hodd
    have hodd : m % 2 = 1 := by
      have : ¬ m % 2 = 0 := by simpa using hodd
      omega
    rw [Bool.and_eq_true, decide_eq_true_iff, decide_eq_true_iff]
    constructor
    · rintro ⟨h, h'⟩
      exact ⟨by omega, by omega, fun _ => ⟨by omega, by omega⟩⟩
    · rintro ⟨h, h', hopen⟩
      have := hopen hodd
      exact ⟨by omega, by omega⟩

/-- Between two numbers near a magnitude all are near it. -/
theorem Near.between {a b : Nat} (ha : Near m e a) (hb : Near m e b) (hax : a ≤ x) (hxb : x ≤ b) :
    Near m e x := by
  have hax := Nat.mul_le_mul_right (2 ^ (-e).toNat) hax
  have hxb := Nat.mul_le_mul_right (2 ^ (-e).toNat) hxb
  have hlower := ha.lower
  have hupper := hb.upper
  refine ⟨by omega, by omega, fun hodd => ?_⟩
  have hlower' := (ha.even hodd).1
  have hupper' := (hb.even hodd).2
  exact ⟨by omega, by omega⟩

theorem near_of_eq {v : Nat} (hv : v * 2 ^ (-e).toNat = m * 2 ^ e.toNat) : Near m e v := by
  have hup := Nat.two_pow_pos e.toNat
  have hbelow := Nat.mul_pos (below_pos m e) hup
  exact ⟨by omega, by omega, fun _ => ⟨by omega, by omega⟩⟩

/-- A number of the magnitude's own binade is read as it exactly if it is rounded to its significand. -/
theorem near_iff_roundsTo (hx : unit * 2 ^ e.toNat ≤ x * 2 ^ (-e).toNat) :
    Near m e x ↔ RoundsTo (x * 2 ^ (-e).toNat) (2 ^ e.toNat) m := by
  by_cases hbelow : below m e = 2
  · have hquarters : below m e * 2 ^ e.toNat = 2 * 2 ^ e.toNat := by rw [hbelow]
    constructor
    · rintro ⟨h, h', heven⟩
      refine ⟨by omega, by omega, fun hodd => ?_⟩
      have := heven hodd
      exact ⟨by omega, by omega⟩
    · rintro ⟨h, h', heven⟩
      refine ⟨by omega, by omega, fun hodd => ?_⟩
      have := heven hodd
      exact ⟨by omega, by omega⟩
  · -- the least significand of a binade is even, and no number of the binade is below it
    have hm : m = unit := by
      by_contra hne
      exact hbelow (if_neg fun h => hne h.1)
    subst hm
    have hup := Nat.mul_pos (below_pos unit e) (Nat.two_pow_pos e.toNat)
    constructor
    · rintro ⟨-, h', -⟩
      exact ⟨by omega, by omega, fun hodd => absurd hodd (by decide)⟩
    · rintro ⟨-, h', -⟩
      exact ⟨by omega, by omega, fun hodd => absurd hodd (by decide)⟩

/-- A number of the binade before is read as the least significand of the next exactly if it is rounded
up to it. -/
theorem near_next_iff_roundsTo (he : 0 ≤ e) (hx : x * 2 ^ (-e).toNat < 2 * unit * 2 ^ e.toNat) :
    Near unit (e + 1) x ↔ RoundsTo (x * 2 ^ (-e).toNat) (2 ^ e.toNat) (2 * unit) := by
  have hbelow : below unit (e + 1) = 1 := if_pos ⟨rfl, by rw [minExponent]; omega⟩
  have hpow : (2 : Nat) ^ (e + 1).toNat = 2 * 2 ^ e.toNat := by
    rw [show (e + 1).toNat = e.toNat + 1 by omega, Nat.pow_succ']
  have hunit : unit * 2 ^ (e + 1).toNat = 2 * unit * 2 ^ e.toNat := by rw [hpow]; ring
  have hdown : (-(e + 1)).toNat = (-e).toNat := by omega
  constructor
  · rintro ⟨h, -, -⟩
    rw [hbelow, hunit, hpow, hdown] at h
    exact ⟨by omega, by omega, fun hodd => absurd hodd (by decide)⟩
  · rintro ⟨h, -, -⟩
    refine ⟨?_, ?_, fun hodd => absurd hodd (by decide)⟩ <;> rw [hunit, hpow, hdown]
    · rw [hbelow]
      omega
    · omega

/-- A positive natural number is read as a magnitude with a full significand, which it is near to,
and which is a natural number itself. -/
theorem of_ofDecimal_eq (hx : x ≠ 0) (h : ofDecimal x 0 = .finite m e) :
    Normal m e ∧ Near m e x ∧ ∃ v, v * 2 ^ (-e).toNat = m * 2 ^ e.toNat := by
  have h := ofFraction_of_ofDecimal hx h
  obtain ⟨k, hk⟩ : ∃ k : Int, (x.log2 : Int) = k + 52 := ⟨x.log2 - 52, by omega⟩
  obtain ⟨hlow, hhigh⟩ := (log2_eq_iff hx).1 hk
  have hround := roundHalfEven_roundsTo (n := x * 2 ^ (-k).toNat) (Nat.two_pow_pos k.toNat)
  rw [ofFraction_one hx hk] at h
  generalize roundHalfEven (x * 2 ^ (-k).toNat) (2 ^ k.toNat) = q at h hround
  have hsmall : k < 0 → q = x * 2 ^ (-k).toNat := by
    intro hneg
    rw [show k.toNat = 0 by omega] at hround
    exact hround.eq_of_one
  -- a magnitude of at least one unit is a natural number, and smaller ones are not rounded
  have hvalue : 0 ≤ e → ∃ v, v * 2 ^ (-e).toNat = m * 2 ^ e.toNat := fun hnonneg =>
    ⟨m * 2 ^ e.toNat, by rw [show (-e).toNat = 0 by omega, Nat.pow_zero, Nat.mul_one]⟩
  split at h
  · rename_i hq
    split at h
    · cases h
    · cases h
      subst hq
      have hnonneg : 0 ≤ k := by
        by_contra hneg
        have := hsmall (by omega)
        rw [show k.toNat = 0 by omega] at hhigh
        omega
      exact ⟨⟨Nat.le_refl _, by decide, by omega⟩, (near_next_iff_roundsTo hnonneg hhigh).2 hround,
        hvalue (by omega)⟩
  · rename_i hq
    split at h
    · cases h
    · cases h
      have hge := hround.ge hlow (Nat.two_pow_pos _)
      have hle := hround.le_of_lt hhigh
      refine ⟨⟨hge, by omega, by omega⟩, (near_iff_roundsTo hlow).2 hround, ?_⟩
      rcases Int.lt_or_le e 0 with hneg | hnonneg
      · exact ⟨x, by rw [hsmall hneg, show e.toNat = 0 by omega, Nat.pow_zero, Nat.mul_one]⟩
      · exact hvalue hnonneg

theorem Near.pos (hm : Normal m e) (h : Near m e x) : x ≠ 0 := by
  rintro rfl
  have hlower := h.lower
  have hunit := Nat.mul_le_mul_right (2 ^ e.toNat) hm.unit_le
  have hbelow := Nat.mul_le_mul_right (2 ^ e.toNat) (below_le m e)
  have hup := Nat.two_pow_pos e.toNat
  rw [unit_eq] at hunit
  omega

/-- 93 binary digits are less than 28 decimal ones. -/
theorem Near.digitCount_le {k : Nat} (hm : Normal m e) (h : Near m e x) (hk : e.toNat + 53 ≤ 93 * k + 1) :
    digitCount x ≤ 28 * k + 2 := by
  rw [digitCount, Nat.length_toDigits_le_iff (by decide) (by omega)]
  have hupper := h.upper
  have hlt := Nat.mul_le_mul_right (2 ^ e.toNat) (Nat.succ_le_of_lt hm.lt_unit)
  have hx : x ≤ x * 2 ^ (-e).toNat := Nat.le_mul_of_pos_right _ (Nat.two_pow_pos _)
  rw [Nat.succ_mul, unit_eq] at hlt
  calc x ≤ 2 ^ e.toNat * 2 ^ 53 := by omega
    _ = 2 ^ (e.toNat + 53) := (Nat.pow_add ..).symm
    _ ≤ 2 ^ (93 * k + 1) := Nat.pow_le_pow_right (by decide) hk
    _ = 2 * (2 ^ 93) ^ k := by rw [Nat.pow_succ', Nat.pow_mul]
    _ ≤ 2 * (10 ^ 28) ^ k := Nat.mul_le_mul_left _ (Nat.pow_le_pow_left (by decide) k)
    _ < 100 * (10 ^ 28) ^ k := Nat.mul_lt_mul_of_pos_right (by decide) (Nat.pow_pos (by decide))
    _ = 10 ^ (28 * k + 2) := by rw [Nat.pow_add, Nat.pow_mul, Nat.mul_comm]

/-- A number near a magnitude, in the binade of the magnitude, is rounded to it. -/
theorem Near.ofFraction_eq_of_le (hm : Normal m e) (h : Near m e x)
    (hbinade : unit * 2 ^ e.toNat ≤ x * 2 ^ (-e).toNat) :
    ofFraction x 1 = .finite m e := by
  have hround := ((near_iff_roundsTo hbinade).1 h).roundHalfEven_eq (Nat.two_pow_pos _)
  have hexponent := hm.exponent_le
  have hlog : unit * 2 ^ e.toNat ≤ x * 2 ^ (-e).toNat ∧ x * 2 ^ (-e).toNat < 2 * unit * 2 ^ e.toNat := by
    have hupper := h.upper
    have hup := Nat.two_pow_pos e.toNat
    have hlt := Nat.mul_le_mul_right (2 ^ e.toNat) (Nat.succ_le_of_lt hm.lt_unit)
    rw [Nat.succ_mul] at hlt
    exact ⟨hbinade, by omega⟩
  have hx := h.pos hm
  rw [ofFraction_one hx ((log2_eq_iff hx).2 hlog), hround, if_neg (Nat.ne_of_lt hm.lt_unit), if_neg (by omega)]

/-- Below the binade only the least magnitude is near, and it is a natural number. -/
theorem Near.eq_unit_of_lt (hm : Normal m e) (h : Near m e x)
    (hbinade : x * 2 ^ (-e).toNat < unit * 2 ^ e.toNat) :
    0 < e ∧ m = unit := by
  have hlower := h.lower
  have hunit := hm.unit_le
  have hle := below_le m e
  constructor
  · by_contra hneg
    rw [show e.toNat = 0 by omega] at *
    omega
  · by_contra hne
    have hnext := Nat.mul_le_mul_right (2 ^ e.toNat) (show unit + 1 ≤ m by omega)
    have hquarters := Nat.mul_le_mul_right (2 ^ e.toNat) hle
    rw [Nat.succ_mul] at hnext
    omega

/-- A number near a magnitude, below its binade, is rounded up to the binade. -/
theorem Near.ofFraction_eq_of_lt (hm : Normal m e) (h : Near m e x)
    (hbinade : x * 2 ^ (-e).toNat < unit * 2 ^ e.toNat) : ofFraction x 1 = .finite m e := by
  obtain ⟨hpos, rfl⟩ := h.eq_unit_of_lt hm hbinade
  obtain ⟨k, rfl⟩ : ∃ k : Int, e = k + 1 := ⟨e - 1, by omega⟩
  have hx := h.pos hm
  have hexponent := hm.exponent_le
  have hlog : unit * 2 ^ k.toNat ≤ x * 2 ^ (-k).toNat ∧ x * 2 ^ (-k).toNat < 2 * unit * 2 ^ k.toNat := by
    have hlower := h.lower
    have hbelow : below unit (k + 1) = 1 := if_pos ⟨rfl, by rw [minExponent]; omega⟩
    have hpow : (2 : Nat) ^ (k + 1).toNat = 2 * 2 ^ k.toNat := by
      rw [show (k + 1).toNat = k.toNat + 1 by omega, Nat.pow_succ']
    have hle := Nat.le_mul_of_pos_left (2 ^ k.toNat) (show 0 < unit by decide)
    rw [show unit * 2 ^ (k + 1).toNat = 2 * (unit * 2 ^ k.toNat) by rw [hpow]; ring,
      show (-(k + 1)).toNat = (-k).toNat by omega] at hbinade hlower
    rw [hbelow, hpow] at hlower
    rw [Nat.mul_assoc]
    omega
  have hround := (near_next_iff_roundsTo (by omega) hlog.2).1 h
  rw [ofFraction_one hx ((log2_eq_iff hx).2 hlog), if_pos (hround.roundHalfEven_eq (Nat.two_pow_pos _)),
    if_neg (by omega)]

/-- The numbers that are read as a magnitude are those near it. -/
theorem ofDecimal_eq_iff (hm : Normal m e) : ofDecimal x 0 = .finite m e ↔ Near m e x := by
  constructor
  · intro h
    have hx : x ≠ 0 := by
      rintro rfl
      have hunit := hm.unit_le
      cases h
      exact absurd hunit (by decide)
    exact (of_ofDecimal_eq hx h).2.1
  · intro h
    have hexponent := hm.exponent_le
    have hdigits := h.digitCount_le (k := 11) hm (by rw [maxExponent] at hexponent; omega)
    rw [ofDecimal_zero (h.pos hm) hdigits]
    rcases Nat.lt_or_ge (x * 2 ^ (-e).toNat) (unit * 2 ^ e.toNat) with hbinade | hbinade
    · exact h.ofFraction_eq_of_lt hm hbinade
    · exact h.ofFraction_eq_of_le hm hbinade

/-- Numbers of 64 bits are read as finite magnitudes. -/
theorem exists_ofDecimal_eq (hx : x < 2 ^ 64) : ∃ m e, ofDecimal x 0 = .finite m e := by
  by_cases hzero : x = 0
  · subst hzero
    exact ⟨0, 0, rfl⟩
  · have hdigits : digitCount x ≤ 20 := by
      rw [digitCount, Nat.length_toDigits_le_iff (by decide) (by decide)]
      exact Nat.lt_trans hx (by decide)
    have hlog : x.log2 < 64 := (Nat.log2_lt hzero).2 hx
    obtain ⟨e, he⟩ : ∃ e : Int, (x.log2 : Int) = e + 52 := ⟨x.log2 - 52, by omega⟩
    have hexponent : e + 1 ≤ maxExponent := by rw [maxExponent]; omega
    rw [ofDecimal_zero hzero (by omega), ofFraction_one hzero he]
    by_cases hbinade : roundHalfEven (x * 2 ^ (-e).toNat) (2 ^ e.toNat) = 2 * unit
    · rw [if_pos hbinade, if_neg (by omega)]
      exact ⟨_, _, rfl⟩
    · rw [if_neg hbinade, if_neg (by omega)]
      exact ⟨_, _, rfl⟩

end Tablecraft.Decimal.Binary64
