import Mathlib.Data.Rat.Cast.Order
import Mathlib.Tactic.NormNum
import Mathlib.Tactic.Positivity
import Tablecraft.Proofs.Decimal.Rounding

namespace Tablecraft.Decimal

open Binary64

def Spans (count n : Nat) : Prop := ∃ digits zeros, digits < 10 ^ count ∧ n = digits * 10 ^ zeros

/-- `k` is read as `m · 2 ^ e`, with as few digits before its zeros as any number that is, and nearest
to it among those; of two that are equally near it is the greater one. -/
structure IsShortest (m : Nat) (e : Int) (k : Nat) : Prop where
  reads : ofDecimal k 0 = .finite m e
  fewest : ∀ x count, ofDecimal x 0 = .finite m e → Spans count x → Spans count k
  nearest : ∀ x, ofDecimal x 0 = .finite m e → (∀ count, Spans count k → Spans count x) →
    |(k : ℚ) - m * 2 ^ e| ≤ |(x : ℚ) - m * 2 ^ e|
  greatest : ∀ x, ofDecimal x 0 = .finite m e → (∀ count, Spans count k → Spans count x) →
    |(k : ℚ) - m * 2 ^ e| = |(x : ℚ) - m * 2 ^ e| → x ≤ k

variable {m v k x c U : Nat} {e : Int}

theorem IsShortest.unique {k' : Nat} (h : IsShortest m e k) (h' : IsShortest m e k') : k = k' := by
  have hspans : ∀ count, Spans count k → Spans count k' := fun count => h'.fewest k count h.reads
  have hspans' : ∀ count, Spans count k' → Spans count k := fun count => h.fewest k' count h'.reads
  have heq := le_antisymm (h.nearest k' h'.reads hspans) (h'.nearest k h.reads hspans')
  exact Nat.le_antisymm (h'.greatest k h.reads hspans' heq.symm) (h.greatest k' h'.reads hspans heq)

theorem Spans.mono {c' : Nat} (hc : c ≤ c') (h : Spans c x) : Spans c' x := by
  obtain ⟨digits, zeros, hdigits, hx⟩ := h
  exact ⟨digits, zeros, Nat.lt_of_lt_of_le hdigits (Nat.pow_le_pow_right (by decide) hc), hx⟩

theorem digitCount_pos (n : Nat) : 0 < digitCount n := Nat.length_toDigits_pos

theorem digitCount_le_iff (hv : v ≠ 0) : digitCount v ≤ c ↔ v < 10 ^ c := by
  cases c with
  | zero =>
      have := digitCount_pos v
      simp
      omega
  | succ c => exact Nat.length_toDigits_le_iff (by decide) (by omega)

structure Whole (m : Nat) (e : Int) (v : Nat) : Prop extends Normal m e where
  value : v * 2 ^ (-e).toNat = m * 2 ^ e.toNat

namespace Whole

theorem near (h : Whole m e v) : Near m e v := near_of_eq h.value

theorem pos (h : Whole m e v) : v ≠ 0 := h.near.pos h.toNormal

theorem log2_value (h : Whole m e v) : (v.log2 : Int) = e + 52 := by
  refine (log2_eq_iff h.pos).2 ?_
  rw [h.value]
  exact ⟨Nat.mul_le_mul_right _ h.unit_le, Nat.mul_lt_mul_of_pos_right h.lt_unit (Nat.two_pow_pos _)⟩

theorem log2_significand (h : Whole m e v) : m.log2 = 52 := by
  have hm : m ≠ 0 := by
    have := h.unit_le
    rw [unit_eq] at this
    omega
  rw [Nat.log2_eq_iff hm]
  exact ⟨h.unit_le, h.lt_unit⟩

theorem interval_value (h : Whole m e v) :
    (Shortest.interval m e).value = v * (Shortest.interval m e).scale := by
  rw [interval_eq]
  dsimp only
  rw [Nat.mul_left_comm, h.value, Nat.mul_assoc]

theorem scale_pos (m : Nat) (e : Int) : 0 < (Shortest.interval m e).scale :=
  Nat.mul_pos (by decide) (Nat.two_pow_pos _)

theorem pointOf_eq (h : Whole m e v) (fuel : Nat) (p : Int) (hp : p ≤ digitCount v)
    (hfuel : digitCount v ≤ p + fuel) :
    Shortest.pointOf (Shortest.interval m e) fuel p = digitCount v := by
  have habove (p : Int) :
      (if 0 ≤ p then (Shortest.interval m e).value < 10 ^ p.toNat * (Shortest.interval m e).scale
        else (Shortest.interval m e).value * 10 ^ (-p).toNat < (Shortest.interval m e).scale) ↔
        (digitCount v : Int) ≤ p := by
    rw [h.interval_value]
    split
    · rename_i hp
      rw [Nat.mul_lt_mul_right (scale_pos m e), ← digitCount_le_iff h.pos]
      omega
    · rename_i hp
      refine iff_of_false ?_ (by omega)
      rw [Nat.not_lt, Nat.mul_right_comm]
      exact Nat.le_mul_of_pos_left _ (Nat.mul_pos (Nat.pos_of_ne_zero h.pos) (Nat.pow_pos (by decide)))
  induction fuel generalizing p with
  | zero => rw [Shortest.pointOf]; omega
  | succ fuel ih =>
      rw [Shortest.pointOf]
      dsimp only [Nat.pow_eq]
      by_cases hle : (digitCount v : Int) ≤ p
      · rw [if_pos ((habove p).2 hle)]
        omega
      · rw [if_neg (mt (habove p).1 hle)]
        exact ih (p + 1) (by omega) (by omega)

/-- A number of `l` binary digits has at least `3 l / 10` decimal ones. -/
theorem ten_pow_le_two_pow (l : Nat) : 10 ^ (l * 3 / 10) ≤ 2 ^ l := by
  rw [← Nat.pow_le_pow_iff_left (show 10 ≠ 0 by decide), ← Nat.pow_mul, ← Nat.pow_mul]
  calc 10 ^ (l * 3 / 10 * 10) ≤ 10 ^ (3 * l) := Nat.pow_le_pow_right (by decide) (by omega)
    _ = (10 ^ 3) ^ l := Nat.pow_mul ..
    _ ≤ (2 ^ 10) ^ l := Nat.pow_le_pow_left (by decide) l
    _ = 2 ^ (l * 10) := by rw [← Nat.pow_mul, Nat.mul_comm]

theorem pointOf_interval (h : Whole m e v) :
    Shortest.pointOf (Shortest.interval m e) 40 (((m.log2 : Int) + e) * 3 / 10 - 2) = digitCount v := by
  have hlog := h.log2_value
  have hlow : v.log2 * 3 / 10 < digitCount v := by
    rw [← Nat.not_le, digitCount_le_iff h.pos, Nat.not_lt]
    exact Nat.le_trans (ten_pow_le_two_pow _) (Nat.log2_self_le h.pos)
  have hhigh := h.near.digitCount_le h.toNormal (k := (e.toNat + 144) / 93) (by omega)
  have hmax := h.exponent_le
  rw [maxExponent] at hmax
  refine h.pointOf_eq 40 _ ?_ ?_ <;> rw [h.log2_significand] <;> omega

def gridUnit (v c : Nat) : Nat := 10 ^ (digitCount v - (c + 1))

theorem gridUnit_pos (v c : Nat) : 0 < gridUnit v c := Nat.pow_pos (by decide)

/-- `x` does not lie strictly between the neighbours of `v` among the multiples of `U`. -/
def Beside (v U x : Nat) : Prop := x ≤ v / U * U ∨ (v / U + 1) * U ≤ x

structure IsPick (m : Nat) (e : Int) (v U k : Nat) : Prop where
  near : Near m e k
  nearest : ∀ x, Near m e x → Beside v U x → ((k : Int) - v).natAbs ≤ ((x : Int) - v).natAbs
  greatest : ∀ x, Near m e x → Beside v U x → ((k : Int) - v).natAbs = ((x : Int) - v).natAbs → x ≤ k

def gridDigits (v c n : Nat) : Digits :=
  if n = 10 ^ (c + 1) then ⟨n / 10, digitCount v + 1⟩ else ⟨n, digitCount v⟩

theorem onGrid?_eq (h : Whole m e v) (hc : c < digitCount v) :
    Shortest.onGrid? (Shortest.interval m e) (digitCount v) (c + 1 : Nat) =
      (match (Shortest.interval m e).contains (v / gridUnit v c * gridUnit v c) 1,
          (Shortest.interval m e).contains ((v / gridUnit v c + 1) * gridUnit v c) 1 with
        | true, true =>
          some (if gridUnit v c ≤ 2 * (v % gridUnit v c) then v / gridUnit v c + 1 else v / gridUnit v c)
        | true, false => some (v / gridUnit v c)
        | false, true => some (v / gridUnit v c + 1)
        | false, false => none).map (gridDigits v c) := by
  have hscale := scale_pos m e
  have hpower : ((digitCount v : Int) - (c + 1 : Nat)).toNat = digitCount v - (c + 1) := by omega
  have hwhole : (-((digitCount v : Int) - (c + 1 : Nat))).toNat = 0 := by omega
  simp only [Shortest.onGrid?, Nat.pow_eq, hpower, hwhole, Nat.pow_zero, Nat.mul_one, h.interval_value,
    Nat.mul_comm (Shortest.interval m e).scale, Nat.mul_div_mul_right _ _ hscale, Nat.mul_mod_mul_right,
    ← Nat.mul_assoc, Nat.mul_le_mul_right_iff hscale]
  rfl

theorem contains_iff (h : Whole m e v) : (Shortest.interval m e).contains x 1 = true ↔ Near m e x :=
  contains_iff_near (Nat.lt_of_lt_of_le (by decide) h.unit_le)

/-- The lower neighbour of `v`, where the upper one is not near the magnitude or not as near to `v`. -/
theorem isPick_floor (h : Whole m e v) (hU : 0 < U) (hnear : Near m e (v / U * U))
    (hupper : Near m e ((v / U + 1) * U) → 2 * (v % U) < U) : IsPick m e v U (v / U * U) := by
  have hv : v / U * U + v % U = v := by rw [Nat.mul_comm]; exact Nat.div_add_mod v U
  have hr : v % U < U := Nat.mod_lt v hU
  have hsucc : (v / U + 1) * U = v / U * U + U := Nat.succ_mul _ _
  have hbetween : ∀ x, Near m e x → (v / U + 1) * U ≤ x → Near m e ((v / U + 1) * U) := fun x hx hle =>
    h.near.between hx (by omega) hle
  refine ⟨hnear, fun x hx hside => ?_, fun x hx hside heq => ?_⟩
  · rcases hside with hle | hle
    · omega
    · have := hupper (hbetween x hx hle)
      omega
  · rcases hside with hle | hle
    · exact hle
    · have := hupper (hbetween x hx hle)
      omega

/-- The upper neighbour of `v`, where the lower one is not near the magnitude or not nearer to `v`. -/
theorem isPick_ceil (h : Whole m e v) (hU : 0 < U) (hnear : Near m e ((v / U + 1) * U))
    (hlower : Near m e (v / U * U) → U ≤ 2 * (v % U)) : IsPick m e v U ((v / U + 1) * U) := by
  have hv : v / U * U + v % U = v := by rw [Nat.mul_comm]; exact Nat.div_add_mod v U
  have hr : v % U < U := Nat.mod_lt v hU
  have hsucc : (v / U + 1) * U = v / U * U + U := Nat.succ_mul _ _
  have hbetween : ∀ x, Near m e x → x ≤ v / U * U → Near m e (v / U * U) := fun x hx hle =>
    hx.between h.near hle (by omega)
  refine ⟨hnear, fun x hx hside => ?_, fun x hx hside heq => ?_⟩
  · rcases hside with hle | hle
    · have := hlower (hbetween x hx hle)
      omega
    · omega
  · rcases hside with hle | hle <;> omega

/-- The neighbours of `v` on a grid without digits are not near the magnitude. -/
theorem not_near_of_onGrid? (h : Whole m e v) (hc : c < digitCount v)
    (hnone : Shortest.onGrid? (Shortest.interval m e) (digitCount v) (c + 1 : Nat) = none) :
    ¬ Near m e (v / gridUnit v c * gridUnit v c) ∧ ¬ Near m e ((v / gridUnit v c + 1) * gridUnit v c) := by
  rw [h.onGrid?_eq hc, Option.map_eq_none_iff] at hnone
  rw [← h.contains_iff, ← h.contains_iff]
  split at hnone <;> simp_all

/-- The digits of a grid are those of the neighbour of `v` that is to be picked. -/
theorem isPick_of_onGrid? (h : Whole m e v) (hc : c < digitCount v) {d : Digits}
    (hd : Shortest.onGrid? (Shortest.interval m e) (digitCount v) (c + 1 : Nat) = some d) :
    ∃ n, (n = v / gridUnit v c ∨ n = v / gridUnit v c + 1) ∧ d = gridDigits v c n ∧
      IsPick m e v (gridUnit v c) (n * gridUnit v c) := by
  have hU := gridUnit_pos v c
  rw [h.onGrid?_eq hc, Option.map_eq_some_iff] at hd
  obtain ⟨n, hn, hd⟩ := hd
  split at hn
  · rename_i hfloor hceil
    rw [h.contains_iff] at hfloor hceil
    split at hn <;> cases hn
    · rename_i htie
      exact ⟨_, .inr rfl, hd.symm, h.isPick_ceil hU hceil fun _ => htie⟩
    · rename_i htie
      exact ⟨_, .inl rfl, hd.symm, h.isPick_floor hU hfloor fun _ => by omega⟩
  · rename_i hfloor hceil
    cases hn
    rw [h.contains_iff] at hfloor
    exact ⟨_, .inl rfl, hd.symm, h.isPick_floor hU hfloor fun hnear => by
      rw [h.contains_iff.2 hnear] at hceil
      cases hceil⟩
  · rename_i hfloor hceil
    cases hn
    rw [h.contains_iff] at hceil
    exact ⟨_, .inr rfl, hd.symm, h.isPick_ceil hU hceil fun hnear => by
      rw [h.contains_iff.2 hnear] at hfloor
      cases hfloor⟩
  · cases hn

theorem le_of_not_near_floor (h : Whole m e v) (hx : x ≤ v) (hfar : ¬ Near m e x) :
    4 * (x * 2 ^ (-e).toNat) + below m e * 2 ^ e.toNat ≤ 4 * (m * 2 ^ e.toNat) := by
  by_contra hlt
  have hle := Nat.mul_le_mul_right (2 ^ (-e).toNat) hx
  have hup := Nat.two_pow_pos e.toNat
  rw [h.value] at hle
  exact hfar ⟨by omega, by omega, fun _ => ⟨by omega, by omega⟩⟩

theorem le_of_not_near_ceil (h : Whole m e v) (hx : v ≤ x) (hfar : ¬ Near m e x) :
    4 * (m * 2 ^ e.toNat) + 2 * 2 ^ e.toNat ≤ 4 * (x * 2 ^ (-e).toNat) := by
  by_contra hlt
  have hle := Nat.mul_le_mul_right (2 ^ (-e).toNat) hx
  have hquarters := Nat.mul_pos (below_pos m e) (Nat.two_pow_pos e.toNat)
  rw [h.value] at hle
  exact hfar ⟨by omega, by omega, fun _ => ⟨by omega, by omega⟩⟩

theorem lt_ceil (v : Nat) (hU : 0 < U) : v < (v / U + 1) * U := by
  rw [Nat.mul_comm]
  exact Nat.lt_mul_div_succ v hU

/-- Seventeen digits tell magnitudes apart: a neighbour of `v` is near, where `U` counts the seventeenth
digit or a later one. -/
theorem near_of_grid (h : Whole m e v) (hpos : 0 < U) (hU : U * 10 ^ 16 ≤ v) :
    Near m e (v / U * U) ∨ Near m e ((v / U + 1) * U) := by
  by_contra hfar
  rw [not_or] at hfar
  -- otherwise all that is near fits between the neighbours, and `v` would have no room for `10 ^ 16` such gaps
  have hfloor := h.le_of_not_near_floor (Nat.div_mul_le_self v U) hfar.1
  have hceil := h.le_of_not_near_ceil (lt_ceil v hpos).le hfar.2
  have hvalue := Nat.mul_le_mul_right (2 ^ (-e).toNat) hU
  have hsucc : (v / U + 1) * U * 2 ^ (-e).toNat = v / U * U * 2 ^ (-e).toNat + U * 2 ^ (-e).toNat := by
    rw [Nat.succ_mul, Nat.add_mul]
  have hgrid : U * 10 ^ 16 * 2 ^ (-e).toNat = 10 ^ 16 * (U * 2 ^ (-e).toNat) := by ring
  have hup := Nat.two_pow_pos e.toNat
  have hlt := Nat.mul_lt_mul_of_pos_right h.lt_unit hup
  rw [h.value, hgrid] at hvalue
  rw [unit_eq, Nat.mul_assoc] at hlt
  by_cases hbelow : below m e = 2
  · rw [hbelow] at hfloor
    omega
  · have hm : m = 2 ^ 52 := by
      by_contra hne
      exact hbelow (if_neg fun h => hne h.1)
    have hquarters := Nat.mul_le_mul_right (2 ^ e.toNat) (below_pos m e)
    rw [hm] at hvalue hfloor hceil
    omega

theorem gridUnit_mul (hc : c < digitCount v) : gridUnit v c * 10 ^ (c + 1) = 10 ^ digitCount v := by
  rw [gridUnit, ← Nat.pow_add, Nat.sub_add_cancel hc]

theorem floor_lt (h : Whole m e v) (hc : c < digitCount v) : v / gridUnit v c < 10 ^ (c + 1) := by
  rw [Nat.div_lt_iff_lt_mul (gridUnit_pos v c), Nat.mul_comm, gridUnit_mul hc]
  exact (digitCount_le_iff h.pos).1 (Nat.le_refl _)

theorem le_floor (h : Whole m e v) (hc : c < digitCount v) : 10 ^ c ≤ v / gridUnit v c := by
  rw [Nat.le_div_iff_mul_le (gridUnit_pos v c), gridUnit, ← Nat.pow_add, ← Nat.not_lt, ← digitCount_le_iff h.pos]
  omega

theorem beside_of_spans (h : Whole m e v) (hc : c < digitCount v) (hx : Spans (c + 1) x) :
    Beside v (gridUnit v c) x := by
  obtain ⟨digits, zeros, hdigits, rfl⟩ := hx
  rcases Nat.lt_or_ge zeros (digitCount v - (c + 1)) with hfew | hmany
  · -- a number with fewer digits than `v`
    left
    calc digits * 10 ^ zeros ≤ 10 ^ (c + 1) * 10 ^ zeros := Nat.mul_le_mul_right _ hdigits.le
      _ = 10 ^ (c + 1 + zeros) := (Nat.pow_add ..).symm
      _ ≤ 10 ^ (c + (digitCount v - (c + 1))) := Nat.pow_le_pow_right (by decide) (by omega)
      _ = 10 ^ c * gridUnit v c := Nat.pow_add ..
      _ ≤ v / gridUnit v c * gridUnit v c := Nat.mul_le_mul_right _ (h.le_floor hc)
  · -- a number of the grid
    obtain ⟨more, rfl⟩ := Nat.exists_eq_add_of_le hmany
    rw [Nat.pow_add, ← gridUnit, Nat.mul_comm (gridUnit v c), ← Nat.mul_assoc]
    rcases Nat.lt_or_ge (v / gridUnit v c) (digits * 10 ^ more) with hlt | hge
    · exact .inr (Nat.mul_le_mul_right _ hlt)
    · exact .inl (Nat.mul_le_mul_right _ hge)

/-- Where a number of so few digits is near the magnitude, so is a neighbour of `v` on their grid. -/
theorem near_of_spans (h : Whole m e v) (hc : c < digitCount v) (hx : Spans (c + 1) x) (hnear : Near m e x) :
    Near m e (v / gridUnit v c * gridUnit v c) ∨ Near m e ((v / gridUnit v c + 1) * gridUnit v c) := by
  rcases h.beside_of_spans hc hx with hle | hle
  · exact .inl (hnear.between h.near hle (Nat.div_mul_le_self v _))
  · exact .inr (h.near.between hnear (lt_ceil v (gridUnit_pos v c)).le hle)

structure FirstPick (m : Nat) (e : Int) (v c n : Nat) : Prop where
  lt_digitCount : c < digitCount v
  neighbour : n = v / gridUnit v c ∨ n = v / gridUnit v c + 1
  isPick : IsPick m e v (gridUnit v c) (n * gridUnit v c)
  first : ∀ c' < c, ∀ x, Near m e x → ¬ Spans (c' + 1) x

theorem findSome?_range {α : Type} {f : Nat → Option α} {n : Nat} {a : α}
    (h : (List.range n).findSome? f = some a) : ∃ i < n, f i = some a ∧ ∀ j < i, f j = none := by
  induction n with
  | zero => cases h
  | succ n ih =>
      rw [List.range_succ, List.findSome?_append, Option.or_eq_some_iff] at h
      rcases h with h | ⟨hnone, h⟩
      · obtain ⟨i, hi, hfirst⟩ := ih h
        exact ⟨i, by omega, hfirst⟩
      · rw [List.findSome?_singleton] at h
        exact ⟨n, by omega, h, fun j hj => List.findSome?_eq_none_iff.1 hnone j (List.mem_range.2 hj)⟩

/-- One of the first 17 grids has a number near the magnitude. -/
theorem exists_onGrid? (h : Whole m e v) : ∃ c < 17, c < digitCount v ∧
    Shortest.onGrid? (Shortest.interval m e) (digitCount v) (c + 1 : Nat) ≠ none := by
  rcases Nat.lt_or_ge (digitCount v) 17 with hfew | hmany
  · have hpos := digitCount_pos v
    refine ⟨digitCount v - 1, by omega, by omega, fun hnone => ?_⟩
    have hfar := (h.not_near_of_onGrid? (by omega) hnone).1
    rw [gridUnit, Nat.sub_add_cancel hpos, Nat.sub_self, Nat.pow_zero, Nat.div_one, Nat.mul_one] at hfar
    exact hfar h.near
  · refine ⟨16, by omega, by omega, fun hnone => ?_⟩
    have hfar := h.not_near_of_onGrid? (by omega) hnone
    have hU : gridUnit v 16 * 10 ^ 16 ≤ v := by
      rw [gridUnit, ← Nat.pow_add, ← Nat.not_lt, ← digitCount_le_iff h.pos]
      omega
    exact (h.near_of_grid (gridUnit_pos v 16) hU).elim hfar.1 hfar.2

/-- The digits are those of the first grid with a number near the magnitude. -/
theorem exists_firstPick (h : Whole m e v) :
    ∃ c n, FirstPick m e v c n ∧ Shortest.digits m e = gridDigits v c n := by
  obtain ⟨c, hc, hcount, hfound⟩ := h.exists_onGrid?
  rw [Shortest.digits, h.pointOf_interval]
  cases hfirst : (List.range 17).findSome? fun k =>
      Shortest.onGrid? (Shortest.interval m e) (digitCount v) (k + 1) with
  | none => exact absurd (List.findSome?_eq_none_iff.1 hfirst c (List.mem_range.2 hc)) hfound
  | some d =>
      obtain ⟨i, hi, hd, hbefore⟩ := findSome?_range hfirst
      have hic : i ≤ c := by
        by_contra hlt
        exact hfound (hbefore c (by omega))
      obtain ⟨n, hneighbour, hdn, hpick⟩ := h.isPick_of_onGrid? (by omega) hd
      refine ⟨i, n, ⟨by omega, hneighbour, hpick, fun c' hc' x hx hspans => ?_⟩, hdn⟩
      have hfar := h.not_near_of_onGrid? (by omega) (hbefore c' hc')
      exact (h.near_of_spans (by omega) hspans hx).elim hfar.1 hfar.2

theorem cast_value (h : Whole m e v) : (m : ℚ) * 2 ^ e = v := by
  have hvalue : (v : ℚ) * 2 ^ (-e).toNat = m * 2 ^ e.toNat := by exact_mod_cast h.value
  have he : e = (e.toNat : Int) - ((-e).toNat : Int) := by omega
  rw [he, zpow_sub₀ two_ne_zero, zpow_natCast, zpow_natCast, ← mul_div_assoc, div_eq_iff (by positivity)]
  exact hvalue.symm

theorem abs_sub_value (h : Whole m e v) (x : Nat) :
    |(x : ℚ) - m * 2 ^ e| = (((x : Int) - v).natAbs : ℚ) := by
  rw [h.cast_value, Nat.cast_natAbs]
  push_cast
  rfl

namespace FirstPick

variable {n : Nat}

theorem bounds (hn : FirstPick m e v c n) (h : Whole m e v) : 10 ^ c ≤ n ∧ n ≤ 10 ^ (c + 1) := by
  have hlow := h.le_floor hn.lt_digitCount
  have hhigh := h.floor_lt hn.lt_digitCount
  rcases hn.neighbour with rfl | rfl <;> omega

theorem spans (hn : FirstPick m e v c n) (h : Whole m e v) : Spans (c + 1) (n * gridUnit v c) := by
  rcases Nat.lt_or_eq_of_le (hn.bounds h).2 with hlt | rfl
  · exact ⟨n, _, hlt, rfl⟩
  · refine ⟨1, digitCount v, Nat.one_lt_pow (by omega) (by decide), ?_⟩
    rw [Nat.mul_comm, gridUnit_mul hn.lt_digitCount, Nat.one_mul]

/-- What is picked on the first grid is the shortest number that is read as the magnitude. -/
theorem isShortest (hn : FirstPick m e v c n) (h : Whole m e v) : IsShortest m e (n * gridUnit v c) := by
  have hreads : ∀ {x}, ofDecimal x 0 = .finite m e ↔ Near m e x := ofDecimal_eq_iff h.toNormal
  have hbeside : ∀ {x}, (∀ count, Spans count (n * gridUnit v c) → Spans count x) → Beside v (gridUnit v c) x :=
    fun hless => h.beside_of_spans hn.lt_digitCount (hless _ (hn.spans h))
  refine ⟨hreads.2 hn.isPick.near, ?_, ?_, ?_⟩
  · intro x count hx hcount
    cases count with
    | zero =>
        obtain ⟨digits, zeros, hlt, rfl⟩ := hcount
        exact absurd ((hreads.1 hx).pos h.toNormal) (by simp; omega)
    | succ count =>
        have hle : c ≤ count := by
          by_contra hlt
          exact hn.first count (by omega) x (hreads.1 hx) hcount
        exact (hn.spans h).mono (by omega)
  · intro x hx hless
    rw [h.abs_sub_value, h.abs_sub_value, Nat.cast_le]
    exact hn.isPick.nearest x (hreads.1 hx) (hbeside hless)
  · intro x hx hless heq
    rw [h.abs_sub_value, h.abs_sub_value, Nat.cast_inj] at heq
    exact hn.isPick.greatest x (hreads.1 hx) (hbeside hless) heq

end FirstPick

end Whole

theorem eq_zero_of_ofDecimal (hx : ofDecimal x 0 = .finite 0 0) : x = 0 := by
  by_contra hne
  exact absurd (of_ofDecimal_eq hne hx).1.unit_le (by decide)

theorem isShortest_zero : IsShortest 0 0 0 := by
  refine ⟨rfl, fun x count hx hspans => ?_, fun x hx _ => ?_, fun x hx _ _ => ?_⟩
  · rwa [eq_zero_of_ofDecimal hx] at hspans
  · rw [eq_zero_of_ofDecimal hx]
  · rw [eq_zero_of_ofDecimal hx]

/-- The numbers up to `2 ^ 53` are told apart from all others, but that `2 ^ 53 + 1` is read as
`2 ^ 53` too. -/
theorem near_small {n : Nat} (hm : Normal m e) (hn : n ≤ 2 ^ 53) (hnear : Near m e n) (hx : Near m e x) :
    x = n ∨ n = 2 ^ 53 ∧ x = 2 ^ 53 + 1 ∧ m = unit ∧ e = 1 := by
  have hlower := hnear.lower
  have hupper := hnear.upper
  have hlower' := hx.lower
  have hupper' := hx.upper
  have hunit := hm.unit_le
  rw [unit_eq] at hunit
  have hle := below_le m e
  rcases Int.lt_or_le 0 e with hpos | hneg
  · have htwo : 2 ≤ 2 ^ e.toNat := Nat.le_self_pow (by omega) 2
    rw [show (-e).toNat = 0 by omega, Nat.pow_zero, Nat.mul_one] at *
    have hm' : m = unit := by
      by_contra hne
      rw [unit_eq] at hne
      have := Nat.mul_le_mul_right (2 ^ e.toNat) (show 2 ^ 52 + 1 ≤ m by omega)
      have := Nat.mul_le_mul_right (2 ^ e.toNat) hle
      omega
    subst hm'
    rw [show below unit e = 1 from if_pos ⟨rfl, by rw [minExponent]; omega⟩, unit_eq] at *
    have he : e = 1 := by
      by_contra hne
      have : 2 ^ 2 ≤ 2 ^ e.toNat := Nat.pow_le_pow_right (by decide) (by omega)
      omega
    subst he
    rw [show (1 : Int).toNat = 1 by rfl] at *
    have hbinade : n = 2 ^ 53 := by omega
    rcases Nat.lt_or_eq_of_le (show x ≤ 2 ^ 53 + 1 by omega) with hlt | heq
    · exact .inl (by omega)
    · exact .inr ⟨hbinade, heq, rfl, rfl⟩
  · left
    rw [show e.toNat = 0 by omega, Nat.pow_zero, Nat.mul_one] at *
    exact Nat.eq_of_mul_eq_mul_right (Nat.two_pow_pos (-e).toNat) (by omega)

theorem IsShortest.eq_of_le {n : Nat} (h : IsShortest m e k) (hn : ofDecimal n 0 = .finite m e)
    (hle : n ≤ 2 ^ 53) :
    k = n := by
  by_cases hzero : n = 0
  · subst hzero
    cases hn
    exact eq_zero_of_ofDecimal h.reads
  have hm := (of_ofDecimal_eq hzero hn).1
  rcases near_small hm hle ((ofDecimal_eq_iff hm).1 hn) ((ofDecimal_eq_iff hm).1 h.reads) with heq |
    ⟨rfl, rfl, rfl, rfl⟩
  · exact heq
  · -- the other number does not end in zeros, so that it has no fewer digits, and is farther away
    have hspans : ∀ count, Spans count (2 ^ 53 + 1) → Spans count (2 ^ 53) := by
      rintro count ⟨digits, zeros, hlt, heq⟩
      cases zeros with
      | zero =>
          rw [Nat.pow_zero, Nat.mul_one] at heq
          subst heq
          exact ⟨2 ^ 53, 0, Nat.lt_of_succ_lt hlt, rfl⟩
      | succ zeros =>
          rw [show 10 ^ (zeros + 1) = 10 ^ zeros * 10 from Nat.pow_succ .., ← Nat.mul_assoc] at heq
          omega
    have hnearest := h.nearest _ hn hspans
    rw [unit_eq] at hnearest
    norm_num at hnearest

end Tablecraft.Decimal
