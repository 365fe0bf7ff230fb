import Mathlib.Data.List.TakeWhile
import Tablecraft.Decimal.Literal
import Tablecraft.Proofs.Decimal.Shortest

namespace Tablecraft.Decimal

open Binary64

variable {m n v c P : Nat} {e : Int}

theorem toDigits_mul_ten_pow (hn : 0 < n) (zeros : Nat) :
    Nat.toDigits 10 (n * 10 ^ zeros) = Nat.toDigits 10 n ++ List.replicate zeros '0' := by
  induction zeros with
  | zero => simp
  | succ zeros ih =>
      have hpos : 0 < n * 10 ^ zeros := Nat.mul_pos hn (Nat.pow_pos (by decide))
      have happend := Nat.toDigits_append_toDigits (b := 10) (d := 0) (by decide) hpos (by decide)
      rw [Nat.add_zero, show Nat.toDigits 10 0 = ['0'] from rfl, ih] at happend
      rw [Nat.pow_succ', Nat.mul_left_comm, ← happend, List.append_assoc, List.replicate_succ']

theorem exists_dropTrailingZeros (fuel n : Nat) : ∃ zeros, n = dropTrailingZeros fuel n * 10 ^ zeros := by
  induction fuel generalizing n with
  | zero => exact ⟨0, by rw [dropTrailingZeros, Nat.pow_zero, Nat.mul_one]⟩
  | succ fuel ih =>
      rw [dropTrailingZeros]
      split
      · rename_i hzero
        obtain ⟨zeros, hzeros⟩ := ih (n / 10)
        exact ⟨zeros + 1, by rw [Nat.pow_succ, ← Nat.mul_assoc, ← hzeros]; omega⟩
      · exact ⟨0, by rw [Nat.pow_zero, Nat.mul_one]⟩

/-- Digits before the point are filled up with zeros to it. -/
theorem positional_whole (hn : 0 < n) (hc : digitCount n ≤ P) :
    positional ⟨n, P⟩ = Nat.toDigits 10 (n * 10 ^ (P - digitCount n)) := by
  obtain ⟨zeros, hzeros⟩ := exists_dropTrailingZeros 20 n
  have hdrop : 0 < dropTrailingZeros 20 n := by
    rcases Nat.eq_zero_or_pos (dropTrailingZeros 20 n) with heq | hpos
    · rw [heq, Nat.zero_mul] at hzeros
      omega
    · exact hpos
  have hcount : digitCount n = (Nat.toDigits 10 (dropTrailingZeros 20 n)).length + zeros := by
    rw [digitCount, hzeros, toDigits_mul_ten_pow hdrop, List.length_append, List.length_replicate, ← hzeros]
  have hpos := digitCount_pos n
  rw [positional]
  dsimp only
  rw [if_neg (by omega), Int.toNat_natCast, if_pos (by omega)]
  conv_rhs => rw [hzeros, Nat.mul_assoc, ← Nat.pow_add, toDigits_mul_ten_pow hdrop, ← hzeros]
  rw [show zeros + (P - digitCount n) = P - (Nat.toDigits 10 (dropTrailingZeros 20 n)).length by omega]

theorem digitCount_eq (hlow : 10 ^ c ≤ n) (hhigh : n < 10 ^ (c + 1)) : digitCount n = c + 1 := by
  have hpos : n ≠ 0 := by
    have := Nat.pow_pos (n := c) (show 0 < 10 by decide)
    omega
  have hle := (digitCount_le_iff hpos).2 hhigh
  have hlt := mt (digitCount_le_iff (c := c) hpos).1 (by omega)
  omega

theorem positional_gridDigits (hc : c < digitCount v) (hlow : 10 ^ c ≤ n) (hhigh : n ≤ 10 ^ (c + 1)) :
    positional (Whole.gridDigits v c n) = Nat.toDigits 10 (n * Whole.gridUnit v c) := by
  have hpow : 0 < 10 ^ c := Nat.pow_pos (by decide)
  rw [Whole.gridDigits, Whole.gridUnit]
  split
  · rename_i heq
    subst heq
    have hcount := digitCount_eq (Nat.le_refl (10 ^ c)) (Nat.pow_lt_pow_succ (by decide))
    rw [Nat.pow_succ, Nat.mul_div_cancel _ (by decide),
      show (digitCount v : Int) + 1 = ((digitCount v + 1 : Nat) : Int) from rfl,
      positional_whole hpow (by omega), hcount, Nat.mul_assoc, ← Nat.pow_succ',
      show digitCount v + 1 - (c + 1) = (digitCount v - (c + 1)).succ by omega]
  · rename_i hne
    have hcount := digitCount_eq hlow (by omega)
    rw [positional_whole (by omega) (by omega), hcount]

/-- A magnitude that a natural number is read as is written as the shortest one. -/
theorem magnitudeText_of_ofDecimal (h : ofDecimal n 0 = .finite m e) :
    ∃ k, IsShortest m e k ∧ magnitudeText (.finite m e) = k.repr := by
  by_cases hn : n = 0
  · subst hn
    cases h
    exact ⟨0, isShortest_zero, rfl⟩
  · obtain ⟨hm, -, v, hv⟩ := of_ofDecimal_eq hn h
    have hwhole : Whole m e v := ⟨hm, hv⟩
    obtain ⟨c, k, hpick, hdigits⟩ := hwhole.exists_firstPick
    obtain ⟨hlow, hhigh⟩ := hpick.bounds hwhole
    have hne : m ≠ 0 := Nat.ne_of_gt (Nat.lt_of_lt_of_le (by decide) hm.unit_le)
    refine ⟨_, hpick.isShortest hwhole, ?_⟩
    rw [magnitudeText, hdigits, positional_gridDigits hpick.lt_digitCount hlow hhigh, Nat.repr]
    exact hne

theorem natOfDigits_toDigits (n : Nat) : natOfDigits (Nat.toDigits 10 n) = n := Nat.ofDigitChars_ten_toDigits

theorem isDigit_toDigits (n : Nat) : ∀ c ∈ Nat.toDigits 10 n, c.isDigit = true := fun _ hc =>
  Nat.isDigit_of_mem_toDigits (by decide) (by decide) hc

theorem magnitude?_toDigits (n : Nat) : magnitude? (Nat.toDigits 10 n) = some (ofDecimal n 0) := by
  have hdigits := isDigit_toDigits n
  have hne : Nat.toDigits 10 n ≠ [] := Nat.toDigits_ne_nil
  rw [magnitude?, List.takeWhile_eq_self_iff.2 hdigits, List.dropWhile_eq_nil_iff.2 hdigits]
  simp [hne, exponent?, natOfDigits_toDigits]

theorem toLower_of_isDigit {c : Char} (hc : c.isDigit = true) : c.toLower = c := by
  rw [Char.isDigit_iff_toNat] at hc
  refine dif_neg fun hupper => ?_
  simp only [ge_iff_le, UInt32.le_iff_toNat_le, Char.toNat_val] at hupper
  exact absurd (Nat.le_trans hupper.1 hc.2) (by decide)

theorem isWord_toDigits {word : String} {c : Char} (hc : c ∈ word.toList) (hletter : c.isDigit = false)
    (n : Nat) :
    isWord word (Nat.toDigits 10 n) = false := by
  have hlower : (Nat.toDigits 10 n).map Char.toLower = Nat.toDigits 10 n := by
    conv_rhs => rw [← List.map_id (Nat.toDigits 10 n)]
    exact List.map_congr_left fun c hc => toLower_of_isDigit (isDigit_toDigits n c hc)
  rw [isWord, hlower, beq_eq_false_iff_ne]
  intro heq
  have := isDigit_toDigits n c (heq ▸ hc)
  rw [hletter] at this
  cases this

theorem toList_ofNat (n : Nat) : (toString (Int.ofNat n)).toList = Nat.toDigits 10 n := String.toList_ofList

theorem toList_negSucc (n : Nat) : (toString (Int.negSucc n)).toList = '-' :: Nat.toDigits 10 (n + 1) := by
  rw [show toString (Int.negSucc n) = "-" ++ Nat.repr (n + 1) from rfl, String.toList_append]
  exact congrArg (List.cons '-') String.toList_ofList

theorem toString_injective {i j : Int} (h : toString i = toString j) : i = j := by
  have hlist := congrArg String.toList h
  have hdigits {m n : Nat} (h : Nat.toDigits 10 m = Nat.toDigits 10 n) : m = n := by
    rw [← natOfDigits_toDigits m, h, natOfDigits_toDigits]
  have hsign {m n : Nat} : Nat.toDigits 10 m ≠ '-' :: Nat.toDigits 10 n := fun h =>
    absurd (isDigit_toDigits m '-' (h ▸ List.mem_cons_self)) (by decide)
  cases i with
  | ofNat m =>
      cases j with
      | ofNat n =>
          rw [toList_ofNat, toList_ofNat] at hlist
          rw [hdigits hlist]
      | negSucc n => exact absurd (by rwa [toList_ofNat, toList_negSucc] at hlist) hsign
  | negSucc m =>
      cases j with
      | ofNat n => exact absurd (by rwa [toList_ofNat, toList_negSucc] at hlist) (Ne.symm hsign)
      | negSucc n =>
          rw [toList_negSucc, toList_negSucc, List.cons.injEq] at hlist
          rw [Nat.succ.inj (hdigits hlist.2)]

/-- The text of an integer is read as its sign and its digits. -/
theorem read?_toString (i : Int) :
    read? (toString i) = some (.finite (decide (i < 0)) (ofDecimal i.natAbs 0)) := by
  have hdigits (n : Nat) (negative : Bool) :
      (if isWord "inf" (Nat.toDigits 10 n) || isWord "infinity" (Nat.toDigits 10 n) then
          some (Number.finite negative .infinite)
        else if isWord "nan" (Nat.toDigits 10 n) then some .notANumber
        else (magnitude? (Nat.toDigits 10 n)).map (.finite negative)) =
        some (.finite negative (ofDecimal n 0)) := by
    rw [isWord_toDigits (c := 'i') (by decide) rfl, isWord_toDigits (c := 'i') (by decide) rfl,
      isWord_toDigits (c := 'n') (by decide) rfl, magnitude?_toDigits]
    rfl
  rw [read?]
  split
  rename_i negative cs hsign
  cases i with
  | ofNat n =>
      rw [toList_ofNat] at hsign
      split at hsign
      · rename_i heq
        exact absurd (isDigit_toDigits n '-' (heq ▸ List.mem_cons_self)) (by decide)
      · rename_i heq
        exact absurd (isDigit_toDigits n '+' (heq ▸ List.mem_cons_self)) (by decide)
      · cases hsign
        exact hdigits n false
  | negSucc n =>
      rw [toList_negSucc] at hsign
      cases hsign
      rw [decide_eq_true (Int.negSucc_lt_zero n)]
      exact hdigits (n + 1) true

theorem trimChars_eq_self {cs : List Char} (h : ∀ c ∈ cs, Text.isWhiteSpace c = false) :
    Text.trimChars cs = cs := by
  have hdrop : ∀ {cs : List Char}, (∀ c ∈ cs, Text.isWhiteSpace c = false) →
      cs.dropWhile Text.isWhiteSpace = cs := by
    intro cs h
    refine List.dropWhile_eq_self_iff.2 fun hl => ?_
    rw [h _ (List.getElem_mem hl)]
    decide
  rw [Text.trimChars, hdrop h, hdrop fun c hc => h c (List.mem_reverse.1 hc), List.reverse_reverse]

theorem trim_toString (i : Int) : Text.trim (toString i) = toString i := by
  have hdigit : ∀ {c : Char}, c.isDigit = true → Text.isWhiteSpace c = false := by
    intro c hc
    rw [Char.isDigit_iff_toNat] at hc
    have hlow : 48 ≤ c.toNat := hc.1
    have hhigh : c.toNat ≤ 57 := hc.2
    simp [Text.isWhiteSpace]
    omega
  have hdigits : ∀ n, ∀ c ∈ Nat.toDigits 10 n, Text.isWhiteSpace c = false := fun n c hc =>
    hdigit (isDigit_toDigits n c hc)
  rw [Text.trim, trimChars_eq_self, String.ofList_toList]
  cases i with
  | ofNat n =>
      rw [toList_ofNat]
      exact hdigits n
  | negSucc n =>
      rw [toList_negSucc, List.forall_mem_cons]
      exact ⟨by decide, hdigits (n + 1)⟩

/-- The normal form of an integer's text, where a magnitude is finite: its sign and the shortest number
that is read as the same magnitude. -/
theorem normalize?_toString (i : Int) (h : ofDecimal i.natAbs 0 = .finite m e) :
    ∃ k : Nat, IsShortest m e k ∧ normalize? (Text.trim (toString i)) = some (toString (i.sign * k)) := by
  obtain ⟨k, hk, htext⟩ := magnitudeText_of_ofDecimal h
  refine ⟨k, hk, ?_⟩
  rw [trim_toString, normalize?, read?_toString, h, Option.map_some, Number.text, htext]
  cases i with
  | ofNat n =>
      cases n with
      | zero =>
          cases h
          rw [eq_zero_of_ofDecimal hk.reads]
          rfl
      | succ n =>
          rw [show (Int.ofNat (n + 1)).sign = 1 from rfl, Int.one_mul]
          exact congrArg some (String.empty_append (s := k.repr))
  | negSucc n =>
      have hpos : k ≠ 0 := by
        rintro rfl
        have hreads := hk.reads
        cases hreads
        exact absurd (eq_zero_of_ofDecimal h) (Nat.succ_ne_zero n)
      obtain ⟨k, rfl⟩ := Nat.exists_eq_succ_of_ne_zero hpos
      rw [decide_eq_true (Int.negSucc_lt_zero n), show (Int.negSucc n).sign = -1 from rfl, Int.neg_one_mul]
      rfl

end Tablecraft.Decimal
