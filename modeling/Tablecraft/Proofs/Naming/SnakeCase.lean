import Tablecraft.Naming

namespace Tablecraft.Naming

def isSmall (cs : List Char) : Bool := cs.all fun c => !Text.isUppercase c

def camelChars (afterWord : Bool) : List Char → Bool
  | [] => true
  | c :: rest =>
    if Text.isUppercase c then afterWord && c.isUpper && camelChars false rest
    else c ≠ '_' && camelChars (Text.isAlphanumeric c) rest

/-- The name is written without capitals or in camel case. -/
def Regular (name : String) : Prop := isSmall name.toList = true ∨ camelChars false name.toList = true

theorem snakeChars_of_isSmall {cs : List Char} (h : isSmall cs = true) (afterWord : Bool) :
    snakeChars afterWord cs = cs := by
  induction cs generalizing afterWord with
  | nil => rfl
  | cons c rest ih =>
      obtain ⟨hc, hrest⟩ : Text.isUppercase c = false ∧ isSmall rest = true := by
        simpa [isSmall] using h
      simp [snakeChars, hc, ih hrest]

def readBack : List Char → List Char
  | '_' :: c :: rest => c.toUpper :: readBack rest
  | c :: rest => c :: readBack rest
  | [] => []

theorem isAscii_of_isUpper {c : Char} (h : c.isUpper = true) : Text.isAscii c = true := by
  have hr : c.val ≥ 'A'.val ∧ c.val ≤ 'Z'.val := of_decide_eq_true h
  have hz : c.toNat ≤ 'Z'.toNat := hr.2
  exact decide_eq_true (Nat.lt_of_le_of_lt hz (by decide))

theorem lowerChar_of_isUpper {c : Char} (h : c.isUpper = true) : Text.lowerChar c = [c.toLower] := by
  rw [Text.lowerChar, if_pos (isAscii_of_isUpper h)]

theorem toUpper_toLower {c : Char} (h : c.isUpper = true) : c.toLower.toUpper = c := by
  have hall : ∀ n < 128, (Char.ofNat n).isUpper = true →
      (Char.ofNat n).toLower.toUpper = Char.ofNat n := by decide
  exact Text.of_isAscii (P := fun c => c.isUpper = true → c.toLower.toUpper = c) hall (isAscii_of_isUpper h) h

theorem isUppercase_toLower {c : Char} (h : c.isUpper = true) : Text.isUppercase c.toLower = false := by
  have hall : ∀ n < 128, (Char.ofNat n).isUpper = true →
      Text.isUppercase (Char.ofNat n).toLower = false := by decide
  exact Text.of_isAscii (P := fun c => c.isUpper = true → Text.isUppercase c.toLower = false) hall
    (isAscii_of_isUpper h) h

theorem readBack_cons {c : Char} (h : c ≠ '_') (rest : List Char) :
    readBack (c :: rest) = c :: readBack rest := by
  rw [readBack.eq_2]
  exact fun _ _ hc _ => h hc

theorem readBack_snakeChars {cs : List Char} {afterWord : Bool} (h : camelChars afterWord cs = true) :
    readBack (snakeChars afterWord cs) = cs := by
  induction cs generalizing afterWord with
  | nil => rfl
  | cons c rest ih =>
      by_cases hu : Text.isUppercase c = true
      · obtain ⟨⟨rfl, hc⟩, hrest⟩ : (afterWord = true ∧ c.isUpper = true) ∧ camelChars false rest = true := by
          simpa [camelChars, hu] using h
        simp only [snakeChars, hu, lowerChar_of_isUpper hc, if_true, List.cons_append, List.nil_append]
        rw [readBack, toUpper_toLower hc, ih hrest]
      · obtain ⟨hc, hrest⟩ : c ≠ '_' ∧ camelChars (Text.isAlphanumeric c) rest = true := by
          simpa [camelChars, hu] using h
        rw [snakeChars, if_neg hu, readBack_cons hc, ih hrest]

theorem isSmall_snakeChars {cs : List Char} {afterWord : Bool} (h : camelChars afterWord cs = true) :
    isSmall (snakeChars afterWord cs) = true := by
  induction cs generalizing afterWord with
  | nil => rfl
  | cons c rest ih =>
      by_cases hu : Text.isUppercase c = true
      · obtain ⟨⟨rfl, hc⟩, hrest⟩ : (afterWord = true ∧ c.isUpper = true) ∧ camelChars false rest = true := by
          simpa [camelChars, hu] using h
        have hunderscore : Text.isUppercase '_' = false := by decide
        have hi := ih hrest
        simp only [isSmall] at hi
        simp [snakeChars, hu, lowerChar_of_isUpper hc, isSmall, hunderscore, isUppercase_toLower hc, hi]
      · obtain ⟨_, hrest⟩ : c ≠ '_' ∧ camelChars (Text.isAlphanumeric c) rest = true := by
          simpa [camelChars, hu] using h
        have hi := ih hrest
        simp only [isSmall] at hi
        simp [snakeChars, hu, isSmall, hi]

theorem snakeCase_of_isSmall {name : String} (h : isSmall name.toList = true) : snakeCase name = name := by
  rw [snakeCase, snakeChars_of_isSmall h, String.ofList_toList]

theorem snakeCase_snakeCase {name : String} (h : Regular name) :
    snakeCase (snakeCase name) = snakeCase name := by
  rcases h with h | h
  · rw [snakeCase_of_isSmall h, snakeCase_of_isSmall h]
  · refine snakeCase_of_isSmall ?_
    rw [snakeCase, String.toList_ofList]
    exact isSmall_snakeChars h

theorem snakeCase_inj {m n : String} (hm : camelChars false m.toList = true)
    (hn : camelChars false n.toList = true) (h : snakeCase m = snakeCase n) : m = n := by
  have hl : snakeChars false m.toList = snakeChars false n.toList := String.ofList_injective h
  refine String.toList_injective ?_
  rw [← readBack_snakeChars hm, hl, readBack_snakeChars hn]

/-- Regular names have one form exactly where they are the same or one is the form of the other. -/
theorem snakeCase_eq_iff {m n : String} (hm : Regular m) (hn : Regular n) :
    snakeCase m = snakeCase n ↔ m = n ∨ m = snakeCase n ∨ n = snakeCase m := by
  constructor
  · intro h
    rcases hm with hs | hc
    · exact .inr (.inl (by rw [← h, snakeCase_of_isSmall hs]))
    · rcases hn with hs' | hc'
      · exact .inr (.inr (by rw [h, snakeCase_of_isSmall hs']))
      · exact .inl (snakeCase_inj hc hc' h)
  · rintro (rfl | h | h)
    · rfl
    · rw [h, snakeCase_snakeCase hn]
    · rw [h, snakeCase_snakeCase hm]

end Tablecraft.Naming
