import Mathlib.Algebra.Group.Nat.Defs
import Tablecraft.Proofs.Naming.Lengths
import Tablecraft.Proofs.Naming.Clashes

namespace Tablecraft.Naming

open Text

variable {cache : Cache} {suffix base name : String} {limit calls : Nat}

def Cache.shortenAll (cache : Cache) (suffix : String) (limit : Nat) : List String → List String × Cache
  | [] => ([], cache)
  | base :: rest =>
    let first := cache.shorten base suffix limit
    let others := first.2.shortenAll suffix limit rest
    (first.1 :: others.1, others.2)

def Cache.name? (cache : Cache) (suffix : String) (limit : Nat) (base : String) : Option String :=
  if byteLength (base ++ suffix) ≤ limit then some (base ++ suffix) else cache.names.get? (base ++ suffix)

def Cache.count (cache : Cache) (suffix : String) : Nat := (cache.counters.get? suffix).getD 0

def numberedTail (suffix : String) (number : Nat) : String := suffix ++ "_" ++ ofNat number

def numberedName (base suffix : String) (limit number : Nat) : String :=
  truncate base (limit - byteLength (numberedTail suffix number)) ++ numberedTail suffix number

def numberOf (name : String) : Nat :=
  Nat.ofDigitChars 10 (name.toList.reverse.takeWhile (· ≠ '_')).reverse 0

theorem numberOf_append_ofNat (head : String) (number : Nat) :
    numberOf (head ++ "_" ++ ofNat number) = number := by
  have hdigits : ∀ c ∈ (Nat.toDigits 10 number).reverse, (decide (c ≠ '_')) = true := by
    intro c hc
    apply decide_eq_true
    rintro rfl
    exact Nat.underscore_not_in_toDigits (List.mem_reverse.1 hc)
  have hreverse : (head ++ "_" ++ ofNat number).toList.reverse =
      (Nat.toDigits 10 number).reverse ++ '_' :: head.toList.reverse := by
    simp [ofNat]
  rw [numberOf, hreverse, List.takeWhile_append_of_pos hdigits, List.takeWhile_cons_of_neg (by simp),
    List.append_nil, List.reverse_reverse, Nat.ofDigitChars_ten_toDigits]

theorem numberOf_numberedName (base suffix : String) (limit number : Nat) :
    numberOf (numberedName base suffix limit number) = number := by
  rw [numberedName, numberedTail, ← String.append_assoc, ← String.append_assoc, numberOf_append_ofNat]

theorem byteLength_ofNat (number : Nat) : byteLength (ofNat number) = (Nat.toDigits 10 number).length := by
  rw [ofNat, byteLength_ofList, charsLength_eq_length]
  intro c hc
  have hdigit := Char.isDigit_iff_toNat.1 (Nat.isDigit_of_mem_toDigits (by decide) (by decide) hc)
  rw [Char.utf8Size_eq_one_iff]
  exact UInt32.le_iff_toNat_le.2 (Nat.le_trans hdigit.2 (by decide))

/-- The numbers below `2 ^ 64` have at most 20 digits. -/
theorem byteLength_numberedName (base : String) (hlimit : byteLength suffix + 21 ≤ limit) {number : Nat}
    (h : number < 2 ^ 64) : byteLength (numberedName base suffix limit number) ≤ limit := by
  have hdigits : (Nat.toDigits 10 number).length ≤ 20 :=
    (Nat.length_toDigits_le_iff (by decide) (by decide)).2 (by omega)
  have htail : byteLength (numberedTail suffix number) ≤ limit := by
    have hunderscore : byteLength "_" = 1 := rfl
    rw [numberedTail, byteLength_append, byteLength_append, byteLength_ofNat]
    omega
  have hhead := byteLength_truncate base (limit - byteLength (numberedTail suffix number))
  rw [numberedName, byteLength_append]
  omega

def EndsInWord (suffix : String) : Prop := ∃ c, suffix.toList.getLast? = some c ∧ c.isDigit = false

theorem append_ne_numberedName (h : EndsInWord suffix) (base base' : String) (number : Nat) :
    base ++ suffix ≠ numberedName base' suffix limit number := by
  intro heq
  obtain ⟨c, hlast, hc⟩ := h
  have hshort : (base ++ suffix).toList.getLast? = some c := by
    rw [String.toList_append, List.getLast?_append, hlast, Option.some_or]
  have hnumber := List.getLast?_eq_some_getLast (Nat.toDigits_ne_nil (n := number) (b := 10))
  rw [heq, numberedName, numberedTail, ofNat] at hshort
  simp only [String.toList_append, String.toList_ofList, List.getLast?_append, hnumber, Option.some_or,
    Option.some.injEq] at hshort
  have hdigit := Nat.isDigit_of_mem_toDigits (b := 10) (by decide) (by decide)
    (List.getLast_mem (Nat.toDigits_ne_nil (n := number)))
  rw [hshort, hc] at hdigit
  cases hdigit

theorem Cache.shorten_cases (cache : Cache) (base suffix : String) (limit : Nat) :
    (cache.name? suffix limit base = some (cache.shorten base suffix limit).1 ∧
        (cache.shorten base suffix limit).2 = cache) ∨
      (limit < byteLength (base ++ suffix) ∧ cache.names.get? (base ++ suffix) = none ∧
        cache.shorten base suffix limit =
          (numberedName base suffix limit (cache.count suffix + 1),
            { counters := cache.counters.insert suffix (cache.count suffix + 1)
              names := cache.names.insert (base ++ suffix)
                (numberedName base suffix limit (cache.count suffix + 1)) })) := by
  unfold shorten name?
  by_cases hfits : byteLength (base ++ suffix) ≤ limit
  · left
    simp only [if_pos hfits, and_self]
  · cases hname : cache.names.get? (base ++ suffix) with
    | some name =>
        left
        simp only [if_neg hfits, hname, and_self]
    | none =>
        right
        refine ⟨Nat.lt_of_not_le hfits, rfl, ?_⟩
        simp only [if_neg hfits, hname]
        rfl

theorem Cache.name?_shorten_self (cache : Cache) (base suffix : String) (limit : Nat) :
    (cache.shorten base suffix limit).2.name? suffix limit base = some (cache.shorten base suffix limit).1 := by
  obtain ⟨hname, hsame⟩ | ⟨hlong, -, heq⟩ := cache.shorten_cases base suffix limit
  · rw [hsame, hname]
  · rw [heq, name?, if_neg (by omega), NameMap.get?_insert, if_pos rfl]

/-- A name that was handed out stays. -/
theorem Cache.name?_shorten (h : cache.name? suffix limit base = some name) (other : String) :
    (cache.shorten other suffix limit).2.name? suffix limit base = some name := by
  obtain ⟨-, hsame⟩ | ⟨hlong, hnew, heq⟩ := cache.shorten_cases other suffix limit
  · rw [hsame, h]
  · rw [heq]
    unfold name? at h ⊢
    split
    · rwa [if_pos ‹_›] at h
    · rw [if_neg ‹_›] at h
      have hne : base ++ suffix ≠ other ++ suffix := by
        intro hfull
        rw [hfull, hnew] at h
        cases h
      rw [NameMap.get?_insert, if_neg hne, h]

/-- The names in the cache are numbered with different numbers up to the count. -/
structure Cache.Counted (cache : Cache) (suffix : String) (limit calls : Nat) : Prop where
  count_le : cache.count suffix ≤ calls
  numbered : ∀ {full name}, cache.names.get? full = some name →
    ∃ base number, number ≤ cache.count suffix ∧ name = numberedName base suffix limit number
  injective : ∀ {full full' name}, cache.names.get? full = some name → cache.names.get? full' = some name →
    full = full'

theorem Cache.counted_empty (suffix : String) (limit : Nat) : ({} : Cache).Counted suffix limit 0 where
  count_le := Nat.le_refl 0
  numbered h := nomatch h
  injective h := nomatch h

/-- The next name has a number that no name in the cache has. -/
theorem Cache.Counted.get?_ne_next (h : cache.Counted suffix limit calls) (base full : String) :
    cache.names.get? full ≠ some (numberedName base suffix limit (cache.count suffix + 1)) := by
  intro hfull
  obtain ⟨base', number, hle, hname⟩ := h.numbered hfull
  have hnumber := congrArg numberOf hname
  rw [numberOf_numberedName, numberOf_numberedName] at hnumber
  omega

theorem Cache.Counted.shorten (h : cache.Counted suffix limit calls) (base : String) :
    (cache.shorten base suffix limit).2.Counted suffix limit (calls + 1) := by
  obtain ⟨-, hsame⟩ | ⟨-, -, heq⟩ := cache.shorten_cases base suffix limit
  · rw [hsame]
    exact ⟨Nat.le_succ_of_le h.count_le, h.numbered, h.injective⟩
  rw [heq]
  have hcount : Cache.count ⟨cache.counters.insert suffix (cache.count suffix + 1),
      cache.names.insert (base ++ suffix) (numberedName base suffix limit (cache.count suffix + 1))⟩ suffix =
      cache.count suffix + 1 := by
    rw [Cache.count, NameMap.get?_insert, if_pos rfl, Option.getD_some]
  constructor
  case count_le =>
    rw [hcount]
    exact Nat.succ_le_succ h.count_le
  case numbered =>
    intro full name hfull
    rw [hcount]
    rw [NameMap.get?_insert] at hfull
    split at hfull
    · exact ⟨base, _, Nat.le_refl _, (Option.some.inj hfull).symm⟩
    · obtain ⟨base', number, hle, hname⟩ := h.numbered hfull
      exact ⟨base', number, Nat.le_succ_of_le hle, hname⟩
  case injective =>
    intro full full' name hfull hfull'
    rw [NameMap.get?_insert] at hfull hfull'
    split at hfull <;> split at hfull'
    case isTrue.isTrue hf hf' => rw [hf, hf']
    case isTrue.isFalse => exact absurd (hfull'.trans hfull.symm) (h.get?_ne_next base full')
    case isFalse.isTrue => exact absurd (hfull.trans hfull'.symm) (h.get?_ne_next base full)
    case isFalse.isFalse => exact h.injective hfull hfull'

theorem Cache.Counted.name?_injective (h : cache.Counted suffix limit calls) (hword : EndsInWord suffix)
    {base' : String} (hname : cache.name? suffix limit base = some name)
    (hname' : cache.name? suffix limit base' = some name) : base = base' := by
  have hbase : base ++ suffix = base' ++ suffix := by
    unfold Cache.name? at hname hname'
    split at hname <;> split at hname'
    case isTrue.isTrue => exact Option.some.inj (hname.trans hname'.symm)
    case isTrue.isFalse =>
      obtain ⟨cut, number, -, hnumbered⟩ := h.numbered hname'
      exact absurd ((Option.some.inj hname).trans hnumbered) (append_ne_numberedName hword base cut number)
    case isFalse.isTrue =>
      obtain ⟨cut, number, -, hnumbered⟩ := h.numbered hname
      exact absurd ((Option.some.inj hname').trans hnumbered) (append_ne_numberedName hword base' cut number)
    case isFalse.isFalse => exact h.injective hname hname'
  exact (String.append_left_inj suffix).1 hbase

theorem Cache.Counted.byteLength_le (h : cache.Counted suffix limit calls)
    (hlimit : byteLength suffix + 21 ≤ limit)
    (hcalls : calls < 2 ^ 64) (hname : cache.name? suffix limit base = some name) : byteLength name ≤ limit := by
  unfold Cache.name? at hname
  split at hname
  · rwa [← Option.some.inj hname]
  · obtain ⟨cut, number, hle, rfl⟩ := h.numbered hname
    exact byteLength_numberedName cut hlimit (Nat.lt_of_le_of_lt (hle.trans h.count_le) hcalls)

theorem Cache.Counted.shortenAll (h : cache.Counted suffix limit calls) (bases : List String) :
    (cache.shortenAll suffix limit bases).2.Counted suffix limit (calls + bases.length) := by
  induction bases generalizing cache calls with
  | nil => exact h
  | cons base rest ih =>
      have hrest := ih (h.shorten base)
      rwa [Nat.add_right_comm] at hrest

theorem Cache.name?_shortenAll (h : cache.name? suffix limit base = some name) (bases : List String) :
    (cache.shortenAll suffix limit bases).2.name? suffix limit base = some name := by
  induction bases generalizing cache with
  | nil => exact h
  | cons other rest ih => exact ih (name?_shorten h other)

/-- The names of a run are those that the cache knows at the end of it. -/
theorem Cache.map_some_shortenAll (cache : Cache) (suffix : String) (limit : Nat) (bases : List String) :
    (cache.shortenAll suffix limit bases).1.map some =
      bases.map ((cache.shortenAll suffix limit bases).2.name? suffix limit) := by
  induction bases generalizing cache with
  | nil => rfl
  | cons base rest ih =>
      have hfirst := name?_shortenAll (cache.name?_shorten_self base suffix limit) rest
      exact congrArg₂ List.cons hfirst.symm (ih _)

theorem Cache.length_shortenAll (cache : Cache) (suffix : String) (limit : Nat) (bases : List String) :
    (cache.shortenAll suffix limit bases).1.length = bases.length := by
  rw [← List.length_map some, map_some_shortenAll, List.length_map]

theorem Cache.map_getElem?_shortenAll (cache : Cache) (suffix : String) (limit : Nat)
    (bases : List String) (i : Nat) :
    ((cache.shortenAll suffix limit bases).1[i]?).map some =
      (bases[i]?).map ((cache.shortenAll suffix limit bases).2.name? suffix limit) := by
  rw [← List.getElem?_map, ← List.getElem?_map, map_some_shortenAll]

theorem Cache.name?_of_getElem? {bases : List String} {i : Nat}
    (h : (cache.shortenAll suffix limit bases).1[i]? = some name) :
    ∃ base, bases[i]? = some base ∧ (cache.shortenAll suffix limit bases).2.name? suffix limit base =
      some name := by
  have hrun := cache.map_getElem?_shortenAll suffix limit bases i
  rw [h, Option.map_some] at hrun
  exact Option.map_eq_some_iff.1 hrun.symm

/-- However many bases are asked for, and in whatever order: the names of the sequences stay within the limit,
and two of them are the same exactly if their bases are. -/
theorem sequenceNames_allocated {bases : List String} (h : bases.length < 2 ^ 64) :
    let names := (({} : Cache).shortenAll "_SEQ" 63 bases).1
    names.length = bases.length ∧ (∀ name ∈ names, byteLength name ≤ 63) ∧
      ∀ i j : Nat, names[i]? = names[j]? ↔ bases[i]? = bases[j]? := by
  intro names
  have hlength : names.length = bases.length := Cache.length_shortenAll {} "_SEQ" 63 bases
  have hcounted := (Cache.counted_empty "_SEQ" 63).shortenAll bases
  rw [Nat.zero_add] at hcounted
  refine ⟨hlength, ?_, ?_⟩
  · intro name hname
    obtain ⟨i, hi⟩ := List.mem_iff_getElem?.1 hname
    obtain ⟨base, -, hbase⟩ := Cache.name?_of_getElem? hi
    exact hcounted.byteLength_le (by decide) h hbase
  · intro i j
    constructor
    · intro hsame
      cases hi : names[i]? with
      | none =>
          rw [hi] at hsame
          rw [List.getElem?_eq_none_iff, hlength] at hi
          rw [eq_comm, List.getElem?_eq_none_iff, hlength] at hsame
          rw [List.getElem?_eq_none hi, List.getElem?_eq_none hsame]
      | some name =>
          obtain ⟨base, hbase, hname⟩ := Cache.name?_of_getElem? hi
          obtain ⟨base', hbase', hname'⟩ := Cache.name?_of_getElem? (hsame.symm.trans hi)
          rw [hbase, hbase', hcounted.name?_injective ⟨'Q', rfl, rfl⟩ hname hname']
    · intro hsame
      have hmapped : (names[i]?).map some = (names[j]?).map some := by
        rw [Cache.map_getElem?_shortenAll, Cache.map_getElem?_shortenAll, hsame]
      exact Option.map_injective (fun _ _ => Option.some.inj) hmapped

/-- Two tables that differ behind the cut, the first of them asked for again, and one with a name that fits.
-/
theorem sequenceNames_allocated_cut :
    let bases := ["the_books_that_stand_in_the_reading_room_on_the_second_floor", "author",
      "the_books_that_stand_in_the_reading_room_on_the_second_flood",
      "the_books_that_stand_in_the_reading_room_on_the_second_floor"]
    let names := (({} : Cache).shortenAll "_SEQ" 63 bases).1
    names = ["the_books_that_stand_in_the_reading_room_on_the_second_fl_SEQ_1", "author_SEQ",
      "the_books_that_stand_in_the_reading_room_on_the_second_fl_SEQ_2",
      "the_books_that_stand_in_the_reading_room_on_the_second_fl_SEQ_1"] ∧
      bases.length < 2 ^ 64 ∧ names.length = bases.length ∧ (∀ name ∈ names, byteLength name ≤ 63) ∧
      ∀ i j : Nat, names[i]? = names[j]? ↔ bases[i]? = bases[j]? :=
  ⟨by decide +kernel, by decide, sequenceNames_allocated (by decide)⟩

end Tablecraft.Naming
