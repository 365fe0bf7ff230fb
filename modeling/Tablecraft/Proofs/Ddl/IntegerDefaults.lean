import Tablecraft.Ddl.Column
import Tablecraft.Proofs.Decimal.Printing
import Tablecraft.Proofs.Naming.SnakeCase

namespace Tablecraft

namespace Text

theorem upperChar_toLower {c : Char} (hc : isAscii c = true) : upperChar c.toLower = upperChar c := by
  have hall : ∀ n < 128, upperChar (Char.ofNat n).toLower = upperChar (Char.ofNat n) := by decide
  exact of_isAscii (P := fun c => upperChar c.toLower = upperChar c) hall hc

theorem isAscii_toLower {c : Char} (hc : isAscii c = true) : isAscii c.toLower = true := by
  have hall : ∀ n < 128, isAscii (Char.ofNat n).toLower = true := by decide
  exact of_isAscii (P := fun c => isAscii c.toLower = true) hall hc

theorem isAscii_of_toLower {c : Char} (hc : isAscii c.toLower = true) : isAscii c = true := by
  by_cases hu : c.isUpper = true
  · exact Naming.isAscii_of_isUpper hu
  · have hself : c.toLower = c := dif_neg fun h => hu (decide_eq_true h)
    rwa [hself] at hc

theorem upperChar_eq_of_toLower_eq {c d : Char} (h : c.toLower = d.toLower) (hc : isAscii c = true) :
    upperChar c = upperChar d := by
  have hd : isAscii d = true := isAscii_of_toLower (h ▸ isAscii_toLower hc)
  rw [← upperChar_toLower hc, h, upperChar_toLower hd]

/-- ASCII texts that agree but for case have one form in capitals. -/
theorem upper_eq_of_sameIgnoringAsciiCase {s t : String} (h : sameIgnoringAsciiCase s t = true)
    (hs : s.toList.all isAscii = true) : upper s = upper t := by
  rw [sameIgnoringAsciiCase, beq_iff_eq] at h
  rw [upper, upper]
  refine congrArg String.ofList ?_
  generalize s.toList = cs at h hs
  generalize t.toList = ds at h
  induction cs generalizing ds with
  | nil =>
      rw [List.map_nil, eq_comm, List.map_eq_nil_iff] at h
      rw [h]
  | cons c cs ih =>
      cases ds with
      | nil => cases h
      | cons d ds =>
          rw [List.map_cons, List.map_cons, List.cons.injEq] at h
          rw [List.all_cons, Bool.and_eq_true] at hs
          rw [List.flatMap_cons, List.flatMap_cons, upperChar_eq_of_toLower_eq h.1 hs.1, ih hs.2 ds h.2]

end Text

open Decimal

namespace Platform

variable {p : Platform} {e : Entity} {f : Field}

theorem domainFor?_integer (hd : p.dialect = .mysql) {t : FieldType} (ht : t.isInteger = true) :
    p.domainFor? t = some (Domain.ofSqlType t t.name none) := by
  cases t <;> simp_all [FieldType.isInteger, domainFor?, Dialect.ownSqlType, standardDomain?, genericSqlType]

/-- A native integer type is one that MySQL gives defaults to. -/
theorem baseSqlType_integer (hd : p.dialect = .mysql) (ht : f.fieldType.isInteger = true) {sqlType : String}
    (hnative : p.bareSqlType e f = .ok (sqlType, true)) :
    p.baseSqlType e f = .ok (Text.upper f.fieldType.name) := by
  have hdomain := domainFor?_integer hd ht
  rw [bareSqlType] at hnative
  rw [baseSqlType]
  split at hnative
  · rename_i given hgiven
    rw [hdomain] at hnative
    simp only [Except.ok.injEq, Prod.mk.injEq] at hnative
    obtain ⟨rfl, hsame⟩ := hnative
    have hletters : f.fieldType.name.toList.all Text.isAscii = true := by
      generalize f.fieldType = t at ht
      cases t <;> first | exact absurd ht (by decide) | rfl
    exact congrArg Except.ok (Text.upper_eq_of_sameIgnoringAsciiCase hsame hletters).symm
  · rename_i hgiven
    rw [nativeDomain, hdomain]
    rfl

theorem checkMysqlDefault_integer (hd : p.dialect = .mysql) (ht : f.fieldType.isInteger = true) {sqlType : String}
    (hnative : p.bareSqlType e f = .ok (sqlType, true)) (text : String) :
    p.checkMysqlDefault e f (.literal text) = .ok () := by
  have hallowed : Text.upper f.fieldType.name ∉ typesWithoutDefault := by
    generalize f.fieldType = t at ht
    cases t <;> first | exact absurd ht (by decide) | decide
  rw [checkMysqlDefault, baseSqlType_integer hd ht hnative]
  simp [bind, Except.bind, hallowed, DefaultValue.isExpression]

theorem defaultClause_integer (ht : f.fieldType.isInteger = true) {text literal : String}
    (hdefault : f.domain.default = some (.literal text)) (hnormal : normalize? (Text.trim text) = some literal) :
    p.defaultClause e f = .ok ("DEFAULT " ++ literal) := by
  have hkinds : f.fieldType.isText = false ∧ f.fieldType.isEnumerated = false ∧ f.fieldType.isBoolean = false ∧
      f.fieldType.isArray = false ∧ f.fieldType.isNumeric = true := by
    generalize f.fieldType = t at ht
    cases t <;> first | exact absurd ht (by decide) | decide
  obtain ⟨htext, henum, hbool, harray, hnumeric⟩ := hkinds
  have hliteral : p.defaultLiteral e f (.literal text) = .ok (some literal) := by
    simp [defaultLiteral, DefaultValue.isExpression, DefaultValue.text, Literal.numeric, hnormal, htext, henum,
      hbool, harray, hnumeric, Except.map]
  rw [defaultClause, hdefault]
  simp [hliteral, bind, Except.bind]

theorem columnDefault_of_integer (ht : f.fieldType.isInteger = true) {sqlType : String}
    (hnative : p.bareSqlType e f = .ok (sqlType, true)) {text literal : String}
    (hdefault : f.domain.default = some (.literal text)) (hnormal : normalize? (Text.trim text) = some literal) :
    p.columnDefault e f = .ok ("DEFAULT " ++ literal) := by
  have hclause := defaultClause_integer (p := p) (e := e) ht hdefault hnormal
  rw [columnDefault]
  split
  · rename_i value hd hvalue
    rw [hdefault, Option.some.injEq] at hvalue
    subst hvalue
    rw [checkMysqlDefault_integer hd ht hnative text]
    exact hclause
  · exact hclause

/-- The default of an integer field is the shortest integer that is read as the same magnitude as the
given one, and the nearest to that magnitude. It is the given one exactly if that is the shortest, as it
is up to `2 ^ 53`. -/
theorem columnDefault_integer (n : Int) (hlow : -2 ^ 63 ≤ n) (hhigh : n < 2 ^ 63)
    (ht : f.fieldType.isInteger = true) (hnative : ∃ sqlType, p.bareSqlType e f = .ok (sqlType, true))
    (hdefault : f.domain.default = some (.literal (toString n))) :
    ∃ (significand : Nat) (exponent : Int) (k : Nat),
      Binary64.ofDecimal n.natAbs 0 = .finite significand exponent ∧ IsShortest significand exponent k ∧
      p.columnDefault e f = .ok ("DEFAULT " ++ toString (n.sign * k)) ∧
      (p.columnDefault e f = .ok ("DEFAULT " ++ toString n) ↔ IsShortest significand exponent n.natAbs) ∧
      (n.natAbs ≤ 2 ^ 53 → p.columnDefault e f = .ok ("DEFAULT " ++ toString n)) := by
  obtain ⟨sqlType, hnative⟩ := hnative
  obtain ⟨m, exponent, hread⟩ := Binary64.exists_ofDecimal_eq (x := n.natAbs) (by omega)
  obtain ⟨k, hk, hnormal⟩ := normalize?_toString n hread
  have hcolumn := columnDefault_of_integer ht hnative hdefault hnormal
  have hsign : n.sign * n.natAbs = n := Int.sign_mul_natAbs n
  have hexact : k = n.natAbs → p.columnDefault e f = .ok ("DEFAULT " ++ toString n) := by
    rintro rfl
    rwa [hsign] at hcolumn
  refine ⟨m, exponent, k, hread, hk, hcolumn, ⟨fun h => ?_, fun h => hexact (hk.unique h)⟩, fun h => ?_⟩
  · rw [hcolumn, Except.ok.injEq, String.append_right_inj] at h
    have hvalue : n.sign * k = n := toString_injective h
    have hk' : k = n.natAbs := by
      by_cases hzero : n = 0
      · subst hzero
        cases hread
        exact eq_zero_of_ofDecimal hk.reads
      · rw [← hvalue, Int.natAbs_mul, Int.natAbs_sign, if_neg hzero, Int.natAbs_natCast, Nat.one_mul]
    rwa [hk'] at hk
  · exact hexact (hk.eq_of_le hread h)

def serialField (default : Int) : Field :=
  { name := "serial", domain := { Domain.ofType .bigInt with default := some (.literal (toString default)) } }

theorem columnDefault_integer_least : ∃ (p : Platform) (e : Entity) (f : Field) (significand : Nat)
    (exponent : Int),
    p.dialect = .mysql ∧ f.fieldType.isInteger = true ∧ (∃ sqlType, p.bareSqlType e f = .ok (sqlType, true)) ∧
    f.domain.default = some (.literal (toString (-2 ^ 63 : Int))) ∧
    p.columnDefault e f = .ok ("DEFAULT " ++ toString (-9223372036854776000 : Int)) ∧
    Binary64.ofDecimal (2 ^ 63) 0 = .finite significand exponent ∧
    IsShortest significand exponent 9223372036854776000 ∧
    (p.columnDefault e f = .ok ("DEFAULT " ++ toString (-2 ^ 63 : Int)) ↔
      IsShortest significand exponent (2 ^ 63)) := by
  obtain ⟨significand, exponent, k, hread, hk, hcolumn, hexact, -⟩ :=
    columnDefault_integer (p := { dialect := .mysql }) (e := { name := "book" }) (f := serialField (-2 ^ 63))
      (-2 ^ 63) (by decide) (by decide) rfl ⟨"BIGINT", rfl⟩ rfl
  have hclause : columnDefault { dialect := .mysql } { name := "book" } (serialField (-2 ^ 63)) =
      .ok ("DEFAULT " ++ toString (-9223372036854776000 : Int)) := rfl
  refine ⟨_, _, _, significand, exponent, rfl, rfl, ⟨"BIGINT", rfl⟩, rfl, hclause, hread, ?_, hexact⟩
  rw [hclause, Except.ok.injEq, String.append_right_inj, show (-2 ^ 63 : Int).sign = -1 from rfl] at hcolumn
  have hvalue := toString_injective hcolumn
  rwa [show k = 9223372036854776000 by omega] at hk

/-- A number of 54 bits is written as its neighbour. -/
theorem exists_inexact_default : ∃ (p : Platform) (e : Entity) (f : Field) (n : Int), -2 ^ 63 ≤ n ∧ n < 2 ^ 63 ∧
    f.fieldType = .bigInt ∧ (∃ sqlType, p.bareSqlType e f = .ok (sqlType, true)) ∧
    f.domain.default = some (.literal (toString n)) ∧
    p.columnDefault e f = .ok ("DEFAULT " ++ toString (n - 1)) ∧
    p.columnDefault e f ≠ .ok ("DEFAULT " ++ toString n) := by
  have hclause : columnDefault {} { name := "book" } (serialField (2 ^ 53 + 1)) =
      .ok ("DEFAULT " ++ toString (2 ^ 53 : Int)) := rfl
  refine ⟨{}, { name := "book" }, serialField (2 ^ 53 + 1), 2 ^ 53 + 1, by decide, by decide, rfl,
    ⟨"BIGINT", rfl⟩, rfl, hclause, fun h => ?_⟩
  rw [hclause, Except.ok.injEq, String.append_right_inj] at h
  exact absurd (toString_injective h) (by decide)

end Platform

end Tablecraft
