import Mathlib.Data.List.Basic
import Mathlib.Data.List.Infix
import Tablecraft.Finalization.DialectPass
import Tablecraft.Model.Index

namespace Tablecraft

namespace Text

@[simp] theorem byteLength_append (s t : String) : byteLength (s ++ t) = byteLength s + byteLength t :=
  String.utf8ByteSize_append

def charsLength : List Char → Nat
  | [] => 0
  | c :: rest => c.utf8Size + charsLength rest

theorem byteLength_ofList (cs : List Char) : byteLength (String.ofList cs) = charsLength cs := by
  induction cs with
  | nil => rfl
  | cons c rest ih =>
      rw [String.ofList_cons, byteLength_append, ih]
      simp [charsLength, byteLength]

theorem charsLength_le (cs : List Char) : charsLength cs ≤ 4 * cs.length := by
  induction cs with
  | nil => exact Nat.zero_le _
  | cons c rest ih =>
      have hc := c.utf8Size_le_four
      simp only [charsLength, List.length_cons]
      omega

theorem charsLength_takeBytes (budget : Nat) (cs : List Char) : charsLength (takeBytes budget cs) ≤ budget := by
  induction cs generalizing budget with
  | nil => exact Nat.zero_le _
  | cons c rest ih =>
      rw [takeBytes]
      split
      · have h := ih (budget - c.utf8Size)
        simp only [charsLength]
        omega
      · exact Nat.zero_le _

theorem byteLength_truncate (s : String) (limit : Nat) : byteLength (truncate s limit) ≤ limit := by
  unfold truncate
  split
  · assumption
  · rw [byteLength_ofList]
    apply charsLength_takeBytes

theorem truncate_eq_self {s : String} {limit : Nat} (h : byteLength s ≤ limit) : truncate s limit = s := if_pos h

theorem stripLeading?_eq_some_iff {pattern cs rest : List Char} :
    stripLeading? pattern cs = some rest ↔ cs = pattern ++ rest := by
  induction pattern generalizing cs with
  | nil => simp [stripLeading?]
  | cons p ps ih =>
      cases cs with
      | nil => simp [stripLeading?]
      | cons c cs =>
          by_cases hpc : p = c
          · simp [stripLeading?, hpc, ih]
          · simp [stripLeading?, hpc, Ne.symm hpc]

theorem append_of_splitAtLast? {pattern cs before after : List Char}
    (h : splitAtLast? pattern cs = some (before, after)) :
    cs = before ++ pattern ++ after := by
  induction cs generalizing before with
  | nil => cases h
  | cons c rest ih =>
      rw [splitAtLast?] at h
      split at h
      · rename_i b a hs
        obtain ⟨rfl, rfl⟩ := Prod.mk.inj (Option.some.inj h)
        rw [ih hs]
        rfl
      · obtain ⟨a, ha, heq⟩ := Option.map_eq_some_iff.1 h
        obtain ⟨rfl, rfl⟩ := Prod.mk.inj heq
        exact stripLeading?_eq_some_iff.1 ha

theorem not_infix_of_splitAtLast? {pattern cs : List Char} (hp : pattern ≠ [])
    (h : splitAtLast? pattern cs = none) :
    ¬pattern <:+: cs := by
  induction cs with
  | nil => simpa using hp
  | cons c rest ih =>
      rw [splitAtLast?] at h
      split at h
      · cases h
      · rename_i hs
        rw [List.infix_cons_iff]
        rintro (⟨tail, ht⟩ | hi)
        · rw [Option.map_eq_none_iff] at h
          rw [stripLeading?_eq_some_iff.2 ht.symm] at h
          cases h
        · exact ih hs hi

end Text

namespace Naming

open Text

theorem byteLength_hashOf (parts : List String) : byteLength (hashOf parts) ≤ 24 := by
  rw [hashOf, byteLength_ofList]
  have hbytes := charsLength_le ((Digest.hexDigits (lower (joinWith ":" parts))).take 6)
  have hlength := List.length_take_le 6 (Digest.hexDigits (lower (joinWith ":" parts)))
  omega

/-- The tail with as much of the table in front of it as there is room for. -/
def nameEnding (table : Option String) (tail : String) (limit : Nat) : String :=
  let head := truncate (table.getD "") (limit - (byteLength tail + 1))
  if head = "" then truncate tail limit else head ++ "_" ++ tail

/-- Only the table is cut, or the tail where nothing of the table stays, and the name ends within its limit.
-/
theorem byteLength_nameEnding (table : Option String) (tail : String) (limit : Nat) :
    byteLength (nameEnding table tail limit) ≤ limit := by
  unfold nameEnding
  dsimp only
  split
  · apply byteLength_truncate
  · rename_i hne
    have hhead := byteLength_truncate (table.getD "") (limit - (byteLength tail + 1))
    have hpos : 0 < byteLength (truncate (table.getD "") (limit - (byteLength tail + 1))) := by
      rw [Nat.pos_iff_ne_zero]
      intro hz
      apply hne
      exact String.utf8ByteSize_eq_zero_iff.1 hz
    have hunderscore : byteLength "_" = 1 := rfl
    rw [byteLength_append, byteLength_append, hunderscore]
    omega

theorem hashedName_eq_nameEnding (table : Option String) (stem : String) (parts : List String) (limit : Nat) :
    hashedName table stem parts limit = nameEnding table (stem ++ hashOf parts) limit := rfl

theorem byteLength_hashedName (table : Option String) (stem : String) (parts : List String) (limit : Nat) :
    byteLength (hashedName table stem parts limit) ≤ limit := by
  rw [hashedName_eq_nameEnding]
  apply byteLength_nameEnding

theorem infix_hashedName (table : Option String) (stem : String) (parts : List String) {limit : Nat}
    (h : byteLength stem + 24 ≤ limit) : stem.toList <:+: (hashedName table stem parts limit).toList := by
  have htail : truncate (stem ++ hashOf parts) limit = stem ++ hashOf parts := by
    apply truncate_eq_self
    have hhash := byteLength_hashOf parts
    rw [byteLength_append]
    omega
  unfold hashedName
  dsimp only
  split
  · rw [htail, String.toList_append]
    exact ⟨[], (hashOf parts).toList, rfl⟩
  · rw [String.toList_append, String.toList_append (s := stem)]
    exact ⟨_, (hashOf parts).toList, by rw [List.append_assoc]⟩

end Naming

open Text

def Index.GivenNameFits (limit : Nat) (i : Index) : Prop := ∀ name ∈ i.givenName, byteLength name ≤ limit

def Relation.GivenNameFits (limit : Nat) (r : Relation) : Prop := ∀ name ∈ r.givenName, byteLength name ≤ limit

theorem Index.byteLength_name {i : Index} {limit : Nat} (hg : i.GivenNameFits limit)
    (hl : i.nameLimit = limit) : byteLength i.name ≤ limit := by
  unfold name
  cases h : i.givenName with
  | some name => exact hg name h
  | none =>
      rw [Option.getD_none, generatedName, hl]
      apply Naming.byteLength_hashedName

theorem Relation.byteLength_name {r : Relation} {limit : Nat} (hg : r.GivenNameFits limit)
    (hl : r.nameLimit = limit) : byteLength r.name ≤ limit := by
  unfold name
  cases h : r.givenName with
  | some name => exact hg name h
  | none =>
      rw [Option.getD_none, generatedName, hl]
      apply Naming.byteLength_hashedName

namespace Finalization

theorem byteLength_referencedIndexName (p : Platform) (relation : String) (count : Nat) :
    byteLength (referencedIndexName p relation count) ≤ p.maxIdentifierLength := by
  unfold referencedIndexName
  dsimp only
  split
  · apply Naming.byteLength_hashedName
  · rename_i h
    exact Nat.le_of_not_lt h

/-- A name with `fk_` in it keeps its length. Any other name gets three bytes longer. -/
theorem foreignIndexName_cases (relation : String) :
    "fk_".toList <:+: relation.toList ∧ byteLength (foreignIndexName relation) = byteLength relation ∨
      ¬"fk_".toList <:+: relation.toList ∧ foreignIndexName relation = "fi_" ++ relation := by
  unfold foreignIndexName
  split
  · rename_i before after h
    have happend := append_of_splitAtLast? h
    refine .inl ⟨⟨before, after, happend.symm⟩, ?_⟩
    have hrelation : relation = String.ofList before ++ "fk_" ++ String.ofList after := by
      apply String.toList_inj.1
      simpa using happend
    have hsame : byteLength "fi_" = byteLength "fk_" := rfl
    rw [hrelation]
    simp only [byteLength_append, hsame]
  · rename_i h
    exact .inr ⟨not_infix_of_splitAtLast? (by simp) h, rfl⟩

end Finalization

end Tablecraft
