import Tablecraft.Proofs.Text.Cutting

namespace Tablecraft

open Text

namespace Text

theorem charsLength_eq_length {cs : List Char} (h : ∀ c ∈ cs, c.utf8Size = 1) : charsLength cs = cs.length := by
  induction cs with
  | nil => rfl
  | cons c rest ih =>
      obtain ⟨hc, hrest⟩ := List.forall_mem_cons.1 h
      rw [charsLength, hc, ih hrest, List.length_cons, Nat.add_comm]

def hexadecimals : List Char := "0123456789abcdef".toList

theorem utf8Size_of_mem_hexadecimals {c : Char} (h : c ∈ hexadecimals) : c.utf8Size = 1 := by
  have hall : hexadecimals.all (·.utf8Size == 1) = true := by decide
  exact beq_iff_eq.1 (List.all_eq_true.1 hall c h)

theorem hexDigit_mem_hexadecimals {n : Nat} (h : n < 16) : hexDigit n ∈ hexadecimals := by
  have hall : ∀ n < 16, hexDigit n ∈ hexadecimals := by decide
  exact hall n h

theorem Digest.mem_hexadecimals_of_mem_hexDigits {text : String} {c : Char} (h : c ∈ hexDigits text) :
    c ∈ hexadecimals := by
  obtain ⟨byte, -, hc⟩ := List.mem_flatMap.1 h
  have hbyte := byte.toNat_lt
  simp only [hexByte, List.mem_cons, List.not_mem_nil, or_false] at hc
  rcases hc with rfl | rfl
  · exact hexDigit_mem_hexadecimals (by omega)
  · exact hexDigit_mem_hexadecimals (by omega)

end Text

namespace Naming

variable {digest : String → List Char} {table : Option String} {stem tail : String} {limit : Nat}

def headed (head : String) : String := if head = "" then "" else head ++ "_"

theorem nameEnding_eq (table : Option String) (h : byteLength tail ≤ limit) :
    nameEnding table tail limit = headed (truncate (table.getD "") (limit - (byteLength tail + 1))) ++ tail := by
  rw [nameEnding, headed]
  split
  · rw [truncate_eq_self h, String.empty_append]
  · rfl

def bytesEnding (table : Option String) (tail : String) (limit : Nat) : ByteArray :=
  let head := leadingBytes (table.getD "") (limit - (byteLength tail + 1))
  if head.size = 0 then leadingBytes tail limit else head ++ "_".toByteArray ++ tail.toByteArray

theorem bytesEnding_eq (table : Option String) (tail : String) (limit : Nat) :
    bytesEnding table tail limit = (nameEnding table tail limit).toByteArray := by
  have hsize (s : String) : s.toByteArray.size = 0 ↔ s = "" := String.utf8ByteSize_eq_zero_iff
  simp only [bytesEnding, nameEnding, ← toByteArray_truncate, hsize]
  split
  · rfl
  · rw [String.toByteArray_append, String.toByteArray_append]

/-- All that is asked of a digest: six hexadecimal digits, or more. -/
def YieldsDigits (digest : String → List Char) : Prop :=
  ∀ text, 6 ≤ (digest text).length ∧ ∀ c ∈ digest text, c ∈ hexadecimals

theorem yieldsDigits_hexDigits : YieldsDigits Digest.hexDigits := by
  intro text
  refine ⟨?_, fun c => Digest.mem_hexadecimals_of_mem_hexDigits⟩
  rw [Digest.length_hexDigits]
  decide

def hashBy (digest : String → List Char) (parts : List String) : String :=
  String.ofList ((digest (lower (joinWith ":" parts))).take 6)

def nameBy (digest : String → List Char) (table : Option String) (stem : String) (parts : List String)
    (limit : Nat) :
    String :=
  nameEnding table (stem ++ hashBy digest parts) limit

theorem length_toList_hashBy (hd : YieldsDigits digest) (parts : List String) :
    (hashBy digest parts).toList.length = 6 := by
  rw [hashBy, String.toList_ofList, List.length_take]
  exact Nat.min_eq_left (hd _).1

theorem byteLength_hashBy (hd : YieldsDigits digest) (parts : List String) :
    byteLength (hashBy digest parts) = 6 := by
  have hlength := length_toList_hashBy hd parts
  rw [hashBy, String.toList_ofList] at hlength
  rw [hashBy, byteLength_ofList, charsLength_eq_length, hlength]
  exact fun c hc => utf8Size_of_mem_hexadecimals ((hd _).2 c (List.mem_of_mem_take hc))

def shownTable (table : Option String) (stem : String) (limit : Nat) : String :=
  truncate (table.getD "") (limit - (byteLength stem + 7))

theorem nameBy_eq (hd : YieldsDigits digest) (table : Option String) (h : byteLength stem + 6 ≤ limit)
    (parts : List String) :
    nameBy digest table stem parts limit = headed (shownTable table stem limit) ++ stem ++
      hashBy digest parts := by
  have hlength : byteLength (stem ++ hashBy digest parts) = byteLength stem + 6 := by
    rw [byteLength_append, byteLength_hashBy hd]
  rw [nameBy, nameEnding_eq table (hlength.trans_le h), hlength, shownTable, String.append_assoc]

/-- Whatever the table, the stem, the parts and the limit are, and whichever digest is used: the bytes of a
generated name are UTF-8 within the limit. Where stem and hash fit, the name ends in them, and the hashes
alone tell the names of one table and stem apart. -/
theorem names_end_in_hash :
    hashedName = nameBy Digest.hexDigits ∧ YieldsDigits Digest.hexDigits ∧
      ∀ digest, YieldsDigits digest → ∀ (table : Option String) (stem : String) (limit : Nat),
        (∀ parts, (nameBy digest table stem parts limit).toByteArray =
            bytesEnding table (stem ++ hashBy digest parts) limit ∧
          (bytesEnding table (stem ++ hashBy digest parts) limit).size ≤ limit ∧
          (bytesEnding table (stem ++ hashBy digest parts) limit).IsValidUTF8) ∧
        (byteLength stem + 6 ≤ limit →
          (∀ parts, (hashBy digest parts).toList.length = 6 ∧
            ∃ head, nameBy digest table stem parts limit = head ++ stem ++ hashBy digest parts) ∧
          ∀ parts parts', nameBy digest table stem parts limit = nameBy digest table stem parts' limit ↔
            hashBy digest parts = hashBy digest parts') := by
  refine ⟨rfl, yieldsDigits_hexDigits, fun digest hd table stem limit => ⟨fun parts => ?_, fun hfits => ⟨?_, ?_⟩⟩⟩
  · rw [bytesEnding_eq]
    exact ⟨rfl, byteLength_nameEnding table _ limit, (nameEnding table _ limit).isValidUTF8⟩
  · exact fun parts => ⟨length_toList_hashBy hd parts, _, nameBy_eq hd table hfits parts⟩
  · intro parts parts'
    rw [nameBy_eq hd table hfits, nameBy_eq hd table hfits]
    exact String.append_right_inj _

/-- The limit of the table falls into its second character. -/
theorem names_end_in_hash_umlaut :
    leadingBytes "Bücher" 2 = "B".toByteArray ∧ hashedName (some "Bücher") "fk_" ["author"] 12 = "B_fk_02bd92" ∧
      YieldsDigits Digest.hexDigits ∧ byteLength "fk_" + 6 ≤ 12 ∧
      (∃ head, hashedName (some "Bücher") "fk_" ["author"] 12 = head ++ "fk_" ++ hashOf ["author"]) ∧
      (hashedName (some "Bücher") "fk_" ["author"] 12 = hashedName (some "Bücher") "fk_" ["printer"] 12 ↔
        hashOf ["author"] = hashOf ["printer"]) := by
  obtain ⟨-, hd, hnames⟩ := names_end_in_hash
  obtain ⟨-, hends⟩ := hnames Digest.hexDigits hd (some "Bücher") "fk_" 12
  obtain ⟨hshown, hsame⟩ := hends (by decide)
  exact ⟨by decide +kernel, by decide +kernel, hd, by decide, (hshown ["author"]).2, hsame ["author"] ["printer"]⟩

end Naming

end Tablecraft
