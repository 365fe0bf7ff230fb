import Tablecraft.Proofs.Naming.Hashes

namespace Tablecraft

open Text

namespace Naming

variable {table table' : Option String} {stem stem' : String} {parts parts' : List String} {limit : Nat}

theorem length_toList_hashOf (parts : List String) : (hashOf parts).toList.length = 6 :=
  length_toList_hashBy yieldsDigits_hexDigits parts

theorem headed_eq_empty_iff {head : String} : headed head = "" ↔ head = "" := by
  unfold headed
  split <;> simp_all

theorem headed_injective : Function.Injective headed := by
  intro head head' h
  by_cases hempty : head = ""
  · exact hempty.trans (headed_eq_empty_iff.1 (h.symm.trans (headed_eq_empty_iff.2 hempty))).symm
  · have hempty' : head' ≠ "" := fun h' => hempty (headed_eq_empty_iff.1 (h.trans (headed_eq_empty_iff.2 h')))
    rw [headed, if_neg hempty, headed, if_neg hempty'] at h
    exact (String.append_left_inj "_").1 h

theorem hashedName_eq (table : Option String) (parts : List String) (h : byteLength stem + 6 ≤ limit) :
    hashedName table stem parts limit = headed (shownTable table stem limit) ++ (stem ++ hashOf parts) := by
  rw [← String.append_assoc]
  exact nameBy_eq yieldsDigits_hexDigits table h parts

/-- Names with stems of one length are the same exactly if the stems, the hashes and the shown parts of the
tables are. -/
theorem hashedName_eq_iff (hc : stem.toList.length = stem'.toList.length) (hb : byteLength stem + 6 ≤ limit)
    (hb' : byteLength stem' + 6 ≤ limit) :
    hashedName table stem parts limit = hashedName table' stem' parts' limit ↔
      stem = stem' ∧ hashOf parts = hashOf parts' ∧
        shownTable table stem limit = shownTable table' stem' limit := by
  rw [hashedName_eq table parts hb, hashedName_eq table' parts' hb']
  constructor
  · intro h
    -- The ends have as many characters, so the parts in front of them are the same as well.
    have htail : (stem ++ hashOf parts).toList.length = (stem' ++ hashOf parts').toList.length := by
      simp only [String.toList_append, List.length_append, length_toList_hashOf, hc]
    rw [← String.toList_inj, String.toList_append, String.toList_append (s := headed _)] at h
    obtain ⟨hheads, htails⟩ := List.append_inj' h htail
    rw [String.toList_append, String.toList_append] at htails
    obtain ⟨hstem, hhash⟩ := List.append_inj htails hc
    exact ⟨String.toList_inj.1 hstem, String.toList_inj.1 hhash, headed_injective (String.toList_inj.1 hheads)⟩
  · rintro ⟨rfl, hhash, hshown⟩
    rw [hhash, hshown]

end Naming

end Tablecraft
