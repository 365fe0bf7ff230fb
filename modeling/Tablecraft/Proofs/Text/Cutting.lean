import Tablecraft.Proofs.Naming.Lengths

namespace Tablecraft.Text

variable {s : String} {cs : List Char} {limit budget position count : Nat}

/-- The last position up to the given one at which no character is divided. -/
def lastBoundary (s : String) : Nat → Nat
  | 0 => 0
  | position + 1 => if String.Pos.Raw.isValid s ⟨position + 1⟩ then position + 1 else lastBoundary s position

def leadingBytes (s : String) (limit : Nat) : ByteArray := s.toByteArray.extract 0 (lastBoundary s limit)

theorem isValid_iff_exists_take :
    String.Pos.Raw.isValid s ⟨position⟩ = true ↔ ∃ count, position = charsLength (s.toList.take count) := by
  rw [String.Pos.Raw.isValid_eq_true_iff, String.Pos.Raw.isValid_iff_exists_take_toList]
  exact exists_congr fun count => by rw [← byteLength_ofList, byteLength]

/-- The search ends at a boundary within the limit behind which there is no other. -/
theorem lastBoundary_eq (hvalid : String.Pos.Raw.isValid s ⟨position⟩ = true) (hle : position ≤ limit)
    (hlast : ∀ later ≤ limit, String.Pos.Raw.isValid s ⟨later⟩ = true → later ≤ position) :
    lastBoundary s limit = position := by
  induction limit with
  | zero => exact (Nat.le_zero.1 hle).symm
  | succ limit ih =>
      rw [lastBoundary]
      by_cases hend : String.Pos.Raw.isValid s ⟨limit + 1⟩ = true
      · rw [if_pos hend]
        exact Nat.le_antisymm (hlast _ (Nat.le_refl _) hend) hle
      · have hne : position ≠ limit + 1 := by
          rintro rfl
          exact hend hvalid
        rw [if_neg hend]
        exact ih (by omega) fun later hlater => hlast later (Nat.le_succ_of_le hlater)

theorem isPrefix_takeBytes (budget : Nat) (cs : List Char) : takeBytes budget cs <+: cs := by
  induction cs generalizing budget with
  | nil => exact List.prefix_refl _
  | cons c rest ih =>
      rw [takeBytes]
      split
      · exact (List.cons_prefix_cons).2 ⟨rfl, ih _⟩
      · exact List.nil_prefix

/-- No leading part that fits is longer. -/
theorem charsLength_take_le (h : charsLength (cs.take count) ≤ budget) :
    charsLength (cs.take count) ≤ charsLength (takeBytes budget cs) := by
  induction cs generalizing budget count with
  | nil => simp [takeBytes]
  | cons c rest ih =>
      cases count with
      | zero => exact Nat.zero_le _
      | succ count =>
          rw [List.take_succ_cons, charsLength] at h ⊢
          have hrest : charsLength (rest.take count) ≤ budget - c.utf8Size := by omega
          rw [takeBytes, if_pos (by omega), charsLength]
          exact Nat.add_le_add_left (ih hrest) _

theorem lastBoundary_eq_charsLength (s : String) (limit : Nat) :
    lastBoundary s limit = charsLength (takeBytes limit s.toList) := by
  apply lastBoundary_eq
  · rw [isValid_iff_exists_take]
    exact ⟨_, by rw [← List.prefix_iff_eq_take.1 (isPrefix_takeBytes limit s.toList)]⟩
  · apply charsLength_takeBytes
  · intro later hlater hvalid
    obtain ⟨count, rfl⟩ := isValid_iff_exists_take.1 hvalid
    exact charsLength_take_le hlater

theorem takeBytes_eq_self (h : charsLength cs ≤ budget) : takeBytes budget cs = cs := by
  induction cs generalizing budget with
  | nil => rfl
  | cons c rest ih =>
      rw [charsLength] at h
      rw [takeBytes, if_pos (by omega), ih (by omega)]

theorem truncate_eq_takeBytes (s : String) (limit : Nat) :
    truncate s limit = String.ofList (takeBytes limit s.toList) := by
  rw [truncate]
  split
  · rename_i hfits
    have hchars : charsLength s.toList ≤ limit := by rwa [← byteLength_ofList, String.ofList_toList]
    rw [takeBytes_eq_self hchars, String.ofList_toList]
  · rfl

theorem toByteArray_truncate (s : String) (limit : Nat) :
    (truncate s limit).toByteArray = leadingBytes s limit := by
  obtain ⟨rest, hrest⟩ := isPrefix_takeBytes limit s.toList
  have hs : s = String.ofList (takeBytes limit s.toList) ++ String.ofList rest := by
    rw [← String.ofList_append, hrest, String.ofList_toList]
  have hsize : (String.ofList (takeBytes limit s.toList)).toByteArray.size =
      charsLength (takeBytes limit s.toList) :=
    byteLength_ofList _
  have hbytes := congrArg String.toByteArray hs
  rw [String.toByteArray_append] at hbytes
  rw [leadingBytes, lastBoundary_eq_charsLength, truncate_eq_takeBytes, hbytes,
    ByteArray.extract_append_eq_left hsize.symm]

end Tablecraft.Text
