import Tablecraft.Proofs.Ddl.Unchanged

namespace Tablecraft

open List

/-- Equal defaults, or two of one kind that are both the current time. -/
def DefaultValue.Interchangeable (v w : Option DefaultValue) : Prop :=
  v = w ∨ ∃ x y, v = some x ∧ w = some y ∧ x.isExpression = y.isExpression ∧
    isCurrentTime x.text = true ∧ isCurrentTime y.text = true

theorem DefaultValue.agreesOption_iff {v w : Option DefaultValue} :
    agreesOption v w = true ↔ Interchangeable v w := by
  cases v with
  | none => cases w <;> simp [agreesOption, Interchangeable]
  | some x =>
      cases w with
      | none => simp [agreesOption, Interchangeable]
      | some y => cases x <;> cases y <;> simp [agreesOption, agrees, Interchangeable, isExpression, text]

theorem DefaultValue.Interchangeable.symm {v w : Option DefaultValue} (h : Interchangeable v w) :
    Interchangeable w v := by
  obtain rfl | ⟨x, y, rfl, rfl, hkind, hx, hy⟩ := h
  · exact .inl rfl
  · exact .inr ⟨y, x, rfl, rfl, hkind.symm, hy, hx⟩

structure Field.StoredAlike (f g : Field) : Prop where
  column : f.column = g.column
  fieldType : f.fieldType = g.fieldType
  sqlType : f.domain.sqlType = g.domain.sqlType
  size : f.domain.size = g.domain.size
  scale : f.domain.scale = g.domain.scale
  notNull : f.notNull = g.notNull
  autoIncrement : f.autoIncrement = g.autoIncrement
  unique : f.unique = g.unique
  default : DefaultValue.Interchangeable f.domain.default g.domain.default
  values : f.values = g.values

structure Index.ShapedAlike (i j : Index) : Prop where
  members : i.members = j.members
  unique : i.unique = j.unique

structure Relation.ShapedAlike (r s : Relation) : Prop where
  foreignTable : r.foreignTableName = s.foreignTableName
  localFields : r.localFields = s.localFields
  foreignFields : r.foreignFields = s.foreignFields
  onDelete : r.onDelete = s.onDelete
  onUpdate : r.onUpdate = s.onUpdate

namespace Field

variable {f g : Field}

theorem sameStorage_iff : f.sameStorage g = true ↔ f.StoredAlike g := by
  simp only [sameStorage, Bool.and_eq_true, beq_iff_eq, DefaultValue.agreesOption_iff, and_assoc]
  constructor
  · rintro ⟨hc, ht, hs, hz, hl, hn, ha, hu, hd, hv⟩
    exact ⟨hc, ht, hs, hz, hl, hn, ha, hu, hd, hv⟩
  · intro h
    exact ⟨h.column, h.fieldType, h.sqlType, h.size, h.scale, h.notNull, h.autoIncrement, h.unique,
      h.default, h.values⟩

theorem StoredAlike.symm (h : f.StoredAlike g) : g.StoredAlike f :=
  ⟨h.column.symm, h.fieldType.symm, h.sqlType.symm, h.size.symm, h.scale.symm, h.notNull.symm,
    h.autoIncrement.symm, h.unique.symm, h.default.symm, h.values.symm⟩

end Field

namespace Index

variable {i j : Index}

theorem sameShape_iff : i.sameShape j = true ↔ i.ShapedAlike j := by
  simp only [sameShape, Bool.and_eq_true, beq_iff_eq]
  constructor
  · rintro ⟨hm, hu⟩
    exact ⟨hm, hu⟩
  · intro h
    exact ⟨h.members, h.unique⟩

theorem ShapedAlike.symm (h : i.ShapedAlike j) : j.ShapedAlike i := ⟨h.members.symm, h.unique.symm⟩

end Index

namespace Relation

variable {r s : Relation}

theorem sameShape_iff : r.sameShape s = true ↔ r.ShapedAlike s := by
  simp only [sameShape, Bool.and_eq_true, beq_iff_eq, and_assoc]
  constructor
  · rintro ⟨ht, hl, hf, hd, hu⟩
    exact ⟨ht, hl, hf, hd, hu⟩
  · intro h
    exact ⟨h.foreignTable, h.localFields, h.foreignFields, h.onDelete, h.onUpdate⟩

theorem ShapedAlike.symm (h : r.ShapedAlike s) : s.ShapedAlike r :=
  ⟨h.foreignTable.symm, h.localFields.symm, h.foreignFields.symm, h.onDelete.symm, h.onUpdate.symm⟩

end Relation

namespace Compare

variable {α : Type} {name : α → String} {same : α → α → Bool} {Alike : α → α → Prop} {source target : List α}
  {pair : NamePair}

theorem mem_modified_iff_of_nodup (hs : (source.map name).Nodup) : pair ∈ modified name same source target ↔
    ∃ x ∈ source, ∃ y ∈ target, name x = name y ∧ same x y = false ∧ pair = .same (name y) := by
  rw [mem_modified_iff]
  constructor
  · rintro ⟨y, hy, x, hx, hdiffers, rfl⟩
    exact ⟨x, List.mem_of_find?_eq_some hx, y, hy, by simpa using List.find?_some hx, hdiffers, rfl⟩
  · rintro ⟨x, hx, y, hy, hn, hdiffers, rfl⟩
    exact ⟨y, hy, x, hn ▸ find?_of_nodup hs hx, hdiffers, rfl⟩

theorem nodup_modified (ht : (target.map name).Nodup) : (modified name same source target).Nodup :=
  (ht.sublist (sublist_modified name same source target)).of_map

theorem map_swap_modified :
    (modified name same source target).map NamePair.swap = modified name same source target := by
  refine (List.map_congr_left fun pair hp => ?_).trans (List.map_id _)
  obtain ⟨_, _, _, _, _, rfl⟩ := mem_modified_iff.1 hp
  rfl

section

variable (halike : ∀ x y, same x y = true ↔ Alike x y) (hs : (source.map name).Nodup)
    (ht : (target.map name).Nodup)

include halike hs ht

theorem perm_modified (hsymm : ∀ x y, Alike x y → Alike y x) :
    (modified name same target source).Perm ((modified name same source target).map NamePair.swap) := by
  have hcomm (x y : α) : same x y = same y x :=
    Bool.eq_iff_iff.2 ⟨fun h => (halike y x).2 (hsymm x y ((halike x y).1 h)),
      fun h => (halike x y).2 (hsymm y x ((halike y x).1 h))⟩
  -- every pair has one name twice, so swapping does nothing and the same pairs are to be found
  rw [map_swap_modified, List.perm_ext_iff_of_nodup (nodup_modified hs) (nodup_modified ht)]
  intro pair
  rw [mem_modified_iff_of_nodup hs, mem_modified_iff_of_nodup ht]
  constructor
  · rintro ⟨y, hy, x, hx, hn, hdiffers, rfl⟩
    exact ⟨x, hx, y, hy, hn.symm, hcomm x y ▸ hdiffers, by rw [hn]⟩
  · rintro ⟨x, hx, y, hy, hn, hdiffers, rfl⟩
    exact ⟨y, hy, x, hx, hn.symm, hcomm x y ▸ hdiffers, by rw [hn]⟩

theorem same_not_mem_modified_iff {x y : α} (hx : x ∈ source) (hy : y ∈ target) (hn : name x = name y) :
    .same (name x) ∉ modified name same source target ↔ Alike x y := by
  rw [mem_modified_iff_of_nodup hs, ← halike]
  constructor
  · intro hnot
    by_contra hdiffers
    exact hnot ⟨x, hx, y, hy, hn, by simpa using hdiffers, by rw [hn]⟩
  · rintro hsame ⟨x', hx', y', hy', hn', hdiffers, hpair⟩
    have hname : name x = name y' := congrArg NamePair.source hpair
    -- distinct names on both sides: the listed pair is this one
    obtain rfl := List.inj_on_of_nodup_map hs hx' hx (hn'.trans hname.symm)
    obtain rfl := List.inj_on_of_nodup_map ht hy' hy (hname.symm.trans hn)
    simp [hsame] at hdiffers

end

end Compare

open Compare

namespace EntityDiff

variable {a b : Entity} {d d' : EntityDiff}

/-- The second difference leads back: what the first adds it removes, and what the first changes it changes
back. -/
structure Mirrors (d d' : EntityDiff) : Prop where
  source : d'.source = d.target
  target : d'.target = d.source
  addedFields : d'.addedFields = d.removedFields
  removedFields : d'.removedFields = d.addedFields
  renamedFields : d'.renamedFields = d.renamedFields.map NamePair.swap
  modifiedFields : d'.modifiedFields.Perm (d.modifiedFields.map NamePair.swap)
  modifiedPrimaryKey : d'.modifiedPrimaryKey = d.modifiedPrimaryKey
  addedIndices : d'.addedIndices = d.removedIndices
  removedIndices : d'.removedIndices = d.addedIndices
  modifiedIndices : d'.modifiedIndices.Perm (d.modifiedIndices.map NamePair.swap)
  addedRelations : d'.addedRelations = d.removedRelations
  removedRelations : d'.removedRelations = d.addedRelations
  modifiedRelations : d'.modifiedRelations.Perm (d.modifiedRelations.map NamePair.swap)

theorem mirrors_compare (ha : a.DistinctParts) (hb : b.DistinctParts) : (compare a b).Mirrors (compare b a) where
  source := rfl
  target := rfl
  addedFields := rfl
  removedFields := rfl
  renamedFields := rfl
  modifiedFields := perm_modified (fun _ _ => Field.sameStorage_iff) ha.fields hb.fields fun _ _ => .symm
  modifiedPrimaryKey := bne_comm
  addedIndices := rfl
  removedIndices := rfl
  modifiedIndices := perm_modified (fun _ _ => Index.sameShape_iff) ha.indices hb.indices fun _ _ => .symm
  addedRelations := rfl
  removedRelations := rfl
  modifiedRelations :=
    perm_modified (fun _ _ => Relation.sameShape_iff) ha.relations hb.relations fun _ _ => .symm

/-- The comparison read backwards is its mirror, and what both entities have is listed exactly if it is not
alike. -/
theorem mirrors_and_alike_of_distinct (ha : a.DistinctParts) (hb : b.DistinctParts) :
    (compare a b).Mirrors (compare b a) ∧
      (∀ f ∈ a.fields, ∀ g ∈ b.fields, f.name = g.name →
        (.same f.name ∉ (compare a b).modifiedFields ↔ f.StoredAlike g)) ∧
      (∀ i ∈ a.allIndices, ∀ j ∈ b.allIndices, i.name = j.name →
        (.same i.name ∉ (compare a b).modifiedIndices ↔ i.ShapedAlike j)) ∧
      ∀ r ∈ a.relations, ∀ s ∈ b.relations, r.name = s.name →
        (.same r.name ∉ (compare a b).modifiedRelations ↔ r.ShapedAlike s) := by
  refine ⟨mirrors_compare ha hb, fun f hf g hg hn => ?_, fun i hi j hj hn => ?_, fun r hr s hs hn => ?_⟩
  · exact same_not_mem_modified_iff (fun _ _ => Field.sameStorage_iff) ha.fields hb.fields hf hg hn
  · exact same_not_mem_modified_iff (fun _ _ => Index.sameShape_iff) ha.indices hb.indices hi hj hn
  · exact same_not_mem_modified_iff (fun _ _ => Relation.sameShape_iff) ha.relations hb.relations hr hs hn

def datedLoan (now : String) (textFields : List Field) (relations : List Relation) : Entity :=
  let date : Field :=
    { name := "date", domain := { Domain.ofType .timestamp with default := some (.expression now) } }
  { name := "loan", fields := date :: textFields, relations
    indices := [{ Index.ofNames ["date"] with givenName := some "by_date" }]
    uniques := [{ Index.uniqueOfNames (textFields.map (·.name)) with givenName := some "by_text" }] }

def loanBefore : Entity :=
  datedLoan "NOW()" [{ name := "title", domain := .ofType .varchar },
    { name := "note", domain := .ofType .varchar }]
    [{ givenName := some "loan_fk_book", foreignEntity := "book", references := [("title", "title")] }]

def loanAfter : Entity :=
  datedLoan "current_timestamp"
    [{ name := "note", domain := .ofType .clob }, { name := "title", domain := .ofType .clob }]
    [{ givenName := some "loan_fk_book", foreignEntity := "volume", references := [("title", "title")] }]

theorem mirrors_and_alike_of_distinct_loan : loanBefore.DistinctParts ∧ loanAfter.DistinctParts ∧
    (compare loanBefore loanAfter).Mirrors (compare loanAfter loanBefore) ∧
    (compare loanBefore loanAfter).modifiedFields = [.same "note", .same "title"] ∧
    (compare loanAfter loanBefore).modifiedFields = [.same "title", .same "note"] ∧
    (compare loanBefore loanAfter).modifiedIndices = [.same "by_text"] ∧
    (compare loanBefore loanAfter).modifiedRelations = [.same "loan_fk_book"] ∧
    ∀ f ∈ loanBefore.fields, ∀ g ∈ loanAfter.fields, f.name = "date" → g.name = "date" → f.StoredAlike g := by
  have hbefore : loanBefore.DistinctParts := by decide +kernel
  have hafter : loanAfter.DistinctParts := by decide +kernel
  obtain ⟨hmirrors, hfields, -⟩ := mirrors_and_alike_of_distinct hbefore hafter
  refine ⟨hbefore, hafter, hmirrors, by decide +kernel, by decide +kernel, by decide +kernel,
    by decide +kernel, ?_⟩
  intro f hf g hg hfn hgn
  have hunlisted : .same f.name ∉ (compare loanBefore loanAfter).modifiedFields := by
    rw [hfn]
    decide +kernel
  exact (hfields f hf g hg (hfn.trans hgn.symm)).1 hunlisted

end EntityDiff

end Tablecraft
