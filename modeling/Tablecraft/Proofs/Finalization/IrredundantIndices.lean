import Tablecraft.Proofs.Finalization.IndexChanges

namespace Tablecraft

open List Edit

variable {p : Platform} {db db' : Database} {e e' : Entity} {i : Index} {name : String}
  {before after : List Index} {lists : List (List String)}

structure Entity.Irredundant (e : Entity) (lists : List (List String)) : Prop where
  present : ∀ names ∈ lists, ¬names <+: e.primaryKeyNames ∧ ∀ i ∈ e.allIndices, ¬names <+: i.memberNames
  among : lists.Pairwise fun earlier later => ¬later <+: earlier

def Entity.Supplemented (e e' : Entity) : Prop :=
  ∃ added : List Index, e' = { e with indices := e.indices ++ added } ∧ e.Irredundant (added.map (·.memberNames))

namespace Entity

theorem Irredundant.nil (e : Entity) : e.Irredundant [] := ⟨by simp, .nil⟩

theorem Irredundant.sublist {lists' : List (List String)} (h : e.Irredundant lists) (hs : lists'.Sublist lists) :
    e.Irredundant lists' :=
  ⟨fun names hn => h.present names (hs.subset hn), h.among.sublist hs⟩

theorem Irredundant.of_split (h : e.Irredundant ((before ++ i :: after).map (·.memberNames))) :
    ¬i.memberNames <+: e.primaryKeyNames ∧ ∀ j ∈ e.allIndices ++ before, ¬i.memberNames <+: j.memberNames := by
  obtain ⟨hkey, hpresent⟩ := h.present i.memberNames (by simp)
  refine ⟨hkey, fun j hj => ?_⟩
  rcases List.mem_append.1 hj with hj | hj
  · exact hpresent j hj
  · have hamong := h.among
    rw [List.map_append, List.pairwise_append] at hamong
    exact hamong.2.2 _ (List.mem_map_of_mem hj) _ (by simp)

end Entity

namespace Finalization

open Text

/-- Every leading part of the key, of an index or of a planned one is covered, and no planned one is
redundant. -/
structure Additions.Thrifty (e : Entity) (a : Additions) : Prop where
  key : ∀ names, names <+: e.primaryKeyNames → a.covers names = true
  present : ∀ i ∈ e.allIndices, ∀ names, names <+: i.memberNames → a.covers names = true
  indices : ∀ i ∈ a.indices, ∀ names, names <+: i.memberNames → a.covers names = true
  irredundant : e.Irredundant (a.indices.map (·.memberNames))

namespace Additions

variable {a : Additions} {names fields : List String}

theorem covers_of_prefix (hs : leadingParts fields ⊆ a.covered) (hp : names <+: fields) :
    a.covers names = true := by
  by_cases hne : names = []
  · exact covers_iff.2 (.inl hne)
  · exact covers_iff.2 (.inr (hs (mem_leadingParts.2 ⟨names, hne, hp, rfl⟩)))

theorem thrifty_start (e : Entity) : Thrifty e { covered := coveredParts e } where
  key names hp := covers_of_prefix (fun _ hm => List.mem_append_left _ hm) hp
  present i hi names hp :=
    covers_of_prefix (fun _ hm => List.mem_append_right _ (List.mem_flatMap.2 ⟨i, hi, hm⟩)) hp
  indices := by simp
  irredundant := .nil e

theorem Thrifty.cover (h : a.Thrifty e) (hc : a.covers fields = false) (name : String) :
    (a.cover name fields).Thrifty e where
  key names hp := covers_cover (h.key names hp) name fields
  present i hi names hp := covers_cover (h.present i hi names hp) name fields
  indices i hi names hp := by
    rcases List.mem_append.1 hi with hi | hi
    · exact covers_cover (h.indices i hi names hp) name fields
    · obtain rfl : i = planned name fields := List.mem_singleton.1 hi
      exact covers_of_prefix (fun _ hm => List.mem_append_left _ hm)
        (by simpa only [memberNames_planned] using hp)
  irredundant := by
    -- all that the entity has and all that is planned has its leading parts covered, and the new fields are not
    have hnot {names : List String} (hn : fields <+: names → a.covers fields = true) : ¬fields <+: names := by
      intro hp
      simp [hn hp] at hc
    have hmap : (a.cover name fields).indices.map (·.memberNames) = a.indices.map (·.memberNames) ++
        [fields] := by
      rw [show (a.cover name fields).indices = a.indices ++ [planned name fields] from rfl, List.map_append,
        List.map_singleton, memberNames_planned]
    rw [hmap]
    refine ⟨List.forall_mem_append.2 ⟨h.irredundant.present, List.forall_mem_singleton.2 ?_⟩, ?_⟩
    · exact ⟨hnot (h.key fields), fun i hi => hnot (h.present i hi fields)⟩
    · refine List.pairwise_append.2 ⟨h.irredundant.among, List.pairwise_singleton _ _,
        fun earlier he later hl => ?_⟩
      obtain ⟨i, hi, rfl⟩ := List.mem_map.1 he
      obtain rfl := List.mem_singleton.1 hl
      exact hnot (h.indices i hi later)

end Additions

variable {a : Additions}

theorem thrifty_coverReferenced (h : a.Thrifty e) (count : Nat) (relations : List Relation) :
    (coverReferenced p count a relations).Thrifty e := by
  induction relations generalizing count a with
  | nil => exact h
  | cons r rest ih =>
      rw [coverReferenced]
      split
      · exact ih h count
      · exact ih (h.cover (by simpa using ‹¬a.covers r.foreignFields = true›) _) (count + 1)

theorem thrifty_coverLocal (h : a.Thrifty e) (relations : List Relation) :
    (coverLocal a relations).Thrifty e := by
  induction relations generalizing a with
  | nil => exact h
  | cons r rest ih =>
      rw [coverLocal]
      split
      · exact ih h
      · exact ih (h.cover (by simpa using ‹¬a.covers r.localFields = true›) _)

theorem irredundant_relationIndices (p : Platform) (db : Database) (e : Entity) :
    e.Irredundant ((relationIndices p db e).map (·.memberNames)) :=
  (thrifty_coverLocal (thrifty_coverReferenced (Additions.thrifty_start e) 0 _) _).irredundant

theorem exists_added {planned : List Index} (h : addNewIndices planned e = .ok () e') :
    ∃ added : List Index, e' = { e with indices := e.indices ++ added } ∧
      (added.map (·.memberNames)).Sublist (planned.map (·.memberNames)) := by
  induction planned generalizing e with
  | nil =>
      cases h
      exact ⟨[], by simp, List.Sublist.slnil⟩
  | cons i rest ih =>
      obtain ⟨_, x, hx, h⟩ := bind_eq_ok_iff.1 h
      have hx := attempt_eq_ok_iff.1 hx
      obtain ⟨added, rfl, hs⟩ := ih h
      split at hx
      · obtain rfl := Except.ok.inj hx
        exact ⟨added, rfl, hs.cons _⟩
      · obtain ⟨j, hj, rfl⟩ := Entity.addIndex_eq_ok hx
        obtain ⟨rfl, -⟩ := Entity.admitIndex_eq_ok hj
        exact ⟨{ i with table := some e.table, nameLimit := e.nameLimit } :: added, by simp, hs.cons_cons _⟩

theorem supplemented_addNewIndices (h : addNewIndices (relationIndices p db e) e = .ok () e') :
    e.Supplemented e' := by
  obtain ⟨added, rfl, hs⟩ := exists_added h
  exact ⟨added, rfl, (irredundant_relationIndices p db e).sublist hs⟩

/-- The pass adds indices to the entity of that name and does nothing else. An engine with foreign keys gets
none; for any other, the fields of each of them start neither the key, nor an index or constraint that was
there, nor an index added before it. -/
theorem irredundant_of_indexRelations (h : indexRelations p name db = .ok () db') :
    ∃ added : List Index, db' = db.modifyEntity name (fun e => { e with indices := e.indices ++ added }) ∧
      ∀ e, db.entity? name = some e →
        (lower (p.tableEngine e) = "innodb" ∨ lower (p.tableEngine e) = "ndb" → added = []) ∧
        ∀ before i after, added = before ++ i :: after →
          ¬i.memberNames <+: e.primaryKeyNames ∧
              ∀ j ∈ e.allIndices ++ before, ¬i.memberNames <+: j.memberNames := by
  have hkeyed (e : Entity) : lower (p.tableEngine e) = "innodb" ∨ lower (p.tableEngine e) = "ndb" →
      p.usesForeignKeyEngine e = true := by simp [Platform.usesForeignKeyEngine]
  rcases indexRelations_eq_ok h with ⟨-, rfl⟩ | ⟨e, e', he, hengine, hadd, rfl⟩
  · refine ⟨[], ?_, fun e _ => ⟨fun _ => rfl, fun before i after hsplit => by simp at hsplit⟩⟩
    cases he : db'.entity? name with
    | none => exact (Database.modifyEntity_eq_self he).symm
    | some e =>
        rw [Database.modifyEntity_congr he (g := fun _ => e) (by simp), Database.modifyEntity_const_eq_self he]
  · obtain ⟨added, rfl, hirredundant⟩ := supplemented_addNewIndices hadd
    refine ⟨added, ?_, fun x hx => ?_⟩
    · exact Database.modifyEntity_congr he rfl
    · obtain rfl := Option.some.inj (he.symm.trans hx)
      refine ⟨fun hkeys => ?_, ?_⟩
      · simp [hkeyed e hkeys] at hengine
      · rintro before i after rfl
        exact hirredundant.of_split

def chapterLibrary : Database :=
  let number (name : String) : Field := { name, domain := .ofType .integer }
  let key (name : String) : Field := { number name with primaryKey := true }
  { name := "library"
    entities := [
      { name := "chapter"
        fields := [key "book", key "place", number "page"]
        referrers := [⟨"book", "first"⟩, ⟨"book", "opening"⟩, ⟨"book", "start"⟩, ⟨"book", "whole"⟩]
        relations := [
          { givenName := some "chapter_fk_book", foreignEntity := "book", references := [("book", "id")] }]
        indices := [Index.ofNames ["page", "book"]] },
      { name := "book"
        fields := [key "id", number "chapter", number "page"]
        relations := [
          { givenName := some "first", foreignEntity := "chapter", references := [("id", "book")] },
          { givenName := some "opening", foreignEntity := "chapter"
            references := [("chapter", "place"), ("page", "page")] },
          { givenName := some "start", foreignEntity := "chapter", references := [("page", "page")] },
          { givenName := some "whole", foreignEntity := "chapter", references := [("chapter", "place")] }] }] }

theorem irredundant_of_indexRelations_chapter : ∃ db' added,
    indexRelations unboundPlatform "chapter" chapterLibrary = .ok () db' ∧
    db' = chapterLibrary.modifyEntity "chapter" (fun e => { e with indices := e.indices ++ added }) ∧
    db'.entities.map (fun e => e.indices.map (·.memberNames)) = [[["page", "book"], ["place", "page"]], []] ∧
    ∀ e, chapterLibrary.entity? "chapter" = some e → ∀ before i after, added = before ++ i :: after →
      ¬i.memberNames <+: e.primaryKeyNames ∧ ∀ j ∈ e.allIndices ++ before, ¬i.memberNames <+: j.memberNames := by
  have hrun : ((indexRelations unboundPlatform "chapter").result chapterLibrary).toOption.any (fun db' =>
      db'.entities.map (fun e => e.indices.map (·.memberNames)) ==
        [[["page", "book"], ["place", "page"]], []]) = true := by
    decide +kernel
  obtain ⟨db', hresult, hindices⟩ := (Option.any_eq_true _ _).1 hrun
  have h := result_eq_ok_iff.1 (except_toOption_eq_some_iff.1 hresult)
  obtain ⟨added, hadded, hall⟩ := irredundant_of_indexRelations h
  exact ⟨db', added, h, hadded, by simpa using hindices, fun e he => (hall e he).2⟩

end Finalization

end Tablecraft
