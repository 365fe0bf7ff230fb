import Tablecraft.Proofs.Finalization.Idempotence
import Tablecraft.Proofs.Finalization.IndexChanges
import Tablecraft.Proofs.Naming.Lengths

namespace Tablecraft

open List Edit Text

variable {registry : Registry} {p : Platform} {tables : String → Option String} {db db' a u t : Database}
  {e e' : Entity} {i : Index} {limit : Nat}

def Entity.GivenNamesFit (limit : Nat) (e : Entity) : Prop :=
  (∀ i ∈ e.allIndices, i.GivenNameFits limit) ∧ ∀ r ∈ e.relations, r.GivenNameFits limit

def Database.GivenNamesFit (limit : Nat) (db : Database) : Prop := ∀ e ∈ db.entities, e.GivenNamesFit limit

instance (limit : Nat) (db : Database) : Decidable (db.GivenNamesFit limit) :=
  inferInstanceAs (Decidable (∀ e ∈ db.entities,
    (∀ i ∈ e.allIndices, ∀ name ∈ i.givenName, byteLength name ≤ limit) ∧
      ∀ r ∈ e.relations, ∀ name ∈ r.givenName, byteLength name ≤ limit))

theorem Database.GivenNamesFit.of_related {R : Entity → Entity → Prop}
    (hR : ∀ x y, R x y → x.GivenNamesFit limit → y.GivenNamesFit limit) (hg : db.GivenNamesFit limit)
    (h : db.Related R db') : db'.GivenNamesFit limit := by
  intro e' he'
  obtain ⟨e, he, hx⟩ := FirstMatch.exists_of_mem' h.entities he'
  exact hR e e' hx (hg e he)

theorem Entity.SameConstraints.givenNamesFit (h : e.SameConstraints e') (hg : e.GivenNamesFit limit) :
    e'.GivenNamesFit limit := by
  rwa [GivenNamesFit, allIndices, h.indices, h.uniques, h.relations]

theorem Entity.Informed.givenNamesFit (h : e.Informed e') (hg : e.GivenNamesFit limit) :
    e'.GivenNamesFit limit := by
  rw [h.frame]
  exact hg

theorem Registry.respects_givenNamesFit (limit : Nat) :
    Registry.builtins.Respects (Database.GivenNamesFit limit) :=
  fun b => (Registry.benign_builtins b).respects fun _ _ hg h => hg.of_related (fun _ _ h => h.givenNamesFit) h

/-- What settling an entity adds has no given name. -/
theorem Entity.admits_givenNameFits (limit : Nat) :
    Admits fun e => ∀ i ∈ e.allIndices, i.GivenNameFits limit where
  addIndex hg h := by
    apply forall_of_admitIndex (perm_addIndex h) hg
    intro j hj
    rw [(admitIndex_eq_ok hj).1]
    rintro _ ⟨⟩
  addUnique hg h := by
    apply forall_of_admitIndex (perm_addUnique h) hg
    intro j hj
    rw [(admitIndex_eq_ok hj).1]
    rintro _ ⟨⟩

theorem Finalization.givenNamesFit_of_settleAll {heavy : Bool} {names : List String} (hg : a.GivenNamesFit limit)
    (h : settleAll p heavy names a = .ok () u) : u.GivenNamesFit limit := by
  have hs : Keeps (fun e => ∀ i ∈ e.allIndices, i.GivenNameFits limit) (settleEntity p heavy) := by
    apply (Entity.admits_givenNameFits limit).keeps_settleEntity _ (fun _ h => h) (fun _ h => h)
    intro e hg
    simpa [Entity.setNameLimit, Entity.allIndices, or_imp, forall_and, Index.GivenNameFits] using hg
  have hx := (carries_settleAll (fun _ _ hi hu hg => by rwa [Entity.allIndices, hi, hu]) hs names).of_ok h
    (.refl (fun e => ⟨.refl e, id⟩) a)
  refine hg.of_related (fun x y hxy hg => ⟨hxy.property hg.1, fun s hs => ?_⟩) hx
  obtain ⟨r, hr, hrs⟩ := FirstMatch.exists_of_mem' hxy.extension.relations hs
  rw [Relation.GivenNameFits, hrs.frame]
  exact hg.2 r hr

/-- The index is called after a relation whose given name has no `fk_` that could give way to `fi_`, and so
little room that it does not fit with `fi_` in front. -/
structure Index.Overlong (p : Platform) (e : Entity) (i : Index) : Prop where
  dialect : p.dialect = .mysql
  engine : p.usesForeignKeyEngine e = false
  name : ∃ r ∈ e.relations, ∃ name ∈ r.givenName, ¬"fk_".toList <:+: name.toList ∧
    p.maxIdentifierLength < byteLength name + 3 ∧ i.name = "fi_" ++ name

theorem Index.StandsIn.fits (h : i.StandsIn p e) (hg : ∀ r ∈ e.relations, r.GivenNameFits p.maxIdentifierLength)
    (hl : ∀ r ∈ e.relations, r.nameLimit = p.maxIdentifierLength) :
    byteLength i.name ≤ p.maxIdentifierLength ∨ i.Overlong p e := by
  obtain ⟨relation, count, hi⟩ | ⟨r, hr, hi⟩ := h.name
  · left
    rw [Index.name, hi]
    apply Finalization.byteLength_referencedIndexName
  · have hn : i.name = Finalization.foreignIndexName r.name := by
      rw [Index.name, hi]
      rfl
    rcases Finalization.foreignIndexName_cases r.name with ⟨-, hs⟩ | ⟨hfk, hs⟩
    · left
      rw [hn, hs]
      exact Relation.byteLength_name (hg r hr) (hl r hr)
    · rw [hs] at hn
      have hlength : byteLength i.name = byteLength r.name + 3 := by
        rw [hn, byteLength_append, Nat.add_comm]
        rfl
      by_cases hfits : byteLength i.name ≤ p.maxIdentifierLength
      · exact .inl hfits
      · -- a generated name has `fk_` in it
        cases hgiven : r.givenName with
        | none =>
            apply absurd _ hfk
            rw [Relation.name, hgiven]
            apply Naming.infix_hashedName
            rw [hl r hr, Platform.maxIdentifierLength, h.dialect]
            decide
        | some name =>
            have hname : r.name = name := by rw [Relation.name, hgiven, Option.getD_some]
            rw [hname] at hn hfk hlength
            exact .inr ⟨h.dialect, h.engine, r, hr, name, hgiven, hfk, by omega, hn⟩

/-- After finalization the names of relations and constraints fit the dialect, and those of indices too unless
`fi_` in front of the name of a relation is too much. -/
theorem Database.byteLength_of_finalize (hr : registry.Respects (Database.GivenNamesFit p.maxIdentifierLength))
    (hg : db.GivenNamesFit p.maxIdentifierLength) (h : (Database.finalize registry p).result db = .ok db')
    (he : e ∈ db'.entities) (hfound : db'.entity? e.name = some e) :
    (∀ r ∈ e.relations, byteLength r.name ≤ p.maxIdentifierLength) ∧
      (∀ i ∈ e.uniques, byteLength i.name ≤ p.maxIdentifierLength) ∧
      ∀ i ∈ e.indices, byteLength i.name ≤ p.maxIdentifierLength ∨ i.Overlong p e := by
  obtain ⟨a, u, t, hs⟩ := exists_stages h
  have ha : a.GivenNamesFit p.maxIdentifierLength := by
    refine (hr.keeps_applyBehaviors_of fun s slot hg => ?_).of_ok hs.applied hg
    exact hg.of_related (fun _ _ h => h.givenNamesFit) (Schedule.sameConstraints_markApplied slot s)
  have hu := Finalization.givenNamesFit_of_settleAll ha hs.settled
  have ht := hu.of_related (fun _ _ h => h.givenNamesFit) hs.informed
  have hlimited := (hs.constrained he hfound).limited
  obtain ⟨x, hx, hxe⟩ := FirstMatch.exists_of_mem' (Finalization.indexed_dialectPass hs.dialect).entities he
  obtain ⟨hgi, hgr⟩ := ht x hx
  obtain ⟨hgi, hgu⟩ := forall_mem_append.1 hgi
  rw [← hxe.decorated.relations_eq] at hgr
  have huniques : e.uniques = x.uniques := by rw [hxe.decorated.frame]
  refine ⟨fun r hr => Relation.byteLength_name (hgr r hr) (hlimited.relations r hr),
    fun i hi => Index.byteLength_name (hgu i (huniques ▸ hi)) (hlimited.uniques i hi), fun i hi => ?_⟩
  rcases hxe.indices.of_mem hi with ⟨_, hi', rfl⟩ | hstands
  · exact .inl (Index.byteLength_name (hgi _ hi') (hlimited.indices _ hi))
  · exact (hxe.decorated.standsIn_iff.2 hstands).fits hgr hlimited.relations

def editionDocument (table : Option String) (relation : Option String) : SchemaDocument :=
  let number (name : String) : Document.Field := { name, fieldType := some "INTEGER" }
  { databases := [
      { name := "library"
        entities := [
          { name := "author", fields := [{ number "id" with primaryKey := true }] },
          { name := "book", table
            fields := [{ number "id" with primaryKey := true }, { number "isbn" with unique := true },
              number "writer"]
            indices := [{ fields := [{ name := "isbn" }, { name := "writer" }] }]
            relations := [
              { name := relation, foreignEntity := "author", references := [("writer", "id")] }] }] }] }

def lettersDocument : SchemaDocument :=
  editionDocument (some "Bücher_in_der_großen_Bibliothek_am_Fluss_Ñandú_ÄÖÜ") none

theorem Database.byteLength_of_finalize_letters : ∃ db db', LoadedFrom .builtins lettersDocument db ∧
    Registry.builtins.Respects (GivenNamesFit unboundPlatform.maxIdentifierLength) ∧
    db.GivenNamesFit unboundPlatform.maxIdentifierLength ∧
    (Database.finalize .builtins unboundPlatform).result db = .ok db' ∧
    ∃ e ∈ db'.entities, db'.entity? e.name = some e ∧
      e.allIndices.map (fun i => byteLength i.name) = [64, 63, 64] ∧
      (∀ r ∈ e.relations, byteLength r.name ≤ unboundPlatform.maxIdentifierLength) ∧
      (∀ i ∈ e.uniques, byteLength i.name ≤ unboundPlatform.maxIdentifierLength) ∧
      ∀ i ∈ e.indices, byteLength i.name ≤ unboundPlatform.maxIdentifierLength ∨
        i.Overlong unboundPlatform e := by
  obtain ⟨db, db', hd, h, hg, e, he, hfound, hlengths⟩ := exists_finalize_of_decide unboundPlatform
    lettersDocument.first? (fun db db' => db.GivenNamesFit unboundPlatform.maxIdentifierLength ∧
      ∃ e ∈ db'.entities, db'.entity? e.name = some e ∧
        e.allIndices.map (fun i => byteLength i.name) = [64, 63, 64])
    (by decide +kernel)
  have hr := Registry.respects_givenNamesFit unboundPlatform.maxIdentifierLength
  exact ⟨db, db', SchemaDocument.loadedFrom_of_first? hd, hr, hg, h, e, he, hfound, hlengths,
    byteLength_of_finalize hr hg h he hfound⟩

def narrowDocument : SchemaDocument :=
  editionDocument none (some "the_writer_whose_name_stands_on_the_cover_of_this_edition_first")

/-- The books go by the name of the authors, who stand before them, and are never visited. -/
def unvisitedLibrary? : Option Database :=
  lettersDocument.first?.map (·.modifyEntity "book" (Entity.setName "author"))

/-- An index that takes the place of a foreign key, and one under the limit that its entity had before. -/
theorem Database.exists_overlong_name :
    (∃ db db', LoadedFrom .builtins narrowDocument db ∧ db.GivenNamesFit unboundPlatform.maxIdentifierLength ∧
      (Database.finalize .builtins unboundPlatform).result db = .ok db' ∧
      ∃ e ∈ db'.entities, ∃ i ∈ e.indices, unboundPlatform.maxIdentifierLength < byteLength i.name) ∧
    ∃ db db', unvisitedLibrary? = some db ∧ db.GivenNamesFit 63 ∧
      (Database.finalize .builtins { dialect := .postgres }).result db = .ok db' ∧
      ∃ e ∈ db'.entities, ∃ i ∈ e.indices, 63 < byteLength i.name := by
  constructor
  · obtain ⟨db, db', hd, h, hg, hlong⟩ := exists_finalize_of_decide unboundPlatform narrowDocument.first?
      (fun db db' => db.GivenNamesFit unboundPlatform.maxIdentifierLength ∧
        ∃ e ∈ db'.entities, ∃ i ∈ e.indices, unboundPlatform.maxIdentifierLength < byteLength i.name)
          (by decide +kernel)
    exact ⟨db, db', SchemaDocument.loadedFrom_of_first? hd, hg, h, hlong⟩
  · obtain ⟨db, db', hd, h, hg, hlong⟩ := exists_finalize_of_decide { dialect := .postgres } unvisitedLibrary?
      (fun db db' => db.GivenNamesFit 63 ∧ ∃ e ∈ db'.entities, ∃ i ∈ e.indices, 63 < byteLength i.name)
      (by decide +kernel)
    exact ⟨db, db', hd, hg, h, hlong⟩

end Tablecraft
