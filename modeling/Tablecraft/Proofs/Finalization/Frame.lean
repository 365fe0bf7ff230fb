import Tablecraft.Proofs.Behavior.Benign
import Tablecraft.Proofs.Finalization.Passes

namespace Tablecraft

open List Edit

variable {registry : Registry} {p : Platform} {tables : String → Option String} {db db' s t : Database}
  {e e' e'' : Entity}

def Field.Preserved (f g : Field) : Prop :=
  g = { f with implementationDetail := g.implementationDetail, referrers := g.referrers }

theorem Field.Preserved.refl (f : Field) : f.Preserved f := rfl

theorem Field.Preserved.trans {f g h : Field} (hg : f.Preserved g) (hh : g.Preserved h) : f.Preserved h :=
  Eq.trans hh (by rw [hg])

theorem Field.Kept.preserved {f g : Field} (h : f.Kept g) : f.Preserved g := Eq.trans h (by rw [h])

theorem Field.Informed.preserved {f g : Field} (h : f.Informed g) : f.Preserved g :=
  h.frame.trans (by rw [h.frame])

/-- The entity with what finalization adds to it. Its parts stand in front of the added ones. -/
structure Entity.Completed (tables : String → Option String) (e e' : Entity) : Prop where
  frame : e' = { e with
    fields := e'.fields, relations := e'.relations, indices := e'.indices, uniques := e'.uniques
    referrers := e'.referrers, behaviors := e'.behaviors, givenIdMethod := e'.givenIdMethod
    chosenSequence := e'.chosenSequence, containsForeignKey := e'.containsForeignKey
    needsTransaction := e'.needsTransaction, nameLimit := e'.nameLimit }
  fields : Grows Field.Preserved (fun _ => True) e.fields e'.fields
  relations : Forall₂ (Relation.Kept tables) e.relations e'.relations
  indices : Grows Index.Kept (fun _ => True) e.indices e'.indices
  uniques : Grows Index.Kept (fun _ => True) e.uniques e'.uniques

namespace Entity.Completed

theorem trans (h : e.Completed tables e') (h' : e'.Completed tables e'') : e.Completed tables e'' where
  frame := h'.frame.trans (by rw [h.frame])
  fields := h.fields.trans (fun _ _ _ => .trans) (fun _ _ _ _ => trivial) h'.fields
  relations := FirstMatch.forall₂_trans (fun _ _ _ hr hs => hr.trans hs) h.relations h'.relations
  indices := h.indices.trans (fun _ _ _ => .trans) (fun _ _ _ _ => trivial) h'.indices
  uniques := h.uniques.trans (fun _ _ _ => .trans) (fun _ _ _ _ => trivial) h'.uniques

theorem of_extends (h : e.Extends tables e') : e.Completed tables e' where
  frame := h.frame.trans (by rw [h.frame])
  fields := h.fields.imp (fun _ _ hf => hf.preserved) fun _ _ => trivial
  relations := h.relations
  indices := h.indices
  uniques := h.uniques

theorem of_informed (h : e.Informed e') : e.Completed tables e' where
  frame := h.frame.trans (by rw [h.frame])
  fields := .of_forall₂ (h.fields.imp fun _ _ hf => hf.preserved)
  relations := by
    rw [h.frame]
    exact forall₂_same.2 fun r _ => .refl r
  indices := by
    rw [h.frame]
    exact .refl Index.Kept.refl _
  uniques := by
    rw [h.frame]
    exact .refl Index.Kept.refl _

theorem of_decorated (h : e.Decorated e') : e.Completed tables e' where
  frame := h.frame.trans (by rw [h.frame])
  fields := by
    rw [h.fields_eq]
    exact .refl Field.Preserved.refl _
  relations := by
    rw [h.relations_eq]
    exact forall₂_same.2 fun r _ => .refl r
  indices := by
    refine h.indices.imp ?_ fun _ h => h
    rintro i _ rfl
    exact .refl i
  uniques := by
    rw [h.frame]
    exact .refl Index.Kept.refl _

theorem sameNames (h : e.Completed tables e') : e.SameNames e' := ⟨by rw [h.frame], by rw [h.frame]⟩

theorem field? (h : e.Completed tables e') {name : String} {f : Field} (hf : e.field? name = some f) :
    ∃ g, e'.field? name = some g ∧ f.Preserved g :=
  h.fields.exists_of_find? (fun x y hxy => by rw [hxy]) hf

theorem exists_primaryKey (h : e.Completed tables e') {key : Field} (hk : key ∈ e.primaryKey) :
    ∃ key' ∈ e'.primaryKey, key.Preserved key' := by
  obtain ⟨hm, hprimary⟩ := List.mem_filter.1 hk
  obtain ⟨key', hm', hkey⟩ := h.fields.exists_of_mem hm
  exact ⟨key', List.mem_filter.2 ⟨hm', by rw [hkey, hprimary]⟩, hkey⟩

end Entity.Completed

def Database.Completed (db : Database) : Database → Prop := db.Related (Entity.Completed db.tableOf?)

namespace Database.Completed

theorem of_extends (h : db.Extends s) : db.Completed s :=
  ⟨h.frame, h.entities.imp fun _ _ => .of_extends⟩

theorem trans {R : Entity → Entity → Prop} (hR : ∀ x y, R x y → x.Completed db.tableOf? y) (h : db.Completed s)
    (h' : s.Related R t) : db.Completed t :=
  Related.trans (fun _ _ _ hxy hyz => hxy.trans (hR _ _ hyz)) h h'

end Database.Completed

theorem Database.Mild.completed (hb : db.Mild registry)
    (h : (Database.finalize registry p).result db = .ok db') : db.Completed db' := by
  obtain ⟨a, u, t, hs⟩ := Database.exists_stages h
  have ha : db.Extends a := after_of_ok hs.applied ▸ (tamed_applyBehaviors hb).extension
  have hu : db.Completed u := .of_extends (Database.Related.trans (fun _ _ _ hxy hyz => hxy.trans hyz) ha
    (ha.tableOf?_eq ▸ hs.extended))
  have ht : db.Completed t := hu.trans (fun _ _ => .of_informed) hs.informed
  exact ht.trans (fun _ _ => .of_decorated) hs.decorated

/-- Behaviors that stamp times or do nothing, and the passes after them, only complete the database. -/
theorem Database.completed_of_finalize (hb : db.Benign registry)
    (h : (Database.finalize registry p).result db = .ok db') : db.Completed db' :=
  hb.mild.completed h

def stampedDocument : SchemaDocument :=
  { databases := [
      { name := "library"
        entities := [
          { name := "author"
            fields := [{ name := "id", fieldType := some "INTEGER", primaryKey := true }] },
          { name := "book"
            fields := [{ name := "id", fieldType := some "INTEGER", primaryKey := true },
              { name := "isbn", fieldType := some "VARCHAR", unique := true },
              { name := "title", fieldType := some "VARCHAR" },
              { name := "writer", fieldType := some "INTEGER" }]
            indices := [{ fields := [{ name := "title", size := some 10 }] }]
            uniques := [{ name := some "writer_title", fields := [{ name := "writer" }, { name := "title" }] }]
            relations := [{ foreignEntity := "author", references := [("writer", "id")] },
              { foreignEntity := "book", field := some "sequel" }]
            behaviors := [{ name := "timestampable" }] }] }] }

theorem Database.completed_of_finalize_stamped : ∃ db db', LoadedFrom .builtins stampedDocument db ∧
    db.Benign Registry.builtins ∧
    (Database.finalize .builtins { dialect := .mysql }).result db = .ok db' ∧ db.Completed db' ∧
    ∃ e ∈ db'.entities, e.fieldNames = ["id", "isbn", "title", "writer", "created_at", "updated_at", "sequelId"] ∧
      e.uniques.map (·.memberNames) = [["writer", "title"], ["isbn"]] := by
  obtain ⟨db, db', hd, h, he⟩ := exists_finalize_of_decide { dialect := .mysql } stampedDocument.first?
    (fun _ db' => ∃ e ∈ db'.entities,
      e.fieldNames = ["id", "isbn", "title", "writer", "created_at", "updated_at", "sequelId"] ∧
        e.uniques.map (·.memberNames) = [["writer", "title"], ["isbn"]]) (by decide +kernel)
  have hb := Database.benign_builtins db
  exact ⟨db, db', SchemaDocument.loadedFrom_of_first? hd, hb, h, completed_of_finalize hb h, he⟩

end Tablecraft
