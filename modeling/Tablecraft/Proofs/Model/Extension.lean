import Tablecraft.Proofs.Model.Parts
import Tablecraft.Proofs.Model.Related

namespace Tablecraft

open List

inductive Grows {α : Type} (R : α → α → Prop) (A : α → Prop) : List α → List α → Prop
  | rest {ys : List α} : (∀ y ∈ ys, A y) → Grows R A [] ys
  | cons {x y : α} {xs ys : List α} : R x y → Grows R A xs ys → Grows R A (x :: xs) (y :: ys)

namespace Grows

variable {α : Type} {R : α → α → Prop} {A : α → Prop} {xs ys zs : List α}

theorem of_forall₂ (h : Forall₂ R xs ys) : Grows R A xs ys := by
  induction h with
  | nil => exact .rest (by simp)
  | cons hR _ ih => exact .cons hR ih

theorem refl (hR : ∀ x, R x x) (xs : List α) : Grows R A xs xs := of_forall₂ (forall₂_same.2 fun x _ => hR x)

theorem imp {S : α → α → Prop} {B : α → Prop} (hR : ∀ x y, R x y → S x y)
    (hA : ∀ y, A y → B y) (h : Grows R A xs ys) : Grows S B xs ys := by
  induction h with
  | rest hys => exact .rest fun y hy => hA y (hys y hy)
  | cons hxy _ ih => exact .cons (hR _ _ hxy) ih

theorem append (h : Grows R A xs ys) {y : α} (hy : A y) : Grows R A xs (ys ++ [y]) := by
  induction h with
  | rest hA =>
      refine .rest fun z hz => ?_
      rcases List.mem_append.1 hz with hz | hz
      · exact hA z hz
      · exact List.mem_singleton.1 hz ▸ hy
  | cons hR _ ih => exact .cons hR ih

theorem trans (hR : ∀ x y z, R x y → R y z → R x z) (hA : ∀ x y, A x → R x y → A y)
    (h : Grows R A xs ys) (h' : Grows R A ys zs) : Grows R A xs zs := by
  induction h generalizing zs with
  | rest hys =>
      refine .rest ?_
      induction h' with
      | rest hzs => exact hzs
      | cons hr _ ih =>
          obtain ⟨hy, hys⟩ := List.forall_mem_cons.1 hys
          exact List.forall_mem_cons.2 ⟨hA _ _ hy hr, ih hys⟩
  | cons hr _ ih =>
      cases h' with
      | cons hr' ht => exact .cons (hR _ _ _ hr hr') (ih ht)

theorem exists_of_mem (h : Grows R A xs ys) {x : α} (hx : x ∈ xs) : ∃ y ∈ ys, R x y := by
  induction h with
  | rest => simp at hx
  | cons hR _ ih =>
      rcases List.mem_cons.1 hx with rfl | hx
      · exact ⟨_, by simp, hR⟩
      · obtain ⟨y, hy, hR⟩ := ih hx
        exact ⟨y, List.mem_cons_of_mem _ hy, hR⟩

theorem of_mem (h : Grows R A xs ys) {y : α} (hy : y ∈ ys) : (∃ x ∈ xs, R x y) ∨ A y := by
  induction h with
  | rest hA => exact .inr (hA y hy)
  | cons hR _ ih =>
      rcases List.mem_cons.1 hy with rfl | hy
      · exact .inl ⟨_, by simp, hR⟩
      · exact (ih hy).imp_left fun ⟨x, hx, hR⟩ => ⟨x, List.mem_cons_of_mem _ hx, hR⟩

/-- A search that finds a related element finds it in the place of the first list, or among the further ones.
-/
theorem exists_of_find? (h : Grows R A xs ys) {p : α → Bool} (hp : ∀ x y, R x y → p x = p y) {x : α}
    (hx : xs.find? p = some x) : ∃ y, ys.find? p = some y ∧ R x y := by
  induction h with
  | rest => simp at hx
  | @cons a b xs ys hR _ ih =>
      by_cases ha : p a = true
      · obtain rfl : a = x := by simpa [ha] using hx
        exact ⟨b, by simp [← hp _ _ hR, ha], hR⟩
      · obtain ⟨y, hy, hxy⟩ := ih (by simpa [ha] using hx)
        exact ⟨y, by simpa [← hp _ _ hR, ha] using hy, hxy⟩

theorem of_find? (h : Grows R A xs ys) {p : α → Bool} (hp : ∀ x y, R x y → p x = p y) {y : α}
    (hy : ys.find? p = some y) : (∃ x, xs.find? p = some x ∧ R x y) ∨ xs.find? p = none ∧ A y := by
  induction h with
  | rest hA => exact .inr ⟨rfl, hA y (List.mem_of_find?_eq_some hy)⟩
  | @cons a b xs ys hR _ ih =>
      by_cases ha : p a = true
      · obtain rfl : b = y := by simpa [← hp _ _ hR, ha] using hy
        exact .inl ⟨a, by simp [ha], hR⟩
      · simpa [ha] using ih (by simpa [← hp _ _ hR, ha] using hy)

theorem map_filter_eq {β : Type} {v : α → β} (h : Grows R A xs ys) {p : α → Bool} (hp : ∀ x y, R x y → p x = p y)
    (hA : ∀ y, A y → p y = false) (hv : ∀ x y, R x y → v y = v x) :
    (ys.filter p).map v = (xs.filter p).map v := by
  induction h with
  | @rest ys hys =>
      have hnil : ys.filter p = [] := List.filter_eq_nil_iff.2 fun y hy => by simp [hA y (hys y hy)]
      simp [hnil]
  | @cons a b xs ys hR _ ih =>
      by_cases ha : p a = true
      · have hb : p b = true := hp _ _ hR ▸ ha
        simp [ha, hb, ih, hv _ _ hR]
      · have hb : ¬p b = true := hp _ _ hR ▸ ha
        simp [ha, hb, ih]

end Grows

def Field.Kept (f g : Field) : Prop := g = { f with implementationDetail := g.implementationDetail }

def Field.Plain (f : Field) : Prop :=
  f = { name := f.name, domain := f.domain, position := f.position, entity := f.entity
        implementationDetail := f.implementationDetail }

def Index.Kept (i j : Index) : Prop := j = { i with nameLimit := j.nameLimit }

/-- The relation as it was, apart from what settles it: pairs are found for one that has none, and
the table that the foreign entity has. -/
structure Relation.Kept (tables : String → Option String) (r s : Relation) : Prop where
  frame : s = { r with
    references := s.references, foreignTable := s.foreignTable, nameLimit := s.nameLimit }
  references : r.references ≠ [] → s.references = r.references
  table : s.foreignTable = r.foreignTable ∨ s.foreignTable = tables r.foreignEntity

theorem Field.Kept.refl (f : Field) : f.Kept f := rfl

theorem Field.Kept.trans {f g h : Field} (hg : f.Kept g) (hh : g.Kept h) : f.Kept h :=
  Eq.trans hh (by rw [hg])

theorem Field.Kept.name_eq {f g : Field} (h : f.Kept g) : g.name = f.name := by rw [h]

theorem Field.Plain.of_kept {f g : Field} (hf : f.Plain) (hg : f.Kept g) : g.Plain :=
  Eq.trans hg (by rw [hg, hf])

theorem Index.Kept.refl (i : Index) : i.Kept i := rfl

theorem Index.Kept.trans {i j k : Index} (hj : i.Kept j) (hk : j.Kept k) : i.Kept k :=
  Eq.trans hk (by rw [hj])

namespace Relation.Kept

variable {tables : String → Option String} {r s t : Relation}

theorem refl (r : Relation) : r.Kept tables r := ⟨rfl, fun _ => rfl, .inl rfl⟩

theorem foreignEntity_eq (h : r.Kept tables s) : s.foreignEntity = r.foreignEntity := by
  rw [h.frame]

theorem references_eq_nil (h : r.Kept tables s) (hs : s.references = []) : r.references = [] := by
  by_contra hn
  exact hn (h.references hn ▸ hs)

theorem trans (h : r.Kept tables s) (h' : s.Kept tables t) : r.Kept tables t where
  frame := h'.frame.trans (by rw [h.frame])
  references hr := by
    have hs := h.references hr
    rw [h'.references (hs ▸ hr), hs]
  table := by
    rcases h'.table with ht | ht
    · rw [ht]
      exact h.table
    · exact .inr (ht.trans (by rw [h.foreignEntity_eq]))

end Relation.Kept

def Entity.keys (e : Entity) : List (String × Domain) := e.primaryKey.map fun f => (f.name, f.domain)

structure Entity.Extends (tables : String → Option String) (e e' : Entity) : Prop where
  frame : e' = { e with
    fields := e'.fields, relations := e'.relations, indices := e'.indices, uniques := e'.uniques
    behaviors := e'.behaviors, givenIdMethod := e'.givenIdMethod
    chosenSequence := e'.chosenSequence, containsForeignKey := e'.containsForeignKey
    needsTransaction := e'.needsTransaction, nameLimit := e'.nameLimit }
  fields : Grows Field.Kept Field.Plain e.fields e'.fields
  distinct : e.fieldNames.Nodup → e'.fieldNames.Nodup
  relations : Forall₂ (Relation.Kept tables) e.relations e'.relations
  indices : Grows Index.Kept (fun _ => True) e.indices e'.indices
  uniques : Grows Index.Kept (fun _ => True) e.uniques e'.uniques

namespace Entity

namespace Extends

variable {tables : String → Option String} {e e' e'' : Entity}

theorem refl (e : Entity) : e.Extends tables e where
  frame := rfl
  fields := .refl Field.Kept.refl _
  distinct := id
  relations := forall₂_same.2 fun r _ => Relation.Kept.refl r
  indices := .refl Index.Kept.refl _
  uniques := .refl Index.Kept.refl _

theorem trans (h : e.Extends tables e') (h' : e'.Extends tables e'') : e.Extends tables e'' where
  frame := h'.frame.trans (by rw [h.frame])
  fields := h.fields.trans (fun _ _ _ => .trans) (fun _ _ => .of_kept) h'.fields
  distinct := h'.distinct ∘ h.distinct
  relations := FirstMatch.forall₂_trans (fun _ _ _ hr hs => hr.trans hs) h.relations h'.relations
  indices := h.indices.trans (fun _ _ _ => .trans) (fun _ _ _ _ => trivial) h'.indices
  uniques := h.uniques.trans (fun _ _ _ => .trans) (fun _ _ _ _ => trivial) h'.uniques

theorem sameNames (h : e.Extends tables e') : e.SameNames e' :=
  ⟨by rw [h.frame], by rw [h.frame]⟩

theorem fullTable_eq (h : e.Extends tables e') : e'.fullTable = e.fullTable := by
  rw [h.frame]
  rfl

theorem referrers_eq (h : e.Extends tables e') : e'.referrers = e.referrers := by
  rw [h.frame]

theorem keys_eq (h : e.Extends tables e') : e'.keys = e.keys :=
  h.fields.map_filter_eq (fun f g hf => by rw [hf]) (fun f hf => by rw [hf]) fun f g hf => by rw [hf]

theorem hasField (h : e.Extends tables e') {name : String} (hf : e.hasField name = true) :
    e'.hasField name = true := by
  obtain ⟨f, hm, rfl⟩ := List.mem_map.1 (hasField_iff.1 hf)
  obtain ⟨g, hg, hk⟩ := h.fields.exists_of_mem hm
  exact hasField_iff.2 (List.mem_map.2 ⟨g, hg, hk.name_eq⟩)

end Extends

end Entity

namespace Database

def tableOf? (db : Database) (name : String) : Option String := (db.entity? name).map (·.fullTable)

theorem Related.tableOf?_eq {R : Entity → Entity → Prop} {db db' : Database}
    (hn : ∀ x y, R x y → x.SameNames y) (ht : ∀ x y, R x y → y.fullTable = x.fullTable)
    (h : db.Related R db') : db'.tableOf? = db.tableOf? := by
  funext name
  cases he : db.entity? name with
  | some e =>
      obtain ⟨e', he', hx⟩ := Related.entity? hn h he
      rw [tableOf?, tableOf?, he, he', Option.map_some, Option.map_some, ht e e' hx]
  | none =>
      cases he' : db'.entity? name with
      | none => rw [tableOf?, tableOf?, he, he']
      | some e' =>
          obtain ⟨e, h₀, _⟩ := Related.entity?' hn h he'
          simp [he] at h₀

def Extends (db : Database) : Database → Prop := db.Related (Entity.Extends db.tableOf?)

namespace Extends

variable {db db' db'' : Database}

theorem refl (db : Database) : db.Extends db := Related.refl Entity.Extends.refl db

theorem sameNames (h : db.Extends db') : Forall₂ Entity.SameNames db.entities db'.entities :=
  h.entities.imp fun _ _ he => he.sameNames

theorem addressed (h : db.Extends db') (ha : db.Addressed) : db'.Addressed := ha.congr h.sameNames

theorem tableOf?_eq (h : db.Extends db') : db'.tableOf? = db.tableOf? :=
  Related.tableOf?_eq (fun _ _ he => he.sameNames) (fun _ _ he => he.fullTable_eq) h

theorem keeps_editEntity (name : String) {edit : Edit Entity Unit}
    (h : ∀ e : Entity, Edit.Keeps (e.Extends db.tableOf?) edit) :
    Edit.Keeps db.Extends (editEntity name edit) :=
  Related.keeps_editEntity name h

end Extends

end Database

end Tablecraft
