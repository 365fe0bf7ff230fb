import Mathlib.Data.List.Perm.Basic
import Tablecraft.Proofs.Model.Related

namespace Tablecraft

open List

variable {db db' : Database} {e e' e'' : Entity} {name : String}

/-- Steps that commute, as far as a relation tells, end in related states in any order. -/
theorem foldl_perm {α σ : Type} {R : σ → σ → Prop} {f : σ → α → σ} {xs ys : List α} {s t : σ} (hrefl : ∀ s, R s s)
    (htrans : ∀ s t u, R s t → R t u → R s u) (hf : ∀ s t a, R s t → R (f s a) (f t a))
    (hcomm : ∀ s a b, R (f (f s a) b) (f (f s b) a)) (h : xs.Perm ys) (hst : R s t) :
    R (xs.foldl f s) (ys.foldl f t) := by
  have hfold (zs : List α) {s t : σ} (hst : R s t) : R (zs.foldl f s) (zs.foldl f t) := by
    induction zs generalizing s t with
    | nil => exact hst
    | cons z rest ih => exact ih (hf s t z hst)
  induction h generalizing s t with
  | nil => exact hst
  | cons x _ ih => exact ih (hf s t x hst)
  | swap x y rest => exact htrans _ _ _ (hfold rest (hcomm s y x)) (hfold rest (hf _ _ y (hf s t x hst)))
  | trans _ _ ih ih' => exact htrans _ _ _ (ih hst) (ih' (hrefl t))

namespace Database

def Unmistakable (db : Database) : Prop :=
  db.entities.Pairwise fun e e' => ∀ name, e.isNamed name = true → e'.isNamed name = false

instance (db : Database) : Decidable db.Unmistakable :=
  decidable_of_iff (db.entities.Pairwise fun e e' => e'.isNamed e.name = false ∧ e'.isNamed e.fullName = false) <|
    List.Pairwise.iff fun e e' => by
      constructor
      · rintro ⟨hname, hfull⟩ name hn
        rcases (by simpa [Entity.isNamed] using hn : e.name = name ∨ e.fullName = name) with rfl | rfl
        · exact hname
        · exact hfull
      · exact fun h => ⟨h e.name e.isNamed_name, h e.fullName (by simp [Entity.isNamed])⟩

namespace Unmistakable

theorem addressed (h : db.Unmistakable) : db.Addressed := by
  refine List.Pairwise.imp (fun {e e'} hn => ?_) h
  by_contra hne
  have hself := hn e'.name (by simpa using hne)
  simp [Entity.isNamed_name] at hself

theorem perm (h : db.Unmistakable) (hp : db.entities.Perm db'.entities) : db'.Unmistakable := by
  refine (List.Perm.pairwise_iff (fun {e e'} hn name he' => ?_) hp).1 h
  by_contra hne
  have hself := hn name (by simpa using hne)
  simp [he'] at hself

theorem congr (h : db.Unmistakable) (hn : Forall₂ Entity.SameNames db.entities db'.entities) :
    db'.Unmistakable := by
  refine List.pairwise_iff_getElem.2 fun i j hi hj hij name he => ?_
  obtain ⟨x, hx, hxn⟩ := FirstMatch.exists_of_getElem?' hn (List.getElem?_eq_getElem hi)
  obtain ⟨y, hy, hyn⟩ := FirstMatch.exists_of_getElem?' hn (List.getElem?_eq_getElem hj)
  obtain ⟨hi', rfl⟩ := List.getElem?_eq_some_iff.1 hx
  obtain ⟨hj', rfl⟩ := List.getElem?_eq_some_iff.1 hy
  rw [hxn.isNamed] at he
  rw [hyn.isNamed]
  exact List.pairwise_iff_getElem.1 h i j hi' hj' hij name he

theorem eq_of_isNamed (h : db.Unmistakable) (he : e ∈ db.entities) (he' : e' ∈ db.entities)
    (hn : e.isNamed name = true) (hn' : e'.isNamed name = true) : e = e' := by
  obtain ⟨i, hi, rfl⟩ := List.mem_iff_getElem.1 he
  obtain ⟨j, hj, rfl⟩ := List.mem_iff_getElem.1 he'
  rcases Nat.lt_trichotomy i j with hij | rfl | hij
  · simp [List.pairwise_iff_getElem.1 h i j hi hj hij name hn] at hn'
  · rfl
  · simp [List.pairwise_iff_getElem.1 h j i hj hi hij name hn'] at hn

theorem entity?_eq_some_iff (h : db.Unmistakable) :
    db.entity? name = some e ↔ e ∈ db.entities ∧ e.isNamed name = true := by
  constructor
  · intro he
    exact ⟨mem_of_entity? he, by simpa using List.find?_some he⟩
  · rintro ⟨he, hn⟩
    have hsome : (db.entity? name).isSome = true := List.find?_isSome.2 ⟨e, he, by simpa using hn⟩
    obtain ⟨x, hx⟩ := Option.isSome_iff_exists.1 hsome
    have hxn : x.isNamed name = true := by simpa using List.find?_some hx
    rw [hx, h.eq_of_isNamed (mem_of_entity? hx) he hxn hn]

theorem entity?_eq (h : db.Unmistakable) (hp : db.entities.Perm db'.entities) : db'.entity? = db.entity? := by
  funext name
  refine Option.ext fun e => ?_
  rw [(h.perm hp).entity?_eq_some_iff, h.entity?_eq_some_iff, hp.mem_iff]

theorem modifyEntity_eq (h : db.Unmistakable) (name : String) (f : Entity → Entity) :
    db.modifyEntity name f =
      { db with entities := db.entities.map fun e => if e.isNamed name = true then f e else e } := by
  rw [modifyEntity, FirstMatch.modify_eq_map f (h.imp fun hn he => hn name he)]

end Unmistakable

/-- The same entities in another order; what finalization reads besides them is the same. -/
structure Reordered (db db' : Database) : Prop where
  entities : db.entities.Perm db'.entities
  behaviors : db'.behaviors = db.behaviors
  heavyIndexing : db'.heavyIndexing = db.heavyIndexing

end Database

structure Field.Alike (f g : Field) : Prop where
  frame : g = { f with referrers := g.referrers }
  referrers : f.referrers.Perm g.referrers

structure Entity.Alike (e e' : Entity) : Prop where
  frame : e' = { e with fields := e'.fields, referrers := e'.referrers }
  fields : Forall₂ Field.Alike e.fields e'.fields
  referrers : e.referrers.Perm e'.referrers

theorem Field.Alike.refl (f : Field) : f.Alike f := ⟨rfl, .refl _⟩

theorem Field.Alike.trans {f g h : Field} (hg : f.Alike g) (hh : g.Alike h) : f.Alike h :=
  ⟨hh.frame.trans (by rw [hg.frame]), hg.referrers.trans hh.referrers⟩

theorem Field.Alike.name_eq {f g : Field} (h : f.Alike g) : g.name = f.name := by rw [h.frame]

theorem Entity.Alike.refl (e : Entity) : e.Alike e := ⟨rfl, forall₂_same.2 fun f _ => .refl f, .refl _⟩

theorem Entity.Alike.trans (h : e.Alike e') (h' : e'.Alike e'') : e.Alike e'' where
  frame := h'.frame.trans (by rw [h.frame])
  fields := FirstMatch.forall₂_trans (fun _ _ _ hf hg => hf.trans hg) h.fields h'.fields
  referrers := h.referrers.trans h'.referrers

theorem Entity.Alike.sameNames (h : e.Alike e') : e.SameNames e' := ⟨by rw [h.frame], by rw [h.frame]⟩

end Tablecraft
