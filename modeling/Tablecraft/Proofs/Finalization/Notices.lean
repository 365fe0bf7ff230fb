import Tablecraft.Proofs.Finalization.Referrers
import Tablecraft.Proofs.Model.Reordering

namespace Tablecraft

open List Edit

variable {db u s t : Database} {e e' : Entity} {f f' : Field} {r : Relation} {name : String}
  {find? : String → Option Entity}

theorem Field.Alike.addReferrer (h : f.Alike f') (ref : RelationRef) :
    (f.addReferrer ref).Alike (f'.addReferrer ref) := by
  rw [Field.addReferrer_eq, Field.addReferrer_eq]
  exact ⟨by rw [h.frame], RelationRef.perm_enlist h.referrers ref⟩

theorem Field.alike_addReferrer_addReferrer (f : Field) (a b : RelationRef) :
    ((f.addReferrer b).addReferrer a).Alike ((f.addReferrer a).addReferrer b) := by
  simp only [Field.addReferrer_eq]
  exact ⟨rfl, RelationRef.perm_enlist_enlist f.referrers a b⟩

namespace Finalization

inductive Notice
  | referrer (ref : RelationRef)
  | fieldReferrer (field : String) (ref : RelationRef)
  | foreignKey

def Notice.write : Notice → Entity → Entity
  | referrer ref, e => e.addReferrer ref
  | fieldReferrer field ref, e => e.modifyField field (Field.addReferrer ref)
  | foreignKey, e => { e with containsForeignKey := true }

namespace Notice

variable (n m : Notice)

theorem sameNames_write (e : Entity) : e.SameNames (n.write e) := by
  cases n with
  | referrer ref => exact (Entity.Informed.addReferrer ref e).sameNames
  | fieldReferrer field ref => exact (Entity.Informed.modifyField ref field e).sameNames
  | foreignKey => exact ⟨rfl, rfl⟩

theorem alike_write (h : e.Alike e') : (n.write e).Alike (n.write e') := by
  cases n with
  | referrer ref =>
      simp only [write, Entity.addReferrer_eq]
      exact ⟨by rw [h.frame], h.fields, RelationRef.perm_enlist h.referrers ref⟩
  | fieldReferrer field ref =>
      refine ⟨by rw [write, h.frame]; rfl, ?_, h.referrers⟩
      exact FirstMatch.rel_modify h.fields (fun _ _ hf => by rw [hf.name_eq]) fun _ _ hf => hf.addReferrer ref
  | foreignKey => exact ⟨by rw [write, h.frame]; rfl, h.fields, h.referrers⟩

/-- Two notices can be written in any order. -/
theorem alike_write_write (e : Entity) : (n.write (m.write e)).Alike (m.write (n.write e)) := by
  cases n with
  | referrer a =>
      cases m with
      | referrer b =>
          simp only [write, Entity.addReferrer_eq]
          exact ⟨rfl, (Entity.Alike.refl e).fields, RelationRef.perm_enlist_enlist e.referrers a b⟩
      | fieldReferrer | foreignKey => simpa only [write, Entity.addReferrer_eq] using .refl _
  | fieldReferrer field a =>
      cases m with
      | fieldReferrer field' b =>
          refine ⟨rfl, ?_, .refl _⟩
          refine FirstMatch.forall₂_modify_modify Field.Alike.refl (fun x => ?_) (fun x => ?_)
            (fun x => ?_) e.fields
          · rw [Field.name_addReferrer]
          · rw [Field.name_addReferrer]
          · exact Field.alike_addReferrer_addReferrer x a b
      | referrer => simpa only [write, Entity.addReferrer_eq] using .refl _
      | foreignKey => exact .refl _
  | foreignKey =>
      cases m with
      | referrer => simpa only [write, Entity.addReferrer_eq] using .refl _
      | fieldReferrer | foreignKey => exact .refl _

end Notice

structure Letter where
  name : String
  notice : Notice

def receive (e : Entity) (l : Letter) : Entity := if e.isNamed l.name = true then l.notice.write e else e

def deliver (ls : List Letter) (db : Database) : Database :=
  { db with entities := db.entities.map (ls.foldl receive) }

theorem sameNames_receive (e : Entity) (l : Letter) : e.SameNames (receive e l) := by
  unfold receive
  split
  · exact l.notice.sameNames_write e
  · exact ⟨rfl, rfl⟩

theorem alike_receive (h : e.Alike e') (l : Letter) : (receive e l).Alike (receive e' l) := by
  unfold receive
  rw [h.sameNames.isNamed]
  split
  · exact l.notice.alike_write h
  · exact h

theorem alike_receive_receive (e : Entity) (l m : Letter) :
    (receive (receive e l) m).Alike (receive (receive e m) l) := by
  have hl := (sameNames_receive e l).isNamed m.name
  have hm := (sameNames_receive e m).isNamed l.name
  by_cases hel : e.isNamed l.name = true <;> by_cases hem : e.isNamed m.name = true
  · simp only [receive, if_pos hel, if_pos hem] at hl hm ⊢
    rw [if_pos (hl.trans hem), if_pos (hm.trans hel)]
    exact m.notice.alike_write_write l.notice e
  · simp only [receive, if_pos hel, if_neg hem] at hl ⊢
    rw [hl, if_neg hem]
    exact .refl _
  · simp only [receive, if_neg hel, if_pos hem] at hm ⊢
    rw [hm, if_neg hel]
    exact .refl _
  · simp only [receive, if_neg hel, if_neg hem]
    exact .refl e

/-- Letters can be delivered in any order. -/
theorem alike_foldl_receive {ls ms : List Letter} (h : ls.Perm ms) (e : Entity) :
    (ls.foldl receive e).Alike (ms.foldl receive e) :=
  foldl_perm Entity.Alike.refl (fun _ _ _ h h' => h.trans h')
    (fun _ _ l h => alike_receive h l) alike_receive_receive h (.refl e)

theorem deliver_nil (db : Database) : deliver [] db = db := by
  have hself : db.entities.map ([].foldl receive) = db.entities := List.map_id' _
  rw [deliver, hself]

theorem deliver_append (ls ms : List Letter) (db : Database) :
    deliver (ls ++ ms) db = deliver ms (deliver ls db) := by
  simp [deliver, List.map_map, Function.comp_def, List.foldl_append]

theorem unmistakable_deliver (h : db.Unmistakable) (ls : List Letter) : (deliver ls db).Unmistakable :=
  h.congr (List.forall₂_map_right_iff.2 (forall₂_same.2 fun e _ => .foldl sameNames_receive ls e))

def Registration.letters (g : Registration) : List Letter :=
  ⟨g.foreign, .referrer g.reference⟩ :: g.fields.map fun field => ⟨g.foreign, .fieldReferrer field g.reference⟩

theorem foldl_receive_letters (g : Registration) (e : Entity) :
    g.letters.foldl receive e = if e.isNamed g.foreign = true then register g e else e := by
  have hfields (names : List String) (e : Entity) :
      (names.map fun field => (⟨g.foreign, .fieldReferrer field g.reference⟩ : Letter)).foldl receive e =
        if e.isNamed g.foreign = true then
          names.foldl (fun e name => e.modifyField name (Field.addReferrer g.reference)) e
        else e := by
    induction names generalizing e with
    | nil => simp
    | cons name rest ih =>
        rw [List.map_cons, List.foldl_cons, ih, (sameNames_receive e _).isNamed]
        by_cases hn : e.isNamed g.foreign = true
        · simp only [if_pos hn, receive, List.foldl_cons, Notice.write]
        · simp only [if_neg hn, receive]
  rw [Registration.letters, List.foldl_cons, hfields, (sameNames_receive e _).isNamed]
  by_cases hn : e.isNamed g.foreign = true
  · simp only [if_pos hn, receive, register, Notice.write]
  · simp only [if_neg hn, receive]

theorem registerAll_eq_deliver (h : db.Unmistakable) (gs : List Registration) :
    registerAll gs db = deliver (gs.flatMap Registration.letters) db := by
  induction gs generalizing db with
  | nil => exact (deliver_nil db).symm
  | cons g rest ih =>
      have hg : db.modifyEntity g.foreign (register g) = deliver g.letters db := by
        rw [h.modifyEntity_eq, deliver]
        simp only [foldl_receive_letters]
      have hnext : (db.modifyEntity g.foreign (register g)).Unmistakable := hg ▸ unmistakable_deliver h g.letters
      rw [List.flatMap_cons, deliver_append, ← hg]
      exact ih hnext

def keyLetters (e : Entity) : List Letter := if keepsKeyInRelation e then [⟨e.name, .foreignKey⟩] else []

theorem markForeignKey_eq_deliver (h : db.Unmistakable) (e : Entity) :
    markForeignKey e.name e db = deliver (keyLetters e) db := by
  unfold markForeignKey keyLetters
  split
  · rw [h.modifyEntity_eq, deliver]
    simp only [List.foldl_cons, List.foldl_nil, receive, Notice.write]
  · rw [deliver_nil]

def Registers (find? : String → Option Entity) (e : Entity) (r : Relation) (g : Registration) : Prop :=
  ∃ foreign, find? r.foreignEntity = some foreign ∧ (∀ name ∈ r.foreignFields, foreign.hasField name = true) ∧
    g = ⟨foreign.name, ⟨e.name, r.name⟩, r.foreignFields⟩

/-- All relations of the entity can be registered, and these are the letters that it sends. -/
def Sends (find? : String → Option Entity) (e : Entity) (ls : List Letter) : Prop :=
  ∃ gs, Forall₂ (Registers find? e) e.relations gs ∧ ls = keyLetters e ++ gs.flatMap Registration.letters

theorem registrationOf_eq_ok_iff {g : Registration} :
    registrationOf db e r = .ok g ↔ Registers db.entity? e r g := by
  refine ⟨registrationOf_eq_ok, ?_⟩
  rintro ⟨foreign, hf, hfields, rfl⟩
  have hforeign : foreignOf db e r = .ok foreign := by simp [foreignOf, hf]
  have hcheck : checkForeignFields e foreign r = .ok () := by
    unfold checkForeignFields
    rw [List.find?_eq_none.2 fun name hm => by simp [hfields name hm]]
  exact except_bind_eq_ok_iff.2 ⟨foreign, hforeign, except_bind_eq_ok_iff.2 ⟨(), hcheck, rfl⟩⟩

theorem registers_iff_of_recalls (h : u.Related Entity.Recalls s) (he : e.SameNames e') {g : Registration} :
    Registers s.entity? e' r g ↔ Registers u.entity? e r g := by
  have hn (x y : Entity) (hxy : x.Recalls y) := hxy.sameNames
  constructor
  · rintro ⟨foreign', hf', hfields, rfl⟩
    obtain ⟨foreign, hf, hx⟩ := h.entity?' hn hf'
    exact ⟨foreign, hf, fun name hm => by rw [← hx.hasField_eq, hfields name hm], by rw [he.1, hx.sameNames.1]⟩
  · rintro ⟨foreign, hf, hfields, rfl⟩
    obtain ⟨foreign', hf', hx⟩ := h.entity? hn hf
    exact ⟨foreign', hf', fun name hm => by rw [hx.hasField_eq, hfields name hm], by rw [he.1, hx.sameNames.1]⟩

theorem sends_iff_of_recalls (h : u.Related Entity.Recalls s) (he : e.Recalls e') {ls : List Letter} :
    Sends s.entity? e' ls ↔ Sends u.entity? e ls := by
  have hkey : keyLetters e' = keyLetters e := by
    rw [keyLetters, he.keepsKeyInRelation_eq, he.sameNames.1, ← keyLetters]
  have hregisters : Registers s.entity? e' = Registers u.entity? e := by
    funext r g
    exact propext (registers_iff_of_recalls h he.sameNames)
  rw [Sends, Sends, hkey, hregisters, he.relations]

theorem registerRelationsOf_eq_ok_iff (h : s.Unmistakable) (he : e ∈ s.entities) :
    registerRelationsOf e.name s = .ok () t ↔ ∃ ls, Sends s.entity? e ls ∧ t = deliver ls s := by
  have hdeliver (gs : List Registration) : registerAll gs (markForeignKey e.name e s) =
      deliver (keyLetters e ++ gs.flatMap Registration.letters) s := by
    rw [markForeignKey_eq_deliver h, registerAll_eq_deliver (unmistakable_deliver h _), deliver_append]
  rw [registerRelationsOf, attempt_eq_ok_iff, h.addressed.entity?_eq he]
  dsimp only
  rw [except_bind_eq_ok_iff]
  simp only [mapM_eq_ok_iff, registrationOf_eq_ok_iff, hdeliver, Except.ok.injEq]
  constructor
  · rintro ⟨gs, hgs, rfl⟩
    exact ⟨_, ⟨gs, hgs, rfl⟩, rfl⟩
  · rintro ⟨_, ⟨gs, hgs, rfl⟩, rfl⟩
    exact ⟨gs, hgs, rfl⟩

theorem notes_of_registerRelationsOf (hx : u.Related Entity.Notes s) (h : registerRelationsOf name s = .ok () t) :
    u.Related Entity.Notes t :=
  (notes_registerRelationsOf name u).of_ok h hx

theorem registerAllRelations_eq_ok_iff_from {rest : List Entity} (hu : u.Unmistakable)
    (hrest : ∀ e ∈ rest, e ∈ u.entities) (hx : u.Related Entity.Notes s) :
    registerAllRelations (rest.map (·.name)) s = .ok () t ↔
      ∃ lss, Forall₂ (Sends u.entity?) rest lss ∧ t = deliver lss.flatten s := by
  induction rest generalizing s with
  | nil =>
      constructor
      · intro h
        cases h
        exact ⟨[], .nil, (deliver_nil _).symm⟩
      · rintro ⟨lss, hls, rfl⟩
        cases hls
        rw [List.flatten_nil, deliver_nil]
        rfl
  | cons e rest ih =>
      obtain ⟨he, hrest⟩ := List.forall_mem_cons.1 hrest
      have hrecalls : u.Related Entity.Recalls s := ⟨hx.frame, hx.entities.imp fun _ _ h => h.recalls⟩
      obtain ⟨e', he', hee⟩ := FirstMatch.exists_of_mem hrecalls.entities he
      have hs : s.Unmistakable := hu.congr (hrecalls.entities.imp fun _ _ h => h.sameNames)
      have hstep {t : Database} : registerRelationsOf e.name s = .ok () t ↔ ∃ ls, Sends u.entity? e ls ∧
          t = deliver ls s := by
        rw [← hee.sameNames.1, registerRelationsOf_eq_ok_iff hs he']
        simp only [sends_iff_of_recalls hrecalls hee]
      constructor
      · intro h
        obtain ⟨_, v, hv, ht⟩ := bind_eq_ok_iff.1 h
        have hxv := notes_of_registerRelationsOf hx hv
        obtain ⟨ls, hls, rfl⟩ := hstep.1 hv
        obtain ⟨lss, hlss, rfl⟩ := (ih hrest hxv).1 ht
        exact ⟨ls :: lss, .cons hls hlss, by rw [List.flatten_cons, deliver_append]⟩
      · rintro ⟨lss, hlss, rfl⟩
        cases hlss with
        | @cons _ ls _ lss hls hlss =>
            have hv := hstep.2 ⟨ls, hls, rfl⟩
            have hxv := notes_of_registerRelationsOf hx hv
            refine bind_eq_ok_iff.2 ⟨(), _, hv, (ih hrest hxv).2 ⟨lss, hlss, ?_⟩⟩
            rw [List.flatten_cons, deliver_append]

/-- The sweep ends if every entity can send its letters, and then has delivered all of them. -/
theorem registerAllRelations_eq_ok_iff (hu : u.Unmistakable) :
    registerAllRelations u.entityNames u = .ok () t ↔
      ∃ lss, Forall₂ (Sends u.entity?) u.entities lss ∧ t = deliver lss.flatten u :=
  registerAllRelations_eq_ok_iff_from hu (fun _ he => he) (.refl Entity.Notes.refl u)

end Finalization

end Tablecraft
