import Mathlib.Data.List.Induction
import Tablecraft.Proofs.Finalization.Referrers

namespace Tablecraft

open List Edit

variable {limit : Nat} {tables : String → Option String} {p : Platform} {db s t : Database} {e e' : Entity}
  {names : List String} {name other : String}

theorem Entity.adorns_sustained (limit : Nat) (tables : String → Option String) :
    Entity.Adorns (Entity.Sustained limit tables) where
  addIndex h ha := h.trans (.addIndex ha)
  choose _ h := h.trans { (Entity.Sustained.refl _ : Entity.Sustained limit tables _ _) with
    limited := fun hl => { hl with } }

def Entity.Resequenced (e e' : Entity) : Prop := e' = { e with chosenSequence := e'.chosenSequence }

namespace Entity.Resequenced

theorem refl (e : Entity) : e.Resequenced e := rfl

theorem sameNames (h : e.Resequenced e') : e.SameNames e' := ⟨by rw [h], by rw [h]⟩

end Entity.Resequenced

namespace Finalization

theorem sustains_dialectPass (limit : Nat) (p : Platform) (names : List String) (db : Database) :
    Keeps (db.Sustains limit) (dialectPass p names) :=
  (Entity.adorns_sustained limit db.tableOf?).keeps_dialectPass p names

def choices (p : Platform) : Naming.Cache → List String → Database → List (String × String)
  | _, [], _ => []
  | cache, name :: rest, db =>
    match db.entity? name with
    | none => choices p cache rest db
    | some e =>
      if e.idMethod = .native then
        (name, (sequenceOf p cache e).1) :: choices p (sequenceOf p cache e).2 rest db
      else choices p cache rest db

def writeSequence (db : Database) (choice : String × String) : Database :=
  db.modifyEntity choice.1 fun e => { e with chosenSequence := some choice.2 }

theorem resequenced_writeSequence (choice : String × String) (db : Database) :
    db.Related Entity.Resequenced (writeSequence db choice) :=
  Database.Related.of_modifyEntity Entity.Resequenced.refl fun _ _ => rfl

theorem sequenceOf_congr (h : e.Resequenced e') (cache : Naming.Cache) :
    sequenceOf p cache e' = sequenceOf p cache e := by
  rw [h]
  rfl

/-- What was written before does not matter to what is chosen. -/
theorem choices_congr (h : s.Related Entity.Resequenced t) (cache : Naming.Cache) (names : List String) :
    choices p cache names t = choices p cache names s := by
  have hn (x y : Entity) (hxy : x.Resequenced y) := hxy.sameNames
  induction names generalizing cache with
  | nil => rfl
  | cons name rest ih =>
      cases he : s.entity? name with
      | none =>
          have he' : t.entity? name = none := by
            cases he' : t.entity? name with
            | none => rfl
            | some e' =>
                obtain ⟨e, h₀, -⟩ := Database.Related.entity?' hn h he'
                simp [he] at h₀
          simp only [choices, he, he']
          exact ih cache
      | some e =>
          obtain ⟨e', he', hx⟩ := Database.Related.entity? hn h he
          have hid : e'.idMethod = e.idMethod := by
            rw [hx]
            rfl
          simp only [choices, he, he', hid, sequenceOf_congr hx, ih]

theorem chooseSequences_eq (p : Platform) (cache : Naming.Cache) (names : List String) (db : Database) :
    chooseSequences p cache names db = (choices p cache names db).foldl writeSequence db := by
  induction names generalizing cache db with
  | nil => rfl
  | cons name rest ih =>
      rw [chooseSequences, chooseSequence, choices]
      cases he : db.entity? name with
      | none => exact ih cache db
      | some e =>
          dsimp only
          by_cases hm : e.idMethod = .native
          · rw [if_pos hm, if_pos hm, List.foldl_cons, ih]
            have hc := choices_congr (p := p) (resequenced_writeSequence (name, (sequenceOf p cache e).1) db)
              (sequenceOf p cache e).2 rest
            rw [← hc]
            rfl
          · rw [if_neg hm, if_neg hm]
            exact ih cache db

theorem position?_writeSequence (choice : String × String) (db : Database) (name : String) :
    (writeSequence db choice).position? name = db.position? name :=
  Database.Related.position?_eq (fun _ _ h => h.sameNames) (resequenced_writeSequence choice db) name

theorem writeSequence_of_position? {choice : String × String} {i : Nat} (h : db.position? choice.1 = some i) :
    writeSequence db choice = db.modifyEntityAt i fun e => { e with chosenSequence := some choice.2 } := by
  rw [writeSequence, Database.modifyEntity_eq_modifyEntityAt h]

theorem writeSequence_of_none {choice : String × String} (h : db.position? choice.1 = none) :
    writeSequence db choice = db := by
  rw [writeSequence, Database.modifyEntity, FirstMatch.modify_eq_self _ h]

/-- Of two names for one entity the later one stays. -/
theorem writeSequence_same {c d : String × String} (h : db.position? c.1 = db.position? d.1) :
    writeSequence (writeSequence db c) d = writeSequence db d := by
  cases hc : db.position? c.1 with
  | none => rw [writeSequence_of_none hc]
  | some i =>
      have hd : db.position? d.1 = some i := h.symm.trans hc
      rw [writeSequence_of_position? ((position?_writeSequence c db d.1).trans hd), writeSequence_of_position? hc,
        writeSequence_of_position? hd]
      simp [Database.modifyEntityAt, List.modify_modify_eq, Function.comp_def]

theorem writeSequence_comm {c d : String × String} (h : db.position? c.1 ≠ db.position? d.1) :
    writeSequence (writeSequence db c) d = writeSequence (writeSequence db d) c := by
  have hc' := position?_writeSequence d db c.1
  have hd' := position?_writeSequence c db d.1
  cases hc : db.position? c.1 with
  | none => rw [writeSequence_of_none hc, writeSequence_of_none (hc'.trans hc)]
  | some i =>
      cases hd : db.position? d.1 with
      | none => rw [writeSequence_of_none hd, writeSequence_of_none (hd'.trans hd)]
      | some j =>
          have hij : i ≠ j := fun hij => h (by rw [hc, hd, hij])
          rw [writeSequence_of_position? (hd'.trans hd), writeSequence_of_position? hc,
            writeSequence_of_position? (hc'.trans hc), writeSequence_of_position? hd]
          simp [Database.modifyEntityAt, List.modify_modify_ne _ _ _ hij]

/-- What comes after does not bring back what the last write covers. -/
theorem writeSequence_foldl (cs : List (String × String)) (c : String × String) (db : Database) :
    writeSequence (cs.foldl writeSequence (writeSequence db c)) c =
      writeSequence (cs.foldl writeSequence db) c := by
  induction cs generalizing db with
  | nil => exact writeSequence_same rfl
  | cons d rest ih =>
      rw [List.foldl_cons, List.foldl_cons]
      by_cases h : db.position? c.1 = db.position? d.1
      · rw [writeSequence_same h]
      · rw [writeSequence_comm h, ih]

theorem foldl_writeSequence_idem (cs : List (String × String)) (db : Database) :
    cs.foldl writeSequence (cs.foldl writeSequence db) = cs.foldl writeSequence db := by
  induction cs using List.reverseRecOn with
  | nil => rfl
  | append_singleton cs c ih =>
      simp only [List.foldl_append, List.foldl_cons, List.foldl_nil]
      rw [writeSequence_foldl, ih]

theorem resequenced_foldl (cs : List (String × String)) (db : Database) :
    db.Related Entity.Resequenced (cs.foldl writeSequence db) := by
  induction cs generalizing db with
  | nil => exact .refl Entity.Resequenced.refl db
  | cons c rest ih =>
      refine Database.Related.trans (fun x y z hxy hyz => ?_) (resequenced_writeSequence c db) (ih _)
      exact Eq.trans hyz (by rw [hxy])

theorem chooseSequences_idem (p : Platform) (cache : Naming.Cache) (names : List String) (db : Database) :
    chooseSequences p cache names (chooseSequences p cache names db) = chooseSequences p cache names db := by
  have hc := choices_congr (p := p) (resequenced_foldl (choices p cache names db) db) cache names
  rw [chooseSequences_eq p cache names db, chooseSequences_eq, hc, foldl_writeSequence_idem]

end Finalization

/-- As far as the dialect has engines, those of all entities have foreign keys. -/
def Database.Relational (p : Platform) (db : Database) : Prop :=
  p.dialect = .mysql → ∀ e ∈ db.entities, p.usesForeignKeyEngine e = true

theorem Platform.usesForeignKeyEngine_of_vendor (p : Platform) (h : e'.vendor = e.vendor) :
    p.usesForeignKeyEngine e' = p.usesForeignKeyEngine e := by
  rw [usesForeignKeyEngine, usesForeignKeyEngine, tableEngine, tableEngine, h]

theorem Database.Sustains.relational (h : s.Sustains limit t) (hs : s.Relational p) : t.Relational p := by
  intro hp e' he'
  obtain ⟨e, he, hx⟩ := FirstMatch.exists_of_mem' h.entities he'
  rw [p.usesForeignKeyEngine_of_vendor hx.vendor]
  exact hs hp e he

namespace Finalization

theorem indexAllRelations_eq_self (h : ∀ e ∈ s.entities, p.usesForeignKeyEngine e = true) (names : List String) :
    indexAllRelations p names s = .ok () s := by
  induction names with
  | nil => rfl
  | cons name rest ih =>
      refine bind_eq_ok_iff.2 ⟨(), s, ?_, ih⟩
      cases he : s.entity? name with
      | none => simp [indexRelations, he]
      | some e => simp [indexRelations, he, h e (Database.mem_of_entity? he)]

/-- Without indices in the place of foreign keys the pass always ends, and its end is the end of a second run.
-/
theorem dialectPass_replays (h : s.Relational p) (names : List String) :
    ∃ t, dialectPass p names s = .ok () t ∧ dialectPass p names t = .ok () t := by
  cases hp : p.dialect with
  | mysql =>
      simp only [dialectPass, hp]
      exact ⟨s, indexAllRelations_eq_self (h hp) names, indexAllRelations_eq_self (h hp) names⟩
  | postgres =>
      simp only [dialectPass, hp]
      refine ⟨chooseSequences p {} names s, rfl, ?_⟩
      rw [Edit.succeed, chooseSequences_idem]
  | _ =>
      simp only [dialectPass, hp]
      exact ⟨s, rfl, rfl⟩

end Finalization

end Tablecraft
