import Tablecraft.Proofs.Model.Names

namespace Tablecraft

inductive RosterChange
  | add (e : Entity)
  | remove (name : String)
  | setSpace (space : Option String)
  deriving Repr

namespace Database

variable {db db' : Database} {e : Entity} {i : Nat}

/-- The database after the change. It stays the same if it refuses the entity or has none to remove. -/
def change (db : Database) : RosterChange → Database
  | .add e =>
    match db.addEntity e with
    | .ok db' => db'
    | .error _ => db
  | .remove name =>
    match db.removeEntity? name with
    | some (_, rest) => rest
    | none => db
  | .setSpace space => { db with space }

def changeAll (db : Database) (changes : List RosterChange) : Database := changes.foldl change db

theorem addressed_of_entities_nil (h : db.entities = []) : db.Addressed := by
  simp [Addressed, h]

theorem Addressed.removeEntity? {name : String} (h : db.Addressed)
    (hr : db.removeEntity? name = some (e, db')) : db'.Addressed := by
  obtain ⟨_, _, _, _, hs⟩ := removeEntity?_eq_some hr
  exact h.sublist hs

theorem Addressed.change (h : db.Addressed) (c : RosterChange) : (db.change c).Addressed := by
  cases c with
  | add e =>
      cases ha : db.addEntity e with
      | error fault => simpa only [Database.change, ha] using h
      | ok db' => simpa only [Database.change, ha] using h.addEntity ha
  | remove name =>
      cases hr : db.removeEntity? name with
      | none => simpa only [Database.change, hr] using h
      | some removed => simpa only [Database.change, hr] using h.removeEntity? hr
  | setSpace space => exact h

theorem Addressed.changeAll (h : db.Addressed) (changes : List RosterChange) :
    (db.changeAll changes).Addressed := by
  unfold Database.changeAll
  induction changes generalizing db with
  | nil => exact h
  | cons c rest ih => exact ih (h.change c)

theorem own_name_leads_home (hdb : db.entities = []) (changes : List RosterChange)
    (hi : (db.changeAll changes).entities[i]? = some e) :
    (db.changeAll changes).position? e.name = some i ∧
      (db.changeAll changes).entity? e.name = some e ∧
      ∀ f, (db.changeAll changes).modifyEntity e.name f = (db.changeAll changes).modifyEntityAt i f := by
  have ha := (addressed_of_entities_nil hdb).changeAll changes
  exact ⟨ha.position?_eq hi, ha.entity?_eq (List.mem_of_getElem? hi),
    modifyEntity_eq_modifyEntityAt (ha.position?_eq hi)⟩

/-- A dotted name before the entity that it seems to qualify; the other way round it is refused. -/
theorem own_name_leads_home_dotted :
    let changes : List RosterChange :=
      [.add { name := "lib.book" }, .add { name := "draft" }, .setSpace (some "lib"), .add { name := "book" },
        .add { name := "lib.book" }, .remove "draft", .setSpace none,
        .add { name := "draft", space := some "lib" }]
    let db := Database.changeAll { name := "library" } changes
    db.entities.map (·.fullName) = ["lib.book", "lib.book", "lib.draft"] ∧
      db.position? "book" = some 1 ∧ (db.entity? "book").map (·.space) = some (some "lib") ∧
        ∀ f, db.modifyEntity "book" f = db.modifyEntityAt 1 f := by
  intro changes db
  have h := own_name_leads_home (show ({ name := "library" } : Database).entities = [] from rfl) changes
    (e := { name := "book", database := some "library", givenIdMethod := some .native, space := some "lib" })
    (i := 1) (by decide +kernel)
  exact ⟨by decide +kernel, h.1, by rw [h.2.1]; rfl, h.2.2⟩

end Database

end Tablecraft
