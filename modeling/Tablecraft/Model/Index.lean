import Tablecraft.Model.VendorOptions
import Tablecraft.Naming

namespace Tablecraft

structure IndexMember where
  name : String
  size : Option Nat := none
  deriving DecidableEq, Repr

structure Index where
  givenName : Option String := none
  unique : Bool := false
  members : List IndexMember := []
  table : Option String := none
  nameLimit : Nat := Naming.defaultLimit
  vendor : List VendorOptions := []
  deriving DecidableEq, Repr

namespace Index

def ofNames (names : List String) : Index := { members := names.map fun n => { name := n } }

def uniqueOfNames (names : List String) : Index := { ofNames names with unique := true }

def memberParts (members : List IndexMember) : List String :=
  members.flatMap fun m => [m.name, (m.size.map Text.ofNat).getD ""]

def generatedName (i : Index) : String :=
  Naming.hashedName i.table (if i.unique then "u_" else "i_") (memberParts i.members) i.nameLimit

def name (i : Index) : String := i.givenName.getD i.generatedName

def isAutoNamed (i : Index) : Bool := i.givenName.isNone

def pinName (i : Index) : Index := { i with givenName := some i.name }

def memberNames (i : Index) : List String := i.members.map (·.name)

def hasMember (i : Index) (name : String) : Bool := i.members.any (·.name == name)

def memberSize? (i : Index) (name : String) : Option Nat :=
  (i.members.find? (·.name == name)).bind (·.size)

def resetSizes (i : Index) : Index :=
  { i with members := i.members.map fun m => { m with size := none } }

def coversPrefix (i : Index) (names : List String) : Bool := names.isPrefixOf i.memberNames

@[simp] theorem name_pinName (i : Index) : i.pinName.name = i.name := rfl

end Index

end Tablecraft
