import Tablecraft.Fault
import Tablecraft.Json.Basic

namespace Tablecraft

def Fault.jsonMembers (f : Fault) : List (String × Json) :=
  [("error", .text f.code), ("class", .text f.classOf.code)] ++
    if f.hasFixedMessage then [("message", .text f.message)] else []

def Json.ofResult : Except Fault Json → Json
  | .ok value => .record [("ok", value)]
  | .error fault => .record fault.jsonMembers

end Tablecraft
