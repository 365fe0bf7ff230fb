namespace Tablecraft.FirstMatch

variable {α : Type}

def modify (p : α → Bool) (f : α → α) : List α → List α
  | [] => []
  | x :: rest => if p x then f x :: rest else x :: modify p f rest

def extract? (p : α → Bool) : List α → Option (α × List α)
  | [] => none
  | x :: rest =>
    if p x then some (x, rest) else (extract? p rest).map fun r => (r.1, x :: r.2)

end Tablecraft.FirstMatch
