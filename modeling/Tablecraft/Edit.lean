import Tablecraft.Fault

namespace Tablecraft

abbrev Edit (σ : Type) := EStateM Fault σ

namespace Edit

variable {σ τ : Type}

/-- A change that either happens as a whole or leaves the state as it was. -/
def attempt (f : σ → Except Fault σ) : Edit σ Unit := fun s =>
  match f s with
  | .ok t => .ok () t
  | .error fault => .error fault s

def succeed (f : σ → σ) : Edit σ Unit := fun s => .ok () (f s)

def query {α : Type} (f : σ → Except Fault α) : Edit σ α := fun s =>
  match f s with
  | .ok a => .ok a s
  | .error fault => .error fault s

def each (edit : Edit σ Unit) : Edit (List σ) Unit
  | [] => .ok () []
  | x :: rest =>
    match edit x with
    | .error fault y => .error fault (y :: rest)
    | .ok _ y =>
      match each edit rest with
      | .error fault ys => .error fault (y :: ys)
      | .ok _ ys => .ok () (y :: ys)

def first (p : σ → Bool) (edit : Edit σ Unit) : Edit (List σ) Unit
  | [] => .ok () []
  | x :: rest =>
    if p x then
      match edit x with
      | .error fault y => .error fault (y :: rest)
      | .ok _ y => .ok () (y :: rest)
    else
      match first p edit rest with
      | .error fault ys => .error fault (x :: ys)
      | .ok _ ys => .ok () (x :: ys)

def within (part : τ → σ) (replace : τ → σ → τ) (edit : Edit σ Unit) : Edit τ Unit := fun t =>
  match edit (part t) with
  | .error fault s => .error fault (replace t s)
  | .ok _ s => .ok () (replace t s)

def result (edit : Edit σ Unit) (s : σ) : Except Fault σ :=
  match edit s with
  | .ok _ t => .ok t
  | .error fault _ => .error fault

def after (edit : Edit σ Unit) (s : σ) : σ :=
  match edit s with
  | .ok _ t => t
  | .error _ t => t

end Edit

end Tablecraft
