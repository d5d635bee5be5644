import ResilientHttp.Task.Basic

/-!
Parts of the state that belongs to a site: how one is read and how it is replaced.
-/

namespace ResilientHttp

/-- A part of a state. -/
structure Part (σ τ : Type) where
  get : σ → τ
  set : τ → σ → σ

namespace Part

variable {σ τ ε : Type}

/-- The state with the part changed by a function. -/
def update (part : Part σ τ) (change : τ → τ) (state : σ) : σ :=
  part.set (change (part.get state)) state

/-- The part in a world. -/
def read (part : Part σ τ) (world : World σ) : τ := part.get world.site

/-- A change of the part in a world. -/
def write (part : Part σ τ) (change : τ → τ) (world : World σ) : World σ :=
  { world with site := part.update change world.site }

end Part
end ResilientHttp
