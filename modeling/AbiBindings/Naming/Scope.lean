namespace AbiBindings

/-- Identifiers in use within one namespace of the generated code. -/
structure Scope where
  taken : List String
  deriving Repr

namespace Scope

def empty : Scope := ⟨[]⟩

def reserving (names : List String) : Scope := ⟨names⟩

def tryClaim (s : Scope) (name : String) : Bool × Scope :=
  if name ∈ s.taken then (false, s) else (true, ⟨name :: s.taken⟩)

def numbered (base separator : String) (k : Nat) : String := base ++ separator ++ toString k

/-- The first number from `k` on whose candidate is free, among the next `count` of them. -/
def firstFree (taken : List String) (candidate : Nat → String) : Nat → Nat → Nat
  | 0, k => k
  | count + 1, k =>
    if candidate k ∈ taken then firstFree taken candidate count (k + 1) else k

/-- Takes the base name, or the base with the least free number from two on. One more candidate
than there are names in use suffices. -/
def claimNumbered (s : Scope) (base separator : String) : String × Scope :=
  match s.tryClaim base with
  | (true, s') => (base, s')
  | (false, _) =>
    let name := numbered base separator
      (firstFree s.taken (numbered base separator) (s.taken.length + 1) 2)
    (name, ⟨name :: s.taken⟩)

/-- Takes the base name, or the base with its position, which is then numbered if need be.
The flag says that the base was not free. -/
def claimPositional (s : Scope) (base : String) (position : Nat) : (String × Bool) × Scope :=
  match s.tryClaim base with
  | (true, s') => ((base, false), s')
  | (false, _) =>
    let (name, s') := s.claimNumbered (base ++ "_" ++ toString position) "_"
    ((name, true), s')

end Scope

end AbiBindings
