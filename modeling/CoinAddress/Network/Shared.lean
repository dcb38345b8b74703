import CoinAddress.Network.Registry

/-!
# A registry that is updated in place

A program has one registry that all its parts read and add to. `Shared α` is an action on it with a
result of type `α`: each registration is an update of its own, so that a refused network leaves what
was added before.
-/

namespace CoinAddress

/-- An action on the registry of a program. -/
abbrev Shared := StateM Registry

namespace Shared

/-- Add a network, or leave the registry as it is. -/
def register (n : Network) : Shared (Except Error Unit) := fun r =>
  match r.register n with
  | .ok r' => (.ok (), r')
  | .error e => (.error e, r)

/-- Add networks, each in an update of its own, up to the first that is refused. -/
def registerAll : List Network → Shared (Except Error Unit)
  | [] => pure (.ok ())
  | n :: ns => do
    match ← register n with
    | .ok () => registerAll ns
    | .error e => pure (.error e)

/-- Networks are added to the registry of a program as to any other. -/
theorem run_registerAll (ns : List Network) (r : Registry) :
    (registerAll ns).run r = ((r.registerAll ns).2, (r.registerAll ns).1) := by
  induction ns generalizing r with
  | nil => rfl
  | cons n ns ih =>
    cases h : r.register n with
    | error e =>
      simp only [registerAll, Registry.registerAll, register, h, StateT.run, bind, StateT.bind]
      rfl
    | ok r' =>
      simp only [registerAll, Registry.registerAll, register, h, StateT.run, bind, StateT.bind]
      exact ih r'

/-- The registry with which a program starts. -/
def initial : Registry := Registry.predefined

end Shared

end CoinAddress
