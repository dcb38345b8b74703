import CoinAddress.Network.Basic
import CoinAddress.Text.Search

/-!
# The registry of networks

A registry keeps networks in the order of their registration. Names, magics and human-readable parts
tell its networks apart; version bytes may be shared, and then the network that was registered first
is found.

* `Registry.register` adds a valid network that clashes with none.
* `Registry.registerAll` adds networks up to the first that is refused, and keeps those before it.
* `Registry.named?`, `Registry.withHrp?`, `Registry.withMagic?` and the look-ups by version byte find
  networks; `Registry.resolve` also knows the short names of the predefined networks.
-/

namespace CoinAddress

/-- Networks in the order of their registration. -/
structure Registry where
  networks : List Network
deriving DecidableEq

/-- Whether two networks may not be registered together. -/
def Network.clashes (n m : Network) : Bool :=
  Text.sameIgnoringCase n.name m.name || n.magic == m.magic || n.hrp == m.hrp

namespace Registry

/-- The registry without networks. -/
def empty : Registry := ⟨[]⟩

/-- The registry of the predefined networks. -/
def predefined : Registry := ⟨Network.predefined⟩

/-! ## Registration -/

/-- The registry with one more network. -/
def register (r : Registry) (n : Network) : Except Error Registry := do
  n.validate
  match r.networks.find? fun m => m.clashes n with
  | some m => .error (.duplicateNetwork n.name m.name)
  | none => .ok ⟨r.networks ++ [n]⟩

/-- A network is registered at the end. -/
theorem networks_register {r r' : Registry} {n : Network} (h : r.register n = .ok r') :
    r'.networks = r.networks ++ [n] := by
  cases hv : n.validate with
  | error e => simp [register, hv, bind, Except.bind] at h
  | ok u =>
    simp only [register, hv, bind, Except.bind] at h
    split at h
    · cases h
    · cases h
      rfl

/-- The registry after networks were registered in order up to the first that is refused, and the
error of that one. -/
def registerAll (r : Registry) : List Network → Registry × Except Error Unit
  | [] => (r, .ok ())
  | n :: ns =>
    match r.register n with
    | .error e => (r, .error e)
    | .ok r' => r'.registerAll ns

/-! ## Look-ups -/

/-- The network with a name, in letters of any case. -/
def named? (r : Registry) (name : String) : Option Network :=
  r.networks.find? fun n => Text.sameIgnoringCase n.name name

/-- The network with a human-readable part, in letters of any case. -/
def withHrp? (r : Registry) (hrp : String) : Option Network :=
  r.networks.find? fun n => Text.sameIgnoringCase n.hrp hrp

/-- The network with a magic. -/
def withMagic? (r : Registry) (magic : UInt32) : Option Network :=
  r.networks.find? fun n => n.magic == magic

/-- The first network whose key hash addresses have a version byte. -/
def withPubKeyHashId? (r : Registry) (id : UInt8) : Option Network :=
  r.networks.find? fun n => n.pubKeyHashId == id

/-- The first network whose script hash addresses have a version byte. -/
def withScriptHashId? (r : Registry) (id : UInt8) : Option Network :=
  r.networks.find? fun n => n.scriptHashId == id

/-- The first network whose private keys have a version byte. -/
def withPrivateKeyId? (r : Registry) (id : UInt8) : Option Network :=
  r.networks.find? fun n => n.privateKeyId == id

/-- The registered network with a name, or else the predefined network that goes by it. -/
def resolve (r : Registry) (name : String) : Except Error Network :=
  match r.named? name with
  | some n => .ok n
  | none => Network.ofAlias name

/-- Whether a text is the human-readable part of a registered network with the separator. -/
def isSegwitStart (r : Registry) (start : String) : Bool :=
  match Text.splitAtLast? '1' start.toList with
  | some (hrp, []) => (r.withHrp? (String.ofList hrp)).isSome
  | _ => false

end Registry

end CoinAddress
