import Splice.Provenance.Registry

namespace Splice

/-!
# All registries

Registries keep their sites and colours apart, but the numbers of tokens come
from one count: whichever registry a token is registered with, it gets the next
number.  One registry exists from the start and is shared by everyone who names
no other.
-/

/-- The identity of a registry. -/
structure RegistryId where
  number : Nat
  deriving DecidableEq

/-- The registry that exists from the start. -/
def RegistryId.shared : RegistryId := ⟨0⟩

/-- All registries with the number of the next token. -/
structure Registries where
  nextToken : Nat := 1
  all : Array Registry := #[{}]

namespace Registries

/-- A registry; one that was never opened is empty. -/
def get (registries : Registries) (id : RegistryId) : Registry :=
  registries.all[id.number]?.getD {}

/-- Replace a registry by its later state. -/
def set (registries : Registries) (id : RegistryId) (registry : Registry) : Registries :=
  { registries with all := registries.all.setIfInBounds id.number registry }

/-- Open a new registry. -/
def create (registries : Registries) : RegistryId × Registries :=
  (⟨registries.all.size⟩, { registries with all := registries.all.push {} })

/-- A new token for a place. -/
def register
    (registries : Registries)
    (file : Text)
    (line column : Int) :
    Token × Registries :=
  (⟨registries.nextToken, file, line, column⟩,
    { registries with nextToken := registries.nextToken + 1 })

/-- The token of a site: the one it has already, or else a new one that it keeps. -/
def registerSite
    (registries : Registries)
    (id : RegistryId)
    (site : Site)
    (file : Text)
    (line column : Int) :
    Token × Registries :=
  match (registries.get id).site? site with
  | some token => (token, registries)
  | none =>
      let (token, registries) := registries.register file line column
      (token, registries.set id ((registries.get id).addSite site token))

/-- The token of a call: the one that its site has already, or else one for the place of the call. -/
def callToken (registries : Registries) (id : RegistryId) (frame : Frame) : Token × Registries :=
  match (registries.get id).site? frame.site with
  | some token => (token, registries)
  | none => registries.registerSite id frame.site frame.running.file frame.line frame.column

/-- Looking a site up before it is registered makes no difference. -/
theorem callToken_eq
    (registries : Registries)
    (id : RegistryId)
    (frame : Frame) :
    registries.callToken id frame =
      registries.registerSite id frame.site frame.running.file frame.line frame.column := by
  unfold callToken
  split
  · next token found => rw [registerSite, found]
  · rfl

/-- A replaced registry is read back. -/
theorem get_set_self
    {registries : Registries}
    {id : RegistryId}
    (opened : id.number < registries.all.size)
    (registry : Registry) :
    (registries.set id registry).get id = registry := by
  simp [get, set, opened]

/-- Replacing one registry leaves the others alone. -/
theorem get_set_of_ne
    {registries : Registries}
    {id other : RegistryId}
    (different : other ≠ id)
    (registry : Registry) :
    (registries.set id registry).get other = registries.get other := by
  have apart : id.number ≠ other.number := by
    intro equal
    exact different (by cases id; cases other; simp_all)
  simp [get, set, apart]

end Registries

end Splice
