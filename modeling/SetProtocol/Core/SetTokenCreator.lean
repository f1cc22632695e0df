import SetProtocol.Core.Position

/-!
# Creating a SetToken

The factory checks the initial components and units and registers the new token with the
Controller.  The token's constructor itself checks nothing.
-/

namespace SetProtocol

open PreciseUnitMath

structure SetTokenCreator where
  address : Address
  owner : Address

namespace SetTokenCreator

/-- The checks on one initial component and its unit. -/
def validateComponent (entry : Address × ℤ) : Outcome Unit := do
  require (entry.1 ≠ 0) "Component must not be null address"
  require (0 < entry.2) "Units must be greater than 0"

/-- The new contract's address is chosen by the chain and passed as `deployed`. -/
def create (creator : SetTokenCreator) (controller : Controller) (sender deployed : Address)
    (components : List Address) (units : List ℤ) (modules : List Address) (manager : Address) :
    Outcome (Controller × SetToken) := do
  require (sender = creator.owner) "Ownable: caller is not the owner"
  require (0 < components.length) "Must have at least 1 component"
  require (components.length = units.length) "Component and unit lengths must be the same"
  let duplicate ← AddressArrayUtils.hasDuplicate components
  require (duplicate = false) "Components must not have a duplicate"
  require (0 < modules.length) "Must have at least 1 module"
  require (manager ≠ 0) "Manager must not be empty"
  forM (components.zip units) validateComponent
  forM modules fun module ↦ require (controller.isModule module = true) "Must be enabled module"
  let setToken := SetToken.new deployed components units modules manager
  let controller ← controller.addSet creator.address setToken.address
  pure (controller, setToken)

variable {creator : SetTokenCreator} {controller controller' : Controller}
  {sender deployed manager : Address} {components modules : List Address} {units : List ℤ}
  {s : SetToken}

/-- What a successful creation guarantees about the arguments. -/
theorem create_ok
    (h : creator.create controller sender deployed components units modules manager =
      .ok (controller', s)) :
    components.Nodup ∧ components.length = units.length ∧
      (∀ entry ∈ components.zip units, 0 < entry.2) ∧
      s = SetToken.new deployed components units modules manager := by
  simp only [create, validateComponent, Outcome.bind_eq_ok, Outcome.require_eq_ok,
    Outcome.forM_eq_ok, Outcome.pure_eq_ok, Prod.mk.injEq] at h
  obtain ⟨_, -, _, -, _, hlength, _, hdup, _, rfl, _, -, _, -, _, hunits, _, -, _, -, -, rfl⟩ := h
  refine ⟨(AddressArrayUtils.hasDuplicate_eq_ok_false.mp hdup).2, hlength, ?_, rfl⟩
  intro entry hentry
  obtain ⟨_, -, hpos⟩ := hunits entry hentry
  exact hpos

end SetTokenCreator

namespace SetToken

/-- Writing default units one after the other leaves the external positions empty. -/
theorem foldl_virtualUnit_external (entries : List (Address × ℤ))
    (positions : Address → ComponentPosition) (c : Address) :
    let final := entries.foldl (fun positions entry ↦ Function.update positions entry.1
      { positions entry.1 with virtualUnit := entry.2 }) positions
    (final c).externalPositionModules = (positions c).externalPositionModules ∧
      (final c).externalPositions = (positions c).externalPositions := by
  induction entries generalizing positions with
  | nil => simp
  | cons entry entries ih =>
    simp only [List.foldl_cons]
    refine ⟨(ih _).1.trans ?_, (ih _).2.trans ?_⟩ <;>
    · by_cases h : c = entry.1
      · subst h
        simp
      · simp [h]

/-- A component outside the written list keeps its default unit. -/
theorem foldl_virtualUnit_of_notMem (entries : List (Address × ℤ))
    (positions : Address → ComponentPosition) {c : Address} (hc : c ∉ entries.map Prod.fst) :
    ((entries.foldl (fun positions entry ↦ Function.update positions entry.1
      { positions entry.1 with virtualUnit := entry.2 }) positions) c).virtualUnit =
      (positions c).virtualUnit := by
  induction entries generalizing positions with
  | nil => simp
  | cons entry entries ih =>
    simp only [List.map_cons, List.mem_cons, not_or] at hc
    simp only [List.foldl_cons]
    rw [ih _ hc.2]
    simp [hc.1]

/-- A written component has one of the written units. -/
theorem foldl_virtualUnit_of_mem (entries : List (Address × ℤ))
    (positions : Address → ComponentPosition) {c : Address} (hc : c ∈ entries.map Prod.fst) :
    ∃ entry ∈ entries, ((entries.foldl (fun positions entry ↦ Function.update positions entry.1
      { positions entry.1 with virtualUnit := entry.2 }) positions) c).virtualUnit = entry.2 := by
  induction entries generalizing positions with
  | nil => simp at hc
  | cons entry entries ih =>
    simp only [List.foldl_cons]
    by_cases htail : c ∈ entries.map Prod.fst
    · obtain ⟨found, hfound, heq⟩ := ih _ htail
      exact ⟨found, List.mem_cons_of_mem _ hfound, heq⟩
    · have hc : c = entry.1 := by
        simpa [htail] using hc
      refine ⟨entry, List.mem_cons_self, ?_⟩
      rw [foldl_virtualUnit_of_notMem _ _ htail, hc]
      simp

@[simp] theorem new_externalPositionModules (address : Address) (components : List Address)
    (units : List ℤ) (modules : List Address) (manager c : Address) :
    (new address components units modules manager).externalPositionModules c = [] :=
  (foldl_virtualUnit_external (components.zip units) (fun _ ↦ ComponentPosition.empty) c).1

@[simp] theorem new_externalPositionVirtualUnit (address : Address) (components : List Address)
    (units : List ℤ) (modules : List Address) (manager c p : Address) :
    (new address components units modules manager).externalPositionVirtualUnit c p = 0 := by
  have h := (foldl_virtualUnit_external (components.zip units)
    (fun _ ↦ ComponentPosition.empty) c).2
  unfold externalPositionVirtualUnit new
  rw [h]
  rfl

end SetToken

end SetProtocol
