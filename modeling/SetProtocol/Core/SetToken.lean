import SetProtocol.Core.Controller
import SetProtocol.Core.ERC20
import SetProtocol.Lib.PreciseUnitMath

/-!
# The SetToken

The state of one SetToken and its functions.  Positions are stored in virtual units, which the
position multiplier turns into real units; modules write real units and the token converts them.
Every privileged function checks that its caller is an initialized module that the Controller
enables, and that a locked token is only used by its locker.
-/

namespace SetProtocol

open PreciseUnitMath

/-- Modules go from `none` to `pending` to `initialized`. -/
inductive ModuleState where
  | none
  | pending
  | initialized
deriving DecidableEq, Repr

/-- The position that a module manages outside the SetToken. -/
structure ExternalPosition where
  virtualUnit : ℤ
  data : List UInt8
deriving DecidableEq

inductive PositionState where
  | default
  | external
deriving DecidableEq, Repr

/-- A position as `getPositions` lists it, with its real unit.  Default positions have no module. -/
structure PositionEntry where
  component : Address
  module : Address
  unit : ℤ
  positionState : PositionState
  data : List UInt8

structure ComponentPosition where
  /-- Virtual unit of the default position. -/
  virtualUnit : ℤ
  externalPositionModules : List Address
  externalPositions : Address → ExternalPosition

/-- The zero value of a storage slot. -/
def ExternalPosition.empty : ExternalPosition := ⟨0, []⟩

/-- The zero value of a storage slot. -/
def ComponentPosition.empty : ComponentPosition := ⟨0, [], fun _ ↦ ExternalPosition.empty⟩

structure SetToken where
  address : Address
  /-- The inherited token: supply, balances and allowances of the Set. -/
  erc20 : ERC20
  manager : Address
  locker : Address
  modules : List Address
  moduleStates : Address → ModuleState
  isLocked : Bool
  components : List Address
  componentPositions : Address → ComponentPosition
  positionMultiplier : ℤ

namespace SetToken

/-! ## Construction -/

/-- The constructor.  Repeated modules are entered once each; a repeated component keeps the unit
that comes last. -/
def new (address : Address) (components : List Address) (units : List ℤ)
    (modules : List Address) (manager : Address) : SetToken where
  address := address
  erc20 := ERC20.empty 18
  manager := manager
  locker := 0
  modules := []
  moduleStates := modules.foldl (fun states module ↦ Function.update states module .pending)
    (fun _ ↦ .none)
  isLocked := false
  components := components
  componentPositions := (components.zip units).foldl
    (fun positions entry ↦ Function.update positions entry.1
      { positions entry.1 with virtualUnit := entry.2 })
    (fun _ ↦ ComponentPosition.empty)
  positionMultiplier := preciseUnitInt

/-- A created token after its modules were initialized and `supply` was issued to `holder`. -/
def launched (address : Address) (components : List Address) (units : List ℤ)
    (modules : List Address) (manager holder : Address) (supply : ℕ) : SetToken :=
  { new address components units modules manager with
    modules := modules
    moduleStates := fun a ↦ if a ∈ modules then .initialized else .none
    erc20 := ERC20.holding 18 [(holder, supply)] 0 }

/-! ## Access checks -/

def validateOnlyModule (s : SetToken) (controller : Controller) (sender : Address) :
    Outcome Unit := do
  require (s.moduleStates sender = .initialized) "Only the module can call"
  require (controller.isModule sender = true) "Module must be enabled on controller"

def validateOnlyManager (s : SetToken) (sender : Address) : Outcome Unit :=
  require (sender = s.manager) "Only manager can call"

def validateWhenLockedOnlyLocker (s : SetToken) (sender : Address) : Outcome Unit :=
  if s.isLocked then
    require (sender = s.locker) "When locked, only the locker can call"
  else
    pure ()

/-- The two modifiers that all privileged functions share. -/
def onlyModuleWhenLockedOnlyLocker (s : SetToken) (controller : Controller) (sender : Address) :
    Outcome Unit := do
  s.validateOnlyModule controller sender
  s.validateWhenLockedOnlyLocker sender

/-! ## Getters -/

def defaultPositionVirtualUnit (s : SetToken) (component : Address) : ℤ :=
  (s.componentPositions component).virtualUnit

def externalPositionModules (s : SetToken) (component : Address) : List Address :=
  (s.componentPositions component).externalPositionModules

def externalPositionVirtualUnit (s : SetToken) (component module : Address) : ℤ :=
  ((s.componentPositions component).externalPositions module).virtualUnit

def externalPositionData (s : SetToken) (component module : Address) : List UInt8 :=
  ((s.componentPositions component).externalPositions module).data

def totalSupply (s : SetToken) : ℕ := s.erc20.totalSupply

def isComponent (s : SetToken) (component : Address) : Bool :=
  AddressArrayUtils.contains s.components component

def isExternalPositionModule (s : SetToken) (component module : Address) : Bool :=
  AddressArrayUtils.contains (s.externalPositionModules component) module

def isInitializedModule (s : SetToken) (module : Address) : Bool :=
  decide (s.moduleStates module = .initialized)

def isPendingModule (s : SetToken) (module : Address) : Bool :=
  decide (s.moduleStates module = .pending)

def convertVirtualToRealUnit (s : SetToken) (virtualUnit : ℤ) : Outcome ℤ :=
  conservativePreciseMul virtualUnit s.positionMultiplier

/-- A positive unit may neither round down to zero nor do so when it is read back. -/
def convertRealToVirtualUnit (s : SetToken) (realUnit : ℤ) : Outcome ℤ := do
  let virtualUnit ← conservativePreciseDiv realUnit s.positionMultiplier
  if 0 < realUnit then do
    require (virtualUnit ≠ 0) "Real to Virtual unit conversion invalid"
    let readBack ← s.convertVirtualToRealUnit virtualUnit
    require (readBack ≠ 0) "Virtual to Real unit conversion invalid"
    pure virtualUnit
  else
    pure virtualUnit

def getDefaultPositionRealUnit (s : SetToken) (component : Address) : Outcome ℤ :=
  s.convertVirtualToRealUnit (s.defaultPositionVirtualUnit component)

def getExternalPositionRealUnit (s : SetToken) (component module : Address) : Outcome ℤ :=
  s.convertVirtualToRealUnit (s.externalPositionVirtualUnit component module)

def getTotalComponentRealUnits (s : SetToken) (component : Address) : Outcome ℤ := do
  let defaultUnit ← s.getDefaultPositionRealUnit component
  (s.externalPositionModules component).foldlM
    (fun totalUnits module ↦ do
      let unit ← s.getExternalPositionRealUnit component module
      SignedSafeMath.add totalUnits unit)
    defaultUnit

/-- The default position of a component, if it has a positive virtual unit. -/
def listDefaultPosition (s : SetToken) (component : Address) : Outcome (List PositionEntry) :=
  if 0 < s.defaultPositionVirtualUnit component then do
    let unit ← s.getDefaultPositionRealUnit component
    pure [⟨component, 0, unit, .default, []⟩]
  else
    pure []

/-- The inner loop of `getPositions`. -/
def listExternalPosition (s : SetToken) (component module : Address) : Outcome PositionEntry := do
  let unit ← s.getExternalPositionRealUnit component module
  pure ⟨component, module, unit, .external, s.externalPositionData component module⟩

/-- The outer loop of `getPositions`. -/
def listPositions (s : SetToken) (component : Address) : Outcome (List PositionEntry) := do
  let defaults ← s.listDefaultPosition component
  let externals ← (s.externalPositionModules component).mapM (s.listExternalPosition component)
  pure (defaults ++ externals)

def getPositions (s : SetToken) : Outcome (List PositionEntry) := do
  let positions ← s.components.mapM s.listPositions
  pure positions.flatten

/-- The negation is unchecked, so the cast rejects the least `int256`. -/
def absoluteValue (a : ℤ) : Outcome ℕ :=
  if 0 ≤ a then SafeCast.toUint256 a else SafeCast.toUint256 (negInt256 a)

/-- Keep the smaller unit, ignoring zero. -/
def lowerMinimum (minimumUnit unit : ℕ) : ℕ :=
  if 0 < unit ∧ unit < minimumUnit then unit else minimumUnit

/-- The inner loop of `_getPositionsAbsMinimumVirtualUnit`. -/
def lowerMinimumExternal (s : SetToken) (component : Address) (minimumUnit : ℕ)
    (module : Address) : Outcome ℕ := do
  let unit ← absoluteValue (s.externalPositionVirtualUnit component module)
  pure (lowerMinimum minimumUnit unit)

/-- The outer loop of `_getPositionsAbsMinimumVirtualUnit`. -/
def lowerMinimumComponent (s : SetToken) (minimumUnit : ℕ) (component : Address) :
    Outcome ℕ := do
  let defaultUnit ← SafeCast.toUint256 (s.defaultPositionVirtualUnit component)
  (s.externalPositionModules component).foldlM (s.lowerMinimumExternal component)
    (lowerMinimum minimumUnit defaultUnit)

def getPositionsAbsMinimumVirtualUnit (s : SetToken) : Outcome ℤ := do
  let minimumUnit ← s.components.foldlM s.lowerMinimumComponent maxUint256
  SafeCast.toInt256 minimumUnit

def validateNewMultiplier (s : SetToken) (newMultiplier : ℤ) : Outcome Unit := do
  let minVirtualUnit ← s.getPositionsAbsMinimumVirtualUnit
  let minRealUnit ← conservativePreciseMul minVirtualUnit newMultiplier
  require (0 < minRealUnit) "New multiplier too small"

/-! ## Storage writes -/

/-- Overwrite the inherited token state. -/
def setErc20 (s : SetToken) (state : ERC20) : SetToken :=
  { s with erc20 := state }

/-- Overwrite the list of components. -/
def setComponents (s : SetToken) (components : List Address) : SetToken :=
  { s with components := components }

/-- Overwrite the entry of one component. -/
def setComponentPosition (s : SetToken) (component : Address) (position : ComponentPosition) :
    SetToken :=
  { s with componentPositions := Function.update s.componentPositions component position }

/-- Overwrite the default virtual unit of a component. -/
def setDefaultUnit (s : SetToken) (component : Address) (virtualUnit : ℤ) : SetToken :=
  s.setComponentPosition component
    { s.componentPositions component with virtualUnit := virtualUnit }

/-- Overwrite the list of external position modules of a component. -/
def setExternalModules (s : SetToken) (component : Address) (modules : List Address) : SetToken :=
  s.setComponentPosition component
    { s.componentPositions component with externalPositionModules := modules }

/-- Overwrite the external position of a module in a component. -/
def setExternalPosition (s : SetToken) (component module : Address)
    (position : ExternalPosition) : SetToken :=
  s.setComponentPosition component
    { s.componentPositions component with
      externalPositions :=
        Function.update (s.componentPositions component).externalPositions module position }

/-! ## Privileged module functions -/

def addComponent (s : SetToken) (controller : Controller) (sender component : Address) :
    Outcome SetToken := do
  s.onlyModuleWhenLockedOnlyLocker controller sender
  require (s.isComponent component = false) "Must not be component"
  pure (s.setComponents (s.components ++ [component]))

def removeComponent (s : SetToken) (controller : Controller) (sender component : Address) :
    Outcome SetToken := do
  s.onlyModuleWhenLockedOnlyLocker controller sender
  let components ← AddressArrayUtils.removeStorage s.components component
  pure (s.setComponents components)

def editDefaultPositionUnit (s : SetToken) (controller : Controller) (sender component : Address)
    (realUnit : ℤ) : Outcome SetToken := do
  s.onlyModuleWhenLockedOnlyLocker controller sender
  let virtualUnit ← s.convertRealToVirtualUnit realUnit
  pure (s.setDefaultUnit component virtualUnit)

def addExternalPositionModule (s : SetToken) (controller : Controller)
    (sender component positionModule : Address) : Outcome SetToken := do
  s.onlyModuleWhenLockedOnlyLocker controller sender
  require (s.isExternalPositionModule component positionModule = false) "Module already added"
  pure (s.setExternalModules component (s.externalPositionModules component ++ [positionModule]))

def removeExternalPositionModule (s : SetToken) (controller : Controller)
    (sender component positionModule : Address) : Outcome SetToken := do
  s.onlyModuleWhenLockedOnlyLocker controller sender
  let modules ←
    AddressArrayUtils.removeStorage (s.externalPositionModules component) positionModule
  pure ((s.setExternalModules component modules).setExternalPosition component positionModule
    ExternalPosition.empty)

def editExternalPositionUnit (s : SetToken) (controller : Controller)
    (sender component positionModule : Address) (realUnit : ℤ) : Outcome SetToken := do
  s.onlyModuleWhenLockedOnlyLocker controller sender
  let virtualUnit ← s.convertRealToVirtualUnit realUnit
  pure (s.setExternalPosition component positionModule
    ⟨virtualUnit, s.externalPositionData component positionModule⟩)

def editExternalPositionData (s : SetToken) (controller : Controller)
    (sender component positionModule : Address) (data : List UInt8) : Outcome SetToken := do
  s.onlyModuleWhenLockedOnlyLocker controller sender
  pure (s.setExternalPosition component positionModule
    ⟨s.externalPositionVirtualUnit component positionModule, data⟩)

def editPositionMultiplier (s : SetToken) (controller : Controller) (sender : Address)
    (newMultiplier : ℤ) : Outcome SetToken := do
  s.onlyModuleWhenLockedOnlyLocker controller sender
  s.validateNewMultiplier newMultiplier
  pure { s with positionMultiplier := newMultiplier }

def mint (s : SetToken) (controller : Controller) (sender account : Address) (quantity : ℕ) :
    Outcome SetToken := do
  s.onlyModuleWhenLockedOnlyLocker controller sender
  let erc20 ← s.erc20.mint account quantity
  pure (s.setErc20 erc20)

def burn (s : SetToken) (controller : Controller) (sender account : Address) (quantity : ℕ) :
    Outcome SetToken := do
  s.onlyModuleWhenLockedOnlyLocker controller sender
  let erc20 ← s.erc20.burn account quantity
  pure (s.setErc20 erc20)

def lock (s : SetToken) (controller : Controller) (sender : Address) : Outcome SetToken := do
  s.validateOnlyModule controller sender
  require (s.isLocked = false) "Must not be locked"
  pure { s with locker := sender, isLocked := true }

def unlock (s : SetToken) (controller : Controller) (sender : Address) : Outcome SetToken := do
  s.validateOnlyModule controller sender
  require (s.isLocked = true) "Must be locked"
  require (s.locker = sender) "Must be locker"
  pure { s with locker := 0, isLocked := false }

/-! ## Manager functions and module initialization -/

def addModule (s : SetToken) (controller : Controller) (sender module : Address) :
    Outcome SetToken := do
  s.validateOnlyManager sender
  require (s.moduleStates module = .none) "Module must not be added"
  require (controller.isModule module = true) "Must be enabled on Controller"
  pure { s with moduleStates := Function.update s.moduleStates module .pending }

/-- The checks of `removeModule` before the module is called back. -/
def validateRemoveModule (s : SetToken) (sender module : Address) : Outcome Unit := do
  s.validateOnlyManager sender
  require (s.isLocked = false) "Only when unlocked"
  require (s.moduleStates module = .initialized) "Module must be added"

/-- The writes of `removeModule` after the module was called back. -/
def clearModule (s : SetToken) (module : Address) : Outcome SetToken := do
  let modules ← AddressArrayUtils.removeStorage s.modules module
  pure { s with
    moduleStates := Function.update s.moduleStates module .none, modules := modules }

def removePendingModule (s : SetToken) (sender module : Address) : Outcome SetToken := do
  s.validateOnlyManager sender
  require (s.isLocked = false) "Only when unlocked"
  require (s.moduleStates module = .pending) "Module must be pending"
  pure { s with moduleStates := Function.update s.moduleStates module .none }

def initializeModule (s : SetToken) (sender : Address) : Outcome SetToken := do
  require (s.isLocked = false) "Only when unlocked"
  require (s.moduleStates sender = .pending) "Module must be pending"
  pure { s with
    moduleStates := Function.update s.moduleStates sender .initialized
    modules := s.modules ++ [sender] }

def setManager (s : SetToken) (sender manager : Address) : Outcome SetToken := do
  s.validateOnlyManager sender
  require (s.isLocked = false) "Only when unlocked"
  pure { s with manager := manager }

end SetToken

end SetProtocol
