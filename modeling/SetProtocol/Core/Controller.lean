import Mathlib.Logic.Function.Basic
import SetProtocol.Lib.AddressArrayUtils

/-!
# The Controller

The registry of the system: which Sets, factories, modules and resources are enabled, the protocol
fee of each module and the recipient of the fees.  Each registry is a list together with a mapping
that answers membership queries.
-/

namespace SetProtocol

structure Controller where
  address : Address
  owner : Address
  sets : List Address
  factories : List Address
  modules : List Address
  resources : List Address
  isSet : Address → Bool
  isFactory : Address → Bool
  isModule : Address → Bool
  isResource : Address → Bool
  /-- Fee percentages in precise units, by module and fee type. -/
  fees : Address → ℕ → ℕ
  resourceId : ℕ → Address
  feeRecipient : Address
  isInitialized : Bool

namespace Controller

/-- The constructor. -/
def new (address owner feeRecipient : Address) : Controller where
  address := address
  owner := owner
  sets := []
  factories := []
  modules := []
  resources := []
  isSet := fun _ ↦ false
  isFactory := fun _ ↦ false
  isModule := fun _ ↦ false
  isResource := fun _ ↦ false
  fees := fun _ _ ↦ 0
  resourceId := fun _ ↦ 0
  feeRecipient := feeRecipient
  isInitialized := false

/-- The Controller as `initialize` leaves it for one factory and some modules, deployed at address 1
by owner 2 with fee recipient 3. -/
def enabling (factory : Address) (modules : List Address) : Controller :=
  { new 1 2 3 with
    factories := [factory], modules := modules
    isFactory := fun a ↦ a == factory, isModule := fun a ↦ modules.contains a
    isInitialized := true }

def onlyOwner (c : Controller) (sender : Address) : Outcome Unit :=
  require (sender = c.owner) "Ownable: caller is not the owner"

def onlyFactory (c : Controller) (sender : Address) : Outcome Unit :=
  require (c.isFactory sender = true) "Only valid factories can call"

def onlyInitialized (c : Controller) : Outcome Unit :=
  require (c.isInitialized = true) "Contract must be initialized."

/-- One pass of the loops that fill `isFactory` and `isModule`. -/
def enableAddress (flags : Address → Bool) (a : Address) : Outcome (Address → Bool) := do
  require (a ≠ 0) "Zero address submitted."
  pure (Function.update flags a true)

/-- One pass of the loop that fills `isResource` and `resourceId`. -/
def enableResource (flags : (Address → Bool) × (ℕ → Address)) (entry : Address × ℕ) :
    Outcome ((Address → Bool) × (ℕ → Address)) := do
  require (entry.1 ≠ 0) "Zero address submitted."
  require (flags.2 entry.2 = 0) "Resource ID already exists"
  pure (Function.update flags.1 entry.1 true, Function.update flags.2 entry.2 entry.1)

/-- The source calls this function `initialize`. -/
def initializeController (c : Controller) (sender : Address)
    (factories modules resources : List Address) (resourceIds : List ℕ) : Outcome Controller := do
  c.onlyOwner sender
  require (c.isInitialized = false) "Controller is already initialized"
  require (resources.length = resourceIds.length) "Array lengths do not match."
  let isFactory ← factories.foldlM enableAddress c.isFactory
  let isModule ← modules.foldlM enableAddress c.isModule
  let enabled ← (resources.zip resourceIds).foldlM enableResource (c.isResource, c.resourceId)
  pure { c with
    factories := factories, modules := modules, resources := resources
    isFactory := isFactory, isModule := isModule
    isResource := enabled.1, resourceId := enabled.2, isInitialized := true }

def addSet (c : Controller) (sender setToken : Address) : Outcome Controller := do
  c.onlyInitialized
  c.onlyFactory sender
  require (c.isSet setToken = false) "Set already exists"
  pure { c with isSet := Function.update c.isSet setToken true, sets := c.sets ++ [setToken] }

def removeSet (c : Controller) (sender setToken : Address) : Outcome Controller := do
  c.onlyInitialized
  c.onlyOwner sender
  require (c.isSet setToken = true) "Set does not exist"
  let sets ← AddressArrayUtils.remove c.sets setToken
  pure { c with sets := sets, isSet := Function.update c.isSet setToken false }

def addFactory (c : Controller) (sender factory : Address) : Outcome Controller := do
  c.onlyInitialized
  c.onlyOwner sender
  require (c.isFactory factory = false) "Factory already exists"
  pure { c with
    isFactory := Function.update c.isFactory factory true, factories := c.factories ++ [factory] }

def removeFactory (c : Controller) (sender factory : Address) : Outcome Controller := do
  c.onlyInitialized
  c.onlyOwner sender
  require (c.isFactory factory = true) "Factory does not exist"
  let factories ← AddressArrayUtils.remove c.factories factory
  pure { c with factories := factories, isFactory := Function.update c.isFactory factory false }

def addModule (c : Controller) (sender module : Address) : Outcome Controller := do
  c.onlyInitialized
  c.onlyOwner sender
  require (c.isModule module = false) "Module already exists"
  pure { c with
    isModule := Function.update c.isModule module true, modules := c.modules ++ [module] }

def removeModule (c : Controller) (sender module : Address) : Outcome Controller := do
  c.onlyInitialized
  c.onlyOwner sender
  require (c.isModule module = true) "Module does not exist"
  let modules ← AddressArrayUtils.remove c.modules module
  pure { c with modules := modules, isModule := Function.update c.isModule module false }

def addResource (c : Controller) (sender resource : Address) (id : ℕ) : Outcome Controller := do
  c.onlyInitialized
  c.onlyOwner sender
  require (c.isResource resource = false) "Resource already exists"
  require (c.resourceId id = 0) "Resource ID already exists"
  pure { c with
    isResource := Function.update c.isResource resource true
    resourceId := Function.update c.resourceId id resource
    resources := c.resources ++ [resource] }

def removeResource (c : Controller) (sender : Address) (id : ℕ) : Outcome Controller := do
  c.onlyInitialized
  c.onlyOwner sender
  require (c.resourceId id ≠ 0) "Resource does not exist"
  let resources ← AddressArrayUtils.remove c.resources (c.resourceId id)
  pure { c with
    resources := resources
    resourceId := Function.update c.resourceId id 0
    isResource := Function.update c.isResource (c.resourceId id) false }

/-- Overwrite one fee percentage. -/
def setFee (c : Controller) (module : Address) (feeType percentage : ℕ) : Controller :=
  { c with fees :=
      Function.update c.fees module (Function.update (c.fees module) feeType percentage) }

def addFee (c : Controller) (sender module : Address) (feeType newFeePercentage : ℕ) :
    Outcome Controller := do
  c.onlyInitialized
  c.onlyOwner sender
  require (c.isModule module = true) "Module does not exist"
  require (c.fees module feeType = 0) "Fee type already exists on module"
  pure (c.setFee module feeType newFeePercentage)

def editFee (c : Controller) (sender module : Address) (feeType newFeePercentage : ℕ) :
    Outcome Controller := do
  c.onlyInitialized
  c.onlyOwner sender
  require (c.isModule module = true) "Module does not exist"
  require (c.fees module feeType ≠ 0) "Fee type does not exist on module"
  pure (c.setFee module feeType newFeePercentage)

def editFeeRecipient (c : Controller) (sender newFeeRecipient : Address) : Outcome Controller := do
  c.onlyInitialized
  c.onlyOwner sender
  require (newFeeRecipient ≠ 0) "Address must not be 0"
  pure { c with feeRecipient := newFeeRecipient }

def getModuleFee (c : Controller) (module : Address) (feeType : ℕ) : ℕ :=
  c.fees module feeType

def isSystemContract (c : Controller) (a : Address) : Bool :=
  c.isSet a || c.isModule a || c.isResource a || c.isFactory a || a == c.address

end Controller

end SetProtocol
