import SetProtocol.Core.Controller
import SetProtocol.Core.World
import SetProtocol.Lib.PreciseUnitMath

/-!
# The price oracle

`PriceOracle` finds the price of a pair from an oracle of the pair or of the inverse pair, else through the
master quote asset, else from adapters.
-/

namespace SetProtocol

open PreciseUnitMath

/-- The contract; modules see it as `PriceOracle`. -/
structure PriceOracleContract where
  owner : Address
  masterQuoteAsset : Address
  /-- The zero address stands for a pair without an oracle. -/
  oracles : Address → Address → Address
  adapters : List Address

/-- What oracles and adapters answer. -/
structure PriceFeed where
  read : Address → Outcome ℕ
  /-- Whether the adapter knows the pair, and the price. -/
  adapterPrice : (adapter assetOne assetTwo : Address) → Outcome (Bool × ℕ)

namespace PriceOracleContract

def setOracle (o : PriceOracleContract) (assetOne assetTwo oracle : Address) : PriceOracleContract :=
  { o with
    oracles := Function.update o.oracles assetOne
      (Function.update (o.oracles assetOne) assetTwo oracle) }

/-- The constructor. -/
def new (owner masterQuoteAsset : Address) (adapters assetOnes assetTwos oracles : List Address) :
    Outcome PriceOracleContract := do
  require (assetOnes.length = assetTwos.length ∧ assetTwos.length = oracles.length)
    "Array lengths do not match."
  let start : PriceOracleContract := ⟨owner, masterQuoteAsset, fun _ _ ↦ 0, adapters⟩
  pure (((assetOnes.zip assetTwos).zip oracles).foldl
    (fun o entry ↦ o.setOracle entry.1.1 entry.1.2 entry.2) start)

/-! ## Prices

A price that is not found is `none`. -/

variable (o : PriceOracleContract) (feed : PriceFeed)

def calculateInversePrice (inverseOracle : Address) : Outcome ℕ := do
  let inverseValue ← feed.read inverseOracle
  preciseDiv preciseUnit inverseValue

def getDirectOrInversePrice (assetOne assetTwo : Address) : Outcome (Option ℕ) :=
  let directOracle := o.oracles assetOne assetTwo
  let inverseOracle := o.oracles assetTwo assetOne
  if directOracle ≠ 0 then some <$> feed.read directOracle
  else if inverseOracle ≠ 0 then some <$> calculateInversePrice feed inverseOracle
  else pure none

def getPriceFromMasterQuote (assetOne assetTwo : Address) : Outcome (Option ℕ) := do
  let assetOnePrice ← o.getDirectOrInversePrice feed assetOne o.masterQuoteAsset
  let assetTwoPrice ← o.getDirectOrInversePrice feed assetTwo o.masterQuoteAsset
  match assetOnePrice, assetTwoPrice with
  | some assetOnePrice, some assetTwoPrice => some <$> preciseDiv assetOnePrice assetTwoPrice
  | _, _ => pure none

def getPriceFromAdapters (assetOne assetTwo : Address) : List Address → Outcome (Option ℕ)
  | [] => pure none
  | adapter :: adapters => do
    let (priceFound, price) ← feed.adapterPrice adapter assetOne assetTwo
    if priceFound then pure (some price) else getPriceFromAdapters assetOne assetTwo adapters

/-- The steps are tried one after the other. -/
def getPrice (controller : Controller) (sender assetOne assetTwo : Address) : Outcome ℕ := do
  require (controller.isSystemContract sender = true)
    "PriceOracle.getPrice: Caller must be system contract."
  match ← o.getDirectOrInversePrice feed assetOne assetTwo with
  | some price => pure price
  | none =>
    match ← o.getPriceFromMasterQuote feed assetOne assetTwo with
    | some price => pure price
    | none =>
      match ← getPriceFromAdapters feed assetOne assetTwo o.adapters with
      | some price => pure price
      | none => throw "PriceOracle.getPrice: Price not found."

/-- The oracle as a module sees it. -/
def asSeenBy (controller : Controller) (sender : Address) : PriceOracle where
  masterQuoteAsset := o.masterQuoteAsset
  getPrice := o.getPrice feed controller sender

/-! ## Governance -/

def onlyOwner (sender : Address) : Outcome Unit :=
  require (sender = o.owner) "Ownable: caller is not the owner"

def addPair (sender assetOne assetTwo oracle : Address) : Outcome PriceOracleContract := do
  o.onlyOwner sender
  require (o.oracles assetOne assetTwo = 0) "PriceOracle.addPair: Pair already exists."
  pure (o.setOracle assetOne assetTwo oracle)

def editPair (sender assetOne assetTwo oracle : Address) : Outcome PriceOracleContract := do
  o.onlyOwner sender
  require (o.oracles assetOne assetTwo ≠ 0) "PriceOracle.editPair: Pair doesn't exist."
  pure (o.setOracle assetOne assetTwo oracle)

def removePair (sender assetOne assetTwo : Address) : Outcome PriceOracleContract := do
  o.onlyOwner sender
  require (o.oracles assetOne assetTwo ≠ 0) "PriceOracle.removePair: Pair doesn't exist."
  pure (o.setOracle assetOne assetTwo 0)

def addAdapter (sender adapter : Address) : Outcome PriceOracleContract := do
  o.onlyOwner sender
  require (AddressArrayUtils.contains o.adapters adapter = false)
    "PriceOracle.addAdapter: Adapter already exists."
  pure { o with adapters := o.adapters ++ [adapter] }

def removeAdapter (sender adapter : Address) : Outcome PriceOracleContract := do
  o.onlyOwner sender
  require (AddressArrayUtils.contains o.adapters adapter = true)
    "PriceOracle.removeAdapter: Adapter does not exist."
  let adapters ← AddressArrayUtils.remove o.adapters adapter
  pure { o with adapters := adapters }

def editMasterQuoteAsset (sender newMasterQuoteAsset : Address) : Outcome PriceOracleContract := do
  o.onlyOwner sender
  pure { o with masterQuoteAsset := newMasterQuoteAsset }

end PriceOracleContract

end SetProtocol
