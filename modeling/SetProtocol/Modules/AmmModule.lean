import SetProtocol.Core.ModuleBase

/-!
# Providing liquidity

`AmmModule` lets the SetToken add liquidity to a pool and remove it, with several components or a single
one.  The manager states amounts in units for one Set; the module multiplies them by the supply.  Before
liquidity is removed the module checks that the SetToken owns enough of the pool token: it compares the
multiplied amount with the unit of the default position.
-/

namespace SetProtocol

open PreciseUnitMath ModuleBase

/-- An adapter that encodes calls of a market maker. -/
structure AmmAdapter where
  getProvideLiquidityCalldata : (setToken pool : Address) → (components : List Address) →
    (maxTokensIn : List ℕ) → (minLiquidity : ℕ) → Outcome (Address × ℕ × List UInt8)
  getProvideLiquiditySingleAssetCalldata : (setToken pool component : Address) →
    (maxTokenIn minLiquidity : ℕ) → Outcome (Address × ℕ × List UInt8)
  getRemoveLiquidityCalldata : (setToken pool : Address) → (components : List Address) →
    (minTokensOut : List ℕ) → (liquidity : ℕ) → Outcome (Address × ℕ × List UInt8)
  getRemoveLiquiditySingleAssetCalldata : (setToken pool component : Address) →
    (minTokenOut liquidity : ℕ) → Outcome (Address × ℕ × List UInt8)
  getSpenderAddress : Address → Address
  isValidPool : Address → List Address → Bool

structure AmmModule where
  address : Address
  /-- The adapters at the addresses that the IntegrationRegistry holds. -/
  adapters : Address → AmmAdapter

namespace AmmModule

structure ActionInfo where
  totalSupply : ℕ
  ammAdapter : AmmAdapter
  liquidityToken : Address
  preActionLiquidityTokenBalance : ℕ
  preActionComponentBalances : List ℕ
  /-- The least quantity to receive when liquidity is added, the quantity to dispose of when it is
  removed. -/
  liquidityQuantity : ℕ
  /-- The most to provide of each component, or the least to receive. -/
  totalNotionalComponents : List ℕ
  componentUnits : List ℕ
  components : List Address

def getTokenBalances (w : World) (tokens : List Address) : List ℕ :=
  tokens.map w.balance

def getTotalNotionalComponents (w : World) (tokenAmounts : List ℕ) : Outcome (List ℕ) :=
  tokenAmounts.mapM (Position.getDefaultTotalNotional w.setToken.totalSupply)

def getActionInfo (m : AmmModule) (w : World) (env : Env) (integrationName : String)
    (ammPool : Address) (components : List Address) (componentUnits : List ℕ)
    (poolTokenInPositionUnit : ℕ) : Outcome ActionInfo := do
  let totalSupply := w.setToken.totalSupply
  let ammAdapter ← getAndValidateAdapter env m.address integrationName
  let liquidityQuantity ← Position.getDefaultTotalNotional totalSupply poolTokenInPositionUnit
  let totalNotionalComponents ← getTotalNotionalComponents w componentUnits
  pure {
    totalSupply := totalSupply
    ammAdapter := m.adapters ammAdapter
    liquidityToken := ammPool
    preActionLiquidityTokenBalance := w.balance ammPool
    preActionComponentBalances := getTokenBalances w components
    liquidityQuantity := liquidityQuantity
    totalNotionalComponents := totalNotionalComponents
    componentUnits := componentUnits
    components := components }

def getActionInfoSingleAsset (m : AmmModule) (w : World) (env : Env) (integrationName : String)
    (ammPool component : Address) (maxPositionUnitToPool minPoolToken : ℕ) : Outcome ActionInfo :=
  m.getActionInfo w env integrationName ammPool [component] [maxPositionUnitToPool] minPoolToken

/-! ## Checks -/

def validateCommon (info : ActionInfo) : Outcome Unit := do
  require (info.componentUnits.length = info.components.length)
    "Components and units must be equal length"
  require (0 < info.liquidityQuantity) "Token quantity must be nonzero"
  require (info.ammAdapter.isValidPool info.liquidityToken info.components = true)
    "Pool token must be enabled on the Adapter"

/-- One pass of the loop of `_validateAddLiquidity`. -/
def validateComponentUnit (w : World) (entry : Address × ℕ) : Outcome Unit := do
  let sufficient ← Position.hasSufficientDefaultUnits w.setToken entry.1 entry.2
  require (sufficient = true) "Unit cant be greater than positions owned"

def validateAddLiquidity (w : World) (info : ActionInfo) : Outcome Unit := do
  validateCommon info
  forM (info.components.zip info.componentUnits) (validateComponentUnit w)

/-- The last check of `_validateRemoveLiquidity`. -/
def validateLiquidityOwned (w : World) (info : ActionInfo) : Outcome Unit := do
  let sufficient ←
    Position.hasSufficientDefaultUnits w.setToken info.liquidityToken info.liquidityQuantity
  require (sufficient = true) "SetToken must own enough liquidity token"

def validateRemoveLiquidity (w : World) (info : ActionInfo) : Outcome Unit := do
  validateCommon info
  forM (info.components.zip info.componentUnits) fun entry ↦
    require (0 < entry.2) "Component quantity must be nonzero"
  validateLiquidityOwned w info

def validateMinimumLiquidityReceived (w : World) (info : ActionInfo) : Outcome Unit := do
  let least ← SafeMath.add info.liquidityQuantity info.preActionLiquidityTokenBalance
  require (least ≤ w.balance info.liquidityToken)
    "Liquidity tokens received must be greater than minimum specified"

/-- One pass of the loop of `_validateMinimumUnderlyingReceived`, over a component with its notional
amount and its balance before the action. -/
def validateUnderlyingReceived (w : World) (entry : Address × ℕ × ℕ) : Outcome Unit := do
  let least ← SafeMath.add entry.2.1 entry.2.2
  require (least ≤ w.balance entry.1)
    "Underlying tokens received must be greater than minimum specified"

def validateMinimumUnderlyingReceived (w : World) (info : ActionInfo) : Outcome Unit :=
  forM (info.components.zip
    (info.totalNotionalComponents.zip info.preActionComponentBalances)) (validateUnderlyingReceived w)

/-! ## Calls -/

def executeComponentApprovals (m : AmmModule) (env : Env) (info : ActionInfo) (w : World) :
    Outcome World :=
  let spender := info.ammAdapter.getSpenderAddress info.liquidityToken
  (info.components.zip info.totalNotionalComponents).foldlM
    (fun w entry ↦ w.invokeApprove env m.address entry.1 spender entry.2) w

/-- The call of the market maker, after the approvals. -/
def invokeAmm (m : AmmModule) (env : Env) (call : Address × ℕ × List UInt8) (w : World) :
    Outcome World :=
  w.invoke env m.address ⟨call.1, call.2.1, .raw call.2.2⟩

def executeAddLiquidity (m : AmmModule) (w : World) (env : Env) (info : ActionInfo) :
    Outcome World := do
  let call ← info.ammAdapter.getProvideLiquidityCalldata w.setToken.address info.liquidityToken
    info.components info.totalNotionalComponents info.liquidityQuantity
  let w ← m.executeComponentApprovals env info w
  m.invokeAmm env call w

def executeAddLiquiditySingleAsset (m : AmmModule) (w : World) (env : Env) (info : ActionInfo) :
    Outcome World :=
  match info.components, info.totalNotionalComponents with
  | component :: _, totalNotional :: _ => do
    let call ← info.ammAdapter.getProvideLiquiditySingleAssetCalldata w.setToken.address
      info.liquidityToken component totalNotional info.liquidityQuantity
    let w ← m.executeComponentApprovals env info w
    m.invokeAmm env call w
  | _, _ => .error "index out of bounds"

/-- The pool tokens are approved before they are removed. -/
def executeRemoval (m : AmmModule) (env : Env) (info : ActionInfo)
    (call : Address × ℕ × List UInt8) (w : World) : Outcome World := do
  let w ← w.invokeApprove env m.address info.liquidityToken
    (info.ammAdapter.getSpenderAddress info.liquidityToken) info.liquidityQuantity
  m.invokeAmm env call w

def executeRemoveLiquidity (m : AmmModule) (w : World) (env : Env) (info : ActionInfo) :
    Outcome World := do
  let call ← info.ammAdapter.getRemoveLiquidityCalldata w.setToken.address info.liquidityToken
    info.components info.totalNotionalComponents info.liquidityQuantity
  m.executeRemoval env info call w

def executeRemoveLiquiditySingleAsset (m : AmmModule) (w : World) (env : Env)
    (info : ActionInfo) : Outcome World :=
  match info.components, info.totalNotionalComponents with
  | component :: _, totalNotional :: _ => do
    let call ← info.ammAdapter.getRemoveLiquiditySingleAssetCalldata w.setToken.address
      info.liquidityToken component totalNotional info.liquidityQuantity
    m.executeRemoval env info call w
  | _, _ => .error "index out of bounds"

/-! ## Positions -/

/-- The balance of a token is compared with its balance before the action, as signed numbers. -/
def updatePosition (m : AmmModule) (info : ActionInfo) (w : World) (entry : Address × ℕ) :
    Outcome (World × ℤ) := do
  let (w, currentBalance, _) ←
    calculateAndEditDefaultPosition w m.address entry.1 info.totalSupply entry.2
  let current ← SafeCast.toInt256 currentBalance
  let previous ← SafeCast.toInt256 entry.2
  let delta ← SignedSafeMath.sub current previous
  pure (w, delta)

/-- One pass of the loop of `_updateComponentPositions`, with the deltas so far. -/
def updateComponentPosition (m : AmmModule) (info : ActionInfo) (state : World × List ℤ)
    (entry : Address × ℕ) : Outcome (World × List ℤ) := do
  let (w, delta) ← m.updatePosition info state.1 entry
  pure (w, state.2 ++ [delta])

def updateComponentPositions (m : AmmModule) (w : World) (info : ActionInfo) :
    Outcome (World × List ℤ) :=
  (info.components.zip info.preActionComponentBalances).foldlM (m.updateComponentPosition info)
    (w, [])

def updateLiquidityTokenPositions (m : AmmModule) (w : World) (info : ActionInfo) :
    Outcome (World × ℤ) :=
  m.updatePosition info w (info.liquidityToken, info.preActionLiquidityTokenBalance)

/-! ## External functions

Each returns the changes of the balances that it emits: of the pool token and of the components. -/

/-- The steps of `addLiquidity` after the market maker was called. -/
def settleAddition (m : AmmModule) (w : World) (info : ActionInfo) :
    Outcome (World × ℤ × List ℤ) := do
  validateMinimumLiquidityReceived w info
  let (w, componentsDelta) ← m.updateComponentPositions w info
  let (w, liquidityTokenDelta) ← m.updateLiquidityTokenPositions w info
  pure (w, liquidityTokenDelta, componentsDelta)

/-- The steps of `removeLiquidity` after the market maker was called. -/
def settleRemoval (m : AmmModule) (w : World) (info : ActionInfo) :
    Outcome (World × ℤ × List ℤ) := do
  validateMinimumUnderlyingReceived w info
  let (w, liquidityTokenDelta) ← m.updateLiquidityTokenPositions w info
  let (w, componentsDelta) ← m.updateComponentPositions w info
  pure (w, liquidityTokenDelta, componentsDelta)

def addLiquidity (m : AmmModule) (w : World) (env : Env) (ammName : String) (ammPool : Address)
    (minPoolTokenPositionUnit : ℕ) (components : List Address) (maxComponentUnits : List ℕ) :
    Outcome (World × ℤ × List ℤ) := do
  validateOnlyManagerAndValidSet w m.address env.sender
  let info ←
    m.getActionInfo w env ammName ammPool components maxComponentUnits minPoolTokenPositionUnit
  validateAddLiquidity w info
  let w ← m.executeAddLiquidity w env info
  m.settleAddition w info

def addLiquiditySingleAsset (m : AmmModule) (w : World) (env : Env) (ammName : String)
    (ammPool : Address) (minPoolTokenPositionUnit : ℕ) (component : Address)
    (maxComponentUnit : ℕ) : Outcome (World × ℤ × List ℤ) := do
  validateOnlyManagerAndValidSet w m.address env.sender
  let info ← m.getActionInfoSingleAsset w env ammName ammPool component maxComponentUnit
    minPoolTokenPositionUnit
  validateAddLiquidity w info
  let w ← m.executeAddLiquiditySingleAsset w env info
  m.settleAddition w info

def removeLiquidity (m : AmmModule) (w : World) (env : Env) (ammName : String) (ammPool : Address)
    (poolTokenPositionUnits : ℕ) (components : List Address)
    (minComponentUnitsReceived : List ℕ) : Outcome (World × ℤ × List ℤ) := do
  validateOnlyManagerAndValidSet w m.address env.sender
  let info ← m.getActionInfo w env ammName ammPool components minComponentUnitsReceived
    poolTokenPositionUnits
  validateRemoveLiquidity w info
  let w ← m.executeRemoveLiquidity w env info
  m.settleRemoval w info

def removeLiquiditySingleAsset (m : AmmModule) (w : World) (env : Env) (ammName : String)
    (ammPool : Address) (poolTokenPositionUnits : ℕ) (component : Address)
    (minComponentUnitsReceived : ℕ) : Outcome (World × ℤ × List ℤ) := do
  validateOnlyManagerAndValidSet w m.address env.sender
  let info ← m.getActionInfoSingleAsset w env ammName ammPool component minComponentUnitsReceived
    poolTokenPositionUnits
  validateRemoveLiquidity w info
  let w ← m.executeRemoveLiquiditySingleAsset w env info
  m.settleRemoval w info

/-- The source calls this function `initialize`. -/
def initializeSetToken (m : AmmModule) (w : World) (env : Env) : Outcome World := do
  validateOnlySetManager w env.sender
  validateOnlyValidAndPendingSet w m.address
  w.onSetToken fun s ↦ s.initializeModule m.address

/-! ## When the SetToken owns enough liquidity -/

variable {m : AmmModule} {w w' : World} {env : Env} {info : ActionInfo} {ammName : String}
  {ammPool : Address} {units : ℕ} {tracked : ℤ}

theorem getActionInfo_ok {components : List Address} {componentUnits : List ℕ}
    (h : m.getActionInfo w env ammName ammPool components componentUnits units = .ok info) :
    info.liquidityToken = ammPool ∧ info.components = components ∧
      info.componentUnits = componentUnits ∧
      info.liquidityQuantity = w.setToken.totalSupply * units / preciseUnit := by
  simp only [getActionInfo, Position.getDefaultTotalNotional, Outcome.bind_eq_ok,
    Outcome.pure_eq_ok, preciseMul_eq_ok] at h
  obtain ⟨_, -, _, ⟨-, rfl⟩, _, -, rfl⟩ := h
  exact ⟨rfl, rfl, rfl, rfl⟩

/-- The multiplied amount is compared with the unit of the default position. -/
theorem validateLiquidityOwned_eq_ok
    (hread : w.setToken.getDefaultPositionRealUnit info.liquidityToken = .ok tracked) :
    validateLiquidityOwned w info = .ok () ↔ (info.liquidityQuantity : ℤ) ≤ tracked := by
  have hhigh : tracked ≤ maxInt256 := by
    obtain ⟨hrange, rfl⟩ := SetToken.getDefaultPositionRealUnit_eq_ok.mp hread
    apply Int.ediv_le_of_le_mul preciseUnitInt_pos
    exact hrange.2.trans (by decide)
  simp only [validateLiquidityOwned, Position.hasSufficientDefaultUnits, Outcome.bind_eq_ok,
    Outcome.require_eq_ok, Outcome.pure_eq_ok, SafeCast.toInt256_eq_ok, hread, Except.ok.injEq]
  constructor
  · rintro ⟨_, ⟨_, rfl, _, ⟨-, rfl⟩, rfl⟩, hle⟩
    exact of_decide_eq_true hle
  · intro hle
    have hfits : info.liquidityQuantity < 2 ^ 255 := by
      unfold maxInt256 at hhigh
      omega
    exact ⟨_, ⟨_, rfl, _, ⟨hfits, rfl⟩, rfl⟩, decide_eq_true hle⟩

/-- The inputs of a removal pass the checks that do not concern its ownership. -/
structure ValidInputs (info : ActionInfo) : Prop where
  common : validateCommon info = .ok ()
  componentUnits_pos : ∀ unit ∈ info.componentUnits, 0 < unit

theorem validateRemoveLiquidity_eq_ok (hinputs : ValidInputs info) :
    validateRemoveLiquidity w info = .ok () ↔ validateLiquidityOwned w info = .ok () := by
  have hunits : forM (info.components.zip info.componentUnits) (fun entry ↦
      require (0 < entry.2) "Component quantity must be nonzero") = .ok () := by
    rw [Outcome.forM_eq_ok]
    intro entry hentry
    rw [Outcome.require_eq_ok]
    exact hinputs.componentUnits_pos entry.2 (List.of_mem_zip hentry).2
  unfold validateRemoveLiquidity
  rw [hinputs.common, Outcome.ok_bind, hunits, Outcome.ok_bind]

/-- The tracked unit lies between the requested unit and the amount for the whole supply. -/
def Separates (tracked : ℤ) (units totalNotional : ℕ) : Prop :=
  min (units : ℤ) totalNotional ≤ tracked ∧ tracked < max (units : ℤ) totalNotional

instance (tracked : ℤ) (units totalNotional : ℕ) : Decidable (Separates tracked units totalNotional) :=
  inferInstanceAs (Decidable (_ ∧ _))

theorem not_separates_iff {units totalNotional : ℕ} :
    ¬ Separates tracked units totalNotional ↔
      ((totalNotional : ℤ) ≤ tracked ↔ (units : ℤ) ≤ tracked) := by
  unfold Separates
  rcases le_total (units : ℤ) totalNotional with hle | hle
  · rw [min_eq_left hle, max_eq_right hle]
    omega
  · rw [min_eq_right hle, max_eq_left hle]
    omega

theorem validateRemoveLiquidity_iff_of_getActionInfo {components : List Address}
    {componentUnits : List ℕ}
    (hread : w.setToken.getDefaultPositionRealUnit ammPool = .ok tracked)
    (hinfo : m.getActionInfo w env ammName ammPool components componentUnits units = .ok info)
    (hinputs : ValidInputs info) :
    (validateRemoveLiquidity w info = .ok () ↔ (units : ℤ) ≤ tracked) ↔
      ¬ Separates tracked units (w.setToken.totalSupply * units / preciseUnit) := by
  obtain ⟨hpool, -, -, hquantity⟩ := getActionInfo_ok hinfo
  rw [← hpool] at hread
  rw [validateRemoveLiquidity_eq_ok hinputs, validateLiquidityOwned_eq_ok hread, hquantity,
    not_separates_iff]

/-- Both removals admit the requested units exactly when they are tracked, unless the tracked unit
lies between the requested unit and its amount for the whole supply. -/
theorem removeLiquidity_owned_iff
    (hread : w.setToken.getDefaultPositionRealUnit ammPool = .ok tracked) :
    (∀ components minComponentUnitsReceived info,
      m.getActionInfo w env ammName ammPool components minComponentUnitsReceived units = .ok info →
        ValidInputs info →
          ((validateRemoveLiquidity w info = .ok () ↔ (units : ℤ) ≤ tracked) ↔
            ¬ Separates tracked units (w.setToken.totalSupply * units / preciseUnit))) ∧
    ∀ component minComponentUnitsReceived info,
      m.getActionInfoSingleAsset w env ammName ammPool component minComponentUnitsReceived units =
        .ok info → ValidInputs info →
          ((validateRemoveLiquidity w info = .ok () ↔ (units : ℤ) ≤ tracked) ↔
            ¬ Separates tracked units (w.setToken.totalSupply * units / preciseUnit)) := by
  constructor
  · intro components minComponentUnitsReceived info hinfo hinputs
    exact validateRemoveLiquidity_iff_of_getActionInfo hread hinfo hinputs
  · intro component minComponentUnitsReceived info hinfo hinputs
    exact validateRemoveLiquidity_iff_of_getActionInfo hread hinfo hinputs

namespace Sample

/-- An adapter that knows every pool and encodes no call. -/
def adapter : AmmAdapter :=
  ⟨fun _ _ _ _ _ ↦ .error "no call", fun _ _ _ _ _ ↦ .error "no call",
    fun _ _ _ _ _ ↦ .error "no call", fun _ _ _ _ _ ↦ .error "no call", fun _ ↦ 9, fun _ _ ↦ true⟩

def module : AmmModule := ⟨5, fun _ ↦ adapter⟩

/-- Manager 2 calls the module, which finds its adapter at address 9. -/
def transaction : Env := { Env.plain 2 100 with integrationAdapter := fun _ _ ↦ 9 }

/-- Two Sets with one pool token each, all of them in the Set. -/
def world : World where
  controller := { Controller.enabling 4 [5] with isSet := fun _ ↦ true }
  setToken := SetToken.launched 6 [7] [10 ^ 18] [5] 2 2 (2 * 10 ^ 18)
  chain := { tokens := fun _ ↦ ERC20.holding 18 [(6, 2 * 10 ^ 18)] 0 }
  log := []

/-- The removal of an amount of pool token 7 for component 8. -/
def removal (liquidityQuantity : ℕ) : ActionInfo where
  totalSupply := 2 * 10 ^ 18
  ammAdapter := adapter
  liquidityToken := 7
  preActionLiquidityTokenBalance := 2 * 10 ^ 18
  preActionComponentBalances := [2 * 10 ^ 18]
  liquidityQuantity := liquidityQuantity
  totalNotionalComponents := [2]
  componentUnits := [1]
  components := [8]

theorem validInputs {liquidityQuantity : ℕ} (hpos : 0 < liquidityQuantity) :
    ValidInputs (removal liquidityQuantity) := by
  constructor
  · simp [validateCommon, removal, adapter, hpos]
  · simp [removal]

theorem getActionInfo_removal {units liquidityQuantity : ℕ}
    (hquantity : Position.getDefaultTotalNotional world.setToken.totalSupply units =
      .ok liquidityQuantity) :
    module.getActionInfo world transaction "UNISWAP" 7 [8] [1] units =
      .ok (removal liquidityQuantity) := by
  have hadapter : getAndValidateAdapter transaction module.address "UNISWAP" = .ok 9 := by
    decide +kernel
  have hnotional : getTotalNotionalComponents world [1] = .ok [2] := by decide +kernel
  unfold getActionInfo
  rw [hadapter, Outcome.ok_bind, hquantity, Outcome.ok_bind, hnotional]
  rfl

/-- The manager cannot remove the pool tokens that the Set tracks. -/
theorem removeLiquidity_rejects_tracked :
    module.getActionInfo world transaction "UNISWAP" 7 [8] [1] (10 ^ 18) =
        .ok (removal (2 * 10 ^ 18)) ∧
      ValidInputs (removal (2 * 10 ^ 18)) ∧
      world.setToken.getDefaultPositionRealUnit 7 = .ok (10 ^ 18) ∧
      ¬ (validateRemoveLiquidity world (removal (2 * 10 ^ 18)) = .ok () ↔
        ((10 ^ 18 : ℕ) : ℤ) ≤ 10 ^ 18) ∧
      (module.removeLiquidity world transaction "UNISWAP" 7 (10 ^ 18) [8] [1]).isOk = false := by
  refine ⟨getActionInfo_removal (by decide +kernel), validInputs (by norm_num), by decide +kernel, ?_,
    by decide +kernel⟩
  intro hiff
  have hok := hiff.mpr (by norm_num)
  have hfail : (validateRemoveLiquidity world (removal (2 * 10 ^ 18))).isOk = false := by
    decide +kernel
  rw [hok] at hfail
  cases hfail

/-- Half of them can be removed. -/
theorem half_owned_iff :
    (validateRemoveLiquidity world (removal (10 ^ 18)) = .ok () ↔
      ((5 * 10 ^ 17 : ℕ) : ℤ) ≤ 10 ^ 18) := by
  have hread : world.setToken.getDefaultPositionRealUnit 7 = .ok (10 ^ 18) := by decide +kernel
  have hinfo : module.getActionInfo world transaction "UNISWAP" 7 [8] [1] (5 * 10 ^ 17) =
      .ok (removal (10 ^ 18)) := getActionInfo_removal (by decide +kernel)
  exact ((removeLiquidity_owned_iff hread).1 _ _ _ hinfo (validInputs (by norm_num))).mpr
    (by decide +kernel)

end Sample

end AmmModule

end SetProtocol
