import SetProtocol.System.Protocol

/-!
# Issuance that tolerates irregular tokens

`DebtIssuanceModuleV2` overrides `issue` and `redeem` of `DebtIssuanceModule`.  It does not ask for
exact balances after a transfer; it checks after the transfer of each component that the SetToken
still holds enough of it for the supply.  The tokens outside the protocol may therefore do anything
in a transfer that leaves the SetToken's balances of the other components alone.
-/

namespace SetProtocol

open PreciseUnitMath ModuleBase

/-- What the tokens outside the protocol do in a transfer. -/
structure TokenBehaviour where
  transfer : (token sender recipient : Address) → (amount : ℕ) → Chain → Outcome Chain
  transferFrom : (token spender sender recipient : Address) → (amount : ℕ) → Chain → Outcome Chain

/-- Overwrite the state of a token outside the protocol. -/
def Chain.setToken (chain : Chain) (token : Address) (state : ERC20) : Chain :=
  { chain with tokens := Function.update chain.tokens token state }

namespace TokenBehaviour

/-- Tokens each of which changes its own state only. -/
def ofStates
    (transfer : (token sender recipient : Address) → (amount : ℕ) → ERC20 → Outcome ERC20)
    (transferFrom : (token spender sender recipient : Address) → (amount : ℕ) → ERC20 →
      Outcome ERC20) : TokenBehaviour where
  transfer := fun token sender recipient amount chain ↦
    chain.setToken token <$> transfer token sender recipient amount (chain.tokens token)
  transferFrom := fun token spender sender recipient amount chain ↦
    chain.setToken token <$>
      transferFrom token spender sender recipient amount (chain.tokens token)

/-- Tokens that follow the standard. -/
def standard : TokenBehaviour :=
  ofStates (fun _ sender recipient amount t ↦ t.transfer sender recipient amount)
    fun _ spender sender recipient amount t ↦ t.transferFrom spender sender recipient amount

/-- Tokens that keep one of every amount that is transferred on somebody's behalf. -/
def skimming : TokenBehaviour :=
  ofStates (fun _ sender recipient amount t ↦ t.transfer sender recipient amount)
    fun _ spender sender recipient amount t ↦ do
      let t ← t.transferFrom spender sender recipient amount
      pure (t.setBalance recipient (t.balances recipient - 1))

/-- A transfer of one token leaves the balances that `setToken` has of the other components. -/
structure Confined (tokens : TokenBehaviour) (setToken : Address) (components : List Address) :
    Prop where
  transfer : ∀ token sender recipient amount chain chain',
    tokens.transfer token sender recipient amount chain = .ok chain' →
    ∀ c ∈ components, c ≠ token →
      (chain'.tokens c).balances setToken = (chain.tokens c).balances setToken
  transferFrom : ∀ token spender sender recipient amount chain chain',
    tokens.transferFrom token spender sender recipient amount chain = .ok chain' →
    ∀ c ∈ components, c ≠ token →
      (chain'.tokens c).balances setToken = (chain.tokens c).balances setToken

theorem ofStates_confined
    (transfer : (token sender recipient : Address) → (amount : ℕ) → ERC20 → Outcome ERC20)
    (transferFrom : (token spender sender recipient : Address) → (amount : ℕ) → ERC20 →
      Outcome ERC20) (setToken : Address) (components : List Address) :
    (ofStates transfer transferFrom).Confined setToken components := by
  constructor
  · intro token sender recipient amount chain chain' h c _ hne
    obtain ⟨t, -, rfl⟩ := Outcome.map_eq_ok.mp h
    simp [Chain.setToken, hne]
  · intro token spender sender recipient amount chain chain' h c _ hne
    obtain ⟨t, -, rfl⟩ := Outcome.map_eq_ok.mp h
    simp [Chain.setToken, hne]

end TokenBehaviour

namespace World

/-- `SafeERC20.safeTransferFrom`.  The Set itself is a token of the protocol. -/
def safeTransferFrom (w : World) (tokens : TokenBehaviour)
    (token spender sender recipient : Address) (amount : ℕ) : Outcome World :=
  if token = w.setToken.address then
    w.transferFrom token spender sender recipient amount
  else do
    let chain ← tokens.transferFrom token spender sender recipient amount w.chain
    pure ({ w with chain := chain }.recordTransfer ⟨token, sender, recipient, amount⟩)

/-- `Invoke.invokeTransfer` with the tokens' own behaviour. -/
def invokeTransferBy (w : World) (tokens : TokenBehaviour) (env : Env)
    (module token recipient : Address) (quantity : ℕ) : Outcome World :=
  if token = w.setToken.address then
    w.invokeTransfer env module token recipient quantity
  else if 0 < quantity then do
    w.setToken.onlyModuleWhenLockedOnlyLocker w.controller module
    let chain ← tokens.transfer token w.setToken.address recipient quantity w.chain
    let call : Invocation := ⟨token, 0, .transfer recipient quantity⟩
    let w := { w with chain := chain, log := w.log ++ [call] }
    pure (w.recordTransfer ⟨token, w.setToken.address, recipient, quantity⟩)
  else
    pure w

end World

/-! ## The library `IssuanceValidationUtils` -/

namespace IssuanceValidationUtils

def validateCollateralizationPostTransferInPreHook (w : World) (component : Address)
    (initialSetSupply componentQuantity : ℕ) : Outcome Unit := do
  let unit ← w.setToken.getDefaultPositionRealUnit component
  let defaultPositionUnit ← SafeCast.toUint256 unit
  let tracked ← preciseMulCeil initialSetSupply defaultPositionUnit
  let needed ← SafeMath.add tracked componentQuantity
  require (needed ≤ w.balance component) "Invalid transfer in. Results in undercollateralization"

def validateCollateralizationPostTransferOut (w : World) (component : Address)
    (finalSetSupply : ℕ) : Outcome Unit := do
  let unit ← w.setToken.getDefaultPositionRealUnit component
  let defaultPositionUnit ← SafeCast.toUint256 unit
  let needed ← preciseMulCeil finalSetSupply defaultPositionUnit
  require (needed ≤ w.balance component) "Invalid transfer out. Results in undercollateralization"

end IssuanceValidationUtils

/-! ## The module

The state is that of `DebtIssuanceModule`, from which the contract inherits. -/

namespace DebtIssuanceModuleV2

open DebtIssuanceModule IssuanceValidationUtils

/-- One pass of the loop of `_resolveEquityPositions`, over a component with its equity and debt. -/
def resolveEquityPosition (m : DebtIssuanceModule) (tokens : TokenBehaviour) (P : Protocol)
    (env : Env) (quantity : ℕ) (recipient : Address) (isIssue : Bool)
    (initialSetSupply finalSetSupply : ℕ) (w : World) (entry : Address × ℕ × ℕ) : Outcome World :=
  let component := entry.1
  let componentQuantity := entry.2.1
  if 0 < componentQuantity then
    if isIssue then do
      let w ← w.safeTransferFrom tokens component m.address env.sender w.setToken.address
        componentQuantity
      validateCollateralizationPostTransferInPreHook w component initialSetSupply componentQuantity
      m.executeExternalPositionHooks P env w quantity component true true
    else do
      let w ← m.executeExternalPositionHooks P env w quantity component false true
      let w ← w.invokeTransferBy tokens env m.address component recipient componentQuantity
      validateCollateralizationPostTransferOut w component finalSetSupply
      pure w
  else
    pure w

/-- One pass of the loop of `_resolveDebtPositions`, over a component with its equity and debt. -/
def resolveDebtPosition (m : DebtIssuanceModule) (tokens : TokenBehaviour) (P : Protocol)
    (env : Env) (quantity : ℕ) (isIssue : Bool) (initialSetSupply finalSetSupply : ℕ) (w : World)
    (entry : Address × ℕ × ℕ) : Outcome World :=
  let component := entry.1
  let componentQuantity := entry.2.2
  if 0 < componentQuantity then
    if isIssue then do
      let w ← m.executeExternalPositionHooks P env w quantity component true false
      let w ← w.invokeTransferBy tokens env m.address component env.sender componentQuantity
      validateCollateralizationPostTransferOut w component finalSetSupply
      pure w
    else do
      let w ← w.safeTransferFrom tokens component m.address env.sender w.setToken.address
        componentQuantity
      validateCollateralizationPostTransferInPreHook w component initialSetSupply componentQuantity
      m.executeExternalPositionHooks P env w quantity component false false
  else
    pure w

def resolveEquityPositions (m : DebtIssuanceModule) (tokens : TokenBehaviour) (P : Protocol)
    (env : Env) (w : World) (quantity : ℕ) (recipient : Address) (isIssue : Bool)
    (required : List (Address × ℕ × ℕ)) (initialSetSupply finalSetSupply : ℕ) : Outcome World :=
  required.foldlM (resolveEquityPosition m tokens P env quantity recipient isIssue initialSetSupply
    finalSetSupply) w

def resolveDebtPositions (m : DebtIssuanceModule) (tokens : TokenBehaviour) (P : Protocol)
    (env : Env) (w : World) (quantity : ℕ) (isIssue : Bool) (required : List (Address × ℕ × ℕ))
    (initialSetSupply finalSetSupply : ℕ) : Outcome World :=
  required.foldlM (resolveDebtPosition m tokens P env quantity isIssue initialSetSupply
    finalSetSupply) w

/-- `issue` up to the fees: returns the state with the manager's and the protocol's fee. -/
def issuePositions (m : DebtIssuanceModule) (tokens : TokenBehaviour) (P : Protocol) (env : Env)
    (quantity : ℕ) (recipient : Address) : Outcome (Protocol × ℕ × ℕ) := do
  validateOnlyValidAndInitializedSet P.world m.address
  require (0 < quantity) "Issue quantity must be > 0"
  m.callManagerPreIssueHooks env quantity env.sender recipient
  let P ← m.callModulePreIssueHooks P env quantity
  let initialSetSupply := P.world.setToken.totalSupply
  let (quantityWithFees, managerFee, protocolFee) ← m.calculateTotalFees P.world quantity true
  let required ← calculateRequiredComponentIssuanceUnits P.world quantityWithFees true
  let finalSetSupply ← SafeMath.add initialSetSupply quantityWithFees
  let w ← resolveEquityPositions m tokens P env P.world quantityWithFees recipient true required
    initialSetSupply finalSetSupply
  let w ← resolveDebtPositions m tokens P env w quantityWithFees true required initialSetSupply
    finalSetSupply
  pure ({ P with world := w }, managerFee, protocolFee)

def issue (m : DebtIssuanceModule) (tokens : TokenBehaviour) (P : Protocol) (env : Env)
    (quantity : ℕ) (recipient : Address) : Outcome Protocol := do
  let (P, managerFee, protocolFee) ← issuePositions m tokens P env quantity recipient
  let w ← m.resolveFees P.world managerFee protocolFee
  let w ← w.onSetToken fun s ↦ s.mint w.controller m.address recipient quantity
  pure { P with world := w }

/-- `redeem` up to the fees: returns the state with the manager's and the protocol's fee. -/
def redeemPositions (m : DebtIssuanceModule) (tokens : TokenBehaviour) (P : Protocol) (env : Env)
    (quantity : ℕ) (recipient : Address) : Outcome (Protocol × ℕ × ℕ) := do
  validateOnlyValidAndInitializedSet P.world m.address
  require (0 < quantity) "Redeem quantity must be > 0"
  let P ← m.callModulePreRedeemHooks P env quantity
  let initialSetSupply := P.world.setToken.totalSupply
  let P ← m.burnQuantity P env quantity
  let (quantityNetFees, managerFee, protocolFee) ← m.calculateTotalFees P.world quantity false
  let required ← calculateRequiredComponentIssuanceUnits P.world quantityNetFees false
  let finalSetSupply ← SafeMath.sub initialSetSupply quantityNetFees
  let w ← resolveDebtPositions m tokens P env P.world quantityNetFees false required
    initialSetSupply finalSetSupply
  let w ← resolveEquityPositions m tokens P env w quantityNetFees recipient false required
    initialSetSupply finalSetSupply
  pure ({ P with world := w }, managerFee, protocolFee)

def redeem (m : DebtIssuanceModule) (tokens : TokenBehaviour) (P : Protocol) (env : Env)
    (quantity : ℕ) (recipient : Address) : Outcome Protocol := do
  let (P, managerFee, protocolFee) ← redeemPositions m tokens P env quantity recipient
  let w ← m.resolveFees P.world managerFee protocolFee
  pure { P with world := w }

/-- One pass of the loop of `_getTotalIssuanceUnitsFromBalances`: the equity starts from the balance
and not from the default unit. -/
def componentIssuanceUnitsFromBalance (w : World) (component : Address) :
    Outcome (Address × ℕ × ℕ) := do
  let balanceUnit ←
    Position.getDefaultPositionUnit w.setToken.totalSupply (w.balance component)
  let balanceUnit ← SafeCast.toInt256 balanceUnit
  let units ← (w.setToken.externalPositionModules component).foldlM (addExternalUnit w component)
    (balanceUnit, 0)
  let equity ← SafeCast.toUint256 units.1
  let negated ← SignedSafeMath.mul units.2 (-1)
  let debt ← SafeCast.toUint256 negated
  pure (component, equity, debt)

def getRequiredComponentIssuanceUnits (m : DebtIssuanceModule) (w : World) (quantity : ℕ) :
    Outcome (List (Address × ℕ × ℕ)) := do
  let fees ← m.calculateTotalFees w quantity true
  if w.setToken.totalSupply = 0 then
    calculateRequiredComponentIssuanceUnits w fees.1 true
  else do
    let units ← w.setToken.components.mapM (componentIssuanceUnitsFromBalance w)
    units.mapM (requiredQuantities fees.1 true)

end DebtIssuanceModuleV2

/-! ## What the transfers leave -/

namespace World

variable {w v v' : World} {tokens : TokenBehaviour} {env : Env} {amount : ℕ}
  {module token spender sender recipient c : Address}

/-- Contracts outside the protocol change, among them no balance of the component `c`. -/
theorem balance_of_chain {chain : Chain} {log : List Invocation} {transfers : List Transfer}
    (h : (chain.tokens c).balances w.setToken.address =
      (w.chain.tokens c).balances w.setToken.address) :
    World.balance ⟨w.controller, w.setToken, chain, log, transfers⟩ c = w.balance c := by
  by_cases hc : c = w.setToken.address
  · simp [balance, erc20, hc]
  · simpa [balance, erc20, hc] using h

theorem safeTransferFrom_steady
    (h : w.safeTransferFrom tokens token spender sender recipient amount = .ok v) :
    w.Steady v := by
  unfold safeTransferFrom at h
  split_ifs at h
  · exact .of_move (transferFrom_moveStep h).1
  · simp only [Outcome.bind_eq_ok, Outcome.pure_eq_ok] at h
    obtain ⟨chain, -, rfl⟩ := h
    exact ⟨rfl, _, rfl, rfl⟩

theorem safeTransferFrom_other {components : List Address}
    (h : w.safeTransferFrom tokens token spender sender recipient amount = .ok v)
    (htokens : tokens.Confined w.setToken.address components) (hc : c ∈ components)
    (hne : c ≠ token) : v.balance c = w.balance c := by
  unfold safeTransferFrom at h
  split_ifs at h
  · exact (transferFrom_moveStep h).1.balance_of_ne hne
  · simp only [Outcome.bind_eq_ok, Outcome.pure_eq_ok] at h
    obtain ⟨chain, hchain, rfl⟩ := h
    exact balance_of_chain (htokens.transferFrom _ _ _ _ _ _ _ hchain c hc hne)

theorem invokeTransferBy_steady
    (h : w.invokeTransferBy tokens env module token recipient amount = .ok v) : w.Steady v := by
  unfold invokeTransferBy at h
  split_ifs at h
  · exact .of_move (invokeTransfer_moveStep h)
  · simp only [Outcome.bind_eq_ok, Outcome.pure_eq_ok] at h
    obtain ⟨_, -, chain, -, rfl⟩ := h
    exact ⟨rfl, _, rfl, rfl⟩
  · obtain rfl := Outcome.pure_eq_ok.mp h
    exact .refl w

theorem invokeTransferBy_other {components : List Address}
    (h : w.invokeTransferBy tokens env module token recipient amount = .ok v)
    (htokens : tokens.Confined w.setToken.address components) (hc : c ∈ components)
    (hne : c ≠ token) : v.balance c = w.balance c := by
  unfold invokeTransferBy at h
  split_ifs at h
  · exact (invokeTransfer_moveStep h).balance_of_ne hne
  · simp only [Outcome.bind_eq_ok, Outcome.pure_eq_ok] at h
    obtain ⟨_, -, chain, hchain, rfl⟩ := h
    exact balance_of_chain (htokens.transfer _ _ _ _ _ _ hchain c hc hne)
  · obtain rfl := Outcome.pure_eq_ok.mp h
    rfl

end World

/-! ## Collateralization by the checks in the loops -/

namespace DebtIssuanceModuleV2

open DebtIssuanceModule IssuanceValidationUtils

variable {m : DebtIssuanceModule} {tokens : TokenBehaviour} {P P' : Protocol} {env : Env}
  {w v v' : World} {quantity initialSetSupply finalSetSupply total : ℕ} {recipient c : Address}
  {isIssue isEquity : Bool} {entry : Address × ℕ × ℕ} {required : List (Address × ℕ × ℕ)}

/-- A product of precise units, rounded up. -/
def ceilUnits (supply unit : ℕ) : ℕ := (supply * unit + preciseUnit - 1) / preciseUnit

theorem le_ceilUnits_mul (supply unit : ℕ) : supply * unit ≤ ceilUnits supply unit * preciseUnit := by
  have hdiv := Nat.lt_div_mul_add (a := supply * unit + preciseUnit - 1) preciseUnit_pos
  have hpos := preciseUnit_pos
  unfold ceilUnits
  omega

theorem ceilUnits_le {supply unit amount : ℕ} (h : supply * unit ≤ amount * preciseUnit) :
    ceilUnits supply unit ≤ amount := by
  have hpos := preciseUnit_pos
  unfold ceilUnits
  rw [← Nat.lt_succ_iff, Nat.div_lt_iff_lt_mul hpos, Nat.succ_mul]
  omega

theorem ceilUnits_mono {supply supply' : ℕ} (unit : ℕ) (h : supply ≤ supply') :
    ceilUnits supply unit ≤ ceilUnits supply' unit := by
  apply ceilUnits_le
  calc supply * unit ≤ supply' * unit := Nat.mul_le_mul_right unit h
    _ ≤ ceilUnits supply' unit * preciseUnit := le_ceilUnits_mul supply' unit

/-- What two supplies need, each rounded up, is enough for both together. -/
theorem ceilUnits_add_le (supply total unit : ℕ) :
    ceilUnits (supply + total) unit ≤ ceilUnits supply unit + ceilUnits unit total := by
  apply ceilUnits_le
  calc (supply + total) * unit = supply * unit + unit * total := by ring
    _ ≤ ceilUnits supply unit * preciseUnit + ceilUnits unit total * preciseUnit :=
        add_le_add (le_ceilUnits_mul supply unit) (le_ceilUnits_mul unit total)
    _ = (ceilUnits supply unit + ceilUnits unit total) * preciseUnit := by ring

/-- What the check after the transfer of a component asks for. -/
def neededBalance (w : World) (initialSetSupply finalSetSupply : ℕ) (isIssue : Bool)
    (entry : Address × ℕ × ℕ) : ℕ :=
  let unit := (w.setToken.defaultRealUnit entry.1).toNat
  if isIssue then ceilUnits initialSetSupply unit + entry.2.1 else ceilUnits finalSetSupply unit

theorem executeExternalPositionHooks_of_none (hext : w.setToken.externalPositionModules c = [])
    (h : m.executeExternalPositionHooks P env w quantity c isIssue isEquity = .ok v) : v = w := by
  unfold executeExternalPositionHooks at h
  rw [hext] at h
  cases isIssue with
  | true => exact (Outcome.pure_eq_ok.mp h).symm
  | false => exact (Outcome.pure_eq_ok.mp h).symm

theorem validateIn_ok {u : Unit}
    (h : validateCollateralizationPostTransferInPreHook w c initialSetSupply quantity = .ok u) :
    ceilUnits initialSetSupply (w.setToken.defaultRealUnit c).toNat + quantity ≤ w.balance c := by
  simp only [validateCollateralizationPostTransferInPreHook, Outcome.bind_eq_ok,
    SetToken.getDefaultPositionRealUnit_eq_ok, SafeCast.toUint256_eq_ok, SafeMath.add_eq_ok,
    Outcome.require_eq_ok] at h
  obtain ⟨_, ⟨-, rfl⟩, unit, hunit, tracked, htracked, _, ⟨-, rfl⟩, hle⟩ := h
  rw [preciseMulCeil_eq_of_ok htracked] at hle
  rwa [hunit, Int.toNat_natCast]

theorem validateOut_ok {u : Unit}
    (h : validateCollateralizationPostTransferOut w c finalSetSupply = .ok u) :
    ceilUnits finalSetSupply (w.setToken.defaultRealUnit c).toNat ≤ w.balance c := by
  simp only [validateCollateralizationPostTransferOut, Outcome.bind_eq_ok,
    SetToken.getDefaultPositionRealUnit_eq_ok, SafeCast.toUint256_eq_ok,
    Outcome.require_eq_ok] at h
  obtain ⟨_, ⟨-, rfl⟩, unit, hunit, needed, hneeded, hle⟩ := h
  rw [preciseMulCeil_eq_of_ok hneeded] at hle
  rwa [hunit, Int.toNat_natCast]

theorem resolveEquityPosition_steady
    (h : resolveEquityPosition m tokens P env quantity recipient isIssue initialSetSupply
      finalSetSupply w entry = .ok v) : w.Steady v := by
  unfold resolveEquityPosition at h
  dsimp only at h
  split_ifs at h
  · simp only [Outcome.bind_eq_ok] at h
    obtain ⟨u, htransfer, _, -, hhooks⟩ := h
    exact (World.safeTransferFrom_steady htransfer).trans
      (executeExternalPositionHooks_steady hhooks)
  · simp only [Outcome.bind_eq_ok, Outcome.pure_eq_ok] at h
    obtain ⟨u, hhooks, _, htransfer, _, -, rfl⟩ := h
    exact (executeExternalPositionHooks_steady hhooks).trans
      (World.invokeTransferBy_steady htransfer)
  · obtain rfl := Outcome.pure_eq_ok.mp h
    exact .refl w

theorem resolveDebtPosition_steady
    (h : resolveDebtPosition m tokens P env quantity isIssue initialSetSupply finalSetSupply w
      entry = .ok v) : w.Steady v := by
  unfold resolveDebtPosition at h
  dsimp only at h
  split_ifs at h
  · simp only [Outcome.bind_eq_ok, Outcome.pure_eq_ok] at h
    obtain ⟨u, hhooks, _, htransfer, _, -, rfl⟩ := h
    exact (executeExternalPositionHooks_steady hhooks).trans
      (World.invokeTransferBy_steady htransfer)
  · simp only [Outcome.bind_eq_ok] at h
    obtain ⟨u, htransfer, _, -, hhooks⟩ := h
    exact (World.safeTransferFrom_steady htransfer).trans
      (executeExternalPositionHooks_steady hhooks)
  · obtain rfl := Outcome.pure_eq_ok.mp h
    exact .refl w

theorem resolveEquityPositions_steady
    (h : resolveEquityPositions m tokens P env w quantity recipient isIssue required
      initialSetSupply finalSetSupply = .ok v) : w.Steady v :=
  Outcome.foldlM_invariant (P := w.Steady)
    (fun _ _ _ hstep hs ↦ hs.trans (resolveEquityPosition_steady hstep)) h (.refl w)

theorem resolveDebtPositions_steady
    (h : resolveDebtPositions m tokens P env w quantity isIssue required initialSetSupply
      finalSetSupply = .ok v) : w.Steady v :=
  Outcome.foldlM_invariant (P := w.Steady)
    (fun _ _ _ hstep hs ↦ hs.trans (resolveDebtPosition_steady hstep)) h (.refl w)

/-- What one pass of the equity loop leaves for a component without external positions. -/
structure EquityPass (w v v' : World) (components : List Address)
    (initialSetSupply finalSetSupply : ℕ) (isIssue : Bool) (entry : Address × ℕ × ℕ) : Prop where
  steady : v.Steady v'
  unmoved : entry.2.1 = 0 → v' = v
  other : ∀ c ∈ components, c ≠ entry.1 → v'.balance c = v.balance c
  moved : 0 < entry.2.1 →
    neededBalance w initialSetSupply finalSetSupply isIssue entry ≤ v'.balance entry.1

theorem resolveEquityPosition_pass {components : List Address} (hsteady : w.Steady v)
    (hext : w.setToken.externalPositionModules entry.1 = [])
    (htokens : tokens.Confined w.setToken.address components)
    (h : resolveEquityPosition m tokens P env quantity recipient isIssue initialSetSupply
      finalSetSupply v entry = .ok v') :
    EquityPass w v v' components initialSetSupply finalSetSupply isIssue entry := by
  have htokens' : tokens.Confined v.setToken.address components := hsteady.address ▸ htokens
  have hnone : v.setToken.externalPositionModules entry.1 = [] :=
    (hsteady.externalPositionModules entry.1).trans hext
  unfold resolveEquityPosition at h
  dsimp only at h
  split_ifs at h with hpos hissue
  · simp only [Outcome.bind_eq_ok] at h
    obtain ⟨u, htransfer, _, hvalid, hhooks⟩ := h
    have hu := World.safeTransferFrom_steady htransfer
    obtain rfl := executeExternalPositionHooks_of_none
      ((hu.externalPositionModules entry.1).trans hnone) hhooks
    refine ⟨hu, by omega, ?_, ?_⟩
    · intro c hc hne
      exact World.safeTransferFrom_other htransfer htokens' hc hne
    · intro _
      have hle := validateIn_ok hvalid
      rw [(hsteady.trans hu).defaultRealUnit] at hle
      simpa only [neededBalance, hissue, if_true] using hle
  · simp only [Outcome.bind_eq_ok, Outcome.pure_eq_ok] at h
    obtain ⟨u, hhooks, t, htransfer, _, hvalid, rfl⟩ := h
    obtain rfl := executeExternalPositionHooks_of_none hnone hhooks
    have ht := World.invokeTransferBy_steady htransfer
    refine ⟨ht, by omega, ?_, ?_⟩
    · intro c hc hne
      exact World.invokeTransferBy_other htransfer htokens' hc hne
    · intro _
      have hle := validateOut_ok hvalid
      rw [(hsteady.trans ht).defaultRealUnit] at hle
      simpa only [neededBalance, hissue, Bool.false_eq_true, if_false] using hle
  · obtain rfl := Outcome.pure_eq_ok.mp h
    exact ⟨.refl v, fun _ ↦ rfl, fun _ _ _ ↦ rfl, fun hpos' ↦ absurd hpos' hpos⟩

/-- After the loop every component that moved passes its check, and the others are as before. -/
theorem resolveEquityPositions_balances
    (hext : ∀ c ∈ w.setToken.components, w.setToken.externalPositionModules c = [])
    (htokens : tokens.Confined w.setToken.address w.setToken.components)
    (hrequired : ∀ entry ∈ required, DefaultOnly w total isIssue entry) (hsteady : w.Steady v)
    (h : resolveEquityPositions m tokens P env v quantity recipient isIssue required
      initialSetSupply finalSetSupply = .ok v') :
    w.Steady v' ∧ ∀ entry ∈ required,
      (0 < entry.2.1 →
        neededBalance w initialSetSupply finalSetSupply isIssue entry ≤ v'.balance entry.1) ∧
      (entry.2.1 = 0 → v'.balance entry.1 = v.balance entry.1) := by
  have hpass : ∀ u, ∀ e ∈ required, ∀ u', resolveEquityPosition m tokens P env quantity recipient
      isIssue initialSetSupply finalSetSupply u e = .ok u' → w.Steady u →
      EquityPass w u u' w.setToken.components initialSetSupply finalSetSupply isIssue e := by
    intro u e he u' hu hs
    exact resolveEquityPosition_pass hs (hext e.1 (hrequired e he).mem) htokens hu
  have hinv : ∀ u, ∀ e ∈ required, ∀ u', resolveEquityPosition m tokens P env quantity recipient
      isIssue initialSetSupply finalSetSupply u e = .ok u' → w.Steady u → w.Steady u' := by
    intro u e he u' hu hs
    exact hs.trans (hpass u e he u' hu hs).steady
  refine ⟨Outcome.foldlM_invariant_of_mem hinv h hsteady, ?_⟩
  intro entry hentry
  -- Entries of one component agree, so the last of them decides.
  have hsame : ∀ e ∈ required, e.1 = entry.1 → e.2.1 = entry.2.1 := by
    intro e he heq
    have hequity := (hrequired e he).equity
    rw [heq, (hrequired entry hentry).equity] at hequity
    exact (Except.ok.inj hequity).symm
  refine ⟨?_, ?_⟩
  · intro hpos
    apply Outcome.foldlM_establish hentry hinv ?_ ?_ h hsteady
    · intro u u' hu hs
      exact (hpass u entry hentry u' hu hs).moved hpos
    · intro u e he u' hu hs hle
      by_cases heq : e.1 = entry.1
      · have hmoved := (hpass u e he u' hu hs).moved (by rw [hsame e he heq]; exact hpos)
        unfold neededBalance at hmoved
        rw [heq, hsame e he heq] at hmoved
        exact hmoved
      · rw [(hpass u e he u' hu hs).other entry.1 (hrequired entry hentry).mem (Ne.symm heq)]
        exact hle
  · intro hzero
    apply (Outcome.foldlM_invariant_of_mem
      (P := fun u : World ↦ w.Steady u ∧ u.balance entry.1 = v.balance entry.1) ?_ h
      ⟨hsteady, rfl⟩).2
    intro u e he u' hu ⟨hs, hbalance⟩
    refine ⟨hinv u e he u' hu hs, ?_⟩
    by_cases heq : e.1 = entry.1
    · rw [(hpass u e he u' hu hs).unmoved ((hsame e he heq).trans hzero)]
      exact hbalance
    · rw [(hpass u e he u' hu hs).other entry.1 (hrequired entry hentry).mem (Ne.symm heq)]
      exact hbalance

/-- Without debts the loop over them does nothing. -/
theorem resolveDebtPositions_of_none (hrequired : ∀ entry ∈ required, entry.2.2 = 0)
    (h : resolveDebtPositions m tokens P env v quantity isIssue required initialSetSupply
      finalSetSupply = .ok v') : v' = v := by
  apply Outcome.foldlM_invariant_of_mem (P := fun u ↦ u = v) ?_ h rfl
  intro u entry hentry u' hu hs
  unfold resolveDebtPosition at hu
  simp only [hrequired entry hentry, lt_irrefl, if_false, Outcome.pure_eq_ok] at hu
  exact hu.symm.trans hs

/-- None of the accounts that get or lose Sets in the operation is the SetToken itself. -/
structure ForeignAccounts (m : DebtIssuanceModule) (w : World) (env : Env) (recipient : Address) :
    Prop where
  sender : env.sender ≠ w.setToken.address
  recipient : recipient ≠ w.setToken.address
  feeRecipient : m.settings.feeRecipient ≠ w.setToken.address
  protocolFeeRecipient : w.controller.feeRecipient ≠ w.setToken.address

/-- Fees do not change a balance of the SetToken unless it receives them. -/
theorem resolveFees_balance_eq {managerFee protocolFee : ℕ}
    (h : m.resolveFees w managerFee protocolFee = .ok v)
    (hself : c = w.setToken.address → m.settings.feeRecipient ≠ w.setToken.address ∧
      w.controller.feeRecipient ≠ w.setToken.address) : v.balance c = w.balance c := by
  apply (resolveFees_mintStep h).balance_eq
  intro hc
  obtain ⟨hfee, hprotocol⟩ := hself hc
  rw [resolveFees_balances h, if_neg hfee.symm, if_neg hprotocol.symm, add_zero, ite_self, add_zero]

/-- What an operation guarantees for a component, of which `moved` was to be transferred. -/
structure ComponentOutcome (m : DebtIssuanceModule) (P P' : Protocol) (env : Env)
    (recipient c : Address) (moved : ℕ) : Prop where
  covered : 0 < moved → ceilUnits P'.world.setToken.totalSupply
    (P'.world.setToken.defaultRealUnit c).toNat ≤ P'.world.balance c
  kept : moved = 0 → (c = P.world.setToken.address → ForeignAccounts m P.world env recipient) →
    P'.world.balance c = P.world.balance c

/-- The hooks of modules that are called first leave the Set and what it holds as they are. -/
def QuietHooks (m : DebtIssuanceModule) (P : Protocol) (env : Env) (quantity : ℕ)
    (isIssue : Bool) : Prop :=
  ∀ P₁, m.callModulePreHooks P env quantity isIssue = .ok P₁ →
    P₁.world.setToken = P.world.setToken ∧
      ∀ c ∈ P.world.setToken.components, P₁.world.balance c = P.world.balance c

theorem issue_outcome (h : issue m tokens P env quantity recipient = .ok P')
    (hext : ∀ c ∈ P.world.setToken.components, P.world.setToken.externalPositionModules c = [])
    (htokens : tokens.Confined P.world.setToken.address P.world.setToken.components)
    (hhooks : QuietHooks m P env quantity true) :
    ∃ total managerFee protocolFee,
      m.calculateTotalFees P.world quantity true = .ok (total, managerFee, protocolFee) ∧
      ∀ c ∈ P.world.setToken.components, ∃ moved,
        equityQuantity (P.world.setToken.defaultRealUnit c).toNat total true = .ok moved ∧
          ComponentOutcome m P P' env recipient c moved := by
  simp only [issue, issuePositions, Outcome.bind_eq_ok, Outcome.pure_eq_ok, Prod.exists,
    Prod.mk.injEq] at h
  obtain ⟨_, _, _, ⟨_, -, _, -, _, -, P₁, hpre, total, managerFee, protocolFee, hfees, required,
    hrequired, _, -, v₁, hequity, v, hdebt, rfl, rfl, rfl⟩, u, hresolve, w', hmint, rfl⟩ := h
  have hcontroller := (callModulePreIssueHooks_sameStatus hpre).controller
  obtain ⟨hset, hbalances⟩ := hhooks P₁ hpre
  rw [calculateTotalFees_congr hcontroller] at hfees
  rw [← hset] at hext htokens ⊢
  obtain ⟨hentries, hcomponents⟩ := calculateRequiredComponentIssuanceUnits_of_none hext hrequired
  obtain ⟨hsteady, hloop⟩ :=
    resolveEquityPositions_balances hext htokens hentries (.refl P₁.world) hequity
  obtain rfl := resolveDebtPositions_of_none (fun e he ↦ (hentries e he).debt) hdebt
  dsimp only at hresolve ⊢
  have hfeeStep := resolveFees_mintStep hresolve
  have hmintStep := mint_mintStep hmint
  obtain ⟨hsum, -, htotal⟩ := calculateTotalFees_ok hfees
  rw [if_pos rfl] at htotal
  refine ⟨total, managerFee, protocolFee, hfees, ?_⟩
  intro c hc
  obtain ⟨entry, hentry, rfl⟩ := hcomponents c hc
  refine ⟨entry.2.1, (hentries entry hentry).equity, ?_, ?_⟩
  · intro hpos
    have hneeded := (hloop entry hentry).1 hpos
    simp only [neededBalance, if_true] at hneeded
    have hmoved : entry.2.1 = ceilUnits (P₁.world.setToken.defaultRealUnit entry.1).toNat total :=
      preciseMulCeil_eq_of_ok (hentries entry hentry).equity
    have hunit : w'.setToken.defaultRealUnit entry.1 = P₁.world.setToken.defaultRealUnit entry.1 := by
      rw [hmintStep.defaultRealUnit, hfeeStep.defaultRealUnit, hsteady.defaultRealUnit]
    have hsupply : w'.setToken.totalSupply ≤ P₁.world.setToken.totalSupply + total := by
      have hminted := mintedFees_le managerFee protocolFee
      rw [hmintStep.totalSupply, hfeeStep.totalSupply, hsteady.totalSupply]
      omega
    rw [hmoved] at hneeded
    rw [hunit]
    calc ceilUnits w'.setToken.totalSupply (P₁.world.setToken.defaultRealUnit entry.1).toNat
        ≤ ceilUnits (P₁.world.setToken.totalSupply + total) _ := ceilUnits_mono _ hsupply
      _ ≤ ceilUnits P₁.world.setToken.totalSupply _ + ceilUnits _ total := ceilUnits_add_le _ _ _
      _ ≤ v.balance entry.1 := hneeded
      _ ≤ u.balance entry.1 := hfeeStep.balance_le entry.1
      _ ≤ w'.balance entry.1 := hmintStep.balance_le entry.1
  · intro hzero hforeign
    have haddress : v.setToken.address = P.world.setToken.address := by
      rw [hsteady.address, hset]
    have hfee : u.balance entry.1 = v.balance entry.1 := by
      apply resolveFees_balance_eq hresolve
      rw [haddress, hsteady.controller, hcontroller]
      exact fun hself ↦ ⟨(hforeign hself).feeRecipient, (hforeign hself).protocolFeeRecipient⟩
    have hmint' : w'.balance entry.1 = u.balance entry.1 := by
      apply hmintStep.balance_eq
      rw [hfeeStep.address, haddress]
      intro hself
      rw [mint_balances hmint, if_neg (hforeign hself).recipient.symm, add_zero]
    rw [hmint', hfee, (hloop entry hentry).2 hzero]
    rw [hset] at hc
    exact hbalances entry.1 hc

theorem redeem_outcome (h : redeem m tokens P env quantity recipient = .ok P')
    (hext : ∀ c ∈ P.world.setToken.components, P.world.setToken.externalPositionModules c = [])
    (htokens : tokens.Confined P.world.setToken.address P.world.setToken.components)
    (hhooks : QuietHooks m P env quantity false) :
    ∃ total managerFee protocolFee,
      m.calculateTotalFees P.world quantity false = .ok (total, managerFee, protocolFee) ∧
      ∀ c ∈ P.world.setToken.components, ∃ moved,
        equityQuantity (P.world.setToken.defaultRealUnit c).toNat total false = .ok moved ∧
          ComponentOutcome m P P' env recipient c moved := by
  simp only [redeem, redeemPositions, burnQuantity, Protocol.onWorld, Outcome.bind_eq_ok,
    Outcome.pure_eq_ok, SafeMath.sub_eq_ok, Prod.exists, Prod.mk.injEq] at h
  obtain ⟨_, _, _, ⟨_, -, _, -, P₁, hpre, _, ⟨b, hburn, rfl⟩, total, managerFee, protocolFee,
    hfees, required, hrequired, _, ⟨hle, rfl⟩, v₁, hdebt, v, hequity, rfl, rfl, rfl⟩, w', hresolve,
    rfl⟩ := h
  dsimp only at hfees hrequired hequity hdebt hresolve ⊢
  have hcontroller := (callModulePreRedeemHooks_sameStatus hpre).controller
  obtain ⟨hset, hbalances⟩ := hhooks P₁ hpre
  have hburnStep := burn_burnStep hburn
  obtain ⟨t, ht, -⟩ := hburnStep.setToken
  rw [calculateTotalFees_congr (hburnStep.controller.trans hcontroller)] at hfees
  have hb : b.setToken = P.world.setToken.setErc20 t := by rw [ht, hset]
  have hextBurnt : ∀ c ∈ b.setToken.components, b.setToken.externalPositionModules c = [] := by
    rw [hb]
    exact hext
  have htokensBurnt : tokens.Confined b.setToken.address b.setToken.components := by
    rw [hb]
    exact htokens
  obtain ⟨hentries, hcomponents⟩ :=
    calculateRequiredComponentIssuanceUnits_of_none hextBurnt hrequired
  obtain rfl := resolveDebtPositions_of_none (fun e he ↦ (hentries e he).debt) hdebt
  obtain ⟨hsteady, hloop⟩ :=
    resolveEquityPositions_balances hextBurnt htokensBurnt hentries (.refl v₁) hequity
  have hfeeStep := resolveFees_mintStep hresolve
  obtain ⟨hsum, -, htotal⟩ := calculateTotalFees_ok hfees
  simp only [Bool.false_eq_true, if_false] at htotal
  refine ⟨total, managerFee, protocolFee, hfees, ?_⟩
  intro c hc
  have hcb : c ∈ v₁.setToken.components := by
    rw [hb]
    exact hc
  obtain ⟨entry, hentry, rfl⟩ := hcomponents c hcb
  have hequityOf := (hentries entry hentry).equity
  rw [hb, SetToken.setErc20_defaultRealUnit] at hequityOf
  refine ⟨entry.2.1, hequityOf, ?_, ?_⟩
  · intro hpos
    have hneeded := (hloop entry hentry).1 hpos
    simp only [neededBalance, Bool.false_eq_true, if_false] at hneeded
    have hunit : w'.setToken.defaultRealUnit entry.1 = v₁.setToken.defaultRealUnit entry.1 := by
      rw [hfeeStep.defaultRealUnit, hsteady.defaultRealUnit]
    have hsupply : w'.setToken.totalSupply ≤ P₁.world.setToken.totalSupply - total := by
      have hminted := mintedFees_le managerFee protocolFee
      have hburnt := hburnStep.totalSupply
      rw [hfeeStep.totalSupply, hsteady.totalSupply]
      omega
    rw [hunit]
    calc ceilUnits w'.setToken.totalSupply (v₁.setToken.defaultRealUnit entry.1).toNat
        ≤ ceilUnits (P₁.world.setToken.totalSupply - total) _ := ceilUnits_mono _ hsupply
      _ ≤ v.balance entry.1 := hneeded
      _ ≤ w'.balance entry.1 := hfeeStep.balance_le entry.1
  · intro hzero hforeign
    have haddress : v.setToken.address = P.world.setToken.address := by
      rw [hsteady.address, hb, SetToken.setErc20_address]
    have hfee : w'.balance entry.1 = v.balance entry.1 := by
      apply resolveFees_balance_eq hresolve
      rw [haddress, hsteady.controller, hburnStep.controller, hcontroller]
      exact fun hself ↦ ⟨(hforeign hself).feeRecipient, (hforeign hself).protocolFeeRecipient⟩
    have hburnt : v₁.balance entry.1 = P₁.world.balance entry.1 := by
      apply hburnStep.balance_eq
      rw [hset]
      exact fun hself ↦ (hforeign hself).sender
    rw [hfee, (hloop entry hentry).2 hzero, hburnt]
    exact hbalances entry.1 hc

/-- Whatever the tokens do, a successful issue or redemption of a Set with default positions covers
every component that moved for the supply after fees, and leaves the others alone. -/
theorem covered_of_issuance {isIssue : Bool}
    (h : (if isIssue then issue m tokens P env quantity recipient
      else redeem m tokens P env quantity recipient) = .ok P')
    (hext : ∀ c ∈ P.world.setToken.components, P.world.setToken.externalPositionModules c = [])
    (htokens : tokens.Confined P.world.setToken.address P.world.setToken.components)
    (hhooks : QuietHooks m P env quantity isIssue) :
    ∃ total managerFee protocolFee,
      m.calculateTotalFees P.world quantity isIssue = .ok (total, managerFee, protocolFee) ∧
      ∀ c ∈ P.world.setToken.components, ∃ moved,
        equityQuantity (P.world.setToken.defaultRealUnit c).toNat total isIssue = .ok moved ∧
          ComponentOutcome m P P' env recipient c moved := by
  cases isIssue with
  | true => exact issue_outcome h hext htokens hhooks
  | false => exact redeem_outcome h hext htokens hhooks

namespace Sample

/-- Two Sets with unit 3 of component 7, of which the SetToken has one more than it needs. -/
def before : Protocol :=
  .idle {
    controller := { Controller.enabling 4 [20] with isSet := fun a ↦ a == 6 }
    setToken := SetToken.launched 6 [7] [3] [20] 2 9 (2 * 10 ^ 18)
    chain := { tokens := fun _ ↦ ERC20.holding 18 [(6, 7), (9, 100)] 1000 }
    log := [] }

/-- A fee of 1% on issue. -/
def module : DebtIssuanceModule :=
  ⟨20, { IssuanceSettings.empty with
    maxManagerFee := 10 ^ 17, managerIssueFee := 10 ^ 16, feeRecipient := 5 }⟩

def issued : Outcome Protocol := issue module .skimming before (Env.plain 9 0) (10 ^ 18) 9

/-- The token keeps one of the four that are sent in; the SetToken's surplus makes up for it. -/
theorem issued_covered :
    0 < (before.world.setToken.defaultRealUnit 7).toNat ∧
      ∃ total managerFee protocolFee,
        module.calculateTotalFees before.world (10 ^ 18) true =
          .ok (total, managerFee, protocolFee) ∧
        ∀ c ∈ before.world.setToken.components, ∃ moved,
          equityQuantity (before.world.setToken.defaultRealUnit c).toNat total true = .ok moved ∧
            ComponentOutcome module before (issued.getD before) (Env.plain 9 0) 9 c moved := by
  refine ⟨by decide +kernel, ?_⟩
  have hissued : (if true then issue module .skimming before (Env.plain 9 0) (10 ^ 18) 9
      else redeem module .skimming before (Env.plain 9 0) (10 ^ 18) 9) =
      .ok (issued.getD before) := Outcome.eq_ok_getD before (by decide +kernel)
  refine covered_of_issuance hissued ?_ ?_ ?_
  · intro c hc
    obtain rfl := List.mem_singleton.mp hc
    rfl
  · exact TokenBehaviour.ofStates_confined _ _ _ _
  · intro P₁ hP₁
    obtain rfl := Outcome.pure_eq_ok.mp hP₁
    exact ⟨rfl, fun _ _ ↦ rfl⟩

end Sample

end DebtIssuanceModuleV2

end SetProtocol
