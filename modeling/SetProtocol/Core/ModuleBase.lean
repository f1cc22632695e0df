import SetProtocol.Core.Position
import SetProtocol.Foundation.Backing
import SetProtocol.Core.World

/-!
# What all modules share

The abstract contracts `ModuleBase` and `ExtendModuleBase`.  A module is known by its address;
`sender` is the account that calls it.  Calls are executed one after the other, so the reentrancy
guards of the modules are always open.
-/

namespace SetProtocol.ModuleBase

open PreciseUnitMath

def getAndValidateAdapter (env : Env) (module : Address) (integrationName : String) :
    Outcome Address := do
  let adapter := env.integrationAdapter module integrationName
  require (adapter ≠ 0) "Must be valid adapter"
  pure adapter

def getModuleFee (w : World) (module : Address) (feeIndex quantity : ℕ) : Outcome ℕ :=
  preciseMul quantity (w.controller.getModuleFee module feeIndex)

def payProtocolFeeFromSetToken (w : World) (env : Env) (module token : Address)
    (feeQuantity : ℕ) : Outcome World :=
  if 0 < feeQuantity then
    w.strictInvokeTransfer env module token w.controller.feeRecipient feeQuantity
  else
    pure w

def isSetPendingInitialization (w : World) (module : Address) : Bool :=
  w.setToken.isPendingModule module

def isSetManager (w : World) (toCheck : Address) : Bool :=
  w.setToken.manager == toCheck

def isSetValidAndInitialized (w : World) (module : Address) : Bool :=
  w.controller.isSet w.setToken.address && w.setToken.isInitializedModule module

def validateOnlyManagerAndValidSet (w : World) (module sender : Address) : Outcome Unit := do
  require (isSetManager w sender = true) "Must be the SetToken manager"
  require (isSetValidAndInitialized w module = true) "Must be a valid and initialized SetToken"

def validateOnlySetManager (w : World) (caller : Address) : Outcome Unit :=
  require (isSetManager w caller = true) "Must be the SetToken manager"

def validateOnlyValidAndInitializedSet (w : World) (module : Address) : Outcome Unit :=
  require (isSetValidAndInitialized w module = true) "Must be a valid and initialized SetToken"

def validateOnlyModule (w : World) (sender : Address) : Outcome Unit := do
  require (w.setToken.moduleStates sender = .initialized) "Only the module can call"
  require (w.controller.isModule sender = true) "Module must be enabled on controller"

def validateOnlyValidAndPendingSet (w : World) (module : Address) : Outcome Unit := do
  require (w.controller.isSet w.setToken.address = true) "Must be controller-enabled SetToken"
  require (isSetPendingInitialization w module = true) "Must be pending initialization"

/-- The check of `ExtendModuleBase`, which also admits the module's operators. -/
def validateOnlyManagerOrOperatorAndValidSet (w : World) (module sender : Address)
    (operators : List Address) : Outcome Unit := do
  require (isSetManager w sender = true ∨ operators.contains sender = true) "OnlyManagerOrOperator"
  require (isSetValidAndInitialized w module = true) "Must be a valid and initialized SetToken"

/-- `Position.calculateAndEditDefaultPosition` for a module: the balance is the SetToken's. -/
def calculateAndEditDefaultPosition (w : World) (module component : Address)
    (setTotalSupply componentPreviousBalance : ℕ) : Outcome (World × ℕ × ℕ × ℕ) := do
  let (s, result) ← Position.calculateAndEditDefaultPosition w.setToken w.controller module
    component setTotalSupply componentPreviousBalance (w.balance component)
  pure ({ w with setToken := s }, result)

/-! ## What the shared steps do -/

variable {w w' : World} {env : Env} {module token component : Address} {quantity : ℕ}

theorem isSetValidAndInitialized_eq_true :
    isSetValidAndInitialized w module = true ↔
      w.controller.isSet w.setToken.address = true ∧
        w.setToken.moduleStates module = .initialized := by
  unfold isSetValidAndInitialized SetToken.isInitializedModule
  rw [Bool.and_eq_true, decide_eq_true_eq]

theorem initialized_of_validateOnlyManagerAndValidSet {sender : Address} {u : Unit}
    (h : validateOnlyManagerAndValidSet w module sender = .ok u) :
    w.setToken.moduleStates module = .initialized := by
  simp only [validateOnlyManagerAndValidSet, isSetValidAndInitialized_eq_true, Outcome.bind_eq_ok,
    Outcome.require_eq_ok] at h
  obtain ⟨_, -, -, hstate⟩ := h
  exact hstate

/-- Paying a fee lowers the SetToken's balance by exactly the fee. -/
theorem payProtocolFeeFromSetToken_moveStep
    (h : payProtocolFeeFromSetToken w env module token quantity = .ok w') :
    w.MoveStep w' token ∧ quantity ≤ w.balance token ∧
      w'.balance token = w.balance token - quantity := by
  unfold payProtocolFeeFromSetToken at h
  split_ifs at h with hpos
  · exact World.strictInvokeTransfer_moveStep h
  · obtain rfl := Outcome.pure_eq_ok.mp h
    exact ⟨.refl w token, by omega, by omega⟩

theorem payProtocolFeeFromSetToken_balance
    (h : payProtocolFeeFromSetToken w env module token quantity = .ok w')
    (htoken : token ≠ w.setToken.address) :
    w.TokenStep w' token ∧ quantity ≤ w.balance token ∧
      w'.balance token = w.balance token - quantity := by
  obtain ⟨hmove, hbalance⟩ := payProtocolFeeFromSetToken_moveStep h
  exact ⟨hmove.tokenStep htoken, hbalance⟩

theorem payProtocolFeeFromSetToken_perp
    (h : payProtocolFeeFromSetToken w env module token quantity = .ok w') :
    w'.chain.perp = w.chain.perp := by
  unfold payProtocolFeeFromSetToken at h
  split_ifs at h
  · exact World.strictInvokeTransfer_perp h
  · rw [Outcome.pure_eq_ok.mp h]

theorem calculateAndEditDefaultPosition_chain {supply previous : ℕ} {result : ℕ × ℕ × ℕ}
    (h : calculateAndEditDefaultPosition w module component supply previous = .ok (w', result)) :
    w'.chain = w.chain ∧ w'.setToken.totalSupply = w.setToken.totalSupply := by
  simp only [calculateAndEditDefaultPosition, Position.calculateAndEditDefaultPosition,
    Outcome.bind_eq_ok, Outcome.pure_eq_ok, Prod.exists, Prod.mk.injEq] at h
  obtain ⟨s, _, _, _, ⟨_, -, _, -, unit, -, _, hs, rfl, -⟩, rfl, -⟩ := h
  exact ⟨rfl, congrArg ERC20.totalSupply (Position.editDefaultPosition_sameFrame hs).erc20⟩

/-- Minting Sets raises the supply and lowers no balance. -/
structure MintStep (w w' : World) (quantity : ℕ) : Prop where
  controller : w'.controller = w.controller
  chain : w'.chain = w.chain
  setToken : ∃ t : ERC20, w'.setToken = w.setToken.setErc20 t ∧
    t.totalSupply = w.setToken.totalSupply + quantity ∧
    ∀ a, w.setToken.erc20.balances a ≤ t.balances a

theorem mint_mintStep {module account : Address} {quantity : ℕ}
    (h : (w.onSetToken fun s ↦ s.mint w.controller module account quantity) = .ok w') :
    MintStep w w' quantity := by
  simp only [World.onSetToken, Outcome.bind_eq_ok, SetToken.mint_eq_ok, Outcome.pure_eq_ok] at h
  obtain ⟨_, ⟨-, t, ht, rfl⟩, rfl⟩ := h
  obtain ⟨hsupply, -, haccount, hother⟩ := ERC20.mint_ok ht
  refine ⟨rfl, rfl, t, rfl, hsupply, ?_⟩
  intro a
  by_cases ha : a = account
  · rw [ha, haccount]
    exact Nat.le_add_right _ _
  · exact (hother a ha).ge

theorem MintStep.trans {w₁ w₂ w₃ : World} {q q' : ℕ} (h : MintStep w₁ w₂ q)
    (h' : MintStep w₂ w₃ q') : MintStep w₁ w₃ (q + q') := by
  obtain ⟨t, ht, hsupply, hbalances⟩ := h.setToken
  obtain ⟨t', ht', hsupply', hbalances'⟩ := h'.setToken
  refine ⟨h'.controller.trans h.controller, h'.chain.trans h.chain, t', ?_, ?_, ?_⟩
  · rw [ht', ht]
    rfl
  · rw [hsupply', ht, SetToken.setErc20_totalSupply, hsupply, add_assoc]
  · intro a
    have := hbalances' a
    rw [ht, SetToken.setErc20_erc20] at this
    exact (hbalances a).trans this

theorem MintStep.address (h : MintStep w w' quantity) :
    w'.setToken.address = w.setToken.address := by
  obtain ⟨t, ht, -⟩ := h.setToken
  rw [ht, SetToken.setErc20_address]

theorem MintStep.totalSupply (h : MintStep w w' quantity) :
    w'.setToken.totalSupply = w.setToken.totalSupply + quantity := by
  obtain ⟨t, ht, hsupply, -⟩ := h.setToken
  rw [ht, SetToken.setErc20_totalSupply, hsupply]

theorem MintStep.defaultRealUnit (h : MintStep w w' quantity) (c : Address) :
    w'.setToken.defaultRealUnit c = w.setToken.defaultRealUnit c := by
  obtain ⟨t, ht, -⟩ := h.setToken
  rw [ht, SetToken.setErc20_defaultRealUnit]

theorem MintStep.balance_le (h : MintStep w w' quantity) (c : Address) :
    w.balance c ≤ w'.balance c := by
  obtain ⟨t, ht, -, hbalances⟩ := h.setToken
  unfold World.balance World.erc20
  rw [h.chain, h.address]
  split_ifs
  · rw [ht, SetToken.setErc20_erc20]
    exact hbalances _
  · exact le_rfl

/-- The SetToken's balances change only where it holds Sets of its own. -/
theorem MintStep.balance_eq (h : MintStep w w' quantity) {c : Address}
    (hself : c = w.setToken.address → w'.setToken.erc20.balances w.setToken.address =
      w.setToken.erc20.balances w.setToken.address) : w'.balance c = w.balance c := by
  unfold World.balance World.erc20
  rw [h.chain, h.address]
  split_ifs with hc
  · exact hself hc
  · rfl

/-- The account gets the minted quantity, and no other account anything. -/
theorem mint_balances {module account : Address}
    (h : (w.onSetToken fun s ↦ s.mint w.controller module account quantity) = .ok w')
    (a : Address) :
    w'.setToken.erc20.balances a =
      w.setToken.erc20.balances a + if a = account then quantity else 0 := by
  simp only [World.onSetToken, Outcome.bind_eq_ok, SetToken.mint_eq_ok, Outcome.pure_eq_ok] at h
  obtain ⟨_, ⟨-, t, ht, rfl⟩, rfl⟩ := h
  obtain ⟨-, -, haccount, hother⟩ := ERC20.mint_ok ht
  rw [SetToken.setErc20_erc20]
  split_ifs with ha
  · rw [ha, haccount]
  · rw [hother a ha, add_zero]

/-- Burning Sets lowers the supply and the balance of the account. -/
structure BurnStep (w w' : World) (account : Address) (quantity : ℕ) : Prop where
  controller : w'.controller = w.controller
  chain : w'.chain = w.chain
  quantity_le : quantity ≤ w.setToken.totalSupply
  setToken : ∃ t : ERC20, w'.setToken = w.setToken.setErc20 t ∧
    t.totalSupply = w.setToken.totalSupply - quantity ∧
    ∀ a, a ≠ account → t.balances a = w.setToken.erc20.balances a

theorem burn_burnStep {module account : Address}
    (h : (w.onSetToken fun s ↦ s.burn w.controller module account quantity) = .ok w') :
    BurnStep w w' account quantity := by
  simp only [World.onSetToken, Outcome.bind_eq_ok, SetToken.burn_eq_ok, Outcome.pure_eq_ok] at h
  obtain ⟨_, ⟨-, t, ht, rfl⟩, rfl⟩ := h
  obtain ⟨hle, hsupply, -, -, -, hother⟩ := ERC20.burn_ok ht
  exact ⟨rfl, rfl, hle, t, rfl, hsupply, hother⟩

theorem BurnStep.address {account : Address} (h : BurnStep w w' account quantity) :
    w'.setToken.address = w.setToken.address := by
  obtain ⟨t, ht, -⟩ := h.setToken
  rw [ht, SetToken.setErc20_address]

theorem BurnStep.totalSupply {account : Address} (h : BurnStep w w' account quantity) :
    w'.setToken.totalSupply + quantity = w.setToken.totalSupply := by
  obtain ⟨t, ht, hsupply, -⟩ := h.setToken
  rw [ht, SetToken.setErc20_totalSupply, hsupply]
  exact Nat.sub_add_cancel h.quantity_le

theorem BurnStep.balance_eq {account c : Address} (h : BurnStep w w' account quantity)
    (hself : c = w.setToken.address → account ≠ w.setToken.address) :
    w'.balance c = w.balance c := by
  obtain ⟨t, ht, -, hother⟩ := h.setToken
  unfold World.balance World.erc20
  rw [h.chain, h.address]
  split_ifs with hc
  · rw [ht, SetToken.setErc20_erc20, hother _ (hself hc).symm]
  · rfl

/-- An edit of the default position of one component: balances, supply and the other positions stay
as they are. -/
structure DefaultEdit (w w' : World) (component : Address) : Prop where
  controller : w'.controller = w.controller
  chain : w'.chain = w.chain
  frame : w.setToken.SameFrame w'.setToken
  other_unit : ∀ c, c ≠ component →
    w'.setToken.defaultPositionVirtualUnit c = w.setToken.defaultPositionVirtualUnit c
  other_mem : ∀ c, c ≠ component → (c ∈ w'.setToken.components ↔ c ∈ w.setToken.components)
  externalPositionModules : ∀ c,
    w'.setToken.externalPositionModules c = w.setToken.externalPositionModules c
  nodup : w.setToken.components.Nodup → w'.setToken.components.Nodup

theorem DefaultEdit.balance (h : DefaultEdit w w' component) (c : Address) :
    w'.balance c = w.balance c := by
  unfold World.balance World.erc20
  rw [h.chain, h.frame.address, h.frame.erc20]

theorem DefaultEdit.defaultRealUnit (h : DefaultEdit w w' component) {c : Address}
    (hc : c ≠ component) :
    w'.setToken.defaultRealUnit c = w.setToken.defaultRealUnit c := by
  unfold SetToken.defaultRealUnit
  rw [h.frame.realUnit, h.other_unit c hc]

theorem DefaultEdit.totalSupply (h : DefaultEdit w w' component) :
    w'.setToken.totalSupply = w.setToken.totalSupply := by
  unfold SetToken.totalSupply
  rw [h.frame.erc20]

/-- Editing a default position stores at most the new unit. -/
theorem editDefaultPosition_defaultEdit {s : SetToken} {newUnit : ℕ}
    (h : Position.editDefaultPosition w.setToken w.controller module component newUnit = .ok s)
    (hm : 0 < w.setToken.positionMultiplier) :
    DefaultEdit w { w with setToken := s } component ∧ s.defaultRealUnit component ≤ newUnit := by
  have hframe := Position.editDefaultPosition_sameFrame h
  obtain ⟨v, components, hv, hlisting, rfl⟩ := Position.editDefaultPosition_ok h
  have hstores := SetToken.convertRealToVirtualUnit_stores hm hv
  refine ⟨⟨rfl, rfl, hframe, fun c hc ↦ by simp [hc], fun c hc ↦ ?_, fun c ↦ by simp,
    fun hnodup ↦ ?_⟩, ?_⟩
  · simpa using hlisting.mem_iff_of_ne hc
  · simpa using hlisting.nodup hnodup
  · simpa [SetToken.defaultRealUnit, hframe.realUnit] using hstores.readBack_le

/-- The unit that `calculateDefaultEditPositionUnit` returns is covered by the balance after the
action. -/
theorem calculateDefaultEditPositionUnit_backed {supply pre post unit newUnit : ℕ}
    (h : Position.calculateDefaultEditPositionUnit supply pre post unit = .ok newUnit) :
    Backing.Backed preciseUnitInt supply newUnit post := by
  simp only [Position.calculateDefaultEditPositionUnit, Outcome.bind_eq_ok, preciseMul_eq_ok,
    SafeMath.sub_eq_ok, preciseDiv_eq_ok] at h
  obtain ⟨_, ⟨-, rfl⟩, airdrop, ⟨-, rfl⟩, remaining, ⟨-, rfl⟩, -, hsupply, rfl⟩ := h
  apply Backing.backed_of_le_div (by exact_mod_cast hsupply) preciseUnitInt_pos.le
  · exact Int.ofNat_le.mpr (Nat.sub_le post (pre - unit * supply / preciseUnit))
  · rw [preciseUnitInt_eq]
    exact_mod_cast le_rfl

/-- The SetToken's balance covers the unit of a component. -/
def Covered (w : World) (component : Address) : Prop :=
  Backing.Backed preciseUnitInt w.setToken.totalSupply (w.setToken.defaultRealUnit component)
    (w.balance component)

instance (w : World) (component : Address) : Decidable (Covered w component) :=
  inferInstanceAs (Decidable (Backing.Backed _ _ _ _))

theorem DefaultEdit.covered_iff (h : DefaultEdit w w' component) {c : Address}
    (hc : c ≠ component) : Covered w' c ↔ Covered w c := by
  unfold Covered
  rw [h.totalSupply, h.defaultRealUnit hc, h.balance]

/-- After `calculateAndEditDefaultPosition` the edited component is covered, whatever happened to
its balance before. -/
theorem calculateAndEditDefaultPosition_ok {previous : ℕ} {result : World × ℕ × ℕ × ℕ}
    (h : calculateAndEditDefaultPosition w module component w.setToken.totalSupply previous =
      .ok result) (hm : 0 < w.setToken.positionMultiplier) :
    DefaultEdit w result.1 component ∧ Covered result.1 component := by
  simp only [calculateAndEditDefaultPosition, Position.calculateAndEditDefaultPosition,
    Outcome.bind_eq_ok, Outcome.pure_eq_ok, Prod.exists, Prod.mk.injEq] at h
  obtain ⟨s, _, _, newUnit, ⟨_, -, _, -, unit, hunit, s', hedit, rfl, rfl, rfl, rfl⟩, rfl⟩ := h
  obtain ⟨hdefault, hle⟩ := editDefaultPosition_defaultEdit hedit hm
  refine ⟨hdefault, ?_⟩
  have hbacked : Backing.Backed preciseUnitInt w.setToken.totalSupply unit
      (w.balance component) := by
    unfold Position.newTokenUnit at hunit
    split_ifs at hunit with hpos
    · exact calculateDefaultEditPositionUnit_backed hunit
    · obtain rfl := Outcome.pure_eq_ok.mp hunit
      have hzero : w.balance component = 0 := by omega
      simp [Backing.Backed, hzero]
  unfold Covered
  rw [hdefault.totalSupply, hdefault.balance]
  exact hbacked.anti_unit (Int.natCast_nonneg _) hle

end SetProtocol.ModuleBase
