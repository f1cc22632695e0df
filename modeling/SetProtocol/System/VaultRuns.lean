import SetProtocol.System.VaultOperations

/-!
# Every module together

All modules that write default positions and always compute them from balances may be in use on one Set at
the same time.  Streaming fees, net-asset-value issuance and staking are not among the operations: their
units are rescaled or moved without a look at the balance, and rounding can take what the balance covers.
-/

namespace SetProtocol

open PreciseUnitMath ModuleBase

/-- One operation of any of the modules.  Each module is described by its storage at the time of the call,
so that settings, permissions and adapters may change from step to step. -/
inductive VaultStep (w : World) : World → Prop where
  | base {w' : World} (h : CollateralStep w w') : VaultStep w w'
  | wrap {w' : World} (m : WrapModule) (env : Env) (underlying wrapped : Address) (units : ℕ)
      (name : String) (usesEther : Bool) (result : ℕ × ℕ)
      (hacts : env.ActsOn w {underlying, wrapped})
      (h : m.wrapToken w env underlying wrapped units name usesEther = .ok (w', result)) :
      VaultStep w w'
  | unwrap {w' : World} (m : WrapModule) (env : Env) (underlying wrapped : Address) (units : ℕ)
      (name : String) (usesEther : Bool) (result : ℕ × ℕ)
      (hacts : env.ActsOn w {underlying, wrapped})
      (h : m.unwrapToken w env underlying wrapped units name usesEther = .ok (w', result)) :
      VaultStep w w'
  | wrapV2 {w' : World} (m : WrapModuleV2) (env : Env) (underlying wrapped : Address) (units : ℕ)
      (name : String) (data : List UInt8) (usesEther : Bool) (result : ℕ × ℕ)
      (hacts : env.ActsOn w {underlying, wrapped})
      (h : m.wrapToken w env underlying wrapped units name data usesEther = .ok (w', result)) :
      VaultStep w w'
  | unwrapV2 {w' : World} (m : WrapModuleV2) (env : Env) (underlying wrapped : Address) (units : ℕ)
      (name : String) (data : List UInt8) (usesEther : Bool) (result : ℕ × ℕ)
      (hacts : env.ActsOn w {underlying, wrapped})
      (h : m.unwrapToken w env underlying wrapped units name data usesEther = .ok (w', result)) :
      VaultStep w w'
  | addLiquidity {w' : World} (m : AmmModule) (env : Env) (ammName : String) (ammPool : Address)
      (units : ℕ) (components : List Address) (componentUnits : List ℕ) (result : ℤ × List ℤ)
      (hacts : env.ActsOn w {c | c = ammPool ∨ c ∈ components})
      (h : m.addLiquidity w env ammName ammPool units components componentUnits = .ok (w', result)) :
      VaultStep w w'
  | addLiquiditySingleAsset {w' : World} (m : AmmModule) (env : Env) (ammName : String)
      (ammPool : Address) (units : ℕ) (component : Address) (componentUnit : ℕ)
      (result : ℤ × List ℤ) (hacts : env.ActsOn w {c | c = ammPool ∨ c ∈ [component]})
      (h : m.addLiquiditySingleAsset w env ammName ammPool units component componentUnit =
        .ok (w', result)) : VaultStep w w'
  | removeLiquidity {w' : World} (m : AmmModule) (env : Env) (ammName : String) (ammPool : Address)
      (units : ℕ) (components : List Address) (componentUnits : List ℕ) (result : ℤ × List ℤ)
      (hacts : env.ActsOn w {c | c = ammPool ∨ c ∈ components})
      (h : m.removeLiquidity w env ammName ammPool units components componentUnits =
        .ok (w', result)) : VaultStep w w'
  | removeLiquiditySingleAsset {w' : World} (m : AmmModule) (env : Env) (ammName : String)
      (ammPool : Address) (units : ℕ) (component : Address) (componentUnit : ℕ)
      (result : ℤ × List ℤ) (hacts : env.ActsOn w {c | c = ammPool ∨ c ∈ [component]})
      (h : m.removeLiquiditySingleAsset w env ammName ammPool units component componentUnit =
        .ok (w', result)) : VaultStep w w'
  | absorb {w' : World} (m : AirdropModule) (env : Env) (token : Address)
      (htoken : token ≠ w.setToken.address) (h : m.absorb w env token = .ok w') : VaultStep w w'
  | batchAbsorb {w' : World} (m : AirdropModule) (env : Env) (tokens : List Address)
      (htokens : ∀ token ∈ tokens, token ≠ w.setToken.address)
      (h : m.batchAbsorb w env tokens = .ok w') : VaultStep w w'
  | updateAirdropFee {w' : World} (m m' : AirdropModule) (env : Env) (newFee : ℕ)
      (htokens : ∀ token ∈ m.airdropSettings.airdrops, token ≠ w.setToken.address)
      (h : m.updateAirdropFee w env newFee = .ok (m', w')) : VaultStep w w'
  | adjust {w' : World} (m : PositionUnitAdjusterModule) (env : Env) (components : List Address)
      (requestedUnits : List ℤ) (hne : ∀ c ∈ components, c ≠ w.setToken.address)
      (h : m.adjustDefaultPositionUnits w env components requestedUnits = .ok w') : VaultStep w w'
  | mintFCash {w' : World} (m : NotionalTradeModule) (env : Env)
      (currencyId maturity amount maxSendAmount sent : ℕ) (fCash sendToken : Address)
      (hdeployed : m.deployWrapper currencyId maturity = .ok fCash)
      (hacts : env.ActsOn w {sendToken, fCash})
      (h : m.mintFCashPosition w env currencyId maturity amount sendToken maxSendAmount =
        .ok (w', sent)) : VaultStep w w'
  | redeemFCash {w' : World} (m : NotionalTradeModule) (env : Env)
      (currencyId maturity amount minReceiveAmount received : ℕ) (fCash receiveToken : Address)
      (hcomputed : m.computeAddress currencyId maturity = .ok fCash)
      (hacts : env.ActsOn w {fCash, receiveToken})
      (h : m.redeemFCashPosition w env currencyId maturity amount receiveToken minReceiveAmount =
        .ok (w', received)) : VaultStep w w'
  | redeemMatured {w' : World} (m : NotionalTradeModule) (env : Env) (caller : Address)
      (hspares : m.SparesOthers w env)
      (h : m.redeemMaturedPositions w env = .ok w' ∨ m.moduleHook w env caller = .ok w') :
      VaultStep w w'
  | indexTrade {w' : World} (m m' : SingleIndexModule) (env : Env) (component : Address)
      (hacts : env.ActsOn w {component, m.weth})
      (h : m.trade w env component = .ok (m', w')) : VaultStep w w'
  | indexTradeRemainingWETH {w' : World} (m m' : SingleIndexModule) (env : Env)
      (component : Address) (hacts : env.ActsOn w {component, m.weth})
      (h : m.tradeRemainingWETH w env component = .ok (m', w')) : VaultStep w w'
  | claim {w' : World} (m : ClaimModule) (env : Env) (claimAdapter : Address → ClaimAdapter)
      (rewardPool : Address) (name : String) (hacts : env.ActsOn w ∅)
      (h : m.claim w env claimAdapter rewardPool name = .ok w') : VaultStep w w'
  | batchClaim {w' : World} (m : ClaimModule) (env : Env) (claimAdapter : Address → ClaimAdapter)
      (rewardPools : List Address) (names : List String) (hacts : env.ActsOn w ∅)
      (h : m.batchClaim w env claimAdapter rewardPools names = .ok w') : VaultStep w w'
  | govern {w' : World} (m : GovernanceModule) (env : Env) (name : String)
      (getCalldata : GovernanceAdapter → Outcome (Address × ℕ × List UInt8))
      (hacts : env.ActsOn w ∅) (h : m.invokeGovernance w env name getCalldata = .ok w') :
      VaultStep w w'

variable {w w' : World}

theorem VaultStep.collateralized (h : VaultStep w w') (hw : w.WellFormed)
    (hcovered : w.Collateralized) : w'.WellFormed ∧ w'.Collateralized := by
  have hstart := World.Reconciling.start hw hcovered
  cases h with
  | base h => exact h.collateralized hw hcovered
  | wrap m env underlying wrapped units name usesEther result hacts h =>
    exact (m.wrapToken_reconciling h hacts hstart).finish
  | unwrap m env underlying wrapped units name usesEther result hacts h =>
    exact (m.unwrapToken_reconciling h hacts hstart).finish
  | wrapV2 m env underlying wrapped units name data usesEther result hacts h =>
    exact (m.wrapToken_reconciling h hacts hstart).finish
  | unwrapV2 m env underlying wrapped units name data usesEther result hacts h =>
    exact (m.unwrapToken_reconciling h hacts hstart).finish
  | addLiquidity m env ammName ammPool units components componentUnits result hacts h =>
    exact (m.addLiquidity_reconciling h hacts hstart).finish
  | addLiquiditySingleAsset m env ammName ammPool units component componentUnit result hacts h =>
    exact (m.addLiquiditySingleAsset_reconciling h hacts hstart).finish
  | removeLiquidity m env ammName ammPool units components componentUnits result hacts h =>
    exact (m.removeLiquidity_reconciling h hacts hstart).finish
  | removeLiquiditySingleAsset m env ammName ammPool units component componentUnit result hacts h =>
    exact (m.removeLiquiditySingleAsset_reconciling h hacts hstart).finish
  | absorb m env token htoken h => exact (m.absorb_reconciling h htoken hstart).finish
  | batchAbsorb m env tokens htokens h => exact (m.batchAbsorb_reconciling h htokens hstart).finish
  | updateAirdropFee m m' env newFee htokens h =>
    exact (m.updateAirdropFee_reconciling h htokens hstart).finish
  | adjust m env components requestedUnits hne h =>
    exact (m.adjustDefaultPositionUnits_reconciling h hne hstart).finish
  | mintFCash m env currencyId maturity amount maxSendAmount sent fCash sendToken hdeployed hacts h =>
    exact (m.mintFCashPosition_reconciling h hdeployed hacts hstart).finish
  | redeemFCash m env currencyId maturity amount minReceiveAmount received fCash receiveToken
      hcomputed hacts h =>
    exact (m.redeemFCashPosition_reconciling h hcomputed hacts hstart).finish
  | redeemMatured m env caller hspares h =>
    exact (m.redeemMatured_reconciling h hspares hstart).finish
  | indexTrade m m' env component hacts h => exact (m.trade_reconciling h hacts hstart).finish
  | indexTradeRemainingWETH m m' env component hacts h =>
    exact (m.tradeRemainingWETH_reconciling h hacts hstart).finish
  | claim m env claimAdapter rewardPool name hacts h =>
    exact (hstart.touch_nothing (m.claim_touches h hacts.lowersOnly)).finish
  | batchClaim m env claimAdapter rewardPools names hacts h =>
    exact (hstart.touch_nothing (m.batchClaim_touches h hacts.lowersOnly)).finish
  | govern m env name getCalldata hacts h =>
    exact (hstart.touch_nothing (m.invokeGovernance_touches h hacts.lowersOnly)).finish

namespace VaultSample

/-- Set 6 of manager 2 holds component 7 and two whole Sets; module 22 wraps and module 23 absorbs. -/
def world : World where
  controller := { Controller.enabling 4 [22, 23] with isSet := fun a ↦ a == 6 }
  setToken := SetToken.launched 6 [7] [1000003] [22, 23] 2 9 (2 * 10 ^ 18)
  chain := { tokens := fun _ ↦ ERC20.holding 18 [(6, 2000007), (9, 10 ^ 9)] (10 ^ 30) }
  log := []

/-- The wrapped form takes 1000001 of token 7 from the Set and gives it 555 of token 30. -/
def mint (chain : Chain) : Chain :=
  { chain with
    tokens := Function.update
      (Function.update chain.tokens 7
        ((chain.tokens 7).setBalance 6 ((chain.tokens 7).balances 6 - 1000001)))
      30 ((chain.tokens 30).setBalance 6 ((chain.tokens 30).balances 6 + 555)) }

def env : Env :=
  { Env.plain 2 0 with
    integrationAdapter := fun _ _ ↦ 40
    call := fun _ chain ↦ .ok (mint chain) }

def adapter : WrapV2Adapter where
  ethTokenAddress := 0
  getSpenderAddress := fun _ wrapped ↦ .ok wrapped
  getWrapCallData := fun _ wrapped _ _ data ↦ .ok (wrapped, 0, data)
  getUnwrapCallData := fun _ wrapped _ _ data ↦ .ok (wrapped, 0, data)

def wrapped : Outcome (World × ℕ × ℕ) :=
  (WrapModuleV2.mk ⟨22, 50, fun _ ↦ 0⟩ fun _ ↦ adapter).wrap world env 7 30 500001 "vault" [5]

/-- What the wrapped token paid beyond its old balance counts, and what was there before counts only now. -/
def absorbed : Outcome World :=
  (AirdropModule.mk 23 ⟨[30], 9, 10 ^ 17, false⟩ fun token ↦ token == 30).absorb
    (wrapped.getD (world, 0, 0)).1 (Env.plain 2 0) 30

theorem env_actsOn : env.ActsOn world {7, 30} := by
  constructor
  · intro invocation chain chain' hcall token htoken
    obtain rfl : mint chain = chain' := Except.ok.inj hcall
    have hne : token ≠ 7 ∧ token ≠ 30 := by
      rwa [Set.mem_insert_iff, Set.mem_singleton_iff, not_or] at htoken
    change _ ≤ (Function.update (Function.update chain.tokens 7 _) 30 _ token).balances _
    rw [Function.update_of_ne hne.2, Function.update_of_ne hne.1]
  · rintro c (rfl | rfl) <;> decide +kernel

end VaultSample

end SetProtocol
