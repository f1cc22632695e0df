import Mathlib.Logic.Relation
import SetProtocol.Modules.BasicIssuanceModule
import SetProtocol.Modules.GeneralIndexModule
import SetProtocol.Modules.TradeModule

/-!
# A Set stays collateralized

Issuance, redemption, donations and trades keep the SetToken's balance of every component at least
at what the units promise to the whole supply, in any order and with any module settings.  The
promise is `totalSupply * realUnit ≤ balance * 10 ^ 18`, before any rounding.
-/

namespace SetProtocol

open PreciseUnitMath ModuleBase

/-- One operation on the Set.  Modules are described by their storage at the time of the call, so
hooks, fees and permissions may change from step to step. -/
inductive CollateralStep (w : World) : World → Prop where
  | issue {w' : World} (m : BasicIssuanceModule) (env : Env) (quantity : ℕ) (recipient : Address)
      (h : m.issue w env quantity recipient = .ok w') : CollateralStep w w'
  | redeem {w' : World} (m : BasicIssuanceModule) (env : Env) (quantity : ℕ) (recipient : Address)
      (h : m.redeem w env quantity recipient = .ok w') : CollateralStep w w'
  | donate {w' : World} (token donor : Address) (amount : ℕ)
      (h : w.transfer token donor w.setToken.address amount = .ok w') : CollateralStep w w'
  | trade {w' : World} (m : TradeModule) (env : Env) (exchangeName : String)
      (send : Address) (sold : ℕ) (receive : Address) (bought : ℕ) (isCollectFee : Bool)
      (data : List UInt8) (henv : env.LowersOnly w.setToken.address fun _ ↦ {send, receive})
      (hsend : send ≠ w.setToken.address) (hreceive : receive ≠ w.setToken.address)
      (h : m.trade w env exchangeName send sold receive bought isCollectFee data = .ok w') :
      CollateralStep w w'
  | indexTrade {w' : World} (m m' : GeneralIndexModule) (env : Env) (component : Address)
      (limit : ℕ) (henv : env.LowersOnly w.setToken.address fun _ ↦ {component, m.weth})
      (hcomponent : component ≠ w.setToken.address) (hweth : m.weth ≠ w.setToken.address)
      (h : m.trade w env component limit = .ok (m', w')) : CollateralStep w w'
  | tradeRemainingWETH {w' : World} (m m' : GeneralIndexModule) (env : Env) (component : Address)
      (limit : ℕ) (henv : env.LowersOnly w.setToken.address fun _ ↦ {component, m.weth})
      (hcomponent : component ≠ w.setToken.address) (hweth : m.weth ≠ w.setToken.address)
      (h : m.tradeRemainingWETH w env component limit = .ok (m', w')) : CollateralStep w w'
  | govern (controller : Controller) : CollateralStep w { w with controller := controller }

variable {w w' : World}

/-- Replacing the Set's own token state keeps the components and their units. -/
theorem World.WellFormed.of_erc20 {t : ERC20} (hw : w.WellFormed)
    (h : w'.setToken = w.setToken.setErc20 t) : w'.WellFormed := by
  constructor
  · rw [h]
    exact hw.components_nodup
  · rw [h]
    exact hw.multiplier_pos
  · rw [h]
    exact hw.self_notMem

theorem issue_collateralized {m : BasicIssuanceModule} {env : Env} {quantity : ℕ}
    {recipient : Address} (h : m.issue w env quantity recipient = .ok w')
    (hw : w.WellFormed) (hcovered : w.Collateralized) : w'.WellFormed ∧ w'.Collateralized := by
  obtain ⟨⟨t, ht, hs⟩, hcollected⟩ :=
    BasicIssuanceModule.issue_ok h hw.components_nodup hw.self_notMem
  refine ⟨hw.of_erc20 hs, ?_⟩
  intro c hc
  rw [hs] at hc
  obtain ⟨amount, hbalance, hamount⟩ := hcollected c hc
  have hsupply : w'.setToken.totalSupply = w.setToken.totalSupply + quantity := by
    rw [hs]
    exact (ERC20.mint_ok ht).1
  have hunit : w'.setToken.defaultRealUnit c = w.setToken.defaultRealUnit c := by
    rw [hs]
    rfl
  unfold Covered
  rw [hsupply, hunit, hbalance]
  exact_mod_cast (hcovered c hc).deposit hamount

theorem redeem_collateralized {m : BasicIssuanceModule} {env : Env} {quantity : ℕ}
    {recipient : Address} (h : m.redeem w env quantity recipient = .ok w')
    (hw : w.WellFormed) (hcovered : w.Collateralized) : w'.WellFormed ∧ w'.Collateralized := by
  obtain ⟨⟨t, ht, hs⟩, hpaid⟩ :=
    BasicIssuanceModule.redeem_ok h hw.components_nodup hw.self_notMem
  refine ⟨hw.of_erc20 hs, ?_⟩
  intro c hc
  rw [hs] at hc
  obtain ⟨amount, hle, hbalance, hamount⟩ := hpaid c hc
  obtain ⟨hburn, hburnt, -⟩ := ERC20.burn_ok ht
  have hsupply : (w'.setToken.totalSupply : ℤ) = w.setToken.totalSupply - quantity := by
    rw [hs, SetToken.setErc20_totalSupply, hburnt]
    exact Nat.cast_sub hburn
  have hunit : w'.setToken.defaultRealUnit c = w.setToken.defaultRealUnit c := by
    rw [hs]
    rfl
  unfold Covered
  rw [hsupply, hunit, hbalance, Nat.cast_sub hle]
  exact (hcovered c hc).withdraw hamount

/-- A donation can only raise balances of the SetToken. -/
theorem donate_collateralized {token donor : Address} {amount : ℕ}
    (h : w.transfer token donor w.setToken.address amount = .ok w')
    (hw : w.WellFormed) (hcovered : w.Collateralized) : w'.WellFormed ∧ w'.Collateralized := by
  simp only [World.transfer, Outcome.bind_eq_ok, Outcome.pure_eq_ok] at h
  obtain ⟨t, ht, rfl⟩ := h
  obtain ⟨hsupply, -, -, -, hself, hmoved, -⟩ := ERC20.transfer_ok ht
  suffices hset : (w.setErc20 token t).WellFormed ∧ (w.setErc20 token t).Collateralized from
    ⟨⟨hset.1.components_nodup, hset.1.multiplier_pos, hset.1.self_notMem⟩, hset.2⟩
  by_cases htoken : token = w.setToken.address
  · -- Sets sent to the Set itself: no component is concerned.
    have hset : w.setErc20 token t = { w with setToken := w.setToken.setErc20 t } := by
      simp [World.setErc20, htoken]
    rw [hset]
    refine ⟨hw.of_erc20 rfl, ?_⟩
    intro c hc
    have hne : c ≠ w.setToken.address := fun heq ↦ hw.self_notMem (heq ▸ hc)
    have hs : t.totalSupply = w.setToken.totalSupply := by
      rw [hsupply, htoken]
      simp [World.erc20, SetToken.totalSupply]
    have hbalance : World.balance { w with setToken := w.setToken.setErc20 t } c =
        w.balance c := by
      simp [World.balance, World.erc20, hne]
    unfold Covered
    rw [hbalance, SetToken.setErc20_totalSupply, hs]
    exact hcovered c hc
  · have hstep := w.setErc20_tokenStep t htoken
    refine ⟨?_, ?_⟩
    · constructor
      · exact hstep.setToken ▸ hw.components_nodup
      · exact hstep.setToken ▸ hw.multiplier_pos
      · exact hstep.setToken ▸ hw.self_notMem
    · intro c hc
      rw [hstep.setToken] at hc
      have hle : w.balance c ≤ (w.setErc20 token t).balance c := by
        by_cases hct : c = token
        · subst hct
          unfold World.balance
          rw [w.erc20_setErc20, hstep.setToken]
          by_cases hdonor : donor = w.setToken.address
          · rw [hself hdonor]
          · rw [(hmoved hdonor).2]
            exact Nat.le_add_right _ _
        · rw [hstep.balance_of_ne hct]
      unfold Covered
      rw [hstep.setToken]
      exact (hcovered c hc).mono_balance preciseUnitInt_pos.le (by exact_mod_cast hle)

theorem CollateralStep.collateralized (h : CollateralStep w w') (hw : w.WellFormed)
    (hcovered : w.Collateralized) : w'.WellFormed ∧ w'.Collateralized := by
  cases h with
  | issue m env quantity recipient h => exact issue_collateralized h hw hcovered
  | redeem m env quantity recipient h => exact redeem_collateralized h hw hcovered
  | donate token donor amount h => exact donate_collateralized h hw hcovered
  | trade m env exchangeName send sold receive bought isCollectFee data henv hsend hreceive h =>
    exact TradeModule.trade_collateralized h henv hsend hreceive hw hcovered
  | indexTrade m m' env component limit henv hcomponent hweth h =>
    exact GeneralIndexModule.trade_collateralized h henv hcomponent hweth hw hcovered
  | tradeRemainingWETH m m' env component limit henv hcomponent hweth h =>
    exact GeneralIndexModule.tradeRemainingWETH_collateralized h henv hcomponent hweth hw hcovered
  | govern controller => exact ⟨⟨hw.1, hw.2, hw.3⟩, hcovered⟩

/-- Every state that a collateralized Set reaches is collateralized. -/
theorem collateralized_of_run (hw : w.WellFormed) (hcovered : w.Collateralized)
    (hrun : Relation.ReflTransGen CollateralStep w w') : w'.Collateralized := by
  have hinv : w'.WellFormed ∧ w'.Collateralized := by
    induction hrun with
    | refl => exact ⟨hw, hcovered⟩
    | tail _ hstep ih => exact hstep.collateralized ih.1 ih.2
  exact hinv.2

/-! ## A run with rounding in every step -/

namespace CollateralSample

/-- Set 6 of manager 2 holds component 7; issuance is module 20 and trades are module 21, which
charges 10%. -/
def world : World where
  controller := ({ Controller.enabling 4 [20, 21] with isSet := fun a ↦ a == 6 }).setFee 21 0 (10 ^ 17)
  setToken := SetToken.launched 6 [7] [1000003] [20, 21] 2 9 (10 ^ 18)
  chain := { tokens := fun _ ↦ ERC20.holding 18 [(6, 1000003), (9, 10 ^ 9)] (10 ^ 30) }
  log := []

/-- The exchange takes 1001 of token 7 from the Set and gives it 555 of token 30. -/
def exchange (chain : Chain) : Chain :=
  { chain with
    tokens := Function.update
      (Function.update chain.tokens 7
        ((chain.tokens 7).setBalance 6 ((chain.tokens 7).balances 6 - 1001)))
      30 ((chain.tokens 30).setBalance 6 ((chain.tokens 30).balances 6 + 555)) }

def env : Env :=
  { Env.plain 2 0 with
    integrationAdapter := fun _ _ ↦ 40
    exchangeAdapter := fun _ ↦ ⟨41, fun _ _ _ _ _ data ↦ .ok (42, 0, data)⟩
    call := fun _ chain ↦ .ok (exchange chain) }

def traded : Outcome World :=
  (TradeModule.mk 21 []).trade world env "exchange" 7 1000 30 1 true [5]

def redeemed : Outcome World :=
  (BasicIssuanceModule.mk 20 0 false).redeem (traded.getD world) (Env.plain 9 0) (10 ^ 17 + 7) 9

theorem env_lowersOnly : env.LowersOnly 6 fun _ ↦ {7, 30} := by
  intro invocation chain chain' hcall token htoken
  rw [Set.mem_insert_iff, Set.mem_singleton_iff, not_or] at htoken
  obtain rfl : exchange chain = chain' := Except.ok.inj hcall
  change _ ≤ (Function.update (Function.update chain.tokens 7 _) 30 _ token).balances 6
  rw [Function.update_of_ne htoken.2, Function.update_of_ne htoken.1]

theorem redeemed_collateralized :
    (redeemed.getD world).setToken.components = [7, 30] ∧ (redeemed.getD world).Collateralized := by
  have hwell : world.WellFormed := ⟨by decide +kernel, by decide +kernel, by decide +kernel⟩
  have hcovered : world.Collateralized := by decide +kernel
  have htrade : CollateralStep world (traded.getD world) :=
    .trade _ _ _ _ _ _ _ _ _ env_lowersOnly (by decide) (by decide)
      (Outcome.eq_ok_getD world (by decide +kernel))
  have hredeem : CollateralStep (traded.getD world) (redeemed.getD world) :=
    .redeem _ _ _ _ (Outcome.eq_ok_getD world (by decide +kernel))
  exact ⟨by decide +kernel, collateralized_of_run hwell hcovered (.head htrade (.single hredeem))⟩

end CollateralSample

end SetProtocol
