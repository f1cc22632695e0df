import Mathlib.Logic.Relation
import SetProtocol.Modules.BasicIssuanceModule
import SetProtocol.Modules.SingleIndexModule
import SetProtocol.System.RebalanceTrades

/-!
# A rebalance does not overshoot

A component of `SingleIndexModule` whose unit is not above its target stays so for the rest of the
rebalance.  Purchases are sized by the total for the target, rounded up, less the total for the current unit,
rounded down; at a supply of at least one whole Set these roundings do not add up to a unit.  The remaining
WETH is spent through any exchange at all, since what was received is checked afterwards.
-/

namespace SetProtocol.SingleIndexModule

open PreciseUnitMath ModuleBase
open GeneralIndexModule (currentUnit currentNotional)

variable {m m' : SingleIndexModule} {w w' u v : World} {env : Env} {c component : Address}

/-! ## The size of a trade -/

def normalizedTarget (m : SingleIndexModule) (w : World) (component : Address) : ℕ :=
  (m.assetInfo component).targetUnit * w.setToken.positionMultiplier.toNat / m.positionMultiplier

/-- What the target unit amounts to for all Sets, rounded up. -/
def targetNotional (m : SingleIndexModule) (w : World) (component : Address) : ℕ :=
  (w.setToken.totalSupply * m.normalizedTarget w component + preciseUnit - 1) / preciseUnit

/-- The unit is at most the target, without rounding. -/
def NotOverweight (m : SingleIndexModule) (w : World) (component : Address) : Prop :=
  currentUnit w component * m.positionMultiplier ≤
    (m.assetInfo component).targetUnit * w.setToken.positionMultiplier.toNat

instance (m : SingleIndexModule) (w : World) (component : Address) :
    Decidable (m.NotOverweight w component) :=
  inferInstanceAs (Decidable (_ ≤ _))

theorem notOverweight_iff (hpos : 0 < m.positionMultiplier) :
    m.NotOverweight w component ↔ currentUnit w component ≤ m.normalizedTarget w component :=
  (Nat.le_div_iff_mul_le hpos).symm

theorem normalizeTargetUnit_ok {multiplier target : ℕ}
    (hmultiplier : m.currentPositionMultiplier w = .ok multiplier)
    (h : m.normalizeTargetUnit component multiplier = .ok target) :
    0 < m.positionMultiplier ∧ target = m.normalizedTarget w component := by
  simp only [currentPositionMultiplier, Outcome.bind_eq_ok, SafeCast.toUint256_eq_ok] at hmultiplier
  obtain ⟨_, -, hmultiplier⟩ := hmultiplier
  simp only [normalizeTargetUnit, Outcome.bind_eq_ok, SafeMath.mul_eq_ok, SafeMath.div_eq_ok] at h
  obtain ⟨_, ⟨-, rfl⟩, hpos, rfl⟩ := h
  refine ⟨hpos, ?_⟩
  unfold normalizedTarget
  rw [hmultiplier, Int.toNat_natCast]

/-- The size of a purchase is at most what the target exceeds the current unit by. -/
theorem calculateTradeSizeAndDirection_ok {isBuy : Bool} {size : ℕ}
    (h : m.calculateTradeSizeAndDirection w component = .ok (isBuy, size)) :
    0 < m.positionMultiplier ∧ currentUnit w component ≠ m.normalizedTarget w component ∧
      (isBuy = true ↔ currentNotional w component < m.targetNotional w component) ∧
      (isBuy = true → currentNotional w component + size ≤ m.targetNotional w component) := by
  simp only [calculateTradeSizeAndDirection, Outcome.bind_eq_ok, Outcome.require_eq_ok,
    Position.getDefaultTotalNotional, preciseMul_eq_ok] at h
  obtain ⟨multiplier, hmultiplier, current, hcurrent, target, htarget, _, hne, _, ⟨-, rfl⟩, total,
    hceil, h⟩ := h
  obtain ⟨-, rfl⟩ := GeneralIndexModule.currentUnit_of_ok hcurrent
  obtain ⟨hpos, rfl⟩ := normalizeTargetUnit_ok hmultiplier htarget
  rw [preciseMulCeil_eq_of_ok hceil] at h
  refine ⟨hpos, hne, ?_⟩
  change (if currentNotional w component < m.targetNotional w component then _ else _) = _ at h
  split_ifs at h with hbuy
  all_goals
    simp only [Outcome.bind_eq_ok, SafeMath.sub_eq_ok, Outcome.pure_eq_ok, Prod.mk.injEq] at h
    obtain ⟨_, ⟨-, rfl⟩, rfl, rfl⟩ := h
  · refine ⟨iff_of_true rfl hbuy, fun _ ↦ ?_⟩
    have hsize := Nat.min_le_right (m.assetInfo component).maxSize
      (m.targetNotional w component - currentNotional w component)
    change currentNotional w component + min (m.assetInfo component).maxSize
      (m.targetNotional w component - currentNotional w component) ≤ _
    omega
  · exact ⟨iff_of_false Bool.false_ne_true hbuy, fun hfalse ↦ absurd hfalse Bool.false_ne_true⟩

/-- A component below its target is bought. -/
theorem isBuy_of_lt (hsupply : 0 < w.setToken.totalSupply)
    (h : currentUnit w component < m.normalizedTarget w component) :
    currentNotional w component < m.targetNotional w component := by
  have hceil := (Rounding.mul_le_ceil_mul preciseUnit_pos w.setToken.totalSupply
    (m.normalizedTarget w component)).1
  have hlt : w.setToken.totalSupply * currentUnit w component <
      w.setToken.totalSupply * m.normalizedTarget w component :=
    Nat.mul_lt_mul_of_pos_left h hsupply
  apply Nat.lt_of_mul_lt_mul_right (a := preciseUnit)
  calc currentNotional w component * preciseUnit
      ≤ w.setToken.totalSupply * currentUnit w component := Nat.div_mul_le_self _ _
    _ < w.setToken.totalSupply * m.normalizedTarget w component := hlt
    _ ≤ m.targetNotional w component * preciseUnit := hceil

/-! ## What a swap leaves -/

/-- Calls move balances and allowances only. -/
theorem executeTrade_setToken {sell buy : Address} {fixIn : Bool} {amount exchange : ℕ}
    (h : m.executeTrade w env sell buy fixIn amount exchange = .ok v) :
    ∃ t : ERC20, v.setToken = w.setToken.setErc20 t ∧ t.totalSupply = w.setToken.totalSupply := by
  simp only [executeTrade, World.invokeApprove, World.invoke, World.execute, Outcome.bind_eq_ok,
    Outcome.pure_eq_ok, Prod.exists] at h
  obtain ⟨_, _, -, _, ⟨_, -, approved, happrove, rfl⟩, _, -, _, ⟨chain, -, rfl⟩, rfl⟩ := h
  exact (World.approve_moveStep happrove).1.setToken

/-- The positions after a swap of two different tokens, where `v` is the state after the exchange. -/
structure Swapped (w v w' : World) (sell buy : Address) : Prop where
  totalSupply : w'.setToken.totalSupply = w.setToken.totalSupply
  positionMultiplier : w'.setToken.positionMultiplier = w.setToken.positionMultiplier
  other_unit : ∀ c, c ≠ sell → c ≠ buy →
    w'.setToken.defaultRealUnit c = w.setToken.defaultRealUnit c
  bought : sell ≠ buy → ∃ unit : ℕ,
    Position.newTokenUnit w.setToken.totalSupply (w.balance buy) (v.balance buy)
      (currentUnit w buy) = .ok unit ∧ w'.setToken.defaultRealUnit buy ≤ unit

theorem swap_ok {sell buy : Address} {fixIn : Bool} {amount exchange sold bought : ℕ}
    (h : m.swap w env sell buy fixIn amount exchange = .ok (w', sold, bought))
    (hm : 0 < w.setToken.positionMultiplier) :
    ∃ v, m.executeTrade w env sell buy fixIn amount exchange = .ok v ∧
      w.balance buy ≤ v.balance buy ∧ bought = v.balance buy - w.balance buy ∧
      Swapped w v w' sell buy := by
  simp only [swap, updatePositionState, Outcome.bind_eq_ok, Outcome.pure_eq_ok, Prod.exists,
    Prod.mk.injEq, SafeMath.sub_eq_ok] at h
  obtain ⟨v, htrade, x, _, _, _, hfirst, y, post, _, _, hsecond, _, -, _, ⟨hle, rfl⟩, rfl, rfl, rfl⟩ :=
    h
  obtain ⟨t, ht, htsupply⟩ := executeTrade_setToken htrade
  have hsupply : v.setToken.totalSupply = w.setToken.totalSupply := by
    rw [ht, SetToken.setErc20_totalSupply, htsupply]
  have hmultiplier : v.setToken.positionMultiplier = w.setToken.positionMultiplier := by
    rw [ht, SetToken.setErc20_positionMultiplier]
  have hunit : ∀ c, v.setToken.defaultRealUnit c = w.setToken.defaultRealUnit c := by
    intro c
    rw [ht, SetToken.setErc20_defaultRealUnit]
  rw [hsupply] at hfirst hsecond
  obtain ⟨hedit, -⟩ := GeneralIndexModule.calculateAndEditDefaultPosition_writes
    (hmultiplier ▸ hm) hfirst
  have hx : 0 < x.setToken.positionMultiplier := by
    rw [hedit.frame.positionMultiplier, hmultiplier]
    exact hm
  obtain ⟨hedit', current, unit, hcurrent, hnew, hwritten⟩ :=
    GeneralIndexModule.calculateAndEditDefaultPosition_writes hx hsecond
  have hpost : post = v.balance buy := by
    have hread : post = x.balance buy := by
      simp only [calculateAndEditDefaultPosition, Position.calculateAndEditDefaultPosition,
        Outcome.bind_eq_ok, Outcome.pure_eq_ok, Prod.exists, Prod.mk.injEq] at hsecond
      obtain ⟨_, _, _, _, ⟨_, -, _, -, _, -, _, -, -, rfl, -⟩, -, rfl, -⟩ := hsecond
      rfl
    rw [hread, hedit.balance]
  rw [hpost] at hle ⊢
  refine ⟨v, htrade, hle, rfl, ?_, ?_, ?_, ?_⟩
  · exact hedit'.totalSupply.trans (hedit.totalSupply.trans hsupply)
  · rw [hedit'.frame.positionMultiplier, hedit.frame.positionMultiplier, hmultiplier]
  · intro c hsell hbuy
    rw [hedit'.defaultRealUnit hbuy, hedit.defaultRealUnit hsell, hunit]
  · intro hne
    have hcurrentUnit : current = currentUnit w buy := by
      rw [hedit.defaultRealUnit hne.symm, hunit] at hcurrent
      unfold currentUnit
      rw [hcurrent, Int.toNat_natCast]
    refine ⟨unit, ?_, hwritten ▸ SetToken.readBack_le hx unit⟩
    rw [← hedit.balance, ← hcurrentUnit]
    exact hnew

/-- A purchase that does not exceed what the target is short of ends at most at the target. -/
theorem Swapped.notOverweight {sell : Address} {amount : ℕ} (h : Swapped w v w' sell component)
    (hne : sell ≠ component) (hsupply : preciseUnit ≤ w.setToken.totalSupply)
    (hpos : 0 < m.positionMultiplier)
    (hbought : v.balance component ≤ w.balance component + amount)
    (hamount : currentNotional w component + amount ≤ m.targetNotional w component) :
    m.NotOverweight w' component := by
  obtain ⟨unit, hnew, hle⟩ := h.bought hne
  have hunit := GeneralIndexModule.newTokenUnit_eq_of_ok hnew
  have htarget : m.normalizedTarget w' component = m.normalizedTarget w component := by
    unfold normalizedTarget
    rw [h.positionMultiplier]
  rw [notOverweight_iff hpos, htarget]
  have hremaining : v.balance component -
      (w.balance component - currentUnit w component * w.setToken.totalSupply / preciseUnit) ≤
        m.targetNotional w component := by
    rw [Nat.mul_comm (currentUnit w component)]
    unfold currentNotional at hamount
    omega
  have hbound : unit ≤ m.normalizedTarget w component := by
    rw [hunit, ← Rounding.unit_of_ceil preciseUnit_pos hsupply (m.normalizedTarget w component)]
    exact Nat.div_le_div_right (Nat.mul_le_mul_right _ hremaining)
  unfold currentUnit
  omega

theorem Swapped.other_notOverweight {sell buy : Address} (h : Swapped w v w' sell buy)
    (hsell : c ≠ sell) (hbuy : c ≠ buy) (hc : m.NotOverweight w c) : m.NotOverweight w' c := by
  unfold NotOverweight currentUnit at *
  rw [h.other_unit c hsell hbuy, h.positionMultiplier]
  exact hc

/-! ## Operations during a rebalance -/

/-- The exchange delivers no more than the exact amount that the trade asks for. -/
def FillsPurchases (m : SingleIndexModule) (w : World) (env : Env) (component : Address) : Prop :=
  ∀ size, m.calculateTradeSizeAndDirection w component = .ok (true, size) →
    ∀ v, m.executeTrade w env m.weth component false size (m.assetInfo component).exchange = .ok v →
      v.balance component ≤ w.balance component + size

/-- The functions of the manager that set what trades are made with, but no targets. -/
inductive SettingCall (m : SingleIndexModule) (w : World) (env : Env) : SingleIndexModule → Prop where
  | tradeMaximums {m' : SingleIndexModule} (components : List Address) (maximums : List ℕ)
      (h : m.setTradeMaximums w env components maximums = .ok m') : SettingCall m w env m'
  | coolOffPeriods {m' : SingleIndexModule} (components : List Address) (periods : List ℕ)
      (h : m.setCoolOffPeriods w env components periods = .ok m') : SettingCall m w env m'
  | exchanges {m' : SingleIndexModule} (components : List Address) (exchanges : List ℕ)
      (h : m.setExchanges w env components exchanges = .ok m') : SettingCall m w env m'
  | traderStatus {m' : SingleIndexModule} (traders : List Address) (statuses : List Bool)
      (h : m.updateTraderStatus w env traders statuses = .ok m') : SettingCall m w env m'
  | anyoneTrade {m' : SingleIndexModule} (status : Bool)
      (h : m.updateAnyoneTrade w env status = .ok m') : SettingCall m w env m'

/-- The targets, the components of the rebalance and the addresses of the module stay. -/
structure SameTargets (m m' : SingleIndexModule) : Prop where
  targetUnit : ∀ c, (m'.assetInfo c).targetUnit = (m.assetInfo c).targetUnit
  positionMultiplier : m'.positionMultiplier = m.positionMultiplier
  rebalanceComponents : m'.rebalanceComponents = m.rebalanceComponents
  index : m'.index = m.index
  weth : m'.weth = m.weth
  address : m'.address = m.address

theorem SameTargets.refl (m : SingleIndexModule) : m.SameTargets m :=
  ⟨fun _ ↦ rfl, rfl, rfl, rfl, rfl, rfl⟩

theorem SameTargets.trans {m₁ m₂ m₃ : SingleIndexModule} (h : m₁.SameTargets m₂)
    (h' : m₂.SameTargets m₃) : m₁.SameTargets m₃ where
  targetUnit := fun c ↦ (h'.targetUnit c).trans (h.targetUnit c)
  positionMultiplier := h'.positionMultiplier.trans h.positionMultiplier
  rebalanceComponents := h'.rebalanceComponents.trans h.rebalanceComponents
  index := h'.index.trans h.index
  weth := h'.weth.trans h.weth
  address := h'.address.trans h.address

theorem editAssetInfo_sameTargets {edit : AssetTradeInfo → AssetTradeInfo}
    (hedit : ∀ info, (edit info).targetUnit = info.targetUnit) :
    m.SameTargets (m.editAssetInfo component edit) := by
  refine ⟨fun c ↦ ?_, rfl, rfl, rfl, rfl, rfl⟩
  by_cases hc : c = component
  · subst hc
    simp [editAssetInfo, hedit]
  · simp [editAssetInfo, hc]

theorem setParameters_sameTargets {edit : ℕ → AssetTradeInfo → AssetTradeInfo}
    {components : List Address} {values : List ℕ}
    (hedit : ∀ value info, (edit value info).targetUnit = info.targetUnit)
    (h : setParameters edit m w env components values = .ok m') : m.SameTargets m' := by
  simp only [setParameters, Outcome.bind_eq_ok, Outcome.pure_eq_ok] at h
  obtain ⟨_, -, _, -, rfl⟩ := h
  generalize components.zip values = entries
  induction entries generalizing m with
  | nil => exact .refl m
  | cons entry entries ih => exact (editAssetInfo_sameTargets (hedit entry.2)).trans ih

theorem SettingCall.sameTargets (h : SettingCall m w env m') : m.SameTargets m' := by
  cases h with
  | tradeMaximums components maximums h =>
    unfold setTradeMaximums at h
    refine setParameters_sameTargets ?_ h
    exact fun _ _ ↦ rfl
  | coolOffPeriods components periods h =>
    unfold setCoolOffPeriods at h
    refine setParameters_sameTargets ?_ h
    exact fun _ _ ↦ rfl
  | exchanges components exchanges h =>
    simp only [setExchanges, Outcome.bind_eq_ok] at h
    obtain ⟨_, -, _, -, hloop⟩ := h
    apply Outcome.foldlM_invariant (P := m.SameTargets) ?_ hloop (.refl m)
    intro x entry x' hstep hx
    simp only [setExchange, Outcome.bind_eq_ok, Outcome.pure_eq_ok] at hstep
    obtain ⟨_, -, rfl⟩ := hstep
    exact hx.trans (editAssetInfo_sameTargets fun _ ↦ rfl)
  | traderStatus traders statuses h =>
    simp only [updateTraderStatus, Outcome.bind_eq_ok, Outcome.pure_eq_ok] at h
    obtain ⟨_, -, _, -, _, -, _, -, _, -, rfl⟩ := h
    exact ⟨fun _ ↦ rfl, rfl, rfl, rfl, rfl, rfl⟩
  | anyoneTrade status h =>
    simp only [updateAnyoneTrade, Outcome.bind_eq_ok, Outcome.pure_eq_ok] at h
    obtain ⟨_, -, rfl⟩ := h
    exact ⟨fun _ ↦ rfl, rfl, rfl, rfl, rfl, rfl⟩

theorem SameTargets.notOverweight_iff (h : m.SameTargets m') :
    m'.NotOverweight w c ↔ m.NotOverweight w c := by
  unfold NotOverweight
  rw [h.targetUnit, h.positionMultiplier]

/-- A trade swaps the component with WETH, and a purchase is sized by what the target is short of. -/
theorem trade_ok (h : m.trade w env component = .ok (m', w')) (hm : 0 < w.setToken.positionMultiplier) :
    m.SameTargets m' ∧ ∃ isBuy size, m.calculateTradeSizeAndDirection w component = .ok (isBuy, size) ∧
      if isBuy = true then
        ∃ v, m.executeTrade w env m.weth component false size (m.assetInfo component).exchange = .ok v ∧
          Swapped w v w' m.weth component
      else ∃ v, Swapped w v w' component m.weth := by
  simp only [trade, Outcome.bind_eq_ok, Prod.exists] at h
  obtain ⟨_, -, _, -, _, -, isBuy, size, hsize, h⟩ := h
  split_ifs at h with hbuy
  all_goals
    simp only [Outcome.bind_eq_ok, Outcome.pure_eq_ok, Prod.exists, Prod.mk.injEq] at h
    obtain ⟨_, sold, bought, hswap, rfl, rfl⟩ := h
    obtain ⟨v, htrade, -, -, hswapped⟩ := swap_ok hswap hm
    refine ⟨editAssetInfo_sameTargets fun _ ↦ rfl, isBuy, size, hsize, ?_⟩
  · rw [if_pos hbuy]
    exact ⟨v, htrade, hswapped⟩
  · rw [if_neg hbuy]
    exact ⟨v, hswapped⟩

theorem trade_notOverweight (h : m.trade w env component = .ok (m', w'))
    (hm : 0 < w.setToken.positionMultiplier) (hsupply : preciseUnit ≤ w.setToken.totalSupply)
    (hfills : m.FillsPurchases w env component) (hweth : c ≠ m.weth) (hc : m.NotOverweight w c) :
    m'.NotOverweight w' c := by
  obtain ⟨hsame, isBuy, size, hsize, hswap⟩ := trade_ok h hm
  rw [hsame.notOverweight_iff]
  obtain ⟨hpos, hne, hbuy, hamount⟩ := calculateTradeSizeAndDirection_ok hsize
  split_ifs at hswap with hisBuy
  · obtain ⟨v, htrade, hswapped⟩ := hswap
    by_cases heq : c = component
    · subst heq
      exact hswapped.notOverweight hweth.symm hsupply hpos (hfills size (hisBuy ▸ hsize) v htrade)
        (hamount hisBuy)
    · exact hswapped.other_notOverweight hweth heq hc
  · obtain ⟨v, hswapped⟩ := hswap
    have heq : c ≠ component := by
      -- a component that is below its target would be bought
      rintro rfl
      have hlt := lt_of_le_of_ne ((notOverweight_iff hpos).mp hc) hne
      exact hisBuy (hbuy.mpr (isBuy_of_lt (preciseUnit_pos.trans_le hsupply) hlt))
    exact hswapped.other_notOverweight heq hweth hc

/-- What was received is compared with the limit, so nothing is assumed of the exchange. -/
theorem tradeRemainingWETH_notOverweight (h : m.tradeRemainingWETH w env component = .ok (m', w'))
    (hm : 0 < w.setToken.positionMultiplier) (hsupply : preciseUnit ≤ w.setToken.totalSupply)
    (hweth : c ≠ m.weth) (hc : m.NotOverweight w c) :
    m'.NotOverweight w' c := by
  simp only [tradeRemainingWETH, Outcome.bind_eq_ok, Outcome.require_eq_ok, Outcome.pure_eq_ok,
    Prod.exists, Prod.mk.injEq] at h
  obtain ⟨_, -, _, -, _, -, _, -, _, -, isBuy, limit, hsize, _, _, bought, hswap, _, hlimit, rfl, rfl⟩ :=
    h
  obtain ⟨v, -, hle, hbought, hswapped⟩ := swap_ok hswap hm
  have hsame : m.SameTargets (m.setLastTradeTimestamp component env.timestamp) :=
    editAssetInfo_sameTargets fun _ ↦ rfl
  rw [hsame.notOverweight_iff]
  by_cases heq : c = component
  · subst heq
    obtain ⟨hpos, hne, hbuy, hamount⟩ := calculateTradeSizeAndDirection_ok hsize
    have hlt := lt_of_le_of_ne ((notOverweight_iff hpos).mp hc) hne
    have hisBuy := hbuy.mpr (isBuy_of_lt (preciseUnit_pos.trans_le hsupply) hlt)
    exact hswapped.notOverweight hweth.symm hsupply hpos (by omega) (hamount hisBuy)
  · exact hswapped.other_notOverweight hweth heq hc

theorem raiseAssetTargets_ok (h : m.raiseAssetTargets w env = .ok m') :
    m'.positionMultiplier ≤ m.positionMultiplier ∧
      m' = { m with positionMultiplier := m'.positionMultiplier } := by
  simp only [raiseAssetTargets, Outcome.bind_eq_ok, Outcome.pure_eq_ok, preciseDiv_eq_ok] at h
  obtain ⟨_, -, _, -, _, -, _, ⟨-, -, rfl⟩, rfl⟩ := h
  refine ⟨?_, rfl⟩
  apply Nat.div_le_of_le_mul
  rw [Nat.mul_comm]
  apply Nat.mul_le_mul_right
  decide

theorem raiseAssetTargets_notOverweight (h : m.raiseAssetTargets w env = .ok m')
    (hc : m.NotOverweight w c) : m'.NotOverweight w c := by
  obtain ⟨hle, hm'⟩ := raiseAssetTargets_ok h
  rw [hm']
  exact (Nat.mul_le_mul_left _ hle).trans hc

/-! ## Runs -/

/-- What happens during a rebalance: trades, at a supply of at least one whole Set, raised targets, new
settings, issuance of the Set and donations to it. -/
inductive RebalanceStep : SingleIndexModule × World → SingleIndexModule × World → Prop where
  | trade {m m' : SingleIndexModule} {w w' : World} (env : Env) (component : Address)
      (hsupply : preciseUnit ≤ w.setToken.totalSupply) (hfills : m.FillsPurchases w env component)
      (h : m.trade w env component = .ok (m', w')) : RebalanceStep (m, w) (m', w')
  | tradeRemainingWETH {m m' : SingleIndexModule} {w w' : World} (env : Env) (component : Address)
      (hsupply : preciseUnit ≤ w.setToken.totalSupply)
      (h : m.tradeRemainingWETH w env component = .ok (m', w')) : RebalanceStep (m, w) (m', w')
  | raiseAssetTargets {m m' : SingleIndexModule} {w : World} (env : Env)
      (h : m.raiseAssetTargets w env = .ok m') : RebalanceStep (m, w) (m', w)
  | setting {m m' : SingleIndexModule} {w : World} (env : Env) (h : SettingCall m w env m') :
      RebalanceStep (m, w) (m', w)
  | issue {m : SingleIndexModule} {w w' : World} (issuance : BasicIssuanceModule) (env : Env)
      (quantity : ℕ) (recipient : Address) (hw : w.WellFormed)
      (h : issuance.issue w env quantity recipient = .ok w') : RebalanceStep (m, w) (m, w')
  | redeem {m : SingleIndexModule} {w w' : World} (issuance : BasicIssuanceModule) (env : Env)
      (quantity : ℕ) (recipient : Address) (hw : w.WellFormed)
      (h : issuance.redeem w env quantity recipient = .ok w') : RebalanceStep (m, w) (m, w')
  | donate {m : SingleIndexModule} {w w' : World} (token donor : Address) (amount : ℕ)
      (h : w.transfer token donor w.setToken.address amount = .ok w') : RebalanceStep (m, w) (m, w')

/-- What a rebalance keeps of a component. -/
structure Approaching (s : SingleIndexModule × World) (weth c : Address) : Prop where
  multiplier_pos : 0 < s.2.setToken.positionMultiplier
  weth : s.1.weth = weth
  notOverweight : s.1.NotOverweight s.2 c

theorem setErc20_notOverweight {t : ERC20} (h : w'.setToken = w.setToken.setErc20 t)
    (hc : m.NotOverweight w c) : m.NotOverweight w' c := by
  unfold NotOverweight currentUnit at *
  rw [h]
  exact hc

theorem RebalanceStep.approaching {s s' : SingleIndexModule × World} {weth : Address}
    (h : RebalanceStep s s') (hweth : c ≠ weth) (hs : Approaching s weth c) :
    Approaching s' weth c := by
  obtain ⟨hm, rfl, hc⟩ := hs
  cases h with
  | @trade m m' w w' env component hsupply hfills h =>
    obtain ⟨hsame, isBuy, size, -, hswap⟩ := trade_ok h hm
    refine ⟨?_, hsame.weth, trade_notOverweight h hm hsupply hfills hweth hc⟩
    have hmultiplier : w'.setToken.positionMultiplier = w.setToken.positionMultiplier := by
      split_ifs at hswap
      · obtain ⟨v, -, hswapped⟩ := hswap
        exact hswapped.positionMultiplier
      · obtain ⟨v, hswapped⟩ := hswap
        exact hswapped.positionMultiplier
    exact hmultiplier ▸ hm
  | @tradeRemainingWETH m m' w w' env component hsupply h =>
    have hkept := tradeRemainingWETH_notOverweight h hm hsupply hweth hc
    simp only [SingleIndexModule.tradeRemainingWETH, Outcome.bind_eq_ok, Outcome.pure_eq_ok,
      Prod.exists, Prod.mk.injEq] at h
    obtain ⟨_, -, _, -, _, -, _, -, _, -, _, _, -, _, _, _, hswap, _, -, rfl, rfl⟩ := h
    obtain ⟨v, -, -, -, hswapped⟩ := swap_ok hswap hm
    exact ⟨hswapped.positionMultiplier ▸ hm, rfl, hkept⟩
  | raiseAssetTargets env h =>
    refine ⟨hm, ?_, raiseAssetTargets_notOverweight h hc⟩
    rw [(raiseAssetTargets_ok h).2]
  | setting env h => exact ⟨hm, h.sameTargets.weth, h.sameTargets.notOverweight_iff.mpr hc⟩
  | issue issuance env quantity recipient hw h =>
    obtain ⟨⟨t, -, ht⟩, -⟩ := BasicIssuanceModule.issue_ok h hw.components_nodup hw.self_notMem
    refine ⟨?_, rfl, setErc20_notOverweight ht hc⟩
    rw [ht]
    exact hm
  | redeem issuance env quantity recipient hw h =>
    obtain ⟨⟨t, -, ht⟩, -⟩ := BasicIssuanceModule.redeem_ok h hw.components_nodup hw.self_notMem
    refine ⟨?_, rfl, setErc20_notOverweight ht hc⟩
    rw [ht]
    exact hm
  | donate token donor amount h =>
    obtain ⟨t, ht, -⟩ := (World.transfer_moveStep h).setToken
    refine ⟨?_, rfl, setErc20_notOverweight ht hc⟩
    rw [ht]
    exact hm

namespace RebalanceSample

/-- One and a half Sets with component 7 and WETH, which is token 30.  Account 9 may trade. -/
def world : World where
  controller := { Controller.enabling 4 [23] with isSet := fun a ↦ a == 6 }
  setToken := SetToken.launched 6 [7, 30] [1000003, 500000] [23] 2 9 (15 * 10 ^ 17)
  chain := { tokens := fun _ ↦ ERC20.holding 18 [(6, 1500005), (9, 10 ^ 9)] (10 ^ 30) }
  log := []

/-- Token 7 is bought on Uniswap up to a unit of 1500001, at most 400000 at a time. -/
def module : SingleIndexModule where
  address := 23
  assetInfo := fun _ ↦ ⟨1500001, 400000, 0, 0, ExchangeId.uniswap⟩
  rebalanceComponents := [7]
  positionMultiplier := 10 ^ 18
  tradeAllowList := fun a ↦ a == 9
  anyoneTrade := false
  index := 6
  weth := 30
  uniswapRouter := 41
  sushiswapRouter := 42
  balancerProxy := 43

/-- The exchange takes 1000 of WETH and pays an amount of token 7. -/
def pay (amount : ℕ) (chain : Chain) : Chain :=
  { chain with
    tokens := Function.update
      (Function.update chain.tokens 30
        ((chain.tokens 30).setBalance 6 ((chain.tokens 30).balances 6 - 1000)))
      7 ((chain.tokens 7).setBalance 6 ((chain.tokens 7).balances 6 + amount)) }

def exchangeEnv (amount : ℕ) : Env :=
  { Env.plain 9 100 with call := fun _ chain ↦ .ok (pay amount chain) }

def start : SingleIndexModule × World := (module, world)

def traded : SingleIndexModule × World := (module.trade world (exchangeEnv 400000) 7).getD start

def spent : SingleIndexModule × World := (traded.1.tradeRemainingWETH traded.2 (exchangeEnv 349998) 7).getD start

theorem fillsPurchases : module.FillsPurchases world (exchangeEnv 400000) 7 := by
  intro size hsize v hv
  have hsize' : module.calculateTradeSizeAndDirection world 7 = .ok (true, 400000) := by
    decide +kernel
  obtain rfl : 400000 = size := (Prod.mk.inj (Except.ok.inj (hsize'.symm.trans hsize))).2
  have hv' : module.executeTrade world (exchangeEnv 400000) 30 7 false 400000 ExchangeId.uniswap =
      .ok ((module.executeTrade world (exchangeEnv 400000) 30 7 false 400000 ExchangeId.uniswap).getD world) :=
    Outcome.eq_ok_getD world (by decide +kernel)
  rw [← Except.ok.inj (hv'.symm.trans hv)]
  decide +kernel

end RebalanceSample

end SetProtocol.SingleIndexModule
