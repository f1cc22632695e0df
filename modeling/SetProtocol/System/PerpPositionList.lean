import SetProtocol.System.FundingTracking
import SetProtocol.System.PerpPositions

/-!
# The list of positions of a Perp account

The module keeps the base tokens in which the Set has positions.  A trade drops its base token from the
list when less than one unit for each Set is left of it, but enters a base token without looking at the
balance.  The hooks of issuance drop all entries with less than one unit, such as those that were
liquidated, while they run over a copy of the list.
-/

namespace SetProtocol

open PreciseUnitMath ModuleBase UnitConversionUtils

namespace PerpV2LeverageModuleV2

variable {m m' : PerpV2LeverageModuleV2} {w w' : World} {env : Env} {caller baseToken : Address}
  {quantity : ℕ} {isIssue : Bool}

/-- A base balance makes more than one unit for each Set. -/
def NonDust (baseBalance : ℤ) (totalSupply : ℕ) : Prop :=
  1 < ((baseBalance * preciseUnitInt).tdiv totalSupply).natAbs

def HasBalance (w : World) (baseToken : Address) : Prop :=
  NonDust (w.chain.perp.base baseToken) w.setToken.totalSupply

instance (baseBalance : ℤ) (totalSupply : ℕ) : Decidable (NonDust baseBalance totalSupply) :=
  inferInstanceAs (Decidable (1 < _))

instance (w : World) (baseToken : Address) : Decidable (HasBalance w baseToken) :=
  inferInstanceAs (Decidable (NonDust _ _))

theorem hasBaseBalance_ok {hasBalance : Bool} (h : hasBaseBalance w baseToken = .ok hasBalance) :
    hasBalance = true ↔ HasBalance w baseToken := by
  simp only [hasBaseBalance, Outcome.bind_eq_ok, Outcome.pure_eq_ok, SafeCast.toInt256_eq_ok] at h
  obtain ⟨_, ⟨-, rfl⟩, unit, hunit, rfl⟩ := h
  obtain ⟨-, rfl⟩ := preciseDivInt_eq_of_ok hunit
  unfold HasBalance NonDust
  simp only [Bool.or_eq_true, decide_eq_true_eq]
  omega

/-! ## What happens to the list -/

/-- One pass drops the token if it has no balance, and nothing else. -/
theorem syncPosition_ok {positions positions' : List Address} (hnodup : positions.Nodup)
    (h : syncPosition w positions baseToken = .ok positions') :
    positions'.Nodup ∧
      ∀ b, b ∈ positions' ↔ b ∈ positions ∧ (b = baseToken → HasBalance w b) := by
  obtain ⟨hbalance, rfl⟩ | ⟨hnone, hmem, rfl⟩ := syncPosition_cases h
  · refine ⟨hnodup, ?_⟩
    intro b
    constructor
    · intro hb
      refine ⟨hb, ?_⟩
      rintro rfl
      exact (hasBaseBalance_ok hbalance).mp rfl
    · exact And.left
  · have hdust : ¬ HasBalance w baseToken := mt (hasBaseBalance_ok hnone).mpr Bool.false_ne_true
    refine ⟨SwapRemove.nodup_swapRemove hmem hnodup, ?_⟩
    intro b
    rw [SwapRemove.mem_swapRemove hmem hnodup]
    constructor
    · rintro ⟨hne, hb⟩
      exact ⟨hb, fun heq ↦ absurd heq hne⟩
    · rintro ⟨hb, himp⟩
      refine ⟨?_, hb⟩
      rintro rfl
      exact hdust (himp rfl)

/-- The loop runs over a copy of the list, so every token of the copy is looked at once. -/
theorem syncLoop_ok {copy positions positions' : List Address} (hnodup : positions.Nodup)
    (h : copy.foldlM (syncPosition w) positions = .ok positions') :
    positions'.Nodup ∧ ∀ b, b ∈ positions' ↔ b ∈ positions ∧ (b ∈ copy → HasBalance w b) := by
  induction copy generalizing positions with
  | nil =>
    obtain rfl := Outcome.pure_eq_ok.mp h
    simp [hnodup]
  | cons c copy ih =>
    simp only [List.foldlM_cons, Outcome.bind_eq_ok] at h
    obtain ⟨rest, hstep, hloop⟩ := h
    obtain ⟨hrest, hmem⟩ := syncPosition_ok hnodup hstep
    obtain ⟨hnodup', hmem'⟩ := ih hrest hloop
    refine ⟨hnodup', ?_⟩
    intro b
    rw [hmem', hmem, List.mem_cons, or_imp, and_assoc]

/-- After synchronization the list consists of its entries with a balance. -/
theorem syncPositionList_ok (hnodup : m.positions.Nodup) (h : m.syncPositionList w = .ok m') :
    m'.positions.Nodup ∧ ∀ b, b ∈ m'.positions ↔ b ∈ m.positions ∧ HasBalance w b := by
  simp only [syncPositionList, Outcome.bind_eq_ok, Outcome.pure_eq_ok] at h
  obtain ⟨positions, hloop, rfl⟩ := h
  obtain ⟨hnodup', hmem⟩ := syncLoop_ok hnodup hloop
  refine ⟨hnodup', ?_⟩
  intro b
  rw [hmem]
  constructor
  · rintro ⟨hb, himp⟩
    exact ⟨hb, himp hb⟩
  · rintro ⟨hb, hbalance⟩
    exact ⟨hb, fun _ ↦ hbalance⟩

/-- A base token that is not on the list is entered whatever its balance. -/
theorem updatePositionList_ok (hnodup : m.positions.Nodup)
    (h : m.updatePositionList w baseToken = .ok m') :
    m'.positions.Nodup ∧
      (baseToken ∈ m'.positions ↔ (baseToken ∈ m.positions → HasBalance w baseToken)) ∧
      ∀ b, b ≠ baseToken → (b ∈ m'.positions ↔ b ∈ m.positions) := by
  unfold updatePositionList at h
  simp only [AddressArrayUtils.contains_eq_true] at h
  split_ifs at h with hlisted
  · simp only [Outcome.bind_eq_ok, Outcome.pure_eq_ok] at h
    obtain ⟨positions, hsync, rfl⟩ := h
    obtain ⟨hnodup', hmem⟩ := syncPosition_ok hnodup hsync
    refine ⟨hnodup', ?_, ?_⟩
    · rw [hmem]
      simp [hlisted]
    · intro b hne
      rw [hmem]
      simp [hne]
  · simp only [Outcome.bind_eq_ok, Outcome.pure_eq_ok] at h
    obtain ⟨_, -, rfl⟩ := h
    refine ⟨?_, ?_, ?_⟩
    · rw [← List.concat_eq_append]
      exact hnodup.concat hlisted
    · simp [hlisted]
    · intro b hne
      simp [hne]

/-! ## Trades -/

/-- What the contracts of Perp make of the calls of a trade: the trade itself, and the withdrawal of the
protocol's fee. -/
def tradedChain (m : PerpV2LeverageModuleV2) (w : World) (env : Env) (baseToken : Address)
    (baseQuantityUnits : ℤ) (quoteBoundQuantityUnits : ℕ) : Outcome Chain := do
  let action ←
    createAndValidateActionInfo w env baseToken baseQuantityUnits quoteBoundQuantityUnits
  let fee ← m.tradeFee w env baseToken baseQuantityUnits quoteBoundQuantityUnits
  let chain ← env.call (m.openPositionCall action) w.chain
  if fee = 0 then
    pure chain
  else
    env.call ⟨m.perpVault, 0, .vaultWithdraw m.collateralToken fee⟩ chain

/-- Perp leaves more than dust of the base token after the trade. -/
def LeavesBalance (m : PerpV2LeverageModuleV2) (w : World) (env : Env) (baseToken : Address)
    (baseQuantityUnits : ℤ) (quoteBoundQuantityUnits : ℕ) : Prop :=
  ∃ chain, m.tradedChain w env baseToken baseQuantityUnits quoteBoundQuantityUnits = .ok chain ∧
    NonDust (chain.perp.base baseToken) w.setToken.totalSupply

theorem invokeWithdraw_chain (h : m.invokeWithdraw w env quantity = .ok w') :
    (if quantity = 0 then pure w.chain
      else env.call ⟨m.perpVault, 0, .vaultWithdraw m.collateralToken quantity⟩ w.chain) =
        .ok w'.chain := by
  unfold invokeWithdraw at h
  split_ifs at h ⊢
  · rw [Outcome.pure_eq_ok.mp h]
    rfl
  · simp only [World.invoke, World.execute, Outcome.bind_eq_ok, Outcome.pure_eq_ok] at h
    obtain ⟨_, -, _, ⟨chain, hchain, rfl⟩, rfl⟩ := h
    exact hchain

/-- The list is updated in the world that the calls have left. -/
theorem trade_ok {units : ℤ} {bound : ℕ} (h : m.trade w env baseToken units bound = .ok (m', w')) :
    m.updatePositionList w' baseToken = .ok m' ∧
      (HasBalance w' baseToken ↔ m.LeavesBalance w env baseToken units bound) := by
  have hsupply := (trade_calls h).2.steady.totalSupply
  simp only [trade, accrueProtocolFee, Outcome.bind_eq_ok, Outcome.pure_eq_ok, Prod.exists,
    Prod.mk.injEq] at h
  obtain ⟨_, -, action, haction, v, _, deltaQuote, htrade, u, ⟨protocolFee, hfee, fee, hunits, t,
    hwithdraw, hpay⟩, n, hlist, rfl, rfl⟩ := h
  have htraded : m.tradedChain w env baseToken units bound = .ok t.chain := by
    simp only [tradedChain, haction, tradeFee_of_trade haction htrade hfee hunits,
      runTrade_chain htrade, Outcome.ok_bind]
    exact invokeWithdraw_chain hwithdraw
  refine ⟨hlist, ?_⟩
  unfold HasBalance LeavesBalance
  rw [hsupply, payProtocolFeeFromSetToken_perp hpay, htraded]
  simp only [Except.ok.injEq, exists_eq_left']

theorem moduleHook_positions (hnodup : m.positions.Nodup)
    (h : m.moduleHook w env caller quantity isIssue = .ok (m', w')) :
    m'.positions.Nodup ∧
      (w.setToken.totalSupply ≠ 0 →
        Position.hasExternalPosition w.setToken m.collateralToken = true →
        ∀ b, b ∈ m'.positions ↔ b ∈ m.positions ∧ HasBalance w b) := by
  simp only [moduleHook, Outcome.bind_eq_ok] at h
  obtain ⟨_, -, h⟩ := h
  split_ifs at h with hsupply hposition
  · obtain ⟨rfl, -⟩ := Prod.mk.inj (Outcome.pure_eq_ok.mp h)
    exact ⟨hnodup, fun hpos ↦ absurd hsupply hpos⟩
  · obtain ⟨rfl, -⟩ := Prod.mk.inj (Outcome.pure_eq_ok.mp h)
    exact ⟨hnodup, fun _ htrue ↦ absurd (hposition.symm.trans htrue) Bool.false_ne_true⟩
  · simp only [executePositionTrades, Outcome.bind_eq_ok, Outcome.pure_eq_ok, Prod.exists,
      Prod.mk.injEq] at h
    obtain ⟨n, v, _, ⟨_, hsync, _, -, _, _, -, _, -, rfl, -, -⟩, _, -, rfl, -⟩ := h
    obtain ⟨hnodup', hmem⟩ := syncPositionList_ok hnodup hsync
    exact ⟨hnodup', fun _ _ ↦ hmem⟩

end PerpV2LeverageModuleV2

/-! ## Runs -/

/-- The calls that use or change the list, and the number of positions that the owner allows.  In between,
the world changes in any way: Sets are issued and redeemed, and positions are liquidated. -/
inductive PerpListAction where
  | trade (env : Env) (baseToken : Address) (baseQuantityUnits : ℤ) (quoteBoundQuantityUnits : ℕ)
  | moduleIssueHook (env : Env) (caller : Address) (setTokenQuantity : ℕ)
  | moduleRedeemHook (env : Env) (caller : Address) (setTokenQuantity : ℕ)
  | updateMaxPerpPositionsPerSet (env : Env) (maxPerpPositionsPerSet : ℕ)
  | removeModule (issuance : IssuanceTable)
  | elsewhere (world : World)

namespace PerpState

open PerpV2LeverageModuleV2 (HasBalance)

variable {s s' : PerpState} {action : PerpListAction}

def performList (s : PerpState) : PerpListAction → Outcome PerpState
  | .trade env baseToken units bound => do
    let (m, w) ← s.module.trade s.world env baseToken units bound
    pure ⟨m, w⟩
  | .moduleIssueHook env caller quantity => do
    let (m, w) ← s.module.moduleIssueHook s.world env caller quantity
    pure ⟨m, w⟩
  | .moduleRedeemHook env caller quantity => do
    let (m, w) ← s.module.moduleRedeemHook s.world env caller quantity
    pure ⟨m, w⟩
  | .updateMaxPerpPositionsPerSet env max => do
    let m ← s.module.updateMaxPerpPositionsPerSet env max
    pure ⟨m, s.world⟩
  | .removeModule issuance => do
    let (m, _) ← s.module.removeModule issuance s.world
    pure ⟨m, s.world⟩
  | .elsewhere world => pure ⟨s.module, world⟩

/-- The list has no duplicates, and in any world its synchronization leaves the entries with a balance,
each once. -/
def ListSound (s : PerpState) : Prop :=
  s.module.positions.Nodup ∧
    ∀ w n, s.module.syncPositionList w = .ok n →
      n.positions.Nodup ∧ ∀ b, b ∈ n.positions ↔ b ∈ s.module.positions ∧ HasBalance w b

/-- After a trade its base token is on the list exactly if the Set has a balance of it. -/
def ListsTraded (s : PerpState) (action : PerpListAction) : Prop :=
  match action with
  | .trade _ baseToken _ _ =>
    ∀ t, s.performList action = .ok t →
      (baseToken ∈ t.module.positions ↔ HasBalance t.world baseToken)
  | _ => True

/-- A trade in a base token that is not on the list leaves more than dust of it. -/
def OpensPosition (s : PerpState) : PerpListAction → Prop
  | .trade env baseToken units bound =>
    baseToken ∈ s.module.positions ∨ s.module.LeavesBalance s.world env baseToken units bound
  | _ => True

/-- The hooks that trade synchronize the list. -/
def HooksSync (s : PerpState) (action : PerpListAction) : Prop :=
  match action with
  | .moduleIssueHook _ _ _ | .moduleRedeemHook _ _ _ =>
    ∀ t, s.performList action = .ok t → s.world.setToken.totalSupply ≠ 0 →
      Position.hasExternalPosition s.world.setToken s.module.collateralToken = true →
      ∀ b, b ∈ t.module.positions ↔ b ∈ s.module.positions ∧ HasBalance s.world b
  | _ => True

theorem listSound_of_nodup (h : s.module.positions.Nodup) : s.ListSound :=
  ⟨h, fun _ _ hsync ↦ PerpV2LeverageModuleV2.syncPositionList_ok h hsync⟩

theorem performList_nodup (h : s.performList action = .ok s') (hs : s.module.positions.Nodup) :
    s'.module.positions.Nodup := by
  cases action with
  | trade env baseToken units bound =>
    simp only [performList, Outcome.bind_eq_ok, Outcome.pure_eq_ok, Prod.exists] at h
    obtain ⟨m, w, htrade, rfl⟩ := h
    have hlist := (PerpV2LeverageModuleV2.trade_ok htrade).1
    exact (PerpV2LeverageModuleV2.updatePositionList_ok hs hlist).1
  | moduleIssueHook env caller quantity =>
    simp only [performList, Outcome.bind_eq_ok, Outcome.pure_eq_ok, Prod.exists] at h
    obtain ⟨m, w, hhook, rfl⟩ := h
    exact (PerpV2LeverageModuleV2.moduleHook_positions hs hhook).1
  | moduleRedeemHook env caller quantity =>
    simp only [performList, Outcome.bind_eq_ok, Outcome.pure_eq_ok, Prod.exists] at h
    obtain ⟨m, w, hhook, rfl⟩ := h
    exact (PerpV2LeverageModuleV2.moduleHook_positions hs hhook).1
  | updateMaxPerpPositionsPerSet env max =>
    simp only [performList, PerpV2LeverageModuleV2.updateMaxPerpPositionsPerSet, Outcome.bind_eq_ok,
      Outcome.pure_eq_ok] at h
    obtain ⟨_, ⟨_, -, rfl⟩, rfl⟩ := h
    exact hs
  | removeModule issuance =>
    simp only [performList, PerpV2LeverageModuleV2.removeModule, Outcome.bind_eq_ok,
      Outcome.pure_eq_ok, Prod.exists, Prod.mk.injEq] at h
    obtain ⟨_, _, ⟨_, -, _, -, _, -, _, -, _, -, rfl, -⟩, rfl⟩ := h
    exact List.nodup_nil
  | elsewhere world =>
    obtain rfl := Outcome.pure_eq_ok.mp h
    exact hs

theorem hooksSync_of_nodup (hs : s.module.positions.Nodup) : s.HooksSync action := by
  cases action with
  | moduleIssueHook env caller quantity | moduleRedeemHook env caller quantity =>
    intro t h
    simp only [performList, Outcome.bind_eq_ok, Outcome.pure_eq_ok, Prod.exists] at h
    obtain ⟨m, w, hhook, rfl⟩ := h
    exact (PerpV2LeverageModuleV2.moduleHook_positions hs hhook).2
  | _ => trivial

theorem performList_listsTraded_iff (h : s.performList action = .ok s')
    (hs : s.module.positions.Nodup) : s.ListsTraded action ↔ s.OpensPosition action := by
  cases action with
  | trade env baseToken units bound =>
    have hdone : s.ListsTraded (.trade env baseToken units bound) ↔
        (baseToken ∈ s'.module.positions ↔ HasBalance s'.world baseToken) := by
      constructor
      · intro hlists
        exact hlists s' h
      · intro hlists t ht
        obtain rfl := Except.ok.inj (h.symm.trans ht)
        exact hlists
    rw [hdone]
    simp only [performList, Outcome.bind_eq_ok, Outcome.pure_eq_ok, Prod.exists] at h
    obtain ⟨m, w, htrade, rfl⟩ := h
    obtain ⟨hlist, hleaves⟩ := PerpV2LeverageModuleV2.trade_ok htrade
    have hmem := (PerpV2LeverageModuleV2.updatePositionList_ok hs hlist).2.1
    simp only [OpensPosition, ← hleaves, hmem]
    tauto
  | _ => exact Iff.rfl

/-- In every state of a run the list has no duplicates and is synchronized exactly.  After every trade it
tells whether the Set has a balance, exactly when no trade leaves dust of a base token that was not on the
list. -/
theorem run_listsTraded_iff {trace : List (PerpState × PerpListAction)}
    (h : Trace performList s trace s') (hs : s.module.positions.Nodup) :
    ((∀ entry ∈ trace, entry.1.ListSound ∧ entry.1.HooksSync entry.2) ∧ s'.ListSound) ∧
      ((∀ entry ∈ trace, entry.1.ListsTraded entry.2) ↔
        ∀ entry ∈ trace, entry.1.OpensPosition entry.2) := by
  obtain ⟨hstates, hlast⟩ := h.invariant (I := fun s ↦ s.module.positions.Nodup)
    (fun _ _ _ hstep ↦ performList_nodup hstep) hs
  refine ⟨⟨?_, listSound_of_nodup hlast⟩, ?_⟩
  · intro entry hentry
    exact ⟨listSound_of_nodup (hstates entry hentry), hooksSync_of_nodup (hstates entry hentry)⟩
  · apply forall₂_congr
    intro entry hentry
    obtain ⟨t, hstep⟩ := h.performs entry hentry
    exact performList_listsTraded_iff hstep (hstates entry hentry)

namespace ListSample

open Sample (deposited vaultEnv)

/-- A trade moves its exact amount of the base token, and as much of the quote. -/
def tradeEnv : Env :=
  { vaultEnv with
    perpHasPool := fun _ ↦ true
    call := fun invocation chain ↦
      match invocation.callData with
      | .openPosition trade _ =>
        let delta : ℤ := if trade.isBaseToQuote then -trade.amount else trade.amount
        let base := Function.update chain.perp.base trade.baseToken
          (chain.perp.base trade.baseToken + delta)
        pure { chain with perp := { chain.perp with base := base } }
      | _ => .error "no contract"
    returnData := fun invocation _ ↦
      match invocation.callData with
      | .openPosition trade _ => [trade.amount, trade.amount]
      | _ => [] }

/-- The manager buys units of the base token 70. -/
def buy (units : ℤ) : PerpListAction := .trade tradeEnv 70 units 0

def bought (units : ℤ) : PerpState := (deposited.performList (buy units)).getD deposited

/-- The positions are liquidated. -/
def liquidated (units : ℤ) : PerpState :=
  { bought units with
    world := { (bought units).world with
      chain := { (bought units).world.chain with perp := deposited.world.chain.perp } } }

/-- A Set is issued. -/
def issueOne : PerpListAction := .moduleIssueHook tradeEnv 20 (10 ^ 18)

def issued (units : ℤ) : PerpState := ((liquidated units).performList issueOne).getD deposited

theorem buy_ok (units : ℤ) (h : (deposited.performList (buy units)).isOk = true) :
    deposited.performList (buy units) = .ok (bought units) :=
  Outcome.eq_ok_getD deposited h

/-- One unit for each Set counts as no balance, but it is listed as a position. -/
theorem bought_dust :
    deposited.module.positions = [] ∧
      Trace performList deposited [(deposited, buy 1)] (bought 1) ∧
      70 ∈ (bought 1).module.positions ∧ ¬ HasBalance (bought 1).world 70 := by
  have hbuy := buy_ok 1 (by decide +kernel)
  exact ⟨by decide +kernel, .cons hbuy (.nil _), by decide +kernel, by decide +kernel⟩

/-- A position of five units is listed, and dropped by the hook after its liquidation. -/
theorem bought_listed :
    (bought 5).module.positions = [70] ∧ (issued 5).module.positions = [] ∧
      HasBalance (bought 5).world 70 ∧ (issued 5).ListSound := by
  have hbuy := buy_ok 5 (by decide +kernel)
  have hissue : (liquidated 5).performList issueOne = .ok (issued 5) :=
    Outcome.eq_ok_getD deposited (by decide +kernel)
  have hrun : Trace performList deposited
      [(deposited, buy 5), (bought 5, .elsewhere (liquidated 5).world), (liquidated 5, issueOne)]
      (issued 5) := .cons hbuy (.cons rfl (.cons hissue (.nil _)))
  have hnodup : deposited.module.positions.Nodup := by decide +kernel
  have hleaves : deposited.module.LeavesBalance deposited.world tradeEnv 70 5 0 := by
    have htraded := Outcome.eq_ok_getD deposited.world.chain
      (show (deposited.module.tradedChain deposited.world tradeEnv 70 5 0).isOk = true by
        decide +kernel)
    exact ⟨_, htraded, by decide +kernel⟩
  obtain ⟨⟨-, hsound⟩, hlists⟩ := run_listsTraded_iff hrun hnodup
  have hbought : deposited.ListsTraded (buy 5) := by
    apply hlists.mpr ?_ (deposited, buy 5) List.mem_cons_self
    simp only [List.forall_mem_cons]
    exact ⟨Or.inr hleaves, trivial, trivial, by simp⟩
  have hlisted : 70 ∈ (bought 5).module.positions := by decide +kernel
  exact ⟨by decide +kernel, by decide +kernel, (hbought _ hbuy).mp hlisted, hsound⟩

end ListSample

end PerpState

end SetProtocol
