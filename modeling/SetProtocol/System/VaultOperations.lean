import SetProtocol.Core.PositionListing
import SetProtocol.Core.Reconciling
import SetProtocol.Modules.AirdropModule
import SetProtocol.Modules.AmmModule
import SetProtocol.Modules.ClaimModule
import SetProtocol.Modules.GovernanceModule
import SetProtocol.Modules.NotionalTradeModule
import SetProtocol.Modules.PositionUnitAdjusterModule
import SetProtocol.Modules.SingleIndexModule
import SetProtocol.Modules.WrapModule
import SetProtocol.System.Collateralization

/-!
# The modules that manage the components of a Set

Wrapping, providing liquidity, absorbing airdrops, adjusting units, redeeming fCash, rebalancing an index,
claiming and voting: each operation reconciles the components that it touches, so that a Set on which they
run in any order stays collateralized.  The contracts that the modules call are outside the repository; each
is assumed to lower no balance of the SetToken but those of the tokens it is called for, by amounts that are
left open.
-/

namespace SetProtocol

open PreciseUnitMath ModuleBase

variable {w₀ w w' : World} {env : Env} {pending : Set Address}

/-! ## Wrapping -/

namespace WrapBase

variable {m : WrapBase} {token underlying wrapped : Address} {pre result : ℕ × ℕ} {units : ℕ}
  {usesEther : Bool} {getAdapter : Outcome WrapAdapter} {adapter : WrapAdapter}
  {callData : Outcome (Address × ℕ × List UInt8)}

/-- The balance that is handed over is that of the SetToken. -/
theorem updatePosition_reconciling {before : ℕ}
    (h : m.updatePosition w token before (w.balance token) = .ok w')
    (hw : w₀.Reconciling w pending) (hne : token ≠ w₀.setToken.address) :
    w₀.Reconciling w' (pending \ {token}) ∧ ∀ c, w'.balance c = w.balance c := by
  simp only [updatePosition, World.onSetToken, Outcome.bind_eq_ok, Outcome.pure_eq_ok] at h
  obtain ⟨_, -, _, -, newUnit, hunit, s, hedit, rfl⟩ := h
  obtain ⟨hdefault, hle⟩ := editDefaultPosition_defaultEdit hedit hw.wellFormed.multiplier_pos
  refine ⟨hw.edit hdefault ?_ hne, hdefault.balance⟩
  unfold Covered
  rw [hdefault.totalSupply, hdefault.balance]
  exact (calculateDefaultEditPositionUnit_backed hunit).anti_unit (Int.natCast_nonneg _) hle

theorem updatePositions_reconciling
    (h : m.updatePositions w underlying wrapped pre = .ok (w', result))
    (hw : w₀.Reconciling w (∅ ∪ {underlying, wrapped})) (hunderlying : underlying ≠ w₀.setToken.address)
    (hwrapped : wrapped ≠ w₀.setToken.address) : w₀.Reconciling w' ∅ := by
  simp only [updatePositions, snapshotTargetAssetsBalance, Outcome.bind_eq_ok, Outcome.pure_eq_ok,
    Prod.mk.injEq] at h
  obtain ⟨v, hfirst, v', hsecond, rfl, -⟩ := h
  obtain ⟨hv, hbalance⟩ := updatePosition_reconciling hfirst hw hunderlying
  rw [← hbalance wrapped] at hsecond
  exact (updatePosition_reconciling hsecond hv hwrapped).1.settled_pair

theorem invokeCallData_touches (h : m.invokeCallData w env callData = .ok w')
    (henv : env.LowersOnly w.setToken.address fun _ ↦ {underlying, wrapped}) :
    w.Touches w' {underlying, wrapped} := by
  simp only [invokeCallData, Outcome.bind_eq_ok, Prod.exists] at h
  obtain ⟨_, _, _, -, hcall⟩ := h
  exact .of_call hcall rfl henv

theorem validateWrapAndUpdate_reconciling
    (h : m.validateWrapAndUpdate w env getAdapter underlying wrapped units usesEther = .ok (w', result))
    (hacts : env.ActsOn w {underlying, wrapped}) (hw : w.Reconciling w ∅) : w.Reconciling w' ∅ := by
  obtain ⟨henv, hne⟩ := hacts
  have hunderlying := hne underlying (.inl rfl)
  have hwrapped := hne wrapped (.inr rfl)
  simp only [validateWrapAndUpdate, Outcome.bind_eq_ok, Outcome.pure_eq_ok, Prod.exists,
    Prod.mk.injEq] at h
  obtain ⟨_, -, _, -, adapter, -, v, hprepare, v', hwrap, u, _, _, hupdate, _, -, _, -, rfl, -⟩ := h
  have hprepared : w.Touches v {underlying, wrapped} := by
    unfold prepareWrap at hprepare
    split_ifs at hprepare
    · exact .of_call hprepare rfl henv
    · simp only [Outcome.bind_eq_ok] at hprepare
      obtain ⟨_, -, happrove⟩ := hprepare
      exact .of_approve happrove hunderlying
  have hmade := invokeCallData_touches hwrap (hprepared.setToken ▸ henv)
  exact updatePositions_reconciling hupdate (hw.touch (hprepared.trans_self hmade)) hunderlying hwrapped

/-- `approve` stands for what a module does before it calls. -/
theorem validateUnwrapAndUpdate_reconciling
    {approve : World → WrapAdapter → ℕ → Outcome World}
    (h : m.validateUnwrapAndUpdate w env getAdapter approve underlying wrapped units usesEther =
      .ok (w', result))
    (happrove : ∀ adapter amount v, approve w adapter amount = .ok v →
      w.Touches v {underlying, wrapped})
    (hacts : env.ActsOn w {underlying, wrapped}) (hw : w.Reconciling w ∅) : w.Reconciling w' ∅ := by
  obtain ⟨henv, hne⟩ := hacts
  have hunderlying := hne underlying (.inl rfl)
  have hwrapped := hne wrapped (.inr rfl)
  simp only [validateUnwrapAndUpdate, Outcome.bind_eq_ok, Outcome.pure_eq_ok, Prod.exists,
    Prod.mk.injEq] at h
  obtain ⟨_, -, _, -, adapter, -, v, hprepare, v', hunwrap, u, hfinish, x, _, _, hupdate, _, -, _, -,
    rfl, -⟩ := h
  have hprepared := happrove _ _ _ hprepare
  have hmade := hprepared.trans_self (invokeCallData_touches hunwrap (hprepared.setToken ▸ henv))
  have hfinished : v'.Touches u {underlying, wrapped} := by
    unfold finishUnwrap at hfinish
    split_ifs at hfinish
    · exact .of_call hfinish rfl (hmade.setToken ▸ henv)
    · obtain rfl := Outcome.pure_eq_ok.mp hfinish
      exact (World.Touches.refl _).mono (Set.empty_subset _)
  exact updatePositions_reconciling hupdate (hw.touch (hmade.trans_self hfinished)) hunderlying hwrapped

end WrapBase

section wrap

variable {underlying wrapped : Address} {units : ℕ} {name : String} {usesEther : Bool}
  {data : List UInt8} {result : ℕ × ℕ}

theorem WrapModule.wrapToken_reconciling {m : WrapModule}
    (h : m.wrapToken w env underlying wrapped units name usesEther = .ok (w', result))
    (hacts : env.ActsOn w {underlying, wrapped}) (hw : w.Reconciling w ∅) : w.Reconciling w' ∅ := by
  simp only [wrapToken, Outcome.bind_eq_ok] at h
  obtain ⟨_, -, h⟩ := h
  exact WrapBase.validateWrapAndUpdate_reconciling h hacts hw

theorem WrapModule.unwrapToken_reconciling {m : WrapModule}
    (h : m.unwrapToken w env underlying wrapped units name usesEther = .ok (w', result))
    (hacts : env.ActsOn w {underlying, wrapped}) (hw : w.Reconciling w ∅) : w.Reconciling w' ∅ := by
  simp only [unwrapToken, Outcome.bind_eq_ok] at h
  obtain ⟨_, -, h⟩ := h
  apply WrapBase.validateUnwrapAndUpdate_reconciling h ?_ hacts hw
  intro _ _ v hv
  exact Outcome.pure_eq_ok.mp hv ▸ (World.Touches.refl w).mono (Set.empty_subset _)

theorem WrapModuleV2.wrapToken_reconciling {m : WrapModuleV2}
    (h : m.wrapToken w env underlying wrapped units name data usesEther = .ok (w', result))
    (hacts : env.ActsOn w {underlying, wrapped}) (hw : w.Reconciling w ∅) : w.Reconciling w' ∅ := by
  simp only [wrapToken, Outcome.bind_eq_ok] at h
  obtain ⟨_, -, h⟩ := h
  exact WrapBase.validateWrapAndUpdate_reconciling h hacts hw

theorem WrapModuleV2.unwrapToken_reconciling {m : WrapModuleV2}
    (h : m.unwrapToken w env underlying wrapped units name data usesEther = .ok (w', result))
    (hacts : env.ActsOn w {underlying, wrapped}) (hw : w.Reconciling w ∅) : w.Reconciling w' ∅ := by
  simp only [unwrapToken, Outcome.bind_eq_ok] at h
  obtain ⟨_, -, h⟩ := h
  apply WrapBase.validateUnwrapAndUpdate_reconciling h ?_ hacts hw
  intro adapter amount v hv
  simp only [approveWrapped, Outcome.bind_eq_ok] at hv
  obtain ⟨_, -, happrove⟩ := hv
  exact .of_approve happrove (hacts.ne_setToken _ (.inr rfl))

end wrap

/-! ## Providing liquidity -/

namespace AmmModule

variable {m : AmmModule} {info : ActionInfo} {delta : ℤ} {deltas : List ℤ}
  {result : ℤ × List ℤ} {call : Address × ℕ × List UInt8}

/-- The tokens that an action concerns. -/
def ActionInfo.tokens (info : ActionInfo) : Set Address :=
  {c | c = info.liquidityToken ∨ c ∈ info.components}

theorem updatePosition_edit {entry : Address × ℕ} (hsupply : info.totalSupply = w.setToken.totalSupply)
    (h : m.updatePosition info w entry = .ok (w', delta)) (hm : 0 < w.setToken.positionMultiplier) :
    DefaultEdit w w' entry.1 ∧ Covered w' entry.1 := by
  simp only [updatePosition, Outcome.bind_eq_ok, Outcome.pure_eq_ok, Prod.exists, Prod.mk.injEq] at h
  obtain ⟨v, _, _, _, hedit, _, -, _, -, _, -, rfl, -⟩ := h
  rw [hsupply] at hedit
  exact calculateAndEditDefaultPosition_ok hedit hm

theorem updateComponentPositions_reconciling (hsupply : info.totalSupply = w₀.setToken.totalSupply)
    (hlength : info.components.length ≤ info.preActionComponentBalances.length)
    (h : m.updateComponentPositions w info = .ok (w', deltas)) (hw : w₀.Reconciling w pending)
    (hne : ∀ c ∈ info.components, c ≠ w₀.setToken.address) :
    w₀.Reconciling w' (pending \ {c | c ∈ info.components}) := by
  have hstart : w₀.Reconciling (Prod.fst (w, ([] : List ℤ))) pending := hw
  rw [← List.map_fst_zip hlength]
  refine World.Reconciling.foldlM ?_ ?_ h hstart
  · intro state entry state' _ hok hstate
    simp only [updateComponentPosition, Outcome.bind_eq_ok, Outcome.pure_eq_ok, Prod.exists] at hok
    obtain ⟨v, _, hedit, rfl⟩ := hok
    exact updatePosition_edit (hsupply.trans hstate.totalSupply.symm) hedit
      hstate.wellFormed.multiplier_pos
  · intro entry hentry
    exact hne entry.1 (List.of_mem_zip hentry).1

theorem updateLiquidityTokenPositions_reconciling
    (hsupply : info.totalSupply = w₀.setToken.totalSupply)
    (h : m.updateLiquidityTokenPositions w info = .ok (w', delta)) (hw : w₀.Reconciling w pending)
    (hne : info.liquidityToken ≠ w₀.setToken.address) :
    w₀.Reconciling w' (pending \ {info.liquidityToken}) := by
  obtain ⟨hdefault, hcovered⟩ := updatePosition_edit (hsupply.trans hw.totalSupply.symm) h
    hw.wellFormed.multiplier_pos
  exact hw.edit hdefault hcovered hne

/-- The pool token and all components are computed again. -/
theorem settleAddition_reconciling (hsupply : info.totalSupply = w₀.setToken.totalSupply)
    (hlength : info.components.length ≤ info.preActionComponentBalances.length)
    (h : m.settleAddition w info = .ok (w', result)) (hw : w₀.Reconciling w (∅ ∪ info.tokens))
    (hne : ∀ c ∈ info.tokens, c ≠ w₀.setToken.address) : w₀.Reconciling w' ∅ := by
  simp only [settleAddition, Outcome.bind_eq_ok, Outcome.pure_eq_ok, Prod.exists, Prod.mk.injEq] at h
  obtain ⟨_, -, v, deltas, hcomponents, v', delta, hliquidity, rfl, -⟩ := h
  have hv := updateComponentPositions_reconciling hsupply hlength hcomponents hw
    fun c hc ↦ hne c (.inr hc)
  refine (updateLiquidityTokenPositions_reconciling hsupply hliquidity hv (hne _ (.inl rfl))).mono ?_
  rintro c ⟨⟨hc | hc | hc, hcomponent⟩, htoken⟩
  · exact hc
  · exact absurd hc htoken
  · exact absurd hc hcomponent

theorem settleRemoval_reconciling (hsupply : info.totalSupply = w₀.setToken.totalSupply)
    (hlength : info.components.length ≤ info.preActionComponentBalances.length)
    (h : m.settleRemoval w info = .ok (w', result)) (hw : w₀.Reconciling w (∅ ∪ info.tokens))
    (hne : ∀ c ∈ info.tokens, c ≠ w₀.setToken.address) : w₀.Reconciling w' ∅ := by
  simp only [settleRemoval, Outcome.bind_eq_ok, Outcome.pure_eq_ok, Prod.exists, Prod.mk.injEq] at h
  obtain ⟨_, -, v, delta, hliquidity, v', deltas, hcomponents, rfl, -⟩ := h
  have hv := updateLiquidityTokenPositions_reconciling hsupply hliquidity hw (hne _ (.inl rfl))
  refine (updateComponentPositions_reconciling hsupply hlength hcomponents hv
    fun c hc ↦ hne c (.inr hc)).mono ?_
  rintro c ⟨⟨hc | hc | hc, htoken⟩, hcomponent⟩
  · exact hc
  · exact absurd hc htoken
  · exact absurd hc hcomponent

theorem executeComponentApprovals_touches (h : m.executeComponentApprovals env info w = .ok w')
    (hne : ∀ c ∈ info.tokens, c ≠ w.setToken.address) : w.Touches w' info.tokens := by
  apply World.Touches.foldlM ?_ h
  intro v entry v' hentry hset hok
  exact .of_approve hok (hset ▸ hne entry.1 (.inr (List.of_mem_zip hentry).1))

theorem invokeAmm_touches (h : m.invokeAmm env call w = .ok w')
    (henv : env.LowersOnly w.setToken.address fun _ ↦ info.tokens) : w.Touches w' info.tokens :=
  .of_call h rfl henv

theorem executeRemoval_touches (h : m.executeRemoval env info call w = .ok w')
    (henv : env.LowersOnly w.setToken.address fun _ ↦ info.tokens)
    (hne : ∀ c ∈ info.tokens, c ≠ w.setToken.address) : w.Touches w' info.tokens := by
  simp only [executeRemoval, Outcome.bind_eq_ok] at h
  obtain ⟨v, happrove, hcall⟩ := h
  have happroved : w.Touches v info.tokens := .of_approve happrove (hne _ (.inl rfl))
  exact happroved.trans_self (invokeAmm_touches hcall (happroved.setToken ▸ henv))

/-- Liquidity is added after all components were approved. -/
theorem executeAddLiquidity_touches
    (h : m.executeAddLiquidity w env info = .ok w' ∨ m.executeAddLiquiditySingleAsset w env info = .ok w')
    (henv : env.LowersOnly w.setToken.address fun _ ↦ info.tokens)
    (hne : ∀ c ∈ info.tokens, c ≠ w.setToken.address) : w.Touches w' info.tokens := by
  have hmade : ∃ call v, m.executeComponentApprovals env info w = .ok v ∧
      m.invokeAmm env call v = .ok w' := by
    rcases h with h | h
    · simp only [executeAddLiquidity, Outcome.bind_eq_ok] at h
      obtain ⟨call, -, v, happrove, hcall⟩ := h
      exact ⟨call, v, happrove, hcall⟩
    · unfold executeAddLiquiditySingleAsset at h
      split at h
      · simp only [Outcome.bind_eq_ok] at h
        obtain ⟨call, -, v, happrove, hcall⟩ := h
        exact ⟨call, v, happrove, hcall⟩
      · cases h
  obtain ⟨call, v, happrove, hcall⟩ := hmade
  have happroved := executeComponentApprovals_touches happrove hne
  exact happroved.trans_self (invokeAmm_touches hcall (happroved.setToken ▸ henv))

theorem executeRemoveLiquidity_touches
    (h : m.executeRemoveLiquidity w env info = .ok w' ∨
      m.executeRemoveLiquiditySingleAsset w env info = .ok w')
    (henv : env.LowersOnly w.setToken.address fun _ ↦ info.tokens)
    (hne : ∀ c ∈ info.tokens, c ≠ w.setToken.address) : w.Touches w' info.tokens := by
  have hmade : ∃ call, m.executeRemoval env info call w = .ok w' := by
    rcases h with h | h
    · simp only [executeRemoveLiquidity, Outcome.bind_eq_ok] at h
      obtain ⟨call, -, hcall⟩ := h
      exact ⟨call, hcall⟩
    · unfold executeRemoveLiquiditySingleAsset at h
      split at h
      · simp only [Outcome.bind_eq_ok] at h
        obtain ⟨call, -, hcall⟩ := h
        exact ⟨call, hcall⟩
      · cases h
  obtain ⟨call, hcall⟩ := hmade
  exact executeRemoval_touches hcall henv hne

section actions

variable {ammName : String} {ammPool component : Address} {components : List Address}
  {componentUnits : List ℕ} {units componentUnit : ℕ}

/-- What the information about an action says about the world in which it was collected. -/
structure Collected (w : World) (info : ActionInfo) (tokens : Set Address) : Prop where
  totalSupply : info.totalSupply = w.setToken.totalSupply
  length : info.components.length ≤ info.preActionComponentBalances.length
  tokens : info.tokens = tokens

theorem getActionInfo_collected
    (h : m.getActionInfo w env ammName ammPool components componentUnits units = .ok info) :
    Collected w info {c | c = ammPool ∨ c ∈ components} := by
  simp only [getActionInfo, Outcome.bind_eq_ok, Outcome.pure_eq_ok] at h
  obtain ⟨_, -, _, -, _, -, rfl⟩ := h
  exact ⟨rfl, by simp [getTokenBalances], rfl⟩

theorem addition_reconciling {tokens : Set Address} {v : World} (hinfo : Collected w info tokens)
    (hcall : m.executeAddLiquidity w env info = .ok v ∨
      m.executeAddLiquiditySingleAsset w env info = .ok v)
    (h : m.settleAddition v info = .ok (w', result)) (hacts : env.ActsOn w tokens)
    (hw : w.Reconciling w ∅) : w.Reconciling w' ∅ := by
  obtain ⟨hsupply, hlength, rfl⟩ := hinfo
  have htouch := executeAddLiquidity_touches hcall hacts.lowersOnly hacts.ne_setToken
  exact settleAddition_reconciling hsupply hlength h (hw.touch htouch) hacts.ne_setToken

theorem removal_reconciling {tokens : Set Address} {v : World} (hinfo : Collected w info tokens)
    (hcall : m.executeRemoveLiquidity w env info = .ok v ∨
      m.executeRemoveLiquiditySingleAsset w env info = .ok v)
    (h : m.settleRemoval v info = .ok (w', result)) (hacts : env.ActsOn w tokens)
    (hw : w.Reconciling w ∅) : w.Reconciling w' ∅ := by
  obtain ⟨hsupply, hlength, rfl⟩ := hinfo
  have htouch := executeRemoveLiquidity_touches hcall hacts.lowersOnly hacts.ne_setToken
  exact settleRemoval_reconciling hsupply hlength h (hw.touch htouch) hacts.ne_setToken

theorem addLiquidity_reconciling
    (h : m.addLiquidity w env ammName ammPool units components componentUnits = .ok (w', result))
    (hacts : env.ActsOn w {c | c = ammPool ∨ c ∈ components}) (hw : w.Reconciling w ∅) :
    w.Reconciling w' ∅ := by
  simp only [addLiquidity, Outcome.bind_eq_ok] at h
  obtain ⟨_, -, info, hinfo, _, -, v, hcall, hsettle⟩ := h
  exact addition_reconciling (getActionInfo_collected hinfo) (.inl hcall) hsettle hacts hw

theorem addLiquiditySingleAsset_reconciling
    (h : m.addLiquiditySingleAsset w env ammName ammPool units component componentUnit =
      .ok (w', result))
    (hacts : env.ActsOn w {c | c = ammPool ∨ c ∈ [component]}) (hw : w.Reconciling w ∅) :
    w.Reconciling w' ∅ := by
  simp only [addLiquiditySingleAsset, Outcome.bind_eq_ok] at h
  obtain ⟨_, -, info, hinfo, _, -, v, hcall, hsettle⟩ := h
  exact addition_reconciling (getActionInfo_collected hinfo) (.inr hcall) hsettle hacts hw

theorem removeLiquidity_reconciling
    (h : m.removeLiquidity w env ammName ammPool units components componentUnits = .ok (w', result))
    (hacts : env.ActsOn w {c | c = ammPool ∨ c ∈ components}) (hw : w.Reconciling w ∅) :
    w.Reconciling w' ∅ := by
  simp only [removeLiquidity, Outcome.bind_eq_ok] at h
  obtain ⟨_, -, info, hinfo, _, -, v, hcall, hsettle⟩ := h
  exact removal_reconciling (getActionInfo_collected hinfo) (.inl hcall) hsettle hacts hw

theorem removeLiquiditySingleAsset_reconciling
    (h : m.removeLiquiditySingleAsset w env ammName ammPool units component componentUnit =
      .ok (w', result))
    (hacts : env.ActsOn w {c | c = ammPool ∨ c ∈ [component]}) (hw : w.Reconciling w ∅) :
    w.Reconciling w' ∅ := by
  simp only [removeLiquiditySingleAsset, Outcome.bind_eq_ok] at h
  obtain ⟨_, -, info, hinfo, _, -, v, hcall, hsettle⟩ := h
  exact removal_reconciling (getActionInfo_collected hinfo) (.inr hcall) hsettle hacts hw

end actions

end AmmModule

/-! ## Absorbing airdrops -/

namespace AirdropModule

variable {m m' : AirdropModule} {token : Address} {tokens : List Address} {amount newFee : ℕ}

/-- The fees are what leaves the SetToken, whatever the settings are. -/
theorem handleFees_balance {managerTake protocolTake totalFees : ℕ}
    (h : m.handleFees w env token amount = .ok (w', managerTake, protocolTake, totalFees))
    (htoken : token ≠ w.setToken.address) :
    w.TokenStep w' token ∧ w'.balance token = w.balance token - totalFees := by
  simp only [handleFees] at h
  split_ifs at h
  · simp only [getModuleFee, Outcome.bind_eq_ok, Outcome.pure_eq_ok, SafeMath.sub_eq_ok,
      Prod.mk.injEq] at h
    obtain ⟨_, -, _, -, _, ⟨hshare, rfl⟩, v, hmanager, v', hprotocol, rfl, rfl, rfl, rfl⟩ := h
    obtain ⟨hstep, hle, hbalance⟩ := World.strictInvokeTransfer_balance hmanager htoken
    obtain ⟨hstep', hle', hbalance'⟩ :=
      payProtocolFeeFromSetToken_balance hprotocol (hstep.setToken ▸ htoken)
    exact ⟨hstep.trans hstep', by omega⟩
  · simp only [Outcome.pure_eq_ok, Prod.mk.injEq] at h
    obtain ⟨rfl, rfl, rfl, rfl⟩ := h
    exact ⟨.refl w token, rfl⟩

theorem internalAbsorb_reconciling (h : m.internalAbsorb env w token = .ok w')
    (htoken : token ≠ w₀.setToken.address) (hw : w₀.Reconciling w ∅) : w₀.Reconciling w' ∅ := by
  simp only [internalAbsorb, handleAirdropPosition, Outcome.bind_eq_ok, Outcome.pure_eq_ok,
    Prod.exists] at h
  obtain ⟨_, -, v, _, _, _, ⟨_, -, _, -, h⟩, rfl⟩ := h
  split_ifs at h
  · simp only [Outcome.bind_eq_ok, Outcome.pure_eq_ok, Prod.exists, Prod.mk.injEq,
      getPostAirdropUnit, Position.getDefaultPositionUnit, SafeMath.sub_eq_ok, preciseDiv_eq_ok,
      World.onSetToken] at h
    obtain ⟨u, _, _, totalFees, hfees, newUnit, ⟨_, ⟨-, rfl⟩, -, hsupply, rfl⟩, _, ⟨s, hedit, rfl⟩,
      rfl, -⟩ := h
    obtain ⟨hstep, hbalance⟩ := handleFees_balance hfees (hw.address ▸ htoken)
    have hu := hw.touch (.of_tokenStep hstep)
    obtain ⟨hdefault, hle⟩ := editDefaultPosition_defaultEdit hedit hu.wellFormed.multiplier_pos
    refine (hu.edit hdefault ?_ htoken).mono ?_
    · -- the unit was computed from the balance that is left
      unfold Covered
      rw [hdefault.totalSupply, hdefault.balance]
      apply Backing.Backed.anti_unit ?_ (Int.natCast_nonneg _) hle
      apply Backing.backed_of_le_div (by exact_mod_cast hsupply) preciseUnitInt_pos.le le_rfl
      rw [hbalance, preciseUnitInt_eq]
      exact_mod_cast le_rfl
    · rintro c ⟨hc | hc, hne⟩
      · exact hc
      · exact absurd hc hne
  · simp only [Outcome.pure_eq_ok, Prod.mk.injEq] at h
    obtain ⟨rfl, -⟩ := h
    exact hw

theorem internalBatchAbsorb_reconciling (h : m.internalBatchAbsorb env w tokens = .ok w')
    (htokens : ∀ token ∈ tokens, token ≠ w₀.setToken.address) (hw : w₀.Reconciling w ∅) :
    w₀.Reconciling w' ∅ :=
  Outcome.foldlM_invariant_of_mem
    (fun _ token htoken _ hok hv ↦ internalAbsorb_reconciling hok (htokens token htoken) hv) h hw

theorem absorb_reconciling (h : m.absorb w env token = .ok w')
    (htoken : token ≠ w.setToken.address) (hw : w.Reconciling w ∅) : w.Reconciling w' ∅ := by
  simp only [absorb, Outcome.bind_eq_ok] at h
  obtain ⟨_, -, _, -, h⟩ := h
  exact internalAbsorb_reconciling h htoken hw

theorem batchAbsorb_reconciling (h : m.batchAbsorb w env tokens = .ok w')
    (htokens : ∀ token ∈ tokens, token ≠ w.setToken.address) (hw : w.Reconciling w ∅) :
    w.Reconciling w' ∅ := by
  simp only [batchAbsorb, Outcome.bind_eq_ok] at h
  obtain ⟨_, -, _, -, h⟩ := h
  exact internalBatchAbsorb_reconciling h htokens hw

theorem updateAirdropFee_reconciling (h : m.updateAirdropFee w env newFee = .ok (m', w'))
    (htokens : ∀ token ∈ m.airdropSettings.airdrops, token ≠ w.setToken.address)
    (hw : w.Reconciling w ∅) : w.Reconciling w' ∅ := by
  simp only [updateAirdropFee, Outcome.bind_eq_ok, Outcome.pure_eq_ok, Prod.mk.injEq] at h
  obtain ⟨_, -, _, -, _, -, v, habsorb, -, rfl⟩ := h
  exact internalBatchAbsorb_reconciling habsorb htokens hw

end AirdropModule

/-! ## Adjusting units -/

namespace PositionUnitAdjusterModule

variable {m : PositionUnitAdjusterModule} {components : List Address} {requestedUnits : List ℤ}

/-- No requested unit exceeds what the balance is worth. -/
theorem newRealUnit_le {data : ComponentData} {requested unit : ℤ}
    (h : newRealUnit data requested = .ok unit) : unit ≤ data.calculatedRealUnit := by
  simp only [newRealUnit, Outcome.bind_eq_ok] at h
  obtain ⟨_, -, h⟩ := h
  split_ifs at h
  · exact (Outcome.pure_eq_ok.mp h).ge
  · simp only [Outcome.bind_eq_ok, Outcome.require_eq_ok, Outcome.pure_eq_ok] at h
    obtain ⟨_, -, _, hle, rfl⟩ := h
    exact hle

theorem adjustDefaultPositionUnit_reconciling {request : ComponentData × ℤ}
    (hdata : Snapshot w₀ request.1) (hsupply : 0 < w₀.setToken.totalSupply)
    (hne : request.1.component ≠ w₀.setToken.address)
    (h : m.adjustDefaultPositionUnit w request = .ok w') (hw : w₀.Reconciling w ∅)
    (hbalance : ∀ c, w.balance c = w₀.balance c) :
    w₀.Reconciling w' ∅ ∧ ∀ c, w'.balance c = w₀.balance c := by
  unfold adjustDefaultPositionUnit at h
  split_ifs at h
  · obtain rfl := Outcome.pure_eq_ok.mp h
    exact ⟨hw, hbalance⟩
  · simp only [World.onSetToken, Outcome.bind_eq_ok, SafeCast.toUint256_eq_ok,
      Outcome.pure_eq_ok] at h
    obtain ⟨_, hunit, unit, rfl, s, hedit, rfl⟩ := h
    obtain ⟨hdefault, hle⟩ := editDefaultPosition_defaultEdit hedit hw.wellFormed.multiplier_pos
    have hcalculated := newRealUnit_le hunit
    rw [hdata.calculatedRealUnit] at hcalculated
    refine ⟨(hw.edit hdefault ?_ hne).mono Set.sdiff_subset, ?_⟩
    · unfold Covered
      rw [hdefault.totalSupply, hdefault.balance, hbalance, hw.totalSupply]
      apply Backing.backed_of_le_div (by exact_mod_cast hsupply) preciseUnitInt_pos.le le_rfl
      refine hle.trans (hcalculated.trans ?_)
      unfold balanceUnit
      rw [preciseUnitInt_eq]
      exact_mod_cast le_rfl
    · exact fun c ↦ (hdefault.balance c).trans (hbalance c)

theorem adjustDefaultPositionUnits_reconciling
    (h : m.adjustDefaultPositionUnits w env components requestedUnits = .ok w')
    (hne : ∀ c ∈ components, c ≠ w.setToken.address) (hw : w.Reconciling w ∅) :
    w.Reconciling w' ∅ := by
  have hsupply : 0 < w.setToken.totalSupply := by
    simp only [adjustDefaultPositionUnits, calculateDefaultPositionUnits, Outcome.bind_eq_ok,
      Outcome.pure_eq_ok, Outcome.require_eq_ok, Prod.exists, Prod.mk.injEq] at h
    obtain ⟨_, -, _, -, _, -, _, _, ⟨_, -, rfl, -⟩, _, hpos, -⟩ := h
    exact hpos
  obtain ⟨requests, hdata, hcomponents, hloop⟩ := adjustDefaultPositionUnits_ok h
  have hfinal := Outcome.foldlM_invariant_of_mem
    (P := fun v ↦ w.Reconciling v ∅ ∧ ∀ c, v.balance c = w.balance c) ?_ hloop ⟨hw, fun _ ↦ rfl⟩
  · exact hfinal.1
  intro v request hmem v' hok hv
  have hcomponent := (hcomponents request.1.component).mpr ⟨request, hmem, rfl⟩
  exact adjustDefaultPositionUnit_reconciling (hdata request hmem) hsupply (hne _ hcomponent) hok hv.1
    hv.2

end PositionUnitAdjusterModule

/-! ## Wrapped fCash -/

namespace NotionalTradeModule

variable {m : NotionalTradeModule} {fCash sendToken receiveToken : Address}
  {currencyId maturity fCashAmount limit paid : ℕ}

theorem updateSetTokenPositions_reconciling {v : World} {pre pre' : ℕ} {result : ℕ × ℕ}
    (h : m.updateSetTokenPositions v sendToken pre receiveToken pre' = .ok (w', result))
    (hw : w₀.Reconciling w ∅) (htouch : w.Touches v {sendToken, receiveToken})
    (hsend : sendToken ≠ w₀.setToken.address) (hreceive : receiveToken ≠ w₀.setToken.address) :
    w₀.Reconciling w' ∅ := by
  simp only [updateSetTokenPositions, Outcome.bind_eq_ok, Outcome.pure_eq_ok, Prod.exists,
    Prod.mk.injEq] at h
  obtain ⟨u, _, _, _, hfirst, u', _, _, _, hsecond, _, -, _, -, rfl, -⟩ := h
  exact hw.calculateAndEdit_pair htouch hfirst hsecond hsend hreceive

theorem internalMintFCashPosition_reconciling
    (h : m.internalMintFCashPosition w env fCash sendToken fCashAmount limit = .ok (w', paid))
    (henv : env.LowersOnly w₀.setToken.address fun _ ↦ {sendToken, fCash})
    (hsend : sendToken ≠ w₀.setToken.address) (hfCash : fCash ≠ w₀.setToken.address)
    (hw : w₀.Reconciling w ∅) : w₀.Reconciling w' ∅ := by
  unfold internalMintFCashPosition at h
  split_ifs at h
  · simp only [Outcome.pure_eq_ok, Prod.mk.injEq] at h
    exact h.1 ▸ hw
  simp only [Outcome.bind_eq_ok, Outcome.pure_eq_ok, Prod.exists, Prod.mk.injEq] at h
  obtain ⟨_, -, v, happrove, v', hmint, u, _, _, hupdate, _, -, rfl, -⟩ := h
  have happroved : w.Touches v {sendToken, fCash} := by
    unfold approve at happrove
    split_ifs at happrove
    · exact .of_approve happrove (hw.address ▸ hsend)
    · obtain rfl := Outcome.pure_eq_ok.mp happrove
      exact (World.Touches.refl _).mono (Set.empty_subset _)
  have hmade : v.Touches v' {sendToken, fCash} :=
    .of_call hmint rfl (by rwa [happroved.setToken, hw.address])
  exact updateSetTokenPositions_reconciling hupdate hw (happroved.trans_self hmade) hsend hfCash

theorem internalRedeemFCashPosition_reconciling {moved : Address → Set Address}
    (h : m.internalRedeemFCashPosition w env fCash receiveToken fCashAmount limit = .ok (w', paid))
    (henv : env.LowersOnly w₀.setToken.address moved) (hmoved : moved fCash ⊆ {fCash, receiveToken})
    (hreceive : receiveToken ≠ w₀.setToken.address) (hfCash : fCash ≠ w₀.setToken.address)
    (hw : w₀.Reconciling w ∅) : w₀.Reconciling w' ∅ := by
  unfold internalRedeemFCashPosition at h
  split_ifs at h
  · simp only [Outcome.pure_eq_ok, Prod.mk.injEq] at h
    exact h.1 ▸ hw
  simp only [Outcome.bind_eq_ok, Outcome.pure_eq_ok, Prod.exists, Prod.mk.injEq] at h
  obtain ⟨_, -, v, hredeem, u, _, _, hupdate, _, -, rfl, -⟩ := h
  have hmade : w.Touches v (moved fCash) := .of_call hredeem rfl (by rwa [hw.address])
  exact updateSetTokenPositions_reconciling hupdate hw (hmade.mono hmoved) hfCash hreceive

/-- The token that the whole balance of a position is redeemed for. -/
def redeemedTokens (m : NotionalTradeModule) (fCash : Address) : Set Address :=
  {c | ∃ token, (m.wrappedfCash fCash).getToken m.redeemToUnderlying = .ok token ∧
    c = m.heldToken token}

/-- What the redemption of matured positions assumes: redeeming wrapped fCash lowers no balance but its
own and that of the token it is redeemed for, which is not the Set. -/
structure SparesOthers (m : NotionalTradeModule) (w : World) (env : Env) : Prop where
  lowersOnly : env.LowersOnly w.setToken.address fun fCash ↦ {fCash} ∪ m.redeemedTokens fCash
  ne_setToken : ∀ fCash, ∀ c ∈ m.redeemedTokens fCash, c ≠ w.setToken.address

theorem redeemMaturedPosition_reconciling {position : PositionEntry}
    (h : m.redeemMaturedPosition env w position = .ok w')
    (hcomponent : position.component ≠ w₀.setToken.address) (hspares : m.SparesOthers w₀ env)
    (hw : w₀.Reconciling w ∅) : w₀.Reconciling w' ∅ := by
  unfold redeemMaturedPosition at h
  split_ifs at h
  · simp only [Outcome.bind_eq_ok] at h
    obtain ⟨matured, -, h⟩ := h
    split_ifs at h
    · simp only [redeemWholeBalance, Outcome.bind_eq_ok, Outcome.pure_eq_ok, Prod.exists] at h
      obtain ⟨token, htoken, v, _, hredeem, rfl⟩ := h
      have hreceive : m.heldToken token ∈ m.redeemedTokens position.component := ⟨token, htoken, rfl⟩
      apply internalRedeemFCashPosition_reconciling hredeem hspares.lowersOnly ?_
        (hspares.ne_setToken _ _ hreceive) hcomponent hw
      rintro c (hc | ⟨other, hother, rfl⟩)
      · exact .inl hc
      · rw [htoken] at hother
        obtain rfl := Except.ok.inj hother
        exact .inr rfl
    · exact Outcome.pure_eq_ok.mp h ▸ hw
  · exact Outcome.pure_eq_ok.mp h ▸ hw

/-- All positions were listed before the first redemption. -/
theorem internalRedeemMaturedPositions_reconciling
    (h : m.internalRedeemMaturedPositions w env = .ok w') (hspares : m.SparesOthers w env)
    (hw : w.Reconciling w ∅) : w.Reconciling w' ∅ := by
  simp only [internalRedeemMaturedPositions, Outcome.bind_eq_ok] at h
  obtain ⟨positions, hpositions, hloop⟩ := h
  refine Outcome.foldlM_invariant_of_mem (P := fun v ↦ w.Reconciling v ∅) ?_ hloop hw
  intro v position hposition v' hok hv
  apply redeemMaturedPosition_reconciling hok ?_ hspares hv
  intro heq
  exact hw.wellFormed.self_notMem (heq ▸ SetToken.mem_components_of_mem_getPositions hpositions hposition)

/-- Both external functions that redeem whatever has matured. -/
theorem redeemMatured_reconciling {caller : Address}
    (h : m.redeemMaturedPositions w env = .ok w' ∨ m.moduleHook w env caller = .ok w')
    (hspares : m.SparesOthers w env) (hw : w.Reconciling w ∅) : w.Reconciling w' ∅ := by
  rcases h with h | h
  · simp only [redeemMaturedPositions, Outcome.bind_eq_ok] at h
    obtain ⟨_, -, h⟩ := h
    exact internalRedeemMaturedPositions_reconciling h hspares hw
  · simp only [moduleHook, Outcome.bind_eq_ok] at h
    obtain ⟨_, -, h⟩ := h
    exact internalRedeemMaturedPositions_reconciling h hspares hw

theorem mintFCashPosition_reconciling
    (h : m.mintFCashPosition w env currencyId maturity fCashAmount sendToken limit = .ok (w', paid))
    (hdeployed : m.deployWrapper currencyId maturity = .ok fCash)
    (hacts : env.ActsOn w {sendToken, fCash}) (hw : w.Reconciling w ∅) : w.Reconciling w' ∅ := by
  simp only [mintFCashPosition, Outcome.bind_eq_ok] at h
  obtain ⟨_, -, _, -, wrapped, hwrapped, h⟩ := h
  obtain rfl := Except.ok.inj (hdeployed.symm.trans hwrapped)
  exact internalMintFCashPosition_reconciling h hacts.lowersOnly (hacts.ne_setToken _ (.inl rfl))
    (hacts.ne_setToken _ (.inr rfl)) hw

theorem redeemFCashPosition_reconciling
    (h : m.redeemFCashPosition w env currencyId maturity fCashAmount receiveToken limit = .ok (w', paid))
    (hcomputed : m.computeAddress currencyId maturity = .ok fCash)
    (hacts : env.ActsOn w {fCash, receiveToken}) (hw : w.Reconciling w ∅) : w.Reconciling w' ∅ := by
  simp only [redeemFCashPosition, getWrappedfCash, Outcome.bind_eq_ok, Outcome.pure_eq_ok] at h
  obtain ⟨_, -, _, ⟨wrapped, hwrapped, _, -, rfl⟩, _, -, h⟩ := h
  obtain rfl := Except.ok.inj (hcomputed.symm.trans hwrapped)
  exact internalRedeemFCashPosition_reconciling h hacts.lowersOnly (Set.Subset.refl _)
    (hacts.ne_setToken _ (.inr rfl)) (hacts.ne_setToken _ (.inl rfl)) hw

end NotionalTradeModule

/-! ## Rebalancing one index -/

namespace SingleIndexModule

variable {m m' : SingleIndexModule} {component sellComponent buyComponent : Address} {fixIn : Bool}
  {amount exchange : ℕ} {result : ℕ × ℕ}

theorem executeTrade_touches
    (h : m.executeTrade w env sellComponent buyComponent fixIn amount exchange = .ok w')
    (henv : env.LowersOnly w.setToken.address fun _ ↦ {sellComponent, buyComponent})
    (hsell : sellComponent ≠ w.setToken.address) : w.Touches w' {sellComponent, buyComponent} := by
  simp only [executeTrade, Outcome.bind_eq_ok, Prod.exists] at h
  obtain ⟨_, _, -, v, happrove, hcall⟩ := h
  have happroved : w.Touches v {sellComponent, buyComponent} := .of_approve happrove hsell
  exact happroved.trans_self (.of_call hcall rfl (happroved.setToken ▸ henv))

theorem swap_reconciling
    (h : m.swap w env sellComponent buyComponent fixIn amount exchange = .ok (w', result))
    (hacts : env.ActsOn w {sellComponent, buyComponent}) (hw : w.Reconciling w ∅) :
    w.Reconciling w' ∅ := by
  have hsell := hacts.ne_setToken _ (.inl rfl)
  simp only [swap, updatePositionState, Outcome.bind_eq_ok, Outcome.pure_eq_ok, Prod.exists,
    Prod.mk.injEq] at h
  obtain ⟨v, htrade, u, _, _, _, hfirst, u', _, _, _, hsecond, _, -, _, -, rfl, -⟩ := h
  exact hw.calculateAndEdit_pair (executeTrade_touches htrade hacts.lowersOnly hsell) hfirst hsecond
    hsell (hacts.ne_setToken _ (.inr rfl))

theorem trade_reconciling (h : m.trade w env component = .ok (m', w'))
    (hacts : env.ActsOn w {component, m.weth}) (hw : w.Reconciling w ∅) : w.Reconciling w' ∅ := by
  simp only [trade, Outcome.bind_eq_ok, Prod.exists] at h
  obtain ⟨_, -, _, -, _, -, isBuy, size, -, h⟩ := h
  split_ifs at h
  all_goals
    simp only [Outcome.bind_eq_ok, Outcome.pure_eq_ok, Prod.exists, Prod.mk.injEq] at h
    obtain ⟨v, _, _, hswap, -, rfl⟩ := h
  · exact swap_reconciling hswap (Set.pair_comm component m.weth ▸ hacts) hw
  · exact swap_reconciling hswap hacts hw

theorem tradeRemainingWETH_reconciling (h : m.tradeRemainingWETH w env component = .ok (m', w'))
    (hacts : env.ActsOn w {component, m.weth}) (hw : w.Reconciling w ∅) : w.Reconciling w' ∅ := by
  simp only [tradeRemainingWETH, Outcome.bind_eq_ok, Outcome.pure_eq_ok, Prod.exists,
    Prod.mk.injEq] at h
  obtain ⟨_, -, _, -, _, -, _, -, _, -, _, size, -, v, _, _, hswap, _, -, -, rfl⟩ := h
  exact swap_reconciling hswap (Set.pair_comm component m.weth ▸ hacts) hw

end SingleIndexModule

/-! ## Claims and votes -/

theorem ClaimModule.claimStep_touches {m : ClaimModule} {claimAdapter : Address → ClaimAdapter}
    {claim : Address × String} (h : m.claimStep env claimAdapter w claim = .ok w')
    (henv : env.LowersOnly w.setToken.address fun _ ↦ ∅) : w.Touches w' ∅ := by
  simp only [claimStep, internalClaim, Outcome.bind_eq_ok, Outcome.pure_eq_ok, Prod.exists,
    Prod.mk.injEq] at h
  obtain ⟨v, _, ⟨_, -, _, -, _, _, _, -, u, hcall, _, -, rfl, -⟩, rfl⟩ := h
  exact .of_call hcall rfl henv

theorem ClaimModule.claim_touches {m : ClaimModule} {claimAdapter : Address → ClaimAdapter}
    {rewardPool : Address} {integrationName : String}
    (h : m.claim w env claimAdapter rewardPool integrationName = .ok w')
    (henv : env.LowersOnly w.setToken.address fun _ ↦ ∅) : w.Touches w' ∅ := by
  simp only [claim, Outcome.bind_eq_ok] at h
  obtain ⟨_, -, _, -, hstep⟩ := h
  exact claimStep_touches hstep henv

theorem ClaimModule.batchClaim_touches {m : ClaimModule} {claimAdapter : Address → ClaimAdapter}
    {rewardPools : List Address} {integrationNames : List String}
    (h : m.batchClaim w env claimAdapter rewardPools integrationNames = .ok w')
    (henv : env.LowersOnly w.setToken.address fun _ ↦ ∅) : w.Touches w' ∅ := by
  simp only [batchClaim, Outcome.bind_eq_ok] at h
  obtain ⟨_, -, _, -, _, -, hloop⟩ := h
  exact .foldlM (fun v _ v' _ hset hok ↦ claimStep_touches hok (hset ▸ henv)) hloop

theorem GovernanceModule.invokeGovernance_touches {m : GovernanceModule} {name : String}
    {getCalldata : GovernanceAdapter → Outcome (Address × ℕ × List UInt8)}
    (h : m.invokeGovernance w env name getCalldata = .ok w')
    (henv : env.LowersOnly w.setToken.address fun _ ↦ ∅) : w.Touches w' ∅ := by
  simp only [invokeGovernance, Outcome.bind_eq_ok, Prod.exists] at h
  obtain ⟨_, -, _, -, _, _, _, -, hcall⟩ := h
  exact .of_call hcall rfl henv

end SetProtocol
