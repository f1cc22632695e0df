import SetProtocol.Core.ModulePositions
import SetProtocol.Modules.BasicIssuanceModule
import SetProtocol.System.CompoundMarkets
import SetProtocol.System.IssuanceFees

/-!
# What the removal of a module leaves behind

Sets are issued and redeemed, and the four modules with external positions lever, delever, trade, stake
and synchronize, in any order.  When one of them is removed from the SetToken, its positions should be
gone.  The lending modules write the debt that is left, which is none, but only while there are Sets;
the Perp module writes nothing; the staking module refuses as long as it knows of a staking contract.
So a removal leaves no position exactly when it deals with every position that the module has.
-/

namespace SetProtocol

open PreciseUnitMath ModuleBase

/-! ## Synchronizing without debt -/

namespace World

variable {w w' : World}

/-- The positions of the SetToken may differ. -/
def Repositioned (w w' : World) : Prop :=
  ∃ s, w.setToken.SameFrame s ∧ w' = { w with setToken := s }

namespace Repositioned

theorem refl (w : World) : w.Repositioned w :=
  ⟨_, .refl _, rfl⟩

theorem trans {w₁ w₂ w₃ : World} (h : w₁.Repositioned w₂) (h' : w₂.Repositioned w₃) :
    w₁.Repositioned w₃ := by
  obtain ⟨s, hs, rfl⟩ := h
  obtain ⟨s', hs', rfl⟩ := h'
  exact ⟨s', hs.trans hs', rfl⟩

theorem balance (h : w.Repositioned w') (token : Address) : w'.balance token = w.balance token := by
  obtain ⟨s, hs, rfl⟩ := h
  exact balance_of_sameFrame hs token

theorem chain (h : w.Repositioned w') : w'.chain = w.chain := by
  obtain ⟨s, -, rfl⟩ := h
  rfl

theorem sameFrame (h : w.Repositioned w') : w.setToken.SameFrame w'.setToken := by
  obtain ⟨s, hs, rfl⟩ := h
  exact hs

theorem controller (h : w.Repositioned w') : w'.controller = w.controller := by
  obtain ⟨s, -, rfl⟩ := h
  rfl

theorem foldlM {α : Type} {step : World → α → Outcome World} {as : List α}
    (hstep : ∀ v a v', step v a = .ok v' → v.Repositioned v') (h : as.foldlM step w = .ok w') :
    w.Repositioned w' :=
  Outcome.foldlM_invariant (P := w.Repositioned)
    (fun v a v' hok hv ↦ hv.trans (hstep v a v' hok)) h (.refl w)

end Repositioned

end World

namespace LeverageModule

variable {w w' : World} {module token : Address} {supply balance : ℕ} {assets : Set Address}

/-- The module edits positions of the given assets. -/
def footprint (module : Address) (assets : List Address) : Footprint :=
  ⟨fun _ ↦ True, fun p c ↦ p = module ∧ c ∈ assets, fun _ _ ↦ False⟩

theorem syncCollateral_repositioned (h : syncCollateral w module token supply = .ok w') :
    w.Repositioned w' := by
  simp only [syncCollateral, Outcome.bind_eq_ok] at h
  obtain ⟨_, -, _, -, _, -, h⟩ := h
  split_ifs at h
  · simp only [updateCollateralPosition, World.onSetToken, Outcome.bind_eq_ok,
      Outcome.pure_eq_ok] at h
    obtain ⟨s, hedit, rfl⟩ := h
    exact ⟨s, Position.editDefaultPosition_sameFrame hedit, rfl⟩
  · obtain rfl := Outcome.pure_eq_ok.mp h
    exact .refl w

theorem syncBorrow_repositioned (h : syncBorrow w module token balance supply = .ok w') :
    w.Repositioned w' := by
  simp only [syncBorrow, Outcome.bind_eq_ok] at h
  obtain ⟨_, -, _, -, h⟩ := h
  split_ifs at h
  · simp only [updateBorrowPosition, World.onSetToken, Outcome.bind_eq_ok, Outcome.pure_eq_ok] at h
    obtain ⟨s, hedit, rfl⟩ := h
    exact ⟨s, Position.editExternalPosition_sameFrame hedit, rfl⟩
  · obtain rfl := Outcome.pure_eq_ok.mp h
    exact .refl w

theorem borrowPosition_zero {unit : ℤ} (h : borrowPosition 0 supply = .ok unit) : unit = 0 := by
  simp only [borrowPosition, Outcome.bind_eq_ok, SafeCast.toInt256_eq_ok,
    SignedSafeMath.mul_eq_ok] at h
  obtain ⟨quotient, hquotient, _, ⟨-, rfl⟩, -, rfl⟩ := h
  obtain ⟨hpos, rfl⟩ := preciseDivCeil_eq_of_ok hquotient
  rw [Nat.zero_mul, Nat.zero_add, Nat.div_eq_of_lt (Nat.sub_lt hpos Nat.one_pos)]
  rfl

/-- Without debt the position of the asset is closed, and no closed position is opened. -/
theorem syncBorrow_zero (hm : 0 < w.setToken.positionMultiplier)
    (h : syncBorrow w module token 0 supply = .ok w') :
    w'.setToken.externalRealUnit token module = 0 ∧
      ∀ c, w.setToken.externalRealUnit c module = 0 → w'.setToken.externalRealUnit c module = 0 := by
  simp only [syncBorrow, Outcome.bind_eq_ok, SetToken.getExternalPositionRealUnit_eq_ok] at h
  obtain ⟨_, ⟨-, rfl⟩, unit, hunit, h⟩ := h
  obtain rfl := borrowPosition_zero hunit
  split_ifs at h with hne
  · simp only [updateBorrowPosition, World.onSetToken, Outcome.bind_eq_ok, Outcome.pure_eq_ok] at h
    obtain ⟨s, hedit, rfl⟩ := h
    have hreal := fun c ↦ Position.editExternalPosition_externalRealUnit c module hm hedit
    simp only [and_true, SetToken.readBack_zero] at hreal
    refine ⟨?_, ?_⟩
    · dsimp only
      rw [hreal token, if_pos rfl]
    · intro c hc
      dsimp only
      rw [hreal c, hc, ite_self]
  · obtain rfl := Outcome.pure_eq_ok.mp h
    exact ⟨(not_not.mp hne).symm, fun _ hc ↦ hc⟩

end LeverageModule

namespace AaveLeverageModule

open LeverageModule

variable {m m' : AaveLeverageModule} {w w' : World} {env : Env} {table table' : IssuanceTable}

/-- While there are Sets, synchronizing without debt closes every position. -/
theorem sync_closes (h : m.sync w = .ok w') (hw : w.setToken.Housed)
    (hp : w.setToken.Holdings m.address {c | c ∈ m.borrowAssets})
    (hsupply : 0 < w.setToken.totalSupply)
    (hdebt : ∀ asset ∈ m.borrowAssets, m.borrowBalance w' asset = 0) :
    w'.setToken.OrphanFree m.address := by
  -- no calls are made, so any transaction will do
  have hedits : World.Edits (Env.plain 0 0) (footprint m.address m.borrowAssets) w w' :=
    sync_edits (fun c hc ↦ ⟨rfl, hc⟩) h
  have hafter := hedits.holdings hw hp (fun c hc ↦ hc.2) (fun _ hwrites ↦ hwrites)
  apply hafter.orphanFree
  intro asset hasset
  obtain ⟨-, ⟨hidle, -⟩ | ⟨-, v, hcollateral, hborrow⟩⟩ := sync_ok h
  · exact absurd hidle hsupply.ne'
  have hfirst : World.Edits (Env.plain 0 0) (footprint m.address m.borrowAssets) w v :=
    World.Edits.foldlM (fun _ _ _ _ hstep ↦ syncCollateral_edits hstep) hcollateral
  -- the passes over the debts read what is left of them at the end
  have hlast : v.Repositioned w' :=
    World.Repositioned.foldlM (fun _ _ _ hstep ↦ syncBorrow_repositioned hstep) hborrow
  have hzero : ∀ x, v.Repositioned x → ∀ c ∈ m.borrowAssets, m.borrowBalance x c = 0 := by
    intro x hx c hc
    unfold borrowBalance at hdebt ⊢
    rw [hx.balance, ← hlast.balance, hdebt c hc]
  apply Outcome.foldlM_establish (a := asset)
    (P := fun x : World ↦ x.setToken.externalRealUnit asset m.address = 0)
    (Q := fun x ↦ v.Repositioned x ∧ x.setToken.Housed) hasset ?_ ?_ ?_ hborrow
    ⟨.refl v, hfirst.housed hw⟩
  · intro x c hc x' hstep ⟨hx, hhoused⟩
    have hpass : World.Edits (Env.plain 0 0) (footprint m.address m.borrowAssets) x x' :=
      syncBorrow_edits ⟨rfl, hc⟩ hstep
    exact ⟨hx.trans (syncBorrow_repositioned hstep), hpass.housed hhoused⟩
  · intro x x' hstep ⟨hx, hhoused⟩
    rw [hzero x hx asset hasset] at hstep
    exact (syncBorrow_zero hhoused.multiplier_pos hstep).1
  · intro x c hc x' hstep ⟨hx, hhoused⟩ hclosed
    rw [hzero x hx c hc] at hstep
    exact (syncBorrow_zero hhoused.multiplier_pos hstep).2 asset hclosed

theorem updateUseReserveAsCollateral_samePositions {asset : Address} {use : Bool}
    (h : m.updateUseReserveAsCollateral w env asset use = .ok w') :
    w.setToken.SamePositions w'.setToken := by
  unfold updateUseReserveAsCollateral at h
  split_ifs at h
  · exact (World.invoke_steady h).samePositions
  · obtain rfl := Outcome.pure_eq_ok.mp h
    exact .refl _

/-- A removal closes the positions while there are Sets, and leaves them as they are otherwise. -/
theorem removeModule_positions (h : m.removeModule table w env = .ok (m', table', w'))
    (hw : w.setToken.Housed)
    (hp : w.setToken.Holdings m.address {c | c ∈ m.borrowAssets}) :
    (0 < w.setToken.totalSupply → w'.setToken.OrphanFree m.address) ∧
      (w.setToken.totalSupply = 0 → w.setToken.SamePositions w'.setToken) := by
  simp only [removeModule, Outcome.bind_eq_ok, Outcome.pure_eq_ok, Prod.mk.injEq] at h
  obtain ⟨_, -, v, hsync, _, hdebt, u, hcollateral, -, -, rfl⟩ := h
  have hlast : v.setToken.SamePositions u.setToken :=
    Outcome.foldlM_invariant (P := fun x : World ↦ v.setToken.SamePositions x.setToken)
      (fun _ _ _ hstep hs ↦ hs.trans (updateUseReserveAsCollateral_samePositions hstep))
      hcollateral (.refl _)
  constructor
  · intro hsupply
    rw [hlast.orphanFree_iff]
    apply sync_closes hsync hw hp hsupply
    intro asset hasset
    have hrequired := Outcome.forM_eq_ok.mp hdebt asset hasset
    exact Outcome.require_eq_ok.mp hrequired
  · intro hsupply
    obtain ⟨-, ⟨-, rfl⟩ | ⟨hpos, -⟩⟩ := sync_ok hsync
    · exact hlast
    · exact absurd hsupply hpos.ne'

end AaveLeverageModule

namespace CompoundLeverageModule

open LeverageModule

variable {m m' : CompoundLeverageModule} {w w' : World} {env : Env} {table table' : IssuanceTable}
  {cToken : Address}

/-- The SetToken has no debt in the markets of the module, and interest makes none out of nothing. -/
structure DebtFree (m : CompoundLeverageModule) (w : World) (env : Env) : Prop where
  borrowed : ∀ cToken ∈ m.borrowCTokens, w.chain.borrowBalance cToken = 0
  accrued : ∀ market cToken chain, chain.borrowBalance cToken = 0 →
    (env.accrueInterest market chain).borrowBalance cToken = 0

theorem DebtFree.accrue (h : m.DebtFree w env) (market : Address) :
    m.DebtFree { w with chain := env.accrueInterest market w.chain } env :=
  ⟨fun cToken hc ↦ h.accrued market cToken w.chain (h.borrowed cToken hc), h.accrued⟩

theorem DebtFree.repositioned (h : m.DebtFree w env) (hsame : w.Repositioned w') :
    m.DebtFree w' env := by
  refine ⟨?_, h.accrued⟩
  rw [hsame.chain]
  exact h.borrowed

/-- One pass of the second loop of `sync` on a market without debt. -/
theorem syncBorrowCToken_zero {supply : ℕ} {entry : Address × Address}
    (h : m.syncBorrowCToken env supply true w entry = .ok w') (hm : 0 < w.setToken.positionMultiplier)
    (hentry : entry.1 ∈ m.borrowCTokens) (hdebt : m.DebtFree w env) :
    m.DebtFree w' env ∧ w'.setToken.externalRealUnit entry.2 m.address = 0 ∧
      ∀ c, w.setToken.externalRealUnit c m.address = 0 →
        w'.setToken.externalRealUnit c m.address = 0 := by
  have hzero := (hdebt.accrue entry.1).borrowed entry.1 hentry
  simp only [syncBorrowCToken, CompoundLeverageModule.borrowBalance, if_true] at h
  dsimp only at hzero
  rw [hzero] at h
  have hdebt' := (hdebt.accrue entry.1).repositioned (syncBorrow_repositioned h)
  obtain ⟨hclosed, hkept⟩ :=
    syncBorrow_zero (w := { w with chain := env.accrueInterest entry.1 w.chain }) hm h
  exact ⟨hdebt', hclosed, hkept⟩

/-- While there are Sets, synchronizing without debt closes every position. -/
theorem sync_closes (h : m.sync w env true = .ok w') (hw : w.setToken.Housed)
    (hp : w.setToken.Holdings m.address {c | c ∈ m.borrowAssets})
    (haligned : m.borrowCTokens = m.borrowAssets.map m.underlyingToCToken)
    (hsupply : 0 < w.setToken.totalSupply) (hdebt : m.DebtFree w env) :
    w'.setToken.OrphanFree m.address := by
  have hedits : World.Edits env (footprint m.address m.borrowAssets) w w' :=
    sync_edits (fun c hc ↦ ⟨rfl, hc⟩) h
  have hafter := hedits.holdings hw hp (fun c hc ↦ hc.2) (fun _ hwrites ↦ hwrites)
  apply hafter.orphanFree
  intro asset hasset
  obtain ⟨-, ⟨hidle, -⟩ | ⟨-, v, hcollateral, hborrow⟩⟩ := sync_ok h
  · exact absurd hidle hsupply.ne'
  have hfirst : World.Edits env (footprint m.address m.borrowAssets) w v :=
    World.Edits.foldlM (fun _ _ _ _ hstep ↦ syncCollateral_edits hstep) hcollateral
  have hsame : w.Repositioned v :=
    World.Repositioned.foldlM (fun _ _ _ hstep ↦ syncCollateral_repositioned hstep) hcollateral
  have hzip := List.zip_map' (f := m.underlyingToCToken) (g := id) (l := m.borrowAssets)
  rw [List.map_id, ← haligned] at hzip
  have hentry : (m.underlyingToCToken asset, asset) ∈ m.borrowCTokens.zip m.borrowAssets := by
    rw [hzip]
    exact List.mem_map_of_mem hasset
  have hboth : ∀ x, ∀ entry ∈ m.borrowCTokens.zip m.borrowAssets, ∀ x',
      m.syncBorrowCToken env w.setToken.totalSupply true x entry = .ok x' →
      x.setToken.Housed ∧ m.DebtFree x env → x'.setToken.Housed ∧ m.DebtFree x' env := by
    intro x entry hin x' hstep ⟨hhoused, hfree⟩
    have hmem := List.of_mem_zip hin
    have hpass : World.Edits env (footprint m.address m.borrowAssets) x x' :=
      syncBorrowCToken_edits ⟨rfl, hmem.2⟩ hstep
    exact ⟨hpass.housed hhoused,
      (syncBorrowCToken_zero hstep hhoused.multiplier_pos hmem.1 hfree).1⟩
  apply Outcome.foldlM_establish (a := (m.underlyingToCToken asset, asset))
    (P := fun x : World ↦ x.setToken.externalRealUnit asset m.address = 0)
    (Q := fun x ↦ x.setToken.Housed ∧ m.DebtFree x env) hentry hboth ?_ ?_ hborrow
    ⟨hfirst.housed hw, hdebt.repositioned hsame⟩
  · intro x x' hstep ⟨hhoused, hfree⟩
    exact (syncBorrowCToken_zero hstep hhoused.multiplier_pos (List.of_mem_zip hentry).1 hfree).2.1
  · intro x entry hin x' hstep ⟨hhoused, hfree⟩ hclosed
    exact (syncBorrowCToken_zero hstep hhoused.multiplier_pos (List.of_mem_zip hin).1 hfree).2.2 asset
      hclosed

theorem invokeExitMarket_samePositions (h : m.invokeExitMarket w env cToken = .ok w') :
    w.setToken.SamePositions w'.setToken := by
  have hcalls : World.Calls env (fun _ ↦ True) w w' := World.invokeChecked_calls trivial h
  exact hcalls.steady.samePositions

/-- A removal closes the positions while there are Sets, and leaves them as they are otherwise. -/
theorem removeModule_positions (h : m.removeModule table w env = .ok (m', table', w'))
    (hw : w.setToken.Housed)
    (hp : w.setToken.Holdings m.address {c | c ∈ m.borrowAssets})
    (haligned : m.borrowCTokens = m.borrowAssets.map m.underlyingToCToken)
    (hdebt : m.DebtFree w env) :
    (0 < w.setToken.totalSupply → w'.setToken.OrphanFree m.address) ∧
      (w.setToken.totalSupply = 0 → w.setToken.SamePositions w'.setToken) := by
  simp only [removeModule, Outcome.bind_eq_ok, Outcome.pure_eq_ok, Prod.mk.injEq] at h
  obtain ⟨_, -, v, hsync, u, hborrow, x, hcollateral, -, -, rfl⟩ := h
  have hexits : v.setToken.SamePositions u.setToken := by
    apply Outcome.foldlM_invariant (P := fun y : World ↦ v.setToken.SamePositions y.setToken) ?_
      hborrow (.refl _)
    intro y _ y' hstep hy
    unfold exitUnless at hstep
    split_ifs at hstep
    · obtain rfl := Outcome.pure_eq_ok.mp hstep
      exact hy
    · exact hy.trans (invokeExitMarket_samePositions hstep)
  have hlast : v.setToken.SamePositions x.setToken :=
    Outcome.foldlM_invariant (P := fun y : World ↦ v.setToken.SamePositions y.setToken)
      (fun _ _ _ hstep hy ↦ hy.trans (invokeExitMarket_samePositions hstep)) hcollateral hexits
  constructor
  · intro hsupply
    rw [hlast.orphanFree_iff]
    exact sync_closes hsync hw hp haligned hsupply hdebt
  · intro hsupply
    obtain ⟨-, ⟨-, rfl⟩ | ⟨hpos, -⟩⟩ := sync_ok hsync
    · exact hlast
    · exact absurd hsupply hpos.ne'

end CompoundLeverageModule

/-! ## Issuing and redeeming -/

namespace Protocol

/-- The contracts and their lists stay, apart from what the Perp module and the staking module keep. -/
structure SameContracts (P P' : Protocol) : Prop where
  issuance : P'.issuance = P.issuance
  aave : P'.aave = P.aave
  compound : P'.compound = P.compound
  perp : P.perp.SameContracts P'.perp
  staking : P'.staking.address = P.staking.address

theorem SameModules.sameContracts {P P' : Protocol} (h : P.SameModules P') : P.SameContracts P' :=
  ⟨h.issuance, h.aave, h.compound, h.perp, congrArg StakingModule.address h.staking⟩

theorem SameContracts.trans {P₁ P₂ P₃ : Protocol} (h : P₁.SameContracts P₂)
    (h' : P₂.SameContracts P₃) : P₁.SameContracts P₃ where
  issuance := h'.issuance.trans h.issuance
  aave := h'.aave.trans h.aave
  compound := h'.compound.trans h.compound
  perp := h.perp.trans h'.perp
  staking := h'.staking.trans h.staking

/-- Positions are edited within a footprint, and what happens afterwards keeps them. -/
structure Upkeep (P : Protocol) (env : Env) (F : Footprint) (P' : Protocol) : Prop where
  sameContracts : P.SameContracts P'
  edits : ∃ v, P.world.Edits env F v ∧ v.setToken.SamePositions P'.world.setToken

variable {F : Footprint} {P Q R : Protocol} {w : World} {env : Env}

theorem Upkeep.later (h : P.Upkeep env F Q) (hsame : Q.SameModules R)
    (hpositions : Q.world.setToken.SamePositions R.world.setToken) : P.Upkeep env F R := by
  obtain ⟨v, hedits, hv⟩ := h.edits
  exact ⟨h.sameContracts.trans hsame.sameContracts, v, hedits, hv.trans hpositions⟩

theorem Upkeep.withWorld (h : P.Upkeep env F Q)
    (hpositions : Q.world.setToken.SamePositions w.setToken) :
    P.Upkeep env F { Q with world := w } :=
  h.later (sameModules_of_world rfl) hpositions

theorem upkeep_of_edits (hsame : P.SameContracts Q) (h : P.world.Edits env F Q.world) :
    P.Upkeep env F Q :=
  ⟨hsame, Q.world, h, .refl _⟩

theorem upkeep_of_onWorld {result : Outcome World} (h : P.onWorld result = .ok Q)
    (hresult : ∀ v, result = .ok v → P.world.Edits env F v) : P.Upkeep env F Q := by
  obtain ⟨hok, hQ⟩ := onWorld_ok h
  exact upkeep_of_edits (sameModules_of_world hQ).sameContracts (hresult _ hok)

end Protocol

section Issuance

variable {F : Footprint} {m : DebtIssuanceModule} {P P₁ P₂ : Protocol} {env : Env}
  {quantity amount managerFee protocolFee : ℕ} {recipient : Address} {isIssue : Bool}

/-- Only the hooks of the modules edit positions. -/
theorem callModulePreHooks_upkeep (hallows : P.Allows F)
    (h : m.callModulePreHooks P env quantity isIssue = .ok P₁) : P.Upkeep env F P₁ := by
  obtain ⟨hsame, hedits⟩ := DebtIssuanceModule.callModulePreHooks_edits hallows h
  exact Protocol.upkeep_of_edits hsame.sameContracts hedits

theorem callModulePreIssueHooks_upkeep (hallows : P.Allows F)
    (h : m.callModulePreIssueHooks P env quantity = .ok P₁) : P.Upkeep env F P₁ := by
  have hpre : m.callModulePreHooks P env quantity true = .ok P₁ := h
  exact callModulePreHooks_upkeep hallows hpre

theorem callModulePreRedeemHooks_upkeep (hallows : P.Allows F)
    (h : m.callModulePreRedeemHooks P env quantity = .ok P₁) : P.Upkeep env F P₁ := by
  have hpre : m.callModulePreHooks P env quantity false = .ok P₁ := h
  exact callModulePreHooks_upkeep hallows hpre

theorem burnQuantity_upkeep (h : P.Upkeep env F P₁)
    (hburn : m.burnQuantity P₁ env amount = .ok P₂) : P.Upkeep env F P₂ := by
  obtain ⟨hstep, hP₂⟩ := Protocol.onWorld_ok hburn
  exact h.later (Protocol.sameModules_of_world hP₂)
    (World.burnStep_samePositions (burn_burnStep hstep))

theorem settle_upkeep (h : P.Upkeep env F P₁)
    (hsettle : IssuanceEntry.settle m quantity recipient isIssue (P₁, managerFee, protocolFee) =
      .ok P₂) : P.Upkeep env F P₂ := by
  unfold IssuanceEntry.settle at hsettle
  split_ifs at hsettle
  · simp only [DebtIssuanceModule.settleIssue, Outcome.bind_eq_ok, Outcome.pure_eq_ok] at hsettle
    obtain ⟨v, hfees, w, hmint, rfl⟩ := hsettle
    have hminted := World.mintStep_samePositions (DebtIssuanceModule.resolveFees_mintStep hfees)
    exact h.withWorld (hminted.trans (World.mintStep_samePositions (mint_mintStep hmint)))
  · simp only [DebtIssuanceModule.settleRedeem, Outcome.bind_eq_ok, Outcome.pure_eq_ok] at hsettle
    obtain ⟨v, hfees, rfl⟩ := hsettle
    exact h.withWorld (World.mintStep_samePositions (DebtIssuanceModule.resolveFees_mintStep hfees))

/-- The positions are paid in two steps, of the equity and of the debt. -/
theorem paid_upkeep {v u : World} (h : P.Upkeep env F P₁) (hfirst : P₁.world.Steady v)
    (hsecond : v.Steady u) : P.Upkeep env F { P₁ with world := u } :=
  h.withWorld (hfirst.trans hsecond).samePositions

theorem DebtIssuanceModule.positions_upkeep (hallows : P.Allows F)
    (h : IssuanceEntry.positions .debt m P env quantity recipient isIssue =
      .ok (P₂, managerFee, protocolFee)) : P.Upkeep env F P₂ := by
  cases isIssue with
  | true =>
    simp only [IssuanceEntry.positions, issuePositions, Outcome.bind_eq_ok, Outcome.pure_eq_ok,
      Prod.exists, Prod.mk.injEq] at h
    obtain ⟨_, -, _, -, _, -, P₁, hpre, _, _, _, -, _, -, v, hequity, u, hdebt, rfl, -, -⟩ := h
    have hhooks := callModulePreIssueHooks_upkeep hallows hpre
    exact paid_upkeep hhooks (resolveEquityPositions_steady hequity)
      (resolveDebtPositions_steady hdebt)
  | false =>
    simp only [IssuanceEntry.positions, redeemPositions, Outcome.bind_eq_ok, Outcome.pure_eq_ok,
      Prod.exists, Prod.mk.injEq] at h
    obtain ⟨_, -, _, -, P₁, hpre, P₃, hburn, _, _, _, -, _, -, v, hdebt, u, hequity, rfl, -, -⟩ := h
    have hhooks := callModulePreRedeemHooks_upkeep hallows hpre
    exact paid_upkeep (burnQuantity_upkeep hhooks hburn) (resolveDebtPositions_steady hdebt)
      (resolveEquityPositions_steady hequity)

theorem DebtIssuanceModuleV2.positions_upkeep {tokens : TokenBehaviour} (hallows : P.Allows F)
    (h : IssuanceEntry.positions (.debtV2 tokens) m P env quantity recipient isIssue =
      .ok (P₂, managerFee, protocolFee)) : P.Upkeep env F P₂ := by
  cases isIssue with
  | true =>
    simp only [IssuanceEntry.positions, issuePositions, Outcome.bind_eq_ok, Outcome.pure_eq_ok,
      Prod.exists, Prod.mk.injEq] at h
    obtain ⟨_, -, _, -, _, -, P₁, hpre, _, _, _, -, _, -, _, -, v, hequity, u, hdebt, rfl, -, -⟩ := h
    have hhooks := callModulePreIssueHooks_upkeep hallows hpre
    exact paid_upkeep hhooks (resolveEquityPositions_steady hequity)
      (resolveDebtPositions_steady hdebt)
  | false =>
    simp only [IssuanceEntry.positions, redeemPositions, Outcome.bind_eq_ok, Outcome.pure_eq_ok,
      Prod.exists, Prod.mk.injEq] at h
    obtain ⟨_, -, _, -, P₁, hpre, P₃, hburn, _, _, _, -, _, -, _, -, v, hdebt, u, hequity, rfl, -,
      -⟩ := h
    have hhooks := callModulePreRedeemHooks_upkeep hallows hpre
    exact paid_upkeep (burnQuantity_upkeep hhooks hburn) (resolveDebtPositions_steady hdebt)
      (resolveEquityPositions_steady hequity)

theorem SlippageIssuanceModule.positions_upkeep {checked : List Address} {limits : List ℕ}
    (hallows : P.Allows F)
    (h : IssuanceEntry.positions (.slippage checked limits) m P env quantity recipient isIssue =
      .ok (P₂, managerFee, protocolFee)) : P.Upkeep env F P₂ := by
  cases isIssue with
  | true =>
    simp only [IssuanceEntry.positions, issuePositions, Outcome.bind_eq_ok, Outcome.pure_eq_ok,
      Prod.exists, Prod.mk.injEq] at h
    obtain ⟨_, -, _, -, _, -, _, _, _, -, P₁, hpre, _, -, _, -, v, hequity, u, hdebt, rfl, -, -⟩ := h
    have hhooks := callModulePreIssueHooks_upkeep hallows hpre
    exact paid_upkeep hhooks (DebtIssuanceModule.resolveEquityPositions_steady hequity)
      (DebtIssuanceModule.resolveDebtPositions_steady hdebt)
  | false =>
    simp only [IssuanceEntry.positions, redeemPositions, Outcome.bind_eq_ok, Outcome.pure_eq_ok,
      Prod.exists, Prod.mk.injEq] at h
    obtain ⟨_, -, _, -, _, _, _, -, P₁, hpre, P₃, hburn, _, -, _, -, v, hdebt, u, hequity, rfl, -,
      -⟩ := h
    have hhooks := callModulePreRedeemHooks_upkeep hallows hpre
    exact paid_upkeep (burnQuantity_upkeep hhooks hburn)
      (DebtIssuanceModule.resolveDebtPositions_steady hdebt)
      (DebtIssuanceModule.resolveEquityPositions_steady hequity)

/-- An issue or a redemption edits positions in its hooks only. -/
theorem IssuanceEntry.execute_upkeep {entry : IssuanceEntry} (hallows : P.Allows F)
    (h : entry.execute m P env quantity recipient isIssue = .ok P₂) : P.Upkeep env F P₂ := by
  obtain ⟨P₁, managerFee, protocolFee, hpositions, hsettle⟩ := execute_ok h
  apply settle_upkeep ?_ hsettle
  cases entry with
  | debt => exact DebtIssuanceModule.positions_upkeep hallows hpositions
  | debtV2 tokens => exact DebtIssuanceModuleV2.positions_upkeep hallows hpositions
  | slippage checked limits => exact SlippageIssuanceModule.positions_upkeep hallows hpositions

end Issuance

namespace BasicIssuanceModule

variable {m : BasicIssuanceModule} {w w' : World} {env : Env} {quantity : ℕ} {recipient : Address}

theorem issue_samePositions (h : m.issue w env quantity recipient = .ok w') :
    w.setToken.SamePositions w'.setToken := by
  simp only [issue, Outcome.bind_eq_ok] at h
  obtain ⟨_, -, _, -, _, -, _, -, _, -, v, hcollect, hmint⟩ := h
  have hsteady : w.Steady v :=
    Outcome.foldlM_invariant (P := w.Steady) (fun x entry x' hstep hx ↦
      hx.trans (.of_move (World.explicitTransferFrom_moveStep hstep).1)) hcollect (.refl w)
  exact hsteady.samePositions.trans (World.mintStep_samePositions (mint_mintStep hmint))

theorem redeem_samePositions (h : m.redeem w env quantity recipient = .ok w') :
    w.setToken.SamePositions w'.setToken := by
  simp only [redeem, Outcome.bind_eq_ok] at h
  obtain ⟨_, -, _, -, v, hburn, _, -, hpay⟩ := h
  have hsteady : v.Steady w' := by
    apply Outcome.foldlM_invariant (P := v.Steady) ?_ hpay (.refl v)
    intro x entry x' hstep hx
    simp only [payComponent, Outcome.bind_eq_ok] at hstep
    obtain ⟨y, hfee, htransfer⟩ := hstep
    have hcalls : World.Calls env (fun _ ↦ True) x x' :=
      (World.payProtocolFeeFromSetToken_calls trivial hfee).trans
        (World.strictInvokeTransfer_calls trivial htransfer)
    exact hx.trans hcalls.steady
  exact (World.burnStep_samePositions (burn_burnStep hburn)).trans hsteady.samePositions

end BasicIssuanceModule

namespace StakingModule

variable {m m' : StakingModule} {w w' : World} {env : Env} {stakeContract component : Address}
  {adapterName : String} {units : ℕ}

theorem stake_address
    (h : m.stake w env stakeContract component adapterName units = .ok (m', w')) :
    m'.address = m.address := by
  simp only [stake, updateStakeState, Outcome.bind_eq_ok, Outcome.pure_eq_ok, Prod.mk.injEq] at h
  obtain ⟨_, -, _, -, _, -, _, -, v, -, n, hadd, _, -, _, -, _, -, u, -, rfl, -⟩ := h
  unfold addStake at hadd
  split_ifs at hadd
  · simp only [Outcome.bind_eq_ok, Outcome.pure_eq_ok] at hadd
    obtain ⟨_, -, rfl⟩ := hadd
    rfl
  · obtain rfl := Outcome.pure_eq_ok.mp hadd
    rfl

theorem unstake_address
    (h : m.unstake w env stakeContract component adapterName units = .ok (m', w')) :
    m'.address = m.address := by
  simp only [unstake, updateUnstakeState, Outcome.bind_eq_ok, Outcome.pure_eq_ok,
    Prod.mk.injEq] at h
  obtain ⟨_, -, _, -, _, -, v, -, n, hremove, _, -, _, -, _, -, u, -, rfl, -⟩ := h
  simp only [removeStake, Outcome.bind_eq_ok] at hremove
  obtain ⟨_, -, hremove⟩ := hremove
  split_ifs at hremove
  · obtain rfl := Outcome.pure_eq_ok.mp hremove
    rfl
  · simp only [Outcome.bind_eq_ok, Outcome.pure_eq_ok] at hremove
    obtain ⟨_, -, rfl⟩ := hremove
    rfl

end StakingModule

/-! ## Runs -/

/-- The modules with external positions. -/
inductive Custodian where
  | aave
  | compound
  | perp
  | staking
deriving DecidableEq

/-- Issues, redemptions and the functions of the four modules.  In between, the contracts outside the
protocol and the balances of the Set change in any way. -/
inductive CustodyAction where
  | issuance (entry : IssuanceEntry) (issuer : Address) (env : Env) (quantity : ℕ)
      (recipient : Address) (isIssue : Bool)
  | basicIssuance (issuer : BasicIssuanceModule) (env : Env) (quantity : ℕ) (recipient : Address)
      (isIssue : Bool)
  | aaveLever (env : Env) (borrowAsset collateralAsset : Address)
      (borrowQuantityUnits minReceiveQuantityUnits : ℕ) (tradeAdapterName : String)
      (tradeData : List UInt8)
  | aaveDelever (env : Env) (collateralAsset repayAsset : Address)
      (redeemQuantityUnits minRepayQuantityUnits : ℕ) (tradeAdapterName : String)
      (tradeData : List UInt8)
  | aaveDeleverToZeroBorrowBalance (env : Env) (collateralAsset repayAsset : Address)
      (redeemQuantityUnits : ℕ) (tradeAdapterName : String) (tradeData : List UInt8)
  | aaveSync
  | compoundLever (env : Env) (borrowAsset collateralAsset : Address)
      (borrowQuantity minReceiveQuantity : ℕ) (tradeAdapterName : String) (tradeData : List UInt8)
  | compoundDelever (env : Env) (collateralAsset repayAsset : Address)
      (redeemQuantity minRepayQuantity : ℕ) (tradeAdapterName : String) (tradeData : List UInt8)
  | compoundDeleverToZeroBorrowBalance (env : Env) (collateralAsset repayAsset : Address)
      (redeemQuantity : ℕ) (tradeAdapterName : String) (tradeData : List UInt8)
  | compoundSync (env : Env) (shouldAccrueInterest : Bool)
  | perpDeposit (env : Env) (collateralQuantityUnits : ℕ)
  | perpWithdraw (env : Env) (collateralQuantityUnits : ℕ)
  | perpTrade (env : Env) (baseToken : Address) (baseQuantityUnits : ℤ)
      (quoteBoundQuantityUnits : ℕ)
  | stake (env : Env) (stakeContract component : Address) (adapterName : String)
      (componentPositionUnits : ℕ)
  | unstake (env : Env) (stakeContract component : Address) (adapterName : String)
      (componentPositionUnits : ℕ)
  | elsewhere (chain : Chain) (erc20 : ERC20)

namespace Protocol

variable {P Q R : Protocol} {action : CustodyAction} {custodian : Custodian} {env : Env} {w : World}

def performCustody (P : Protocol) : CustodyAction → Outcome Protocol
  | .issuance entry issuer env quantity recipient isIssue =>
    match P.issuance issuer with
    | none => throw "function call to a non-contract account"
    | some settings => entry.execute ⟨issuer, settings⟩ P env quantity recipient isIssue
  | .basicIssuance issuer env quantity recipient isIssue =>
    if isIssue then
      P.onWorld (issuer.issue P.world env quantity recipient)
    else
      P.onWorld (issuer.redeem P.world env quantity recipient)
  | .aaveLever env borrowAsset collateralAsset borrowUnits minUnits adapterName data =>
    P.onWorld (P.aave.lever P.world env borrowAsset collateralAsset borrowUnits minUnits adapterName
      data)
  | .aaveDelever env collateralAsset repayAsset redeemUnits minUnits adapterName data =>
    P.onWorld (P.aave.delever P.world env collateralAsset repayAsset redeemUnits minUnits adapterName
      data)
  | .aaveDeleverToZeroBorrowBalance env collateralAsset repayAsset redeemUnits adapterName data => do
    let (w, _) ← P.aave.deleverToZeroBorrowBalance P.world env collateralAsset repayAsset redeemUnits
      adapterName data
    pure { P with world := w }
  | .aaveSync => P.onWorld (P.aave.sync P.world)
  | .compoundLever env borrowAsset collateralAsset borrowQuantity minQuantity adapterName data =>
    P.onWorld (P.compound.lever P.world env borrowAsset collateralAsset borrowQuantity minQuantity
      adapterName data)
  | .compoundDelever env collateralAsset repayAsset redeemQuantity minQuantity adapterName data =>
    P.onWorld (P.compound.delever P.world env collateralAsset repayAsset redeemQuantity minQuantity
      adapterName data)
  | .compoundDeleverToZeroBorrowBalance env collateralAsset repayAsset redeemQuantity adapterName
      data =>
    P.onWorld (P.compound.deleverToZeroBorrowBalance P.world env collateralAsset repayAsset
      redeemQuantity adapterName data)
  | .compoundSync env shouldAccrueInterest =>
    P.onWorld (P.compound.sync P.world env shouldAccrueInterest)
  | .perpDeposit env units => P.onWorld (P.perp.deposit P.world env units)
  | .perpWithdraw env units => P.onWorld (P.perp.withdraw P.world env units)
  | .perpTrade env baseToken baseUnits quoteBoundUnits =>
    P.onPerp (P.perp.trade P.world env baseToken baseUnits quoteBoundUnits)
  | .stake env stakeContract component adapterName units =>
    P.onStaking (P.staking.stake P.world env stakeContract component adapterName units)
  | .unstake env stakeContract component adapterName units =>
    P.onStaking (P.staking.unstake P.world env stakeContract component adapterName units)
  | .elsewhere chain erc20 =>
    let token := P.world.setToken.setErc20 erc20
    pure { P with world := { P.world with chain := chain, setToken := token } }

def custodianAddress (P : Protocol) : Custodian → Address
  | .aave => P.aave.address
  | .compound => P.compound.address
  | .perp => P.perp.address
  | .staking => P.staking.address

/-- Whether the removal of a module deals with a position in a component: the lending modules write
what is left of the debt while there are Sets, and the staking module refuses to be removed. -/
def Handles (P : Protocol) (custodian : Custodian) (component : Address) : Prop :=
  match custodian with
  | .aave => 0 < P.world.setToken.totalSupply
  | .compound => 0 < P.world.setToken.totalSupply
  | .perp => False
  | .staking => P.staking.getStakingContracts component ≠ []

/-- The removal of a module deals with all of its positions. -/
def HandlesAll (P : Protocol) (custodian : Custodian) : Prop :=
  ∀ c, P.world.setToken.Holds (P.custodianAddress custodian) c → P.Handles custodian c

/-! ### Invariants -/

/-- What the modules know about each other and about their assets. -/
structure Contracts (P : Protocol) : Prop where
  distinct : Function.Injective P.custodianAddress
  issuance : ∀ custodian, P.issuance (P.custodianAddress custodian) = none
  aave : ∀ asset, P.aave.borrowAssetEnabled asset = true → asset ∈ P.aave.borrowAssets
  compound : ∀ asset, P.compound.borrowCTokenEnabled (P.compound.underlyingToCToken asset) = true →
    asset ∈ P.compound.borrowAssets
  aligned : P.compound.borrowCTokens = P.compound.borrowAssets.map P.compound.underlyingToCToken

/-- The lending modules have positions in their borrowed assets only, and each of them and the staking
module is listed exactly where it has a unit. -/
structure Custodial (P : Protocol) : Prop where
  contracts : P.Contracts
  housed : P.world.setToken.Housed
  aave : P.world.setToken.Holdings P.aave.address {c | c ∈ P.aave.borrowAssets}
  compound : P.world.setToken.Holdings P.compound.address {c | c ∈ P.compound.borrowAssets}
  staking : P.world.setToken.Holdings P.staking.address Set.univ

/-- A Set on which the four modules have no position yet. -/
structure Unheld (P : Protocol) : Prop where
  positions : P.world.setToken.PositionInvariant
  orphanFree : ∀ custodian, P.world.setToken.OrphanFree (P.custodianAddress custodian)
  distinct : Function.Injective P.custodianAddress
  issuance : ∀ custodian, P.issuance (P.custodianAddress custodian) = none
  aave : ∀ asset, P.aave.borrowAssetEnabled asset = true → asset ∈ P.aave.borrowAssets
  markets : P.MarketsParallel P.compound.underlyingToCToken
  injective : CompoundLeverageModule.InjectiveMarkets P.compound.underlyingToCToken

theorem Unheld.custodial (h : P.Unheld) : P.Custodial := by
  have hholdings : ∀ custodian assets,
      P.world.setToken.Holdings (P.custodianAddress custodian) assets := by
    intro custodian assets
    have hnone := h.orphanFree custodian
    refine ⟨fun c ↦ h.positions.mem_external c _, fun c ↦ h.positions.external_sign c _, ?_⟩
    intro c hlisted
    exact absurd (Or.inl hlisted) (hnone c)
  refine ⟨⟨h.distinct, h.issuance, h.aave, ?_, h.markets.aligned⟩, h.positions.housed,
    hholdings .aave _, hholdings .compound _, hholdings .staking _⟩
  intro asset henabled
  exact h.markets.mem_borrowAssets h.injective henabled

/-! ### One step -/

/-- Each of the four modules edits its own positions, and only the Perp module writes a unit directly. -/
def custody (P : Protocol) : Footprint where
  calls := fun _ ↦ True
  owns := fun p c ↦ (p = P.aave.address ∧ c ∈ P.aave.borrowAssets) ∨
    (p = P.compound.address ∧ c ∈ P.compound.borrowAssets) ∨ p = P.perp.address ∨
      p = P.staking.address
  writes := fun p _ ↦ p = P.perp.address

theorem custody_allows (P : Protocol) : P.Allows P.custody :=
  ⟨fun _ hc ↦ Or.inl ⟨rfl, hc⟩, fun _ hc ↦ Or.inr (Or.inl ⟨rfl, hc⟩), rfl, fun _ ↦ trivial⟩

theorem SameContracts.custodianAddress (h : P.SameContracts Q) (custodian : Custodian) :
    Q.custodianAddress custodian = P.custodianAddress custodian := by
  cases custodian with
  | aave => exact congrArg AaveLeverageModule.address h.aave
  | compound => exact congrArg CompoundLeverageModule.address h.compound
  | perp => exact h.perp.address
  | staking => exact h.staking

theorem SameContracts.contracts (h : P.SameContracts Q) (hP : P.Contracts) : Q.Contracts := by
  have haddress : Q.custodianAddress = P.custodianAddress := funext h.custodianAddress
  refine ⟨?_, ?_, ?_, ?_, ?_⟩
  · rw [haddress]
    exact hP.distinct
  · rw [haddress, h.issuance]
    exact hP.issuance
  · rw [h.aave]
    exact hP.aave
  · rw [h.compound]
    exact hP.compound
  · rw [h.compound]
    exact hP.aligned

/-- The addresses of the four modules are different. -/
structure DistinctAddresses (P : Protocol) : Prop where
  compound_aave : P.compound.address ≠ P.aave.address
  perp_aave : P.perp.address ≠ P.aave.address
  perp_compound : P.perp.address ≠ P.compound.address
  staking_aave : P.staking.address ≠ P.aave.address
  staking_compound : P.staking.address ≠ P.compound.address
  staking_perp : P.staking.address ≠ P.perp.address

theorem Contracts.distinctAddresses (h : P.Contracts) : P.DistinctAddresses := by
  have hne : ∀ a b : Custodian, a ≠ b → P.custodianAddress a ≠ P.custodianAddress b :=
    fun a b hne heq ↦ hne (h.distinct heq)
  exact ⟨hne .compound .aave (by decide), hne .perp .aave (by decide),
    hne .perp .compound (by decide), hne .staking .aave (by decide),
    hne .staking .compound (by decide), hne .staking .perp (by decide)⟩

theorem DistinctAddresses.owns_aave (h : P.DistinctAddresses) {c : Address}
    (howns : P.custody.owns P.aave.address c) : c ∈ P.aave.borrowAssets := by
  rcases howns with ⟨-, hc⟩ | ⟨heq, -⟩ | heq | heq
  · exact hc
  · exact absurd heq.symm h.compound_aave
  · exact absurd heq.symm h.perp_aave
  · exact absurd heq.symm h.staking_aave

theorem DistinctAddresses.owns_compound (h : P.DistinctAddresses) {c : Address}
    (howns : P.custody.owns P.compound.address c) : c ∈ P.compound.borrowAssets := by
  rcases howns with ⟨heq, -⟩ | ⟨-, hc⟩ | heq | heq
  · exact absurd heq h.compound_aave
  · exact hc
  · exact absurd heq.symm h.perp_compound
  · exact absurd heq.symm h.staking_compound

/-- What stays within the footprint keeps the invariant. -/
theorem Upkeep.custodial (h : P.Upkeep env P.custody Q) (hP : P.Custodial) : Q.Custodial := by
  obtain ⟨v, hedits, hpositions⟩ := h.edits
  have hdistinct := hP.contracts.distinctAddresses
  refine ⟨h.sameContracts.contracts hP.contracts, hpositions.housed (hedits.housed hP.housed), ?_, ?_,
    ?_⟩
  · rw [h.sameContracts.aave]
    exact hpositions.holdings (hedits.holdings hP.housed hP.aave (fun c ↦ hdistinct.owns_aave)
      fun _ ↦ hdistinct.perp_aave.symm)
  · rw [h.sameContracts.compound]
    exact hpositions.holdings (hedits.holdings hP.housed hP.compound
      (fun c ↦ hdistinct.owns_compound) fun _ ↦ hdistinct.perp_compound.symm)
  · rw [h.sameContracts.staking]
    exact hpositions.holdings (hedits.holdings hP.housed hP.staking (fun _ _ ↦ Set.mem_univ _)
      fun _ ↦ hdistinct.staking_perp)

/-- A function of the staking module that only edits positions. -/
theorem onStaking_upkeep {result : Outcome (StakingModule × World)}
    (h : P.onStaking result = .ok Q)
    (hresult : ∀ m w, result = .ok (m, w) →
      m.address = P.staking.address ∧ P.world.Edits env P.custody w) :
    P.Upkeep env P.custody Q := by
  simp only [onStaking, Outcome.bind_eq_ok, Outcome.pure_eq_ok, Prod.exists] at h
  obtain ⟨m, w, hok, rfl⟩ := h
  obtain ⟨haddress, hedits⟩ := hresult m w hok
  exact upkeep_of_edits ⟨rfl, rfl, rfl, .refl _, haddress⟩ hedits

theorem step_upkeep (hstep : P.performCustody action = .ok Q) (hP : P.Custodial) :
    ∃ env, P.Upkeep env P.custody Q := by
  have hany : ∀ i, P.custody.calls i := fun _ ↦ trivial
  have haave : ∀ c, P.aave.borrowAssetEnabled c = true → P.custody.owns P.aave.address c :=
    fun c hc ↦ Or.inl ⟨rfl, hP.contracts.aave c hc⟩
  have hcompound : ∀ c, P.compound.borrowCTokenEnabled (P.compound.underlyingToCToken c) = true →
      P.custody.owns P.compound.address c :=
    fun c hc ↦ Or.inr (Or.inl ⟨rfl, hP.contracts.compound c hc⟩)
  have hperp : P.custody.owns P.perp.address P.perp.collateralToken := Or.inr (Or.inr (Or.inl rfl))
  have hstaking : ∀ c, P.custody.owns P.staking.address c := fun _ ↦ Or.inr (Or.inr (Or.inr rfl))
  cases action with
  | issuance entry issuer env quantity recipient isIssue =>
    simp only [performCustody] at hstep
    split at hstep
    · cases hstep
    · exact ⟨env, IssuanceEntry.execute_upkeep P.custody_allows hstep⟩
  | basicIssuance issuer env quantity recipient isIssue =>
    refine ⟨env, ?_⟩
    simp only [performCustody] at hstep
    split_ifs at hstep
    · obtain ⟨hok, hQ⟩ := onWorld_ok hstep
      exact ⟨(sameModules_of_world hQ).sameContracts, P.world, .refl _,
        BasicIssuanceModule.issue_samePositions hok⟩
    · obtain ⟨hok, hQ⟩ := onWorld_ok hstep
      exact ⟨(sameModules_of_world hQ).sameContracts, P.world, .refl _,
        BasicIssuanceModule.redeem_samePositions hok⟩
  | aaveLever env borrowAsset collateralAsset borrowUnits minUnits adapterName data =>
    exact ⟨env, upkeep_of_onWorld hstep fun _ hok ↦ AaveLeverageModule.lever_edits hany haave hok⟩
  | aaveDelever env collateralAsset repayAsset redeemUnits minUnits adapterName data =>
    exact ⟨env, upkeep_of_onWorld hstep fun _ hok ↦ AaveLeverageModule.delever_edits hany haave hok⟩
  | aaveDeleverToZeroBorrowBalance env collateralAsset repayAsset redeemUnits adapterName data =>
    simp only [performCustody, Outcome.bind_eq_ok, Outcome.pure_eq_ok, Prod.exists] at hstep
    obtain ⟨w, _, hok, rfl⟩ := hstep
    exact ⟨env, upkeep_of_edits (sameModules_of_world rfl).sameContracts
      (AaveLeverageModule.deleverToZeroBorrowBalance_edits hany haave hok)⟩
  | aaveSync =>
    exact ⟨Env.plain 0 0, upkeep_of_onWorld hstep fun _ hok ↦
      AaveLeverageModule.sync_edits P.custody_allows.aave hok⟩
  | compoundLever env borrowAsset collateralAsset borrowQuantity minQuantity adapterName data =>
    exact ⟨env, upkeep_of_onWorld hstep fun _ hok ↦
      CompoundLeverageModule.lever_edits hany hcompound hok⟩
  | compoundDelever env collateralAsset repayAsset redeemQuantity minQuantity adapterName data =>
    exact ⟨env, upkeep_of_onWorld hstep fun _ hok ↦
      CompoundLeverageModule.delever_edits hany hcompound hok⟩
  | compoundDeleverToZeroBorrowBalance env collateralAsset repayAsset redeemQuantity adapterName
      data =>
    exact ⟨env, upkeep_of_onWorld hstep fun _ hok ↦
      CompoundLeverageModule.deleverToZeroBorrowBalance_edits hany hcompound hok⟩
  | compoundSync env shouldAccrueInterest =>
    exact ⟨env, upkeep_of_onWorld hstep fun _ hok ↦
      CompoundLeverageModule.sync_edits P.custody_allows.compound hok⟩
  | perpDeposit env units =>
    exact ⟨env, upkeep_of_onWorld hstep fun _ hok ↦
      PerpV2LeverageModuleV2.deposit_edits hany hperp hok⟩
  | perpWithdraw env units =>
    exact ⟨env, upkeep_of_onWorld hstep fun _ hok ↦
      PerpV2LeverageModuleV2.withdraw_edits hany hperp hok⟩
  | perpTrade env baseToken baseUnits quoteBoundUnits =>
    obtain ⟨hok, hQ⟩ := onPerp_ok hstep
    obtain ⟨hsame, hcalls⟩ := PerpV2LeverageModuleV2.trade_calls hok
    refine ⟨env, upkeep_of_edits ?_ (hcalls.mono fun i _ ↦ hany i).edits⟩
    rw [hQ]
    exact ⟨rfl, rfl, rfl, hsame, rfl⟩
  | stake env stakeContract component adapterName units =>
    exact ⟨env, onStaking_upkeep hstep fun _ _ hok ↦ ⟨StakingModule.stake_address hok,
      StakingModule.stake_edits hany (hstaking component) hok⟩⟩
  | unstake env stakeContract component adapterName units =>
    exact ⟨env, onStaking_upkeep hstep fun _ _ hok ↦ ⟨StakingModule.unstake_address hok,
      StakingModule.unstake_edits hany (hstaking component) hok⟩⟩
  | elsewhere chain erc20 =>
    obtain rfl := Outcome.pure_eq_ok.mp hstep
    exact ⟨Env.plain 0 0, (sameModules_of_world rfl).sameContracts, P.world, .refl _, rfl, rfl, rfl⟩

theorem step_custodial (hstep : P.performCustody action = .ok Q) (hP : P.Custodial) :
    Q.Custodial := by
  obtain ⟨env, hupkeep⟩ := step_upkeep hstep hP
  exact hupkeep.custodial hP

/-! ### The removal -/

/-- A removal that closes the positions while there are Sets, and otherwise leaves them. -/
theorem lending_orphanFree_iff {s s' : SetToken} {p : Address}
    (hcloses : 0 < s.totalSupply → s'.OrphanFree p)
    (hleaves : s.totalSupply = 0 → s.SamePositions s') :
    s'.OrphanFree p ↔ ∀ c, s.Holds p c → 0 < s.totalSupply := by
  rcases Nat.eq_zero_or_pos s.totalSupply with hzero | hpos
  · rw [(hleaves hzero).orphanFree_iff, hzero]
    exact forall_congr' fun c ↦ imp_congr_right fun _ ↦ by simp
  · exact iff_of_true (hcloses hpos) fun _ _ ↦ hpos

theorem staking_orphanFree_iff (hP : P.Custodial) (h : P.staking.removeModule P.world = .ok ()) :
    P.world.setToken.OrphanFree P.staking.address ↔ P.HandlesAll .staking := by
  constructor
  · intro hnone c hholds
    exact absurd hholds (hnone c)
  · intro hhandles c hholds
    have hlisted := (hP.staking.holds_iff c).mp hholds
    have hmem : c ∈ P.world.setToken.components :=
      hP.housed.mem_components c (List.ne_nil_of_mem hlisted)
    simp only [StakingModule.removeModule, Outcome.forM_eq_ok, Outcome.require_eq_ok] at h
    exact hhandles c hholds (List.length_eq_zero_iff.mp (h c hmem))

/-- The callback leaves no position exactly when it deals with all of them. -/
theorem callback_orphanFree_iff (hP : P.Custodial)
    (hdebt : custodian = .compound → P.compound.DebtFree P.world env)
    (h : P.removeModuleCallback env (P.custodianAddress custodian) = .ok Q) :
    Q.world.setToken.OrphanFree (P.custodianAddress custodian) ↔ P.HandlesAll custodian := by
  have hdistinct := hP.contracts.distinctAddresses
  unfold removeModuleCallback at h
  rw [hP.contracts.issuance custodian] at h
  cases custodian with
  | aave =>
    simp only [custodianAddress, if_true, Outcome.bind_eq_ok, Outcome.pure_eq_ok,
      Prod.exists] at h
    obtain ⟨aave, issuance, w, hcall, rfl⟩ := h
    obtain ⟨hcloses, hleaves⟩ :=
      AaveLeverageModule.removeModule_positions hcall hP.housed hP.aave
    exact lending_orphanFree_iff hcloses hleaves
  | compound =>
    simp only [custodianAddress, hdistinct.compound_aave, if_false, if_true, Outcome.bind_eq_ok,
      Outcome.pure_eq_ok, Prod.exists] at h
    obtain ⟨compound, issuance, w, hcall, rfl⟩ := h
    obtain ⟨hcloses, hleaves⟩ := CompoundLeverageModule.removeModule_positions hcall hP.housed
      hP.compound hP.contracts.aligned (hdebt rfl)
    exact lending_orphanFree_iff hcloses hleaves
  | perp =>
    simp only [custodianAddress, hdistinct.perp_aave, hdistinct.perp_compound, if_false, if_true,
      Outcome.bind_eq_ok, Outcome.pure_eq_ok, Prod.exists] at h
    obtain ⟨perp, issuance, hcall, rfl⟩ := h
    exact Iff.rfl
  | staking =>
    simp only [custodianAddress, hdistinct.staking_aave, hdistinct.staking_compound,
      hdistinct.staking_perp, if_false, if_true, Outcome.bind_eq_ok, Outcome.pure_eq_ok] at h
    obtain ⟨_, hcall, rfl⟩ := h
    exact staking_orphanFree_iff hP hcall

theorem clearModule_samePositions {s s' : SetToken} {a : Address} (h : s.clearModule a = .ok s') :
    s.SamePositions s' := by
  simp only [SetToken.clearModule, Outcome.bind_eq_ok, Outcome.pure_eq_ok] at h
  obtain ⟨_, -, rfl⟩ := h
  exact ⟨rfl, rfl, rfl⟩

/-- After a run, the removal of a module leaves no position of it exactly when it deals with all of
them. -/
theorem run_orphanFree_iff {trace : List (Protocol × CustodyAction)}
    (hrun : Trace performCustody P trace Q) (hP : P.Unheld)
    (hdebt : custodian = .compound → Q.compound.DebtFree Q.world env)
    (hremove : Q.removeModule env (Q.custodianAddress custodian) = .ok R) :
    R.world.setToken.OrphanFree (Q.custodianAddress custodian) ↔ Q.HandlesAll custodian := by
  obtain ⟨-, hQ⟩ :=
    hrun.invariant (I := Custodial) (fun _ _ _ hstep ↦ step_custodial hstep) hP.custodial
  simp only [removeModule, onWorld, World.onSetToken, Outcome.bind_eq_ok,
    Outcome.pure_eq_ok] at hremove
  obtain ⟨_, -, S, hcallback, _, ⟨s, hclear, rfl⟩, rfl⟩ := hremove
  rw [← callback_orphanFree_iff hQ hdebt hcallback]
  exact (clearModule_samePositions hclear).orphanFree_iff _

namespace RemovalSample

/-- Transactions of `sender`.  The lending pool 41 lends token 52 against token 51; their tokens on Aave
are the debt token 72 and the aToken 61.  The exchange 60 gives token 51 for as much of token 52. -/
def poolEnv (sender : Address) : Env :=
  { Env.plain sender 0 with
    integrationAdapter := fun _ _ ↦ 12
    exchangeAdapter := fun _ ↦
      ⟨60, fun _ _ _ sendQuantity _ _ ↦ .ok (60, 0, [sendQuantity.toUInt8])⟩
    call := fun invocation chain ↦
      match invocation.callData with
      | .aaveBorrow asset amount _ => do
        let t ← (chain.tokens asset).transfer 41 6 amount
        let debt ← (chain.tokens 72).mint 6 amount
        pure ((chain.setToken asset t).setToken 72 debt)
      | .aaveDeposit asset amount => do
        let t ← (chain.tokens asset).transferFrom 41 6 41 amount
        let collateral ← (chain.tokens 61).mint 6 amount
        pure ((chain.setToken asset t).setToken 61 collateral)
      | .aaveRepay asset amount _ => do
        let t ← (chain.tokens asset).transferFrom 41 6 41 amount
        let debt ← (chain.tokens 72).burn 6 amount
        pure ((chain.setToken asset t).setToken 72 debt)
      | .raw data => do
        let amount := (data.headD 0).toNat
        let sent ← (chain.tokens 52).transferFrom 60 6 60 amount
        let received ← (chain.tokens 51).transfer 60 6 amount
        pure ((chain.setToken 52 sent).setToken 51 received)
      | _ => .error "no contract" }

/-- One Set with 100 aTokens 61, and the Aave module 31 without a debt. -/
def start : Protocol :=
  let idle : Protocol := .idle {
    controller := { Controller.enabling 4 [20, 31] with isSet := fun a ↦ a == 6 }
    setToken := SetToken.launched 6 [61] [100] [20, 31] 2 9 (10 ^ 18)
    chain := {
      tokens := fun a ↦
        if a = 61 then ERC20.holding 18 [(6, 100)] 1000
        else if a = 52 then ERC20.holding 18 [(9, 100), (41, 1000)] 1000
        else if a = 51 then ERC20.holding 18 [(60, 1000)] 1000
        else ERC20.empty 18 }
    log := [] }
  let aave := { idle.aave with
    underlyingToReserveTokens := fun asset ↦
      if asset = 51 then ⟨61, 71⟩ else if asset = 52 then ⟨62, 72⟩ else ⟨0, 0⟩
    collateralAssetEnabled := fun asset ↦ asset == 51
    borrowAssetEnabled := fun asset ↦ asset == 52
    collateralAssets := [51]
    borrowAssets := [52] }
  { idle with
    aave := aave
    issuance := fun a ↦
      if a = 20 then
        some { IssuanceSettings.empty with
          moduleIssuanceHooks := [31], isModuleHook := fun hook ↦ hook == 31 }
      else none }

/-- The manager borrows five units. -/
def levering : CustodyAction := .aaveLever (poolEnv 2) 52 51 5 5 "exchange" []

def levered : Protocol := (start.performCustody levering).getD start

/-- Account 9 redeems all Sets and pays the debt. -/
def redeeming : CustodyAction := .issuance .debt 20 (poolEnv 9) (10 ^ 18) 9 false

def redeemed : Protocol := (levered.performCustody redeeming).getD start

def left : Protocol := (redeemed.removeModule (poolEnv 2) 31).getD start

theorem start_unheld : start.Unheld := by
  have hnew : (SetToken.new 6 [61] [100] [20, 31] 2).PositionInvariant :=
    SetToken.new_positionInvariant (by decide) rfl (by decide)
  have hsame : (SetToken.new 6 [61] [100] [20, 31] 2).SamePositions start.world.setToken :=
    ⟨rfl, rfl, rfl⟩
  have hunused : start.WithoutMarkets :=
    ⟨rfl, rfl, rfl, fun _ ↦ rfl, fun _ ↦ rfl, fun _ ↦ rfl⟩
  refine ⟨hnew.of_same_positions rfl rfl rfl, ?_, ?_, ?_, ?_, hunused.marketsParallel, ?_⟩
  · intro custodian
    rw [hsame.orphanFree_iff]
    intro c hholds
    simp [SetToken.Holds] at hholds
  · intro a b heq
    cases a <;> cases b <;> first | rfl | exact absurd heq (by decide)
  · intro custodian
    cases custodian <;> rfl
  · intro asset henabled
    exact List.mem_singleton.mpr (eq_of_beq henabled)
  · intro asset other hexists
    exact absurd rfl hexists

theorem levering_ok : start.performCustody levering = .ok levered :=
  Outcome.eq_ok_getD start (by decide +kernel)

/-- The hooks synchronize before the last Sets are burned and pay the debt without an edit, and the
module's own synchronization is skipped without Sets. -/
theorem redeemed_not_orphanFree :
    start.Unheld ∧
      Trace performCustody start [(start, levering), (levered, redeeming)] redeemed ∧
      redeemed.removeModule (poolEnv 2) (redeemed.custodianAddress .aave) = .ok left ∧
      left.world.setToken.externalRealUnit 52 (redeemed.custodianAddress .aave) = -5 ∧
      ¬ left.world.setToken.OrphanFree (redeemed.custodianAddress .aave) := by
  have hredeem : levered.performCustody redeeming = .ok redeemed :=
    Outcome.eq_ok_getD start (by decide +kernel)
  have hremove : redeemed.removeModule (poolEnv 2) (redeemed.custodianAddress .aave) = .ok left :=
    Outcome.eq_ok_getD start (by decide +kernel)
  have hlisted : redeemed.custodianAddress .aave ∈ left.world.setToken.externalPositionModules 52 := by
    decide +kernel
  refine ⟨start_unheld, .cons levering_ok (.cons hredeem (.nil redeemed)), hremove,
    by decide +kernel, ?_⟩
  intro hnone
  exact hnone 52 (Or.inl hlisted)

/-- Someone else pays the debt while there are Sets. -/
def relieving : CustodyAction :=
  .elsewhere (levered.world.chain.setToken 72 (ERC20.empty 18)) levered.world.setToken.erc20

def relieved : Protocol := (levered.performCustody relieving).getD start

def cleared : Protocol := (relieved.removeModule (poolEnv 2) 31).getD start

theorem relieved_orphanFree :
    relieved.world.setToken.externalPositionModules 52 = [31] ∧
      cleared.world.setToken.OrphanFree (relieved.custodianAddress .aave) := by
  have hrelieve : levered.performCustody relieving = .ok relieved :=
    Outcome.eq_ok_getD start (by decide +kernel)
  have hrun : Trace performCustody start [(start, levering), (levered, relieving)] relieved :=
    .cons levering_ok (.cons hrelieve (.nil relieved))
  have hremove :
      relieved.removeModule (poolEnv 2) (relieved.custodianAddress .aave) = .ok cleared :=
    Outcome.eq_ok_getD start (by decide +kernel)
  have hsupply : 0 < relieved.world.setToken.totalSupply := by decide +kernel
  refine ⟨by decide +kernel, ?_⟩
  rw [run_orphanFree_iff hrun start_unheld (fun hcompound ↦ by cases hcompound) hremove]
  intro c hholds
  exact hsupply

end RemovalSample

end Protocol

end SetProtocol
