import SetProtocol.Core.ModulePositions
import SetProtocol.System.OffChainEstimates

/-!
# The limits of the caller

The limits are compared with the amounts that are required after the hooks of the modules, and the hooks may
edit positions.  Since components stay listed once, the loops that follow transfer each component once and
for the amount that was compared.
-/

namespace SetProtocol.SlippageIssuanceModule

open ModuleBase DebtIssuanceModule

variable {m : DebtIssuanceModule} {P P' : Protocol} {env : Env} {quantity limit : ℕ}
  {recipient c : Address} {isIssue : Bool} {checked : List Address} {limits : List ℕ}
  {required : List (Address × ℕ × ℕ)}

/-- The amount is on the caller's side of the limit. -/
def Within (isIssue : Bool) (amount limit : ℕ) : Prop :=
  if isIssue then amount ≤ limit else limit ≤ amount

theorem validateTokenTransferLimits_ok
    (h : validateTokenTransferLimits checked limits required isIssue = .ok ())
    (hlimit : (c, limit) ∈ checked.zip limits) :
    ∃ equity debt, (c, equity, debt) ∈ required ∧ Within isIssue equity limit := by
  have hchecked := Outcome.forM_eq_ok.mp h (c, limit) hlimit
  unfold validateTokenTransferLimit at hchecked
  split at hchecked
  · cases hchecked
  · next entry hfind =>
    have hmem := List.mem_of_find?_eq_some hfind
    obtain rfl : entry.1 = c := by simpa using List.find?_some hfind
    refine ⟨entry.2.1, entry.2.2, hmem, ?_⟩
    unfold Within
    split_ifs at hchecked ⊢ <;> exact Outcome.require_eq_ok.mp hchecked

/-- Modules edit positions, but a component stays listed once. -/
theorem callModulePreHooks_housed {P₁ : Protocol} {total : ℕ} (hw : P.world.setToken.Housed)
    (hpre : m.callModulePreHooks P env total isIssue = .ok P₁) : P₁.world.setToken.Housed := by
  have hallows : P.Allows Footprint.any :=
    ⟨fun _ _ ↦ trivial, fun _ _ ↦ trivial, trivial, fun _ ↦ trivial⟩
  exact (callModulePreHooks_edits hallows hpre).2.housed hw

/-- Whatever the module hooks do, a caller gives no more of a checked component than its limit on issue, and
the recipient is given no less than the limit on redemption. -/
theorem transfers_within_limits
    (h : IssuanceEntry.execute (.slippage checked limits) m P env quantity recipient isIssue = .ok P')
    (hw : P.world.setToken.Housed) (hlimit : (c, limit) ∈ checked.zip limits) :
    Within isIssue
      ((flow c (equityEnds P.world.setToken.address env.sender recipient isIssue)).since P.world
        P'.world).2.sum limit := by
  obtain ⟨Q, managerFee, protocolFee, hpositions, hsettle⟩ := IssuanceEntry.execute_ok h
  have hsettled : ∀ ends, (flow c ends).read P'.world = (flow c ends).read Q.world :=
    fun _ ↦ Watch.settle_read hsettle
  cases isIssue with
  | true =>
    simp only [IssuanceEntry.positions, issuePositions, Outcome.bind_eq_ok, Outcome.pure_eq_ok,
      Prod.exists, Prod.mk.injEq] at hpositions
    obtain ⟨_, -, _, -, _, -, total, _, _, -, P₁, hpre, required, hrequired, _, hlimits, v, hequity, u,
      hdebt, rfl, -, -⟩ := hpositions
    have hhooks : m.callModulePreHooks P env total true = .ok P₁ := hpre
    have hnodup := calculateRequiredComponentIssuanceUnits_nodup hrequired
      (callModulePreHooks_housed hw hhooks).components_nodup
    obtain ⟨equity, debt, hmem, hwithin⟩ := validateTokenTransferLimits_ok hlimits hlimit
    have hstatus := callModulePreHooks_sameStatus hhooks
    have htransferred := (transferred_of_issue hnodup hmem hequity hdebt).extend hstatus.address
      (fun _ ↦ callModulePreHooks_flow hhooks) hsettled
    rwa [htransferred.equity.sum]
  | false =>
    simp only [IssuanceEntry.positions, redeemPositions, Outcome.bind_eq_ok, Outcome.pure_eq_ok,
      Prod.exists, Prod.mk.injEq] at hpositions
    obtain ⟨_, -, _, -, total, _, _, -, P₁, hpre, P₃, hburn, required, hrequired, _, hlimits, v, hdebt, u,
      hequity, rfl, -, -⟩ := hpositions
    have hhooks : m.callModulePreHooks P env total false = .ok P₁ := hpre
    have hhoused := callModulePreHooks_housed hw hhooks
    have hstatus := callModulePreHooks_sameStatus hhooks
    obtain ⟨hburnt, -⟩ := Protocol.onWorld_ok hburn
    have hstep := burn_burnStep hburnt
    -- the burn changes balances of the Set only
    obtain ⟨t, ht, -⟩ := hstep.setToken
    have hcomponents : P₃.world.setToken.components = P₁.world.setToken.components := by
      rw [ht]
      rfl
    have hnodup := calculateRequiredComponentIssuanceUnits_nodup hrequired
      (hcomponents ▸ hhoused.components_nodup)
    obtain ⟨equity, debt, hmem, hwithin⟩ := validateTokenTransferLimits_ok hlimits hlimit
    have hbefore : ∀ ends, (flow c ends).read P₃.world = (flow c ends).read P.world := by
      intro ends
      rw [Watch.onSetToken_read hburnt, callModulePreHooks_flow hhooks]
    have htransferred := (transferred_of_redeem hnodup hmem hdebt hequity).extend
      (hstep.address.trans hstatus.address) hbefore hsettled
    rwa [htransferred.equity.sum]

namespace LimitSample

open Sample

/-- One Set may cost two units of token 45. -/
def issuedWithin : Outcome Protocol :=
  IssuanceEntry.execute (.slippage [45] [2]) module trading tradingEnv (10 ^ 18) 9 true

theorem trading_modules (c : Address) :
    trading.world.setToken.externalPositionModules c = if c = 45 then [33] else [] := by
  change (((SetToken.launched 6 [45] [1] [20, 33] 2 9 (2 * 10 ^ 18)).setExternalModules 45
    [33]).setExternalPosition 45 33 ⟨1, []⟩).externalPositionModules c = _
  rw [SetToken.setExternalPosition_externalPositionModules,
    SetToken.setExternalModules_externalPositionModules]
  split
  · rfl
  · exact SetToken.new_externalPositionModules 6 [45] [1] [20, 33] 2 c

theorem trading_housed : trading.world.setToken.Housed where
  components_nodup := by decide +kernel
  external_nodup c := by
    rw [trading_modules]
    split <;> simp
  mem_components c hc := by
    rw [trading_modules] at hc
    by_cases hne : c = 45
    · subst hne
      exact List.mem_cons_self
    · rw [if_neg hne] at hc
      exact absurd rfl hc
  multiplier_pos := by decide +kernel

theorem issued_within :
    Within true ((flow 45 (9, trading.world.setToken.address)).since trading.world
      (issuedWithin.getD trading).world).2.sum 2 := by
  have hissued : issuedWithin = .ok (issuedWithin.getD trading) :=
    Outcome.eq_ok_getD trading (by decide +kernel)
  exact transfers_within_limits hissued trading_housed List.mem_cons_self

end LimitSample

end SetProtocol.SlippageIssuanceModule
