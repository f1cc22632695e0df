import SetProtocol.System.RebalanceTrades
import SetProtocol.System.VaultOperations

/-!
# Matured positions are redeemed

After `NotionalTradeModule` has redeemed what has matured, the Set has no default position in wrapped fCash
that has matured.  The loop goes over the positions that were listed before the first redemption.  A position
without a balance would be passed over with its unit as it is, but a collateralized Set has none, and the
redemption of one position neither lowers the balance of another one nor gives it a unit again.
-/

namespace SetProtocol.NotionalTradeModule

open PreciseUnitMath ModuleBase
open GeneralIndexModule (calculateAndEditDefaultPosition_writes newTokenUnit_eq_of_ok)

variable {m : NotionalTradeModule} {w₀ w w' v : World} {env : Env} {c fCash receiveToken : Address}
  {fCashAmount limit paid : ℕ}

/-- What a redemption assumes about wrapped fCash: it moves no other balances of the SetToken than its own
and that of the token it is redeemed for, which is no wrapped fCash itself, and redeeming the whole balance
leaves none. -/
structure RedeemsFully (m : NotionalTradeModule) (w : World) (env : Env) : Prop where
  spares : m.SparesOthers w env
  empties : ∀ fCash, m.isWrappedFCash fCash = true → ∀ toUnderlying chain chain',
    env.call ⟨fCash, 0, .raw (redeemCallData w.setToken.address
      ((chain.tokens fCash).balances w.setToken.address) toUnderlying)⟩ chain = .ok chain' →
        (chain'.tokens fCash).balances w.setToken.address = 0
  not_wrapped : ∀ fCash, ∀ token ∈ m.redeemedTokens fCash, m.isWrappedFCash token = false

/-- Redeeming the whole balance of a position. -/
theorem redeem_empties (h : m.redeem w env fCash (w.balance fCash) toUnderlying = .ok v)
    (hw : w₀.Reconciling w ∅) (hfully : m.RedeemsFully w₀ env) (hwrapped : m.isWrappedFCash fCash = true)
    (hfCash : fCash ≠ w₀.setToken.address) : v.setToken = w.setToken ∧ v.balance fCash = 0 := by
  simp only [redeem, World.invoke, World.execute, Outcome.bind_eq_ok, Outcome.pure_eq_ok] at h
  obtain ⟨_, -, _, ⟨chain, hcall, rfl⟩, rfl⟩ := h
  refine ⟨rfl, ?_⟩
  have hbalance : w.balance fCash = (w.chain.tokens fCash).balances w₀.setToken.address := by
    simp [World.balance, World.erc20, hfCash, hw.address]
  rw [hbalance, hw.address] at hcall
  have hempty := hfully.empties fCash hwrapped _ _ _ hcall
  simpa [World.balance, World.erc20, hfCash, hw.address] using hempty

/-- Positions after a redemption: the unit of the position is cleared when its balance is, and no others
change but that of the token that was received. -/
theorem updateSetTokenPositions_unit {pre pre' : ℕ} {result : ℕ × ℕ}
    (h : m.updateSetTokenPositions w fCash pre receiveToken pre' = .ok (w', result))
    (hm : 0 < w.setToken.positionMultiplier) (hne : fCash ≠ receiveToken) :
    (∀ c, c ≠ fCash → c ≠ receiveToken →
      w'.setToken.defaultRealUnit c = w.setToken.defaultRealUnit c ∧
        (c ∈ w'.setToken.components ↔ c ∈ w.setToken.components)) ∧
    (w.balance fCash = 0 → w'.setToken.defaultRealUnit fCash ≤ 0) := by
  simp only [updateSetTokenPositions, Outcome.bind_eq_ok, Outcome.pure_eq_ok, Prod.exists,
    Prod.mk.injEq] at h
  obtain ⟨u, _, _, _, hfirst, u', _, _, _, hsecond, _, -, _, -, rfl, -⟩ := h
  obtain ⟨hedit, current, unit, -, hunit, hwritten⟩ := calculateAndEditDefaultPosition_writes hm hfirst
  obtain ⟨hedit', -⟩ := calculateAndEditDefaultPosition_writes
    (by rw [hedit.frame.positionMultiplier]; exact hm) hsecond
  refine ⟨fun c hc hreceive ↦ ?_, fun hempty ↦ ?_⟩
  · rw [hedit'.defaultRealUnit hreceive, hedit.defaultRealUnit hc, hedit'.other_mem c hreceive,
      hedit.other_mem c hc]
    exact ⟨rfl, Iff.rfl⟩
  · have hzero : unit = 0 := by
      rw [newTokenUnit_eq_of_ok hunit, hempty, Nat.zero_sub, Nat.zero_mul, Nat.zero_div]
    rw [hedit'.defaultRealUnit hne, hwritten, hzero]
    exact SetToken.readBack_le hm 0

/-- The token is a component of which a unit is promised, or nothing is promised of it. -/
def Accounted (w : World) (c : Address) : Prop :=
  c ∈ w.setToken.components ∨ w.setToken.defaultRealUnit c ≤ 0

/-- One redemption of the whole balance: a covered position is cleared, other positions in wrapped fCash stay
as they are. -/
theorem redeemWholeBalance_unit (h : m.redeemWholeBalance env w fCash = .ok w')
    (hw : w₀.Reconciling w ∅) (hfully : m.RedeemsFully w₀ env) (hwrapped : m.isWrappedFCash fCash = true)
    (hself : fCash ≠ w₀.setToken.address) (hsupply : 0 < w₀.setToken.totalSupply) :
    (Accounted w fCash → w'.setToken.defaultRealUnit fCash ≤ 0) ∧
      ∀ c, m.isWrappedFCash c = true → c ≠ fCash →
        w'.setToken.defaultRealUnit c = w.setToken.defaultRealUnit c ∧
          (c ∈ w'.setToken.components ↔ c ∈ w.setToken.components) := by
  simp only [redeemWholeBalance, Outcome.bind_eq_ok, Outcome.pure_eq_ok, Prod.exists] at h
  obtain ⟨token, htoken, _, _, h, rfl⟩ := h
  have hreceive := hfully.not_wrapped fCash _ ⟨token, htoken, rfl⟩
  have hne : fCash ≠ m.heldToken token := by
    intro heq
    rw [← heq, hwrapped] at hreceive
    cases hreceive
  unfold internalRedeemFCashPosition at h
  split_ifs at h with hzero
  · -- without a balance a covered position has no unit
    simp only [Outcome.pure_eq_ok, Prod.mk.injEq] at h
    obtain ⟨rfl, -⟩ := h
    refine ⟨fun haccounted ↦ ?_, fun _ _ _ ↦ ⟨rfl, Iff.rfl⟩⟩
    by_contra hunit
    have hmem := haccounted.resolve_right hunit
    have hcovered := hw.settled fCash (Set.notMem_empty _) hmem
    unfold Covered Backing.Backed at hcovered
    rw [hzero, hw.totalSupply] at hcovered
    have hpos : (0 : ℤ) < w₀.setToken.totalSupply := by exact_mod_cast hsupply
    have := Int.mul_pos hpos (not_le.mp hunit)
    simp at hcovered
    omega
  · simp only [Outcome.bind_eq_ok, Outcome.pure_eq_ok, Prod.exists, Prod.mk.injEq] at h
    obtain ⟨_, -, v, hredeem, u, _, _, hupdate, _, -, rfl, -⟩ := h
    obtain ⟨hset, hempty⟩ := redeem_empties hredeem hw hfully hwrapped hself
    obtain ⟨hother, hown⟩ := updateSetTokenPositions_unit hupdate
      (hset ▸ hw.wellFormed.multiplier_pos) hne
    refine ⟨fun _ ↦ hown hempty, fun c hc hcf ↦ ?_⟩
    rw [← hset]
    apply hother c hcf
    rintro rfl
    rw [hc] at hreceive
    cases hreceive

/-- What one pass of the loop does to wrapped fCash that has matured. -/
theorem redeemMaturedPosition_unit {position : PositionEntry}
    (h : m.redeemMaturedPosition env w position = .ok w') (hw : w₀.Reconciling w ∅)
    (hfully : m.RedeemsFully w₀ env) (hself : position.component ≠ w₀.setToken.address)
    (hsupply : 0 < w₀.setToken.totalSupply) (hc : m.isWrappedFCash c = true) (haccounted : Accounted w c) :
    (w'.setToken.defaultRealUnit c ≤ 0 ∨
      w'.setToken.defaultRealUnit c = w.setToken.defaultRealUnit c ∧
        (c ∈ w'.setToken.components ↔ c ∈ w.setToken.components)) ∧
    (position.component = c → 0 < position.unit → (m.wrappedfCash c).hasMatured = .ok true →
      w'.setToken.defaultRealUnit c ≤ 0) := by
  unfold redeemMaturedPosition at h
  split_ifs at h with hposition
  · simp only [Outcome.bind_eq_ok] at h
    obtain ⟨matured, hmatured, h⟩ := h
    split_ifs at h with hredeem
    · by_cases heq : c = position.component
      · subst heq
        have hunit := (redeemWholeBalance_unit h hw hfully hc hself hsupply).1 haccounted
        exact ⟨.inl hunit, fun _ _ _ ↦ hunit⟩
      · have hkept := (redeemWholeBalance_unit h hw hfully hposition.2 hself hsupply).2 c hc heq
        exact ⟨.inr hkept, fun hcomponent ↦ absurd hcomponent.symm heq⟩
    · obtain rfl := Outcome.pure_eq_ok.mp h
      refine ⟨.inr ⟨rfl, Iff.rfl⟩, fun hcomponent _ hmature ↦ ?_⟩
      rw [hcomponent, hmature] at hmatured
      exact absurd (Except.ok.inj hmatured).symm hredeem
  · obtain rfl := Outcome.pure_eq_ok.mp h
    refine ⟨.inr ⟨rfl, Iff.rfl⟩, fun hcomponent hunit _ ↦ absurd ⟨hunit, ?_⟩ hposition⟩
    exact hcomponent ▸ hc

theorem Accounted.of_pass (h : Accounted w c) (hpass : w'.setToken.defaultRealUnit c ≤ 0 ∨
    w'.setToken.defaultRealUnit c = w.setToken.defaultRealUnit c ∧
      (c ∈ w'.setToken.components ↔ c ∈ w.setToken.components)) : Accounted w' c := by
  rcases hpass with hle | ⟨hunit, hmem⟩
  · exact .inr hle
  · unfold Accounted
    rw [hunit, hmem]
    exact h

/-- Units of default positions are read off the list of positions. -/
theorem exists_default_entry {positions : List PositionEntry} (h : w.setToken.getPositions = .ok positions)
    (hmem : c ∈ w.setToken.components) (hunit : 0 < w.setToken.defaultRealUnit c)
    (hm : 0 < w.setToken.positionMultiplier) :
    ∃ position ∈ positions, position.component = c ∧ 0 < position.unit := by
  have hvirtual : 0 < w.setToken.defaultPositionVirtualUnit c := by
    by_contra hle
    have hproduct := mul_nonpos_of_nonpos_of_nonneg (not_lt.mp hle) hm.le
    have hnonpos := Int.ediv_le_ediv preciseUnitInt_pos hproduct
    unfold SetToken.defaultRealUnit SetToken.realUnit at hunit
    rw [Int.zero_ediv] at hnonpos
    omega
  refine ⟨⟨c, 0, w.setToken.defaultRealUnit c, .default, []⟩, ?_, rfl, hunit⟩
  rw [SetToken.getPositions_ok h, List.mem_flatMap]
  refine ⟨c, hmem, ?_⟩
  simp [SetToken.positionsOf, hvirtual]

/-- After a call that redeems what has matured, and so after either issuance hook, the Set promises no
wrapped fCash that has matured. -/
theorem redeemMatured_clears {caller : Address}
    (h : m.redeemMaturedPositions w env = .ok w' ∨ m.moduleIssueHook w env caller fCashAmount = .ok w' ∨
      m.moduleRedeemHook w env caller fCashAmount = .ok w')
    (hw : w.WellFormed) (hcovered : w.Collateralized) (hsupply : 0 < w.setToken.totalSupply)
    (hfully : m.RedeemsFully w env) :
    ∀ c ∈ w.setToken.components, m.isWrappedFCash c = true →
      (m.wrappedfCash c).hasMatured = .ok true → w'.setToken.defaultRealUnit c ≤ 0 := by
  have hloop : ∃ positions, w.setToken.getPositions = .ok positions ∧
      positions.foldlM (m.redeemMaturedPosition env) w = .ok w' := by
    rcases h with h | h | h
    all_goals
      simp only [redeemMaturedPositions, moduleIssueHook, moduleRedeemHook, moduleHook,
        internalRedeemMaturedPositions, Outcome.bind_eq_ok] at h
      exact h.choose_spec.2
  obtain ⟨positions, hpositions, hloop⟩ := hloop
  have hself : ∀ position ∈ positions, position.component ≠ w.setToken.address := by
    intro position hposition heq
    exact hw.self_notMem (heq ▸ SetToken.mem_components_of_mem_getPositions hpositions hposition)
  intro c hmem hwrapped hmatured
  have hkeeps : ∀ v, ∀ position ∈ positions, ∀ v', m.redeemMaturedPosition env v position = .ok v' →
      w.Reconciling v ∅ ∧ Accounted v c → w.Reconciling v' ∅ ∧ Accounted v' c := by
    intro v position hposition v' hok hv
    have hpass := redeemMaturedPosition_unit hok hv.1 hfully (hself position hposition) hsupply hwrapped
      hv.2
    exact ⟨redeemMaturedPosition_reconciling hok (hself position hposition) hfully.spares hv.1,
      hv.2.of_pass hpass.1⟩
  have hstart : w.Reconciling w ∅ ∧ Accounted w c := ⟨.start hw hcovered, .inl hmem⟩
  by_cases hunit : 0 < w.setToken.defaultRealUnit c
  · obtain ⟨entry, hentry, hcomponent, hpos⟩ :=
      exists_default_entry hpositions hmem hunit hw.multiplier_pos
    apply Outcome.foldlM_establish (P := fun v ↦ v.setToken.defaultRealUnit c ≤ 0) hentry hkeeps ?_ ?_
      hloop hstart
    · intro v v' hok hv
      exact (redeemMaturedPosition_unit hok hv.1 hfully (hself entry hentry) hsupply hwrapped hv.2).2
        hcomponent hpos hmatured
    · intro v position hposition v' hok hv hle
      rcases (redeemMaturedPosition_unit hok hv.1 hfully (hself position hposition) hsupply hwrapped
        hv.2).1 with hcleared | ⟨hkept, -⟩
      · exact hcleared
      · exact hkept.le.trans hle
  · -- a unit that is not positive stays so
    refine (Outcome.foldlM_invariant_of_mem
      (P := fun v ↦ (w.Reconciling v ∅ ∧ Accounted v c) ∧ v.setToken.defaultRealUnit c ≤ 0) ?_ hloop
      ⟨hstart, not_lt.mp hunit⟩).2
    intro v position hposition v' hok hv
    refine ⟨hkeeps v position hposition v' hok hv.1, ?_⟩
    rcases (redeemMaturedPosition_unit hok hv.1.1 hfully (hself position hposition) hsupply hwrapped
      hv.1.2).1 with hcleared | ⟨hkept, -⟩
    · exact hcleared
    · exact hkept.le.trans hv.2

namespace MaturedSample

/-- Tokens 7 and 8 are wrapped fCash of token 30, and token 7 has matured. -/
def module : NotionalTradeModule where
  address := 25
  owner := 1
  weth := 40
  redeemToUnderlying := true
  allowedSetToken := true
  anySetAllowed := false
  isContract := fun a ↦ a == 7 || a == 8
  wrappedfCash := fun a ↦
    { getDecodedID := .ok (1, if a = 7 then 100 else 200)
      hasMatured := .ok (a == 7)
      getUnderlyingToken := .ok 30
      getAssetToken := .ok 31
      getToken := fun useUnderlying ↦ .ok (if useUnderlying then 30 else 31) }
  computeAddress := fun _ maturity ↦ .ok (if maturity = 100 then 7 else 8)
  deployWrapper := fun _ maturity ↦ .ok (if maturity = 100 then 7 else 8)

/-- Two Sets with 50 units of either token. -/
def world : World where
  controller := { Controller.enabling 4 [25] with isSet := fun a ↦ a == 6 }
  setToken := SetToken.launched 6 [7, 8] [50, 50] [25] 2 9 (2 * 10 ^ 18)
  chain := { tokens := fun _ ↦ ERC20.holding 18 [(6, 101), (9, 10 ^ 9)] (10 ^ 30) }
  log := []

/-- Wrapped fCash takes all that the Set has of it and pays as much of token 30. -/
def redeemAll (fCash : Address) (chain : Chain) : Chain :=
  { chain with
    tokens := Function.update
      (Function.update chain.tokens 30 ((chain.tokens 30).setBalance 6
        ((chain.tokens 30).balances 6 + (chain.tokens fCash).balances 6)))
      fCash ((chain.tokens fCash).setBalance 6 0) }

def redeemEnv : Env :=
  { Env.plain 9 150 with call := fun invocation chain ↦ .ok (redeemAll invocation.target chain) }

def redeemed : World := (module.redeemMaturedPositions world redeemEnv).getD world

theorem redeemedTokens_eq {fCash c : Address} (h : c ∈ module.redeemedTokens fCash) : c = 30 := by
  obtain ⟨token, htoken, rfl⟩ := h
  obtain rfl := Except.ok.inj htoken
  decide

theorem world_address : world.setToken.address = 6 := by
  decide +kernel

theorem redeemsFully : module.RedeemsFully world redeemEnv := by
  refine ⟨⟨?_, fun fCash c hc ↦ ?_⟩, fun fCash _ _ chain chain' hcall ↦ ?_, fun fCash c hc ↦ ?_⟩
  · intro invocation chain chain' hcall token htoken
    obtain rfl : redeemAll invocation.target chain = chain' := Except.ok.inj hcall
    have hne : token ≠ invocation.target := fun heq ↦ htoken (.inl heq)
    simp only [redeemAll]
    rw [Function.update_of_ne hne]
    by_cases h30 : token = 30
    · subst h30
      rw [Function.update_self, world_address]
      simp [ERC20.setBalance]
    · rw [Function.update_of_ne h30]
  · rw [redeemedTokens_eq hc]
    decide +kernel
  · obtain rfl : redeemAll fCash chain = chain' := Except.ok.inj hcall
    rw [world_address]
    simp [redeemAll, ERC20.setBalance]
  · rw [redeemedTokens_eq hc]
    decide +kernel

/-- The position that has not matured keeps its unit. -/
theorem redeemed_clears :
    world.setToken.defaultRealUnit 7 = 50 ∧ redeemed.setToken.defaultRealUnit 7 ≤ 0 ∧
      redeemed.setToken.defaultRealUnit 8 = 50 ∧ redeemed.setToken.components = [8, 30] := by
  have hwell : world.WellFormed := ⟨by decide +kernel, by decide +kernel, by decide +kernel⟩
  have hredeemed : module.redeemMaturedPositions world redeemEnv = .ok redeemed ∨
      module.moduleIssueHook world redeemEnv 0 0 = .ok redeemed ∨
      module.moduleRedeemHook world redeemEnv 0 0 = .ok redeemed :=
    .inl (Outcome.eq_ok_getD world (by decide +kernel))
  refine ⟨by decide +kernel, ?_, by decide +kernel, by decide +kernel⟩
  exact redeemMatured_clears hredeemed hwell (by decide +kernel) (by decide +kernel)
    redeemsFully 7 (by decide +kernel) (by decide +kernel) (by decide +kernel)

end MaturedSample

end SetProtocol.NotionalTradeModule
