import SetProtocol.Foundation.Rounding
import SetProtocol.Core.UnitRoundTrip
import SetProtocol.System.PerpPositions

/-!
# What an issuer pays into a Perp account

On issue the account opens positions whose value the issuer has to pay in collateral.  The value for each
Set is rounded up with eighteen decimals, truncated to the decimals of the collateral token and stored as
the unit of the account; the hook of the component rounds the deposit for the issued quantity up again.
The truncation in between loses up to one unit of the collateral for each Set, so for more than one Set the
last rounding does not make up for it.
-/

namespace SetProtocol

open PreciseUnitMath ModuleBase UnitConversionUtils

namespace PerpV2LeverageModuleV2

variable {m m₁ m' : PerpV2LeverageModuleV2} {w w₁ w' v v' : World} {env env' : Env}
  {caller caller' : Address} {quantity value : ℕ}

/-- Some whole number of collateral units for each Set reaches into the last unit of collateral that the
value needs, and does not exceed the value for each Set rounded up. -/
def Payable (m : PerpV2LeverageModuleV2) (value quantity : ℕ) : Prop :=
  ∃ unit, (value - 1) / decimalScale m.collateralDecimals * preciseUnit < quantity * unit ∧
    quantity * decimalScale m.collateralDecimals * unit < value * preciseUnit + quantity

theorem decimalScale_pos {decimals : ℕ} (h : decimals ≤ 18) : 0 < decimalScale decimals := by
  unfold decimalScale
  rw [if_pos h]
  exact Nat.pow_pos (by decide)

/-- Nothing is truncated when the collateral token has eighteen decimals. -/
theorem payable_of_eighteen (hdecimals : m.collateralDecimals = 18) (hquantity : 0 < quantity)
    (hvalue : 0 < value) : m.Payable value quantity := by
  have hscale : decimalScale m.collateralDecimals = 1 := by
    rw [hdecimals]
    rfl
  have hsplit := Nat.div_add_mod (value * preciseUnit + quantity - 1) quantity
  have hrest := Nat.mod_lt (value * preciseUnit + quantity - 1) hquantity
  have hbelow : (value - 1) * preciseUnit < value * preciseUnit :=
    Nat.mul_lt_mul_of_pos_right (Nat.sub_lt hvalue one_pos) preciseUnit_pos
  refine ⟨(value * preciseUnit + quantity - 1) / quantity, ?_, ?_⟩
  · rw [hscale, Nat.div_one]
    omega
  · rw [hscale, Nat.mul_one]
    omega

/-- The unit for an issued value. -/
theorem issuedPositionUnit_issue {unit : ℤ} (hvalue : 0 < value)
    (h : m.issuedPositionUnit value quantity true = .ok unit) :
    0 < quantity ∧ unit = ((value * preciseUnit + quantity - 1) / quantity /
      decimalScale m.collateralDecimals : ℕ) := by
  have hpos : (0 : ℤ) < value := Int.natCast_pos.mpr hvalue
  simp only [issuedPositionUnit, if_neg hpos.not_ge, if_true, fromPreciseUnitToDecimalsInt,
    Outcome.bind_eq_ok, SignedSafeMath.div_eq_ok] at h
  obtain ⟨ceil, hceil, -, -, rfl⟩ := h
  obtain ⟨hquantity, rfl⟩ := preciseDivCeilInt_eq_of_ok hpos (Int.natCast_nonneg _) hceil
  have hquantity : 0 < quantity := Int.natCast_pos.mp hquantity
  have hcast : (value : ℤ) * preciseUnitInt + quantity - 1 =
      ((value * preciseUnit + quantity - 1 : ℕ) : ℤ) := by
    rw [Nat.cast_sub (by omega), preciseUnitInt_eq]
    push_cast
    rfl
  refine ⟨hquantity, ?_⟩
  rw [hcast, Int.tdiv_eq_ediv_of_nonneg (by positivity)]
  rfl

theorem executePositionTrades_issue {n : PerpV2LeverageModuleV2} {unit : ℤ}
    (hsync : m.syncPositionList w = .ok m₁)
    (htrades : m₁.tradePositions w env quantity true false = .ok (w₁, (value : ℤ)))
    (h : m.executePositionTrades w env quantity true false = .ok (n, v, unit)) :
    n = m₁ ∧ v = w₁ ∧ m₁.issuedPositionUnit value quantity true = .ok unit := by
  simp only [executePositionTrades, Outcome.bind_eq_ok, Outcome.pure_eq_ok, hsync,
    Except.ok.injEq, SafeCast.toInt256_eq_ok, Prod.exists, Prod.mk.injEq, exists_eq_left'] at h
  obtain ⟨_, ⟨-, rfl⟩, v₁, value₁, htraded, unit₁, hunit, rfl, rfl, rfl⟩ := h
  obtain ⟨rfl, rfl⟩ := Prod.mk.inj (Except.ok.inj (htrades.symm.trans htraded))
  exact ⟨rfl, rfl, hunit⟩

/-- The unit that is read after the hook of the module has traded. -/
theorem moduleIssueHook_unit {unit : ℤ} (hsync : m.syncPositionList w = .ok m₁)
    (htrades : m₁.tradePositions w env quantity true false = .ok (w₁, (value : ℤ)))
    (hvalue : 0 < value) (hmultiplier : w.setToken.positionMultiplier = preciseUnitInt)
    (hsupply : w.setToken.totalSupply ≠ 0)
    (hposition : Position.hasExternalPosition w.setToken m.collateralToken = true)
    (h : m.moduleIssueHook w env caller quantity = .ok (m', w'))
    (hread : w'.setToken.getExternalPositionRealUnit m.collateralToken m.address = .ok unit) :
    0 < quantity ∧ unit = ((value * preciseUnit + quantity - 1) / quantity /
        decimalScale m.collateralDecimals : ℕ) := by
  have hsame := syncPositionList_sameContracts hsync
  simp only [moduleIssueHook, moduleHook, Outcome.bind_eq_ok] at h
  obtain ⟨_, -, h⟩ := h
  rw [if_neg hsupply, if_neg (by simp [hposition])] at h
  simp only [World.onSetToken, Outcome.bind_eq_ok, Outcome.pure_eq_ok, Prod.exists,
    Prod.mk.injEq] at h
  obtain ⟨n, v, issued, hexecute, u, ⟨s, hedit, rfl⟩, rfl, rfl⟩ := h
  obtain ⟨rfl, rfl, hissued⟩ := executePositionTrades_issue hsync htrades hexecute
  obtain ⟨hquantity, rfl⟩ := issuedPositionUnit_issue hvalue hissued
  have hcalls : World.Calls env (fun _ ↦ True) w v := tradePositions_calls (fun _ ↦ trivial) htrades
  have hone : v.setToken.positionMultiplier = preciseUnitInt := by
    rw [hcalls.steady.sameStatus.positionMultiplier, hmultiplier]
  rw [hsame.address, hsame.collateralToken] at hedit
  have hslot : (UnitSlot.external m.collateralToken m.address).edit v.setToken v.controller m.address
      _ = .ok s := hedit
  have hback := UnitSlot.read_of_edit (hone ▸ preciseUnitInt_pos) hslot hread
  refine ⟨hquantity, ?_⟩
  rw [hback, SetToken.readBack_of_multiplier_eq hone, hsame.collateralDecimals]

/-- The deposit of the component hook, as it appears in the log of calls. -/
theorem componentIssueHook_deposits
    (h : m.componentIssueHook v env caller quantity m.collateralToken true = .ok v') :
    ∃ unit amount : ℕ,
      v.setToken.getExternalPositionRealUnit m.collateralToken m.address = .ok (unit : ℤ) ∧
      amount = (quantity * unit + preciseUnit - 1) / preciseUnit ∧
      v'.log = v.log ++ [⟨m.collateralToken, 0, .approve m.perpVault amount⟩,
        ⟨m.perpVault, 0, .vaultDeposit m.collateralToken amount⟩] := by
  simp only [componentIssueHook, if_true, invokeDeposit, World.invokeApprove, Outcome.bind_eq_ok,
    SafeCast.toUint256_eq_ok] at h
  obtain ⟨_, -, _, hread, unit, rfl, amount, hamount, u, happrove, hdeposit⟩ := h
  refine ⟨unit, amount, hread, preciseMulCeil_eq_of_ok hamount, ?_⟩
  rw [(World.invoke_ok hdeposit).2.1, (World.invoke_ok happrove).2.1, List.append_assoc]
  rfl

/-- The hook of the module trades for a value of the account, and the hook of the component deposits the
collateral for the unit that was stored.  The deposit is worth the value exactly when the value is
payable. -/
theorem issue_pays_value_iff (hsync : m.syncPositionList w = .ok m₁)
    (htrades : m₁.tradePositions w env quantity true false = .ok (w₁, (value : ℤ)))
    (hvalue : 0 < value) (hdecimals : m.collateralDecimals ≤ 18)
    (hmultiplier : w.setToken.positionMultiplier = preciseUnitInt)
    (hsupply : w.setToken.totalSupply ≠ 0)
    (hposition : Position.hasExternalPosition w.setToken m.collateralToken = true)
    (hissue : m.moduleIssueHook w env caller quantity = .ok (m', w'))
    (hunit : v.setToken.getExternalPositionRealUnit m.collateralToken m.address =
      w'.setToken.getExternalPositionRealUnit m.collateralToken m.address)
    (hdeposit : m'.componentIssueHook v env' caller' quantity m.collateralToken true = .ok v') :
    ∃ amount, v'.log = v.log ++ [⟨m.collateralToken, 0, .approve m.perpVault amount⟩,
        ⟨m.perpVault, 0, .vaultDeposit m.collateralToken amount⟩] ∧
      (value ≤ amount * decimalScale m.collateralDecimals ↔ m.Payable value quantity) := by
  have hsame : m.SameContracts m' :=
    (moduleHook_edits (F := .any) (fun _ ↦ trivial) trivial hissue).1
  rw [← hsame.collateralToken] at hdeposit
  obtain ⟨unit, amount, hread, rfl, hlog⟩ := componentIssueHook_deposits hdeposit
  rw [hsame.collateralToken, hsame.address, hunit] at hread
  obtain ⟨hquantity, hunit⟩ := moduleIssueHook_unit hsync htrades hvalue hmultiplier hsupply hposition
    hissue hread
  rw [hsame.collateralToken, hsame.perpVault] at hlog
  refine ⟨_, hlog, ?_⟩
  rw [Nat.cast_inj.mp hunit]
  exact Rounding.le_ceil_of_coarse_iff preciseUnit_pos hquantity (decimalScale_pos hdecimals) hvalue

namespace Sample

open PerpState.Sample (vaultEnv)

/-- Three Sets with the default unit `3333333` of token 45, which has six decimals. -/
def start : PerpState where
  module := { PerpState.Sample.start.module with collateralDecimals := 6 }
  world := { PerpState.Sample.start.world with
    setToken := SetToken.launched 6 [45] [3333333] [20, 33] 2 9 (3 * 10 ^ 18)
    chain := { tokens := fun _ ↦ ERC20.holding 6 [(6, 2 * 10 ^ 7)] (2 * 10 ^ 7) } }

/-- The manager deposits the default position. -/
def deposit : PerpAction := .deposit vaultEnv 3333333

def deposited : PerpState := (start.perform deposit).getD start

/-- The account ends up with `vaultBalance` units of the collateral. -/
def settled (vaultBalance : ℤ) : PerpState :=
  { deposited with
    world := { deposited.world with
      chain := { deposited.world.chain with
        perp := { PerpAccount.empty with vaultBalance := vaultBalance } } } }

/-- The hook of the module for three more Sets, and then the hook of the component. -/
def hooked (vaultBalance : ℤ) : PerpState :=
  ((settled vaultBalance).perform (.moduleIssueHook vaultEnv 20 (3 * 10 ^ 18))).getD start

def paid (vaultBalance : ℤ) : Outcome World :=
  (hooked vaultBalance).module.componentIssueHook (hooked vaultBalance).world vaultEnv 20
    (3 * 10 ^ 18) 45 true

theorem hooked_ok (vaultBalance : ℤ)
    (h : ((settled vaultBalance).perform (.moduleIssueHook vaultEnv 20 (3 * 10 ^ 18))).isOk = true) :
    (settled vaultBalance).module.moduleIssueHook (settled vaultBalance).world vaultEnv 20
        (3 * 10 ^ 18) = .ok ((hooked vaultBalance).module, (hooked vaultBalance).world) := by
  have hperform := Outcome.eq_ok_getD start h
  simp only [PerpState.perform, Outcome.bind_eq_ok, Outcome.pure_eq_ok, Prod.exists] at hperform
  obtain ⟨m, w, hcall, -⟩ := hperform
  rw [hcall]
  unfold hooked
  simp only [PerpState.perform, hcall]
  rfl

/-- The trades of the hook, of which there are none, and the value that belongs to three Sets. -/
def traded (vaultBalance : ℤ) : Outcome (World × ℤ) :=
  (settled vaultBalance).module.tradePositions (settled vaultBalance).world vaultEnv
    (3 * 10 ^ 18 : ℕ) true false

theorem traded_ok (vaultBalance value : ℤ) (hok : (traded vaultBalance).isOk = true)
    (hvalue : ((traded vaultBalance).getD (start.world, 0)).2 = value) :
    traded vaultBalance = .ok (((traded vaultBalance).getD (start.world, 0)).1, value) := by
  rw [← hvalue]
  exact Outcome.eq_ok_getD _ hok

/-- With ten whole tokens in the vault, three more Sets are worth ten tokens less one precise unit.  The
deposit is a unit of the collateral short of ten tokens. -/
theorem issue_underpays :
    ((settled (10 ^ 7)).perform (.moduleIssueHook vaultEnv 20 (3 * 10 ^ 18))).isOk = true ∧
      (traded (10 ^ 7)).map Prod.snd = .ok 9999999999999999999 ∧
      (paid (10 ^ 7)).map World.log =
        .ok ((hooked (10 ^ 7)).world.log ++ [⟨45, 0, .approve 46 9999999⟩,
          ⟨46, 0, .vaultDeposit 45 9999999⟩]) ∧
      ¬ 9999999999999999999 ≤ 9999999 * decimalScale 6 := by
  exact ⟨by decide +kernel, by decide +kernel, by decide +kernel, by decide⟩

theorem issue_pays :
    ∃ amount, ((paid 9999999).getD start.world).log =
        (hooked 9999999).world.log ++ [⟨45, 0, .approve 46 amount⟩, ⟨46, 0, .vaultDeposit 45 amount⟩] ∧
      9999999000000000000 ≤ amount * decimalScale 6 := by
  have hcontracts : (settled 9999999).module.collateralToken = 45 ∧
      (settled 9999999).module.perpVault = 46 ∧
      (settled 9999999).module.collateralDecimals = 6 := by
    decide +kernel
  have hsync : (settled 9999999).module.syncPositionList (settled 9999999).world =
      .ok (settled 9999999).module := rfl
  have htrades := traded_ok 9999999 (9999999000000000000 : ℕ) (by decide +kernel) (by decide +kernel)
  have hissue := hooked_ok 9999999 (by decide +kernel)
  have hpaid : paid 9999999 = .ok ((paid 9999999).getD start.world) :=
    Outcome.eq_ok_getD _ (by decide +kernel)
  have hpays := issue_pays_value_iff hsync htrades (by decide)
    (by decide +kernel) (by decide +kernel) (by decide +kernel) (by decide +kernel) hissue rfl hpaid
  rw [hcontracts.1, hcontracts.2.1, hcontracts.2.2] at hpays
  obtain ⟨amount, hlog, hiff⟩ := hpays
  refine ⟨amount, hlog, hiff.mpr ⟨3333333, ?_⟩⟩
  rw [hcontracts.2.2]
  decide +kernel

end Sample

end PerpV2LeverageModuleV2

end SetProtocol
