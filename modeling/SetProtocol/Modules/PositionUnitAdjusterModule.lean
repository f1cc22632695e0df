import SetProtocol.Core.ModuleBase
import SetProtocol.Core.UnitRoundTrip

/-!
# Adjusting units to balances

`PositionUnitAdjusterModule` raises default units of the SetToken toward what its balances are worth.
The balances and units of all listed components are read before the first unit is written.
-/

namespace SetProtocol

open PreciseUnitMath ModuleBase

structure PositionUnitAdjusterModule where
  address : Address
  operators : List Address

namespace PositionUnitAdjusterModule

structure ComponentData where
  component : Address
  balance : ℕ
  currentRealUnit : ℤ
  calculatedRealUnit : ℤ

/-- The unit that the balance is worth, or the current unit when there are no Sets. -/
def calculateRealUnit (totalSupply balance : ℕ) (currentUnit : ℤ) : Outcome ℤ :=
  if 0 < totalSupply then do
    let unit ← preciseDiv balance totalSupply
    SafeCast.toInt256 unit
  else
    pure currentUnit

/-- The loop of `calculateDefaultPositionUnits`. -/
def calculateComponentData (w : World) (totalSupply : ℕ) (component : Address) :
    Outcome ComponentData := do
  require (component ≠ 0) "Invalid component"
  let currentUnit ← w.setToken.getDefaultPositionRealUnit component
  let calculatedUnit ← calculateRealUnit totalSupply (w.balance component) currentUnit
  pure ⟨component, w.balance component, currentUnit, calculatedUnit⟩

def calculateDefaultPositionUnits (w : World) (components : List Address) :
    Outcome (ℕ × List ComponentData) := do
  let totalSupply := w.setToken.totalSupply
  let componentData ← components.mapM (calculateComponentData w totalSupply)
  pure (totalSupply, componentData)

/-- A requested unit of zero stands for the calculated unit, which is not compared with the current
one. -/
def newRealUnit (data : ComponentData) (requestedRealUnit : ℤ) : Outcome ℤ := do
  require (0 ≤ requestedRealUnit) "Requested unit is less than 0"
  if requestedRealUnit = 0 then
    pure data.calculatedRealUnit
  else do
    require (data.currentRealUnit < requestedRealUnit)
      "Requested unit is less than or equal to current unit"
    require (requestedRealUnit ≤ data.calculatedRealUnit)
      "Requested unit is greater than calculated unit"
    pure requestedRealUnit

/-- The loop of `adjustDefaultPositionUnits`. -/
def adjustDefaultPositionUnit (m : PositionUnitAdjusterModule) (w : World)
    (request : ComponentData × ℤ) : Outcome World :=
  if request.1.currentRealUnit = request.1.calculatedRealUnit then
    pure w
  else do
    let realUnit ← newRealUnit request.1 request.2
    let unit ← SafeCast.toUint256 realUnit
    w.onSetToken fun s ↦
      Position.editDefaultPosition s w.controller m.address request.1.component unit

def adjustDefaultPositionUnits (m : PositionUnitAdjusterModule) (w : World) (env : Env)
    (components : List Address) (requestedUnits : List ℤ) : Outcome World := do
  validateOnlyManagerOrOperatorAndValidSet w m.address env.sender m.operators
  require (0 < components.length) "No components provided"
  require (requestedUnits.length = components.length) "Invalid requested units length"
  let (totalSupply, componentData) ← calculateDefaultPositionUnits w components
  require (0 < totalSupply) "Total supply is 0"
  (componentData.zip requestedUnits).foldlM m.adjustDefaultPositionUnit w

/-- The source calls this function `initialize`. -/
def initializeSetToken (m : PositionUnitAdjusterModule) (w : World) (env : Env) :
    Outcome World := do
  validateOnlyValidAndPendingSet w m.address
  validateOnlySetManager w env.sender
  w.onSetToken fun s ↦ s.initializeModule m.address

/-! ## The data that is read -/

variable {m : PositionUnitAdjusterModule} {w w' v v' : World} {env : Env}
  {component : Address} {data : ComponentData} {request : ComponentData × ℤ}

/-- The unit that the SetToken's balance of a component is worth. -/
def balanceUnit (w : World) (component : Address) : ℕ :=
  w.balance component * preciseUnit / w.setToken.totalSupply

/-- What is read about a component before the loop. -/
structure Snapshot (w : World) (data : ComponentData) : Prop where
  currentRealUnit : data.currentRealUnit = w.setToken.defaultRealUnit data.component
  calculatedRealUnit : data.calculatedRealUnit = balanceUnit w data.component

theorem calculateComponentData_ok (hsupply : 0 < w.setToken.totalSupply)
    (h : calculateComponentData w w.setToken.totalSupply component = .ok data) :
    data.component = component ∧ Snapshot w data := by
  simp only [calculateComponentData, calculateRealUnit, if_pos hsupply, Outcome.bind_eq_ok,
    SetToken.getDefaultPositionRealUnit_eq_ok, preciseDiv_eq_ok, SafeCast.toInt256_eq_ok,
    Outcome.pure_eq_ok] at h
  obtain ⟨_, -, _, ⟨-, rfl⟩, _, ⟨_, ⟨-, -, rfl⟩, -, rfl⟩, rfl⟩ := h
  exact ⟨rfl, rfl, rfl⟩

/-- A call that succeeds has read every listed component and nothing else, and then runs the loop. -/
theorem adjustDefaultPositionUnits_ok {components : List Address} {requestedUnits : List ℤ}
    (h : m.adjustDefaultPositionUnits w env components requestedUnits = .ok w') :
    ∃ requests : List (ComponentData × ℤ),
      (∀ request ∈ requests, Snapshot w request.1) ∧
      (∀ c, c ∈ components ↔ ∃ request ∈ requests, request.1.component = c) ∧
      requests.foldlM m.adjustDefaultPositionUnit w = .ok w' := by
  simp only [adjustDefaultPositionUnits, calculateDefaultPositionUnits, Outcome.bind_eq_ok,
    Outcome.pure_eq_ok, Outcome.require_eq_ok, Prod.exists, Prod.mk.injEq] at h
  obtain ⟨_, -, _, -, _, hlength, _, _, ⟨componentData, hread, rfl, rfl⟩, _, hsupply, hloop⟩ := h
  have hcomponents : componentData.map ComponentData.component = components := by
    have hkeys := Outcome.map_eq_of_mapM (k := id)
      (fun c d hd ↦ (calculateComponentData_ok hsupply hd).1) hread
    simpa using hkeys
  have hfst : (componentData.zip requestedUnits).map Prod.fst = componentData := by
    apply List.map_fst_zip
    rw [hlength, ← hcomponents, List.length_map]
  have hkeys : (componentData.zip requestedUnits).map (ComponentData.component ∘ Prod.fst) =
      components := by
    rw [← List.map_map, hfst, hcomponents]
  refine ⟨_, fun request hmem ↦ ?_, fun c ↦ ?_, hloop⟩
  · obtain ⟨c, -, hc⟩ := Outcome.exists_of_mem_mapM hread (List.of_mem_zip hmem).1
    exact (calculateComponentData_ok hsupply hc).2
  · rw [← hkeys, List.mem_map]
    rfl

/-! ## One adjustment -/

/-- The unit that an adjustment writes: the balance-based unit, or a requested one between the current
unit and it. -/
def Chosen (w : World) (component : Address) (unit : ℕ) : Prop :=
  unit = balanceUnit w component ∨
    w.setToken.defaultRealUnit component < unit ∧ unit ≤ balanceUnit w component

theorem newRealUnit_chosen {requested : ℤ} {unit : ℕ} (hdata : Snapshot w data)
    (h : newRealUnit data requested = .ok (unit : ℤ)) : Chosen w data.component unit := by
  unfold newRealUnit at h
  simp only [Outcome.bind_eq_ok, Outcome.require_eq_ok] at h
  obtain ⟨_, -, h⟩ := h
  unfold Chosen
  split_ifs at h with hzero
  · rw [Outcome.pure_eq_ok, hdata.calculatedRealUnit] at h
    exact Or.inl (by exact_mod_cast h.symm)
  · simp only [Outcome.bind_eq_ok, Outcome.require_eq_ok, Outcome.pure_eq_ok] at h
    obtain ⟨_, hlow, _, hhigh, rfl⟩ := h
    rw [hdata.currentRealUnit] at hlow
    rw [hdata.calculatedRealUnit] at hhigh
    exact Or.inr ⟨hlow, by exact_mod_cast hhigh⟩

/-- Nothing is written when the units agree.  Otherwise the component reads what comes back of the
chosen unit. -/
theorem adjustDefaultPositionUnit_ok (hm : 0 < w.setToken.positionMultiplier)
    (hrequest : Snapshot w request.1) (hv : w.setToken.SameFrame v.setToken)
    (h : m.adjustDefaultPositionUnit v request = .ok v') :
    w.setToken.SameFrame v'.setToken ∧
      (∀ c, c ≠ request.1.component →
        v'.setToken.defaultRealUnit c = v.setToken.defaultRealUnit c) ∧
      (∀ c p, v'.setToken.externalRealUnit c p = v.setToken.externalRealUnit c p) ∧
      (w.setToken.defaultRealUnit request.1.component = balanceUnit w request.1.component → v' = v) ∧
      (w.setToken.defaultRealUnit request.1.component ≠ balanceUnit w request.1.component →
        ∃ unit, Chosen w request.1.component unit ∧
          v'.setToken.defaultRealUnit request.1.component = w.setToken.readBack unit) := by
  unfold adjustDefaultPositionUnit at h
  rw [hrequest.currentRealUnit, hrequest.calculatedRealUnit] at h
  by_cases heq : w.setToken.defaultRealUnit request.1.component =
      balanceUnit w request.1.component
  · rw [if_pos heq] at h
    obtain rfl := Outcome.pure_eq_ok.mp h
    exact ⟨hv, fun _ _ ↦ rfl, fun _ _ ↦ rfl, fun _ ↦ rfl, fun hne ↦ absurd heq hne⟩
  · rw [if_neg heq] at h
    simp only [World.onSetToken, Outcome.bind_eq_ok, SafeCast.toUint256_eq_ok,
      Outcome.pure_eq_ok] at h
    obtain ⟨_, hchosen, unit, rfl, s, hs, rfl⟩ := h
    have hmv : 0 < v.setToken.positionMultiplier := hv.positionMultiplier ▸ hm
    obtain ⟨hread, hother, hexternal⟩ := Position.editDefaultPosition_readBack hmv hs
    rw [hv.readBack] at hread
    exact ⟨hv.trans (Position.editDefaultPosition_sameFrame hs), hother, hexternal,
      fun h ↦ absurd h heq, fun _ ↦ ⟨unit, newRealUnit_chosen hrequest hchosen, hread⟩⟩

/-! ## The whole call -/

/-- The documented range: the units of the listed components rise, up to what the balances are worth,
and no other unit changes. -/
structure InRange (w w' : World) (components : List Address) : Prop where
  listed : ∀ c ∈ components, w.setToken.defaultRealUnit c ≤ w'.setToken.defaultRealUnit c ∧
    w'.setToken.defaultRealUnit c ≤ balanceUnit w c
  unlisted : ∀ c, c ∉ components → w'.setToken.defaultRealUnit c = w.setToken.defaultRealUnit c
  external : ∀ c p, w'.setToken.externalRealUnit c p = w.setToken.externalRealUnit c p

section Loop

variable {requests : List (ComponentData × ℤ)} (hsnapshot : ∀ request ∈ requests, Snapshot w request.1)
  (hm : 0 < w.setToken.positionMultiplier)
  (h : requests.foldlM m.adjustDefaultPositionUnit w = .ok w')

include hsnapshot hm h

theorem adjustLoop_external (c p : Address) :
    w'.setToken.externalRealUnit c p = w.setToken.externalRealUnit c p := by
  apply (Outcome.foldlM_invariant_of_mem (P := fun v : World ↦ w.setToken.SameFrame v.setToken ∧
    v.setToken.externalRealUnit c p = w.setToken.externalRealUnit c p) ?_ h ⟨.refl _, rfl⟩).2
  intro v request hmem v' hstep ⟨hv, hread⟩
  obtain ⟨hframe, -, hexternal, -⟩ :=
    adjustDefaultPositionUnit_ok hm (hsnapshot request hmem) hv hstep
  exact ⟨hframe, (hexternal c p).trans hread⟩

/-- A component that no request names, or whose units agree, keeps its unit. -/
theorem adjustLoop_keeps {c : Address}
    (hc : ∀ request ∈ requests, request.1.component = c →
      w.setToken.defaultRealUnit c = balanceUnit w c) :
    w'.setToken.defaultRealUnit c = w.setToken.defaultRealUnit c := by
  apply (Outcome.foldlM_invariant_of_mem (P := fun v : World ↦ w.setToken.SameFrame v.setToken ∧
    v.setToken.defaultRealUnit c = w.setToken.defaultRealUnit c) ?_ h ⟨.refl _, rfl⟩).2
  intro v request hmem v' hstep ⟨hv, hread⟩
  obtain ⟨hframe, hother, -, hsame, -⟩ :=
    adjustDefaultPositionUnit_ok hm (hsnapshot request hmem) hv hstep
  refine ⟨hframe, ?_⟩
  by_cases hcomponent : request.1.component = c
  · rw [hsame (hcomponent ▸ hc request hmem hcomponent), hread]
  · rw [hother c (Ne.symm hcomponent), hread]

/-- The last request for a component decides its unit; the earlier ones leave no trace. -/
theorem adjustLoop_chosen {request : ComponentData × ℤ} (hmem : request ∈ requests)
    (hne : w.setToken.defaultRealUnit request.1.component ≠ balanceUnit w request.1.component) :
    ∃ unit, Chosen w request.1.component unit ∧
      w'.setToken.defaultRealUnit request.1.component = w.setToken.readBack unit := by
  apply Outcome.foldlM_establish (Q := fun v : World ↦ w.setToken.SameFrame v.setToken) hmem ?_ ?_ ?_
    h (.refl _)
  · intro v other hother v' hstep hv
    exact (adjustDefaultPositionUnit_ok hm (hsnapshot other hother) hv hstep).1
  · intro v v' hstep hv
    obtain ⟨-, -, -, -, hset⟩ :=
      adjustDefaultPositionUnit_ok hm (hsnapshot request hmem) hv hstep
    exact hset hne
  · intro v other hother v' hstep hv hchosen
    obtain ⟨-, hrest, -, -, hset⟩ :=
      adjustDefaultPositionUnit_ok hm (hsnapshot other hother) hv hstep
    by_cases hcomponent : request.1.component = other.1.component
    · rw [hcomponent] at hne ⊢
      exact hset hne
    · rw [hrest _ hcomponent]
      exact hchosen

end Loop

/-- A call keeps the units in the documented range exactly when no listed component has a unit above
what the balance is worth. -/
theorem adjustDefaultPositionUnits_inRange_iff {components : List Address}
    {requestedUnits : List ℤ} (hm : 0 < w.setToken.positionMultiplier)
    (hone : w.setToken.positionMultiplier ≤ preciseUnitInt)
    (h : m.adjustDefaultPositionUnits w env components requestedUnits = .ok w') :
    InRange w w' components ↔
      ∀ c ∈ components, w.setToken.defaultRealUnit c ≤ balanceUnit w c := by
  constructor
  · intro hrange c hc
    obtain ⟨hlow, hhigh⟩ := hrange.listed c hc
    exact hlow.trans hhigh
  · intro hle
    obtain ⟨requests, hsnapshot, hcomponents, hloop⟩ := adjustDefaultPositionUnits_ok h
    refine ⟨fun c hc ↦ ?_, fun c hc ↦ ?_, adjustLoop_external hsnapshot hm hloop⟩
    · by_cases heq : w.setToken.defaultRealUnit c = balanceUnit w c
      · rw [adjustLoop_keeps hsnapshot hm hloop fun _ _ _ ↦ heq]
        exact ⟨le_rfl, heq.le⟩
      · obtain ⟨request, hmem, rfl⟩ := (hcomponents c).mp hc
        obtain ⟨unit, hchosen, hread⟩ := adjustLoop_chosen hsnapshot hm hloop hmem heq
        have hlt := lt_of_le_of_ne (hle _ hc) heq
        have hback := SetToken.readBack_eq_or_eq_sub_one hm hone (unit : ℤ)
        rw [← hread] at hback
        rcases hchosen with rfl | hchosen <;> omega
    · apply adjustLoop_keeps hsnapshot hm hloop
      intro request hmem hcomponent
      exact absurd ((hcomponents c).mpr ⟨request, hmem, hcomponent⟩) hc

namespace Sample

/-- A hundred Sets with a unit of 100 of component 7 and 200 of component 8.  The SetToken holds
`balance` of component 7, half as much again of component 8 as it needs, and 500 of token 9. -/
def world (balance : ℕ) : World where
  controller := { Controller.enabling 4 [5] with isSet := fun a ↦ a == 6 }
  setToken := { SetToken.launched 6 [7, 8] [100, 200] [5] 2 9 (100 * 10 ^ 18) with
    positionMultiplier := 9 * 10 ^ 17 }
  chain := { tokens := fun a ↦
    ERC20.holding 18 [(6, if a = 7 then balance else if a = 8 then 30000 else 500)] 0 }
  log := []

/-- The operator asks for the balance-based unit of component 7, then for 250 and 240 of component 8,
and for the balance-based unit of token 9. -/
def adjusted (balance : ℕ) : Outcome World :=
  (PositionUnitAdjusterModule.mk 5 [11]).adjustDefaultPositionUnits (world balance)
    (Env.plain 11 0) [7, 8, 8, 9] [0, 250, 240, 0]

/-- With less than ninety for each Set, the unit of component 7 falls to what the balance is worth. -/
theorem adjusted_not_inRange :
    (world 8950).setToken.defaultRealUnit 7 = 90 ∧ (adjusted 8950).isOk = true ∧
      ((adjusted 8950).getD (world 0)).setToken.defaultRealUnit 7 = 88 ∧
      ¬ InRange (world 8950) ((adjusted 8950).getD (world 0)) [7, 8, 8, 9] := by
  refine ⟨by decide +kernel, by decide +kernel, by decide +kernel, fun hrange ↦ ?_⟩
  exact absurd (hrange.listed 7 (by simp)).1 (by decide +kernel)

theorem adjusted_inRange :
    (((adjusted 9500).getD (world 0)).setToken.components = [7, 8, 9]) ∧
      ((adjusted 9500).getD (world 0)).setToken.defaultRealUnit 8 = 239 ∧
      InRange (world 9500) ((adjusted 9500).getD (world 0)) [7, 8, 8, 9] := by
  have hadjusted : adjusted 9500 = .ok ((adjusted 9500).getD (world 0)) :=
    Outcome.eq_ok_getD (world 0) (by decide +kernel)
  have hbelow : ∀ c ∈ [(7 : Address), 8, 8, 9],
      (world 9500).setToken.defaultRealUnit c ≤ balanceUnit (world 9500) c := by
    simp only [List.forall_mem_cons]
    refine ⟨?_, ?_, ?_, ?_, fun c hc ↦ absurd hc List.not_mem_nil⟩ <;> decide +kernel
  refine ⟨by decide +kernel, by decide +kernel, ?_⟩
  exact (adjustDefaultPositionUnits_inRange_iff (by decide) (by decide) hadjusted).mpr hbelow

end Sample

end PositionUnitAdjusterModule

end SetProtocol
