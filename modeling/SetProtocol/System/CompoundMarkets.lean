import SetProtocol.Foundation.Trace
import SetProtocol.Modules.IssuanceHooks
import SetProtocol.System.Protocol

/-!
# The markets that a Set has entered on Compound

The manager enables assets as collateral and for borrowing.  The module lists their cTokens, keeps a
flag for each of them, and makes the SetToken enter a market for the first role of its cToken and exit
it after the last one.  Lists, flags and markets agree in every state that is reached, and the two
lists of borrowed assets stay parallel.
-/

namespace SetProtocol

open ModuleBase

/-! ## Entered markets -/

/-- The market that a call of the Comptroller enters (`true`) or exits (`false`). -/
def Invocation.market (comptroller : Address) (invocation : Invocation) : Option (Address × Bool) :=
  if invocation.target = comptroller then
    match invocation.callData with
    | .enterMarkets cToken => some (cToken, true)
    | .exitMarket cToken => some (cToken, false)
    | _ => none
  else
    none

/-- The markets that the SetToken is in after the calls of a log. -/
def enteredMarkets (comptroller : Address) (log : List Invocation) : Address → Bool :=
  (log.filterMap (Invocation.market comptroller)).foldl
    (fun entered change ↦ Function.update entered change.1 change.2) fun _ ↦ false

section Calls

variable {comptroller module cToken : Address} {log calls : List Invocation}
  {invocation : Invocation} {w w' : World} {env : Env} {F : Footprint} {reason : String}

theorem enteredMarkets_append_of_none (hcalls : ∀ i ∈ calls, i.market comptroller = none) :
    enteredMarkets comptroller (log ++ calls) = enteredMarkets comptroller log := by
  have hnone : calls.filterMap (Invocation.market comptroller) = [] :=
    List.filterMap_eq_nil_iff.mpr hcalls
  unfold enteredMarkets
  rw [List.filterMap_append, hnone, List.append_nil]

theorem enteredMarkets_concat_of_some {entered : Bool}
    (hmarket : invocation.market comptroller = some (cToken, entered)) :
    enteredMarkets comptroller (log ++ [invocation]) =
      Function.update (enteredMarkets comptroller log) cToken entered := by
  unfold enteredMarkets
  rw [List.filterMap_append, List.filterMap_cons_some hmarket, List.filterMap_nil,
    List.foldl_append, List.foldl_cons, List.foldl_nil]

/-- Edits that neither enter nor exit a market. -/
theorem World.Edits.enteredMarkets (h : World.Edits env F w w')
    (hcalls : ∀ i, F.calls i → i.market comptroller = none) :
    enteredMarkets comptroller w'.log = enteredMarkets comptroller w.log := by
  apply h.invariant (P := fun v : World ↦ SetProtocol.enteredMarkets comptroller v.log =
    SetProtocol.enteredMarkets comptroller w.log) ?_ rfl
  intro v v' hedit hv
  cases hedit with
  | invoke module invocation hcall hinvoke =>
    rw [(World.invoke_ok hinvoke).2.1, enteredMarkets_append_of_none, hv]
    intro i hi
    rw [List.mem_singleton.mp hi]
    exact hcalls invocation hcall
  | accrue cToken => exact hv
  | default module component unit hs => exact hv
  | external module component unit data howns hs => exact hv
  | unit module component unit hwrites hs => exact hv

theorem World.invokeChecked_log
    (h : w.invokeChecked env module invocation reason = .ok w') : w'.log = w.log ++ [invocation] := by
  simp only [World.invokeChecked, Outcome.bind_eq_ok, Outcome.pure_eq_ok] at h
  obtain ⟨v, hv, _, -, rfl⟩ := h
  exact (World.invoke_ok hv).2.1

/-- Anything but entering and exiting markets. -/
def Footprint.withoutMarkets (comptroller : Address) : Footprint :=
  ⟨fun i ↦ i.market comptroller = none, fun _ _ ↦ True, fun _ _ ↦ True⟩

end Calls

namespace CompoundLeverageModule

variable {m m' : CompoundLeverageModule} {w w' : World} {env : Env} {cToken : Address → Address}
  {a asset : Address} {assets : List Address}

def enteredMarkets (m : CompoundLeverageModule) (w : World) : Address → Bool :=
  SetProtocol.enteredMarkets m.comptroller w.log

theorem invokeEnterMarkets_enteredMarkets (h : m.invokeEnterMarkets w env a = .ok w') :
    m.enteredMarkets w' = Function.update (m.enteredMarkets w) a true := by
  unfold enteredMarkets
  rw [World.invokeChecked_log h]
  exact enteredMarkets_concat_of_some (by simp [Invocation.market])

theorem invokeExitMarket_enteredMarkets (h : m.invokeExitMarket w env a = .ok w') :
    m.enteredMarkets w' = Function.update (m.enteredMarkets w) a false := by
  unfold enteredMarkets
  rw [World.invokeChecked_log h]
  exact enteredMarkets_concat_of_some (by simp [Invocation.market])

/-- A market that is not entered again was entered for the other role. -/
theorem enterUnless_enteredMarkets {entered : Bool}
    (hentered : entered = true → m.enteredMarkets w a = true)
    (h : m.enterUnless w env a entered = .ok w') :
    m.enteredMarkets w' = Function.update (m.enteredMarkets w) a true := by
  unfold enterUnless at h
  split_ifs at h with hflag
  · obtain rfl := Outcome.pure_eq_ok.mp h
    rw [← hentered hflag, Function.update_eq_self]
  · exact invokeEnterMarkets_enteredMarkets h

theorem exitUnless_enteredMarkets {needed : Bool}
    (h : m.exitUnless w env a needed = .ok w') :
    m.enteredMarkets w' =
      if needed = true then m.enteredMarkets w
      else Function.update (m.enteredMarkets w) a false := by
  unfold exitUnless at h
  split_ifs at h ⊢
  · rw [Outcome.pure_eq_ok.mp h]
  · exact invokeExitMarket_enteredMarkets h

/-! ## Lists, flags and markets -/

/-- The two lists of borrowed assets are parallel, the flags of both roles enumerate their lists, and
the entered markets are those with a role. -/
structure Parallel (cToken : Address → Address) (m : CompoundLeverageModule) (w : World) :
    Prop where
  markets : m.underlyingToCToken = cToken
  aligned : m.borrowCTokens = m.borrowAssets.map cToken
  nodup : m.borrowAssets.Nodup
  exist : ∀ asset ∈ m.borrowAssets, cToken asset ≠ 0
  borrow : Lists m.borrowCTokens (m.borrowCTokenEnabled · = true)
  collateral : Lists m.collateralCTokens (m.collateralCTokenEnabled · = true)
  entered : ∀ a, m.enteredMarkets w a = true ↔
    m.collateralCTokenEnabled a = true ∨ m.borrowCTokenEnabled a = true

/-- Different assets have different markets. -/
def InjectiveMarkets (cToken : Address → Address) : Prop :=
  ∀ asset other, cToken asset ≠ 0 → cToken other = cToken asset → other = asset

theorem Parallel.of_entered (h : Parallel cToken m w)
    (hentered : m.enteredMarkets w' = m.enteredMarkets w) : Parallel cToken m w' := by
  refine ⟨h.markets, h.aligned, h.nodup, h.exist, h.borrow, h.collateral, ?_⟩
  intro a
  rw [hentered]
  exact h.entered a

theorem Parallel.of_edits (h : Parallel cToken m w)
    (hedits : World.Edits env (.withoutMarkets m.comptroller) w w') : Parallel cToken m w' :=
  h.of_entered (hedits.enteredMarkets fun _ hi ↦ hi)

/-- The position of an enabled asset is the position of its cToken. -/
theorem Parallel.mem_borrowAssets (h : Parallel cToken m w) (hinjective : InjectiveMarkets cToken)
    (henabled : m.borrowCTokenEnabled (cToken asset) = true) : asset ∈ m.borrowAssets := by
  have hlisted : cToken asset ∈ m.borrowAssets.map cToken :=
    h.aligned ▸ (h.borrow.mem_iff _).mpr henabled
  obtain ⟨other, hother, hsame⟩ := List.mem_map.mp hlisted
  rwa [hinjective other asset (h.exist other hother) hsame.symm]

section Roles

variable {entered role other : Address → Bool}

theorem update_true_iff (h : ∀ b, entered b = true ↔ role b = true ∨ other b = true)
    (a b : Address) : Function.update entered a true b = true ↔
      Function.update role a true b = true ∨ other b = true := by
  by_cases hb : b = a
  · simp [hb]
  · simp only [Function.update_of_ne hb]
    exact h b

theorem exit_iff (h : ∀ b, entered b = true ↔ role b = true ∨ other b = true) (a b : Address) :
    (if other a = true then entered else Function.update entered a false) b = true ↔
      Function.update role a false b = true ∨ other b = true := by
  by_cases hb : b = a
  · subst hb
    split_ifs with hother <;> simp [h, hother]
  · simp only [Function.update_of_ne hb]
    split_ifs
    · exact h b
    · rw [Function.update_of_ne hb]
      exact h b

theorem lists_concat {A : List Address} (h : Lists A (role · = true)) (ha : role a = false) :
    Lists (A ++ [a]) (Function.update role a true · = true) := by
  apply h.concat (ne_true_of_eq_false ha)
  intro b
  by_cases hb : b = a <;> simp [hb]

theorem lists_swapRemove {A : List Address} (h : Lists A (role · = true)) (ha : role a = true) :
    Lists (SwapRemove.swapRemove A a) (Function.update role a false · = true) := by
  apply h.swapRemove ha
  intro b
  by_cases hb : b = a <;> simp [hb]

end Roles

/-! ### One asset -/

theorem addCollateralAsset_parallel {state : CompoundLeverageModule × World}
    (h : addCollateralAsset env (m, w) asset = .ok state) (hm : Parallel cToken m w) :
    Parallel cToken state.1 state.2 := by
  simp only [addCollateralAsset, Outcome.bind_eq_ok, Outcome.require_eq_ok,
    Outcome.pure_eq_ok] at h
  obtain ⟨_, -, _, hnew, v, henter, rfl⟩ := h
  have hentered := enterUnless_enteredMarkets (fun hborrow ↦ (hm.entered _).mpr (.inr hborrow)) henter
  refine ⟨hm.markets, hm.aligned, hm.nodup, hm.exist, hm.borrow, lists_concat hm.collateral hnew, ?_⟩
  intro b
  change m.enteredMarkets v b = true ↔ _
  rw [hentered]
  exact update_true_iff hm.entered _ b

theorem removeCollateralAsset_parallel {state : CompoundLeverageModule × World}
    (h : removeCollateralAsset env (m, w) asset = .ok state) (hm : Parallel cToken m w) :
    Parallel cToken state.1 state.2 := by
  simp only [removeCollateralAsset, Outcome.bind_eq_ok, Outcome.require_eq_ok,
    AddressArrayUtils.removeStorage_eq_ok, Outcome.pure_eq_ok] at h
  obtain ⟨_, henabled, v, hexit, _, ⟨-, rfl⟩, rfl⟩ := h
  refine ⟨hm.markets, hm.aligned, hm.nodup, hm.exist, hm.borrow,
    lists_swapRemove hm.collateral henabled, ?_⟩
  intro b
  change m.enteredMarkets v b = true ↔ _
  rw [exitUnless_enteredMarkets hexit]
  exact exit_iff hm.entered _ b

theorem addBorrowAsset_parallel {state : CompoundLeverageModule × World}
    (h : addBorrowAsset env (m, w) asset = .ok state) (hm : Parallel cToken m w) :
    Parallel cToken state.1 state.2 := by
  simp only [addBorrowAsset, Outcome.bind_eq_ok, Outcome.require_eq_ok, Outcome.pure_eq_ok] at h
  obtain ⟨_, hexists, _, hnew, v, henter, rfl⟩ := h
  have hentered :=
    enterUnless_enteredMarkets (fun hcollateral ↦ (hm.entered _).mpr (.inl hcollateral)) henter
  rw [hm.markets] at hexists hnew
  have hnot : asset ∉ m.borrowAssets := by
    intro hmem
    have henabled : m.borrowCTokenEnabled (cToken asset) = true := by
      apply (hm.borrow.mem_iff _).mp
      rw [hm.aligned]
      exact List.mem_map_of_mem hmem
    rw [hnew] at henabled
    cases henabled
  refine ⟨hm.markets, ?_, ?_, ?_, ?_, hm.collateral, ?_⟩
  · simp [hm.aligned, hm.markets]
  · exact List.nodup_append_comm.mp (List.nodup_cons.mpr ⟨hnot, hm.nodup⟩)
  · intro other hother
    rcases List.mem_append.mp hother with hother | hother
    · exact hm.exist other hother
    · rwa [List.mem_singleton.mp hother]
  · exact lists_concat hm.borrow (by rwa [hm.markets])
  · intro b
    change m.enteredMarkets v b = true ↔ _
    rw [hentered, or_comm]
    exact update_true_iff (fun c ↦ (hm.entered c).trans or_comm) _ b

/-- Each list overwrites its own element with its own last one, at the same index. -/
theorem removeBorrowAsset_parallel {state : CompoundLeverageModule × World}
    (hinjective : InjectiveMarkets cToken)
    (h : removeBorrowAsset env (m, w) asset = .ok state) (hm : Parallel cToken m w) :
    Parallel cToken state.1 state.2 := by
  simp only [removeBorrowAsset, Outcome.bind_eq_ok, Outcome.require_eq_ok,
    AddressArrayUtils.removeStorage_eq_ok, Outcome.pure_eq_ok] at h
  obtain ⟨_, henabled, v, hexit, _, ⟨-, rfl⟩, _, ⟨hmem, rfl⟩, rfl⟩ := h
  refine ⟨hm.markets, ?_, SwapRemove.nodup_swapRemove hmem hm.nodup, ?_,
    lists_swapRemove hm.borrow henabled, hm.collateral, ?_⟩
  · change SwapRemove.swapRemove m.borrowCTokens (m.underlyingToCToken asset) = _
    rw [hm.markets, hm.aligned]
    exact SwapRemove.swapRemove_map fun other _ hsame ↦
      hinjective asset other (hm.exist asset hmem) hsame
  · intro other hother
    exact hm.exist other (SwapRemove.mem_of_mem_swapRemove hmem hother)
  · intro b
    change m.enteredMarkets v b = true ↔ _
    rw [exitUnless_enteredMarkets hexit, or_comm]
    exact exit_iff (fun c ↦ (hm.entered c).trans or_comm) _ b

/-! ### Functions of the manager -/

theorem sync_parallel {accrue : Bool} (h : m.sync w env accrue = .ok w')
    (hm : Parallel cToken m w) : Parallel cToken m w' :=
  hm.of_edits (sync_edits (fun _ _ ↦ trivial) h)

/-- A loop over assets whose passes keep lists, flags and markets in agreement. -/
theorem foldlM_parallel {step : CompoundLeverageModule × World → Address →
      Outcome (CompoundLeverageModule × World)}
    (hstep : ∀ m w asset state, step (m, w) asset = .ok state → Parallel cToken m w →
      Parallel cToken state.1 state.2)
    (h : assets.foldlM step (m, w) = .ok (m', w')) (hm : Parallel cToken m w) :
    Parallel cToken m' w' :=
  Outcome.foldlM_invariant
    (P := fun state : CompoundLeverageModule × World ↦ Parallel cToken state.1 state.2)
    (fun state a state' hs ↦ hstep state.1 state.2 a state' hs) h hm

theorem addCollateralAssets_parallel (h : m.addCollateralAssets w env assets = .ok (m', w'))
    (hm : Parallel cToken m w) : Parallel cToken m' w' := by
  simp only [addCollateralAssets, Outcome.bind_eq_ok] at h
  obtain ⟨_, -, hloop⟩ := h
  exact foldlM_parallel (fun _ _ _ _ ↦ addCollateralAsset_parallel) hloop hm

theorem addBorrowAssets_parallel (h : m.addBorrowAssets w env assets = .ok (m', w'))
    (hm : Parallel cToken m w) : Parallel cToken m' w' := by
  simp only [addBorrowAssets, Outcome.bind_eq_ok] at h
  obtain ⟨_, -, hloop⟩ := h
  exact foldlM_parallel (fun _ _ _ _ ↦ addBorrowAsset_parallel) hloop hm

theorem removeCollateralAssets_parallel (h : m.removeCollateralAssets w env assets = .ok (m', w'))
    (hm : Parallel cToken m w) : Parallel cToken m' w' := by
  simp only [removeCollateralAssets, Outcome.bind_eq_ok] at h
  obtain ⟨_, -, v, hsync, hloop⟩ := h
  exact foldlM_parallel (fun _ _ _ _ ↦ removeCollateralAsset_parallel) hloop (sync_parallel hsync hm)

theorem removeBorrowAssets_parallel (hinjective : InjectiveMarkets cToken)
    (h : m.removeBorrowAssets w env assets = .ok (m', w')) (hm : Parallel cToken m w) :
    Parallel cToken m' w' := by
  simp only [removeBorrowAssets, Outcome.bind_eq_ok] at h
  obtain ⟨_, -, v, hsync, hloop⟩ := h
  exact foldlM_parallel (fun _ _ _ _ ↦ removeBorrowAsset_parallel hinjective) hloop
    (sync_parallel hsync hm)

theorem initializeSetToken_parallel {table table' : IssuanceTable}
    {collateralAssets borrowAssets : List Address}
    (h : m.initializeSetToken table w env collateralAssets borrowAssets = .ok (m', table', w'))
    (hm : Parallel cToken m w) : Parallel cToken m' w' := by
  simp only [initializeSetToken, LeverageModule.initializeAndRegister, World.onSetToken,
    Outcome.bind_eq_ok, Outcome.pure_eq_ok, Prod.exists, Prod.mk.injEq] at h
  obtain ⟨_, -, _, -, _, -, _, _, ⟨_, ⟨s, -, rfl⟩, _, -, _, -, rfl, rfl⟩, n, u, hcollateral, k, x,
    hborrow, rfl, rfl, rfl⟩ := h
  have hjoined : Parallel cToken m { w with setToken := s } := hm.of_entered rfl
  exact addBorrowAssets_parallel hborrow (addCollateralAssets_parallel hcollateral hjoined)

/-! ### Leaving the Set -/

/-- The first loop of `removeModule` leaves the markets of the collateral. -/
theorem exitBorrowMarkets_entered {v : World} (hm : Parallel cToken m w)
    (h : m.borrowCTokens.foldlM (fun w a ↦ m.exitUnless w env a (m.collateralCTokenEnabled a)) w =
      .ok v) : ∀ a, m.enteredMarkets v a = true → m.collateralCTokenEnabled a = true := by
  -- a market that is entered after an exit was entered before
  have hshrink : ∀ x b x', m.exitUnless x env b (m.collateralCTokenEnabled b) = .ok x' →
      ∀ a, m.enteredMarkets x' a = true → m.enteredMarkets x a = true := by
    intro x b x' hexit a ha
    rw [exitUnless_enteredMarkets hexit] at ha
    split_ifs at ha
    · exact ha
    · by_cases hab : a = b
      · simp [hab] at ha
      · rwa [Function.update_of_ne hab] at ha
  intro a ha
  have hold : m.enteredMarkets w a = true :=
    Outcome.foldlM_invariant (P := fun x ↦ m.enteredMarkets x a = true → m.enteredMarkets w a = true)
      (fun x b x' hexit hx hx' ↦ hx (hshrink x b x' hexit a hx')) h id ha
  rcases (hm.entered a).mp hold with hcollateral | hborrow
  · exact hcollateral
  · refine Outcome.foldlM_establish (Q := fun _ ↦ True)
      (P := fun x ↦ m.enteredMarkets x a = true → m.collateralCTokenEnabled a = true)
      ((hm.borrow.mem_iff a).mpr hborrow) (fun _ _ _ _ _ _ ↦ trivial) ?_ ?_ h trivial ha
    · intro x x' hexit _ hx'
      rw [exitUnless_enteredMarkets hexit] at hx'
      split_ifs at hx' with hcollateral
      · exact hcollateral
      · simp at hx'
    · intro x b _ x' hexit _ hx hx'
      exact hx (hshrink x b x' hexit a hx')

/-- The second loop leaves no market. -/
theorem exitCollateralMarkets_entered {v : World} (hm : Parallel cToken m w) {u : World}
    (hentered : ∀ a, m.enteredMarkets u a = true → m.collateralCTokenEnabled a = true)
    (h : m.collateralCTokens.foldlM (fun w a ↦ m.invokeExitMarket w env a) u = .ok v) (a : Address) :
    m.enteredMarkets v a = false := by
  by_cases ha : m.collateralCTokenEnabled a = true
  · refine Outcome.foldlM_establish (Q := fun _ ↦ True)
      (P := fun x ↦ m.enteredMarkets x a = false)
      ((hm.collateral.mem_iff a).mpr ha) (fun _ _ _ _ _ _ ↦ trivial) ?_ ?_ h trivial
    · intro x x' hexit _
      rw [invokeExitMarket_enteredMarkets hexit, Function.update_self]
    · intro x b _ x' hexit _ hx
      rw [invokeExitMarket_enteredMarkets hexit, Function.update_apply, hx, ite_self]
  · have hstart : m.enteredMarkets u a = false := Bool.eq_false_of_not_eq_true (mt (hentered a) ha)
    refine Outcome.foldlM_invariant (P := fun x ↦ m.enteredMarkets x a = false) ?_ h hstart
    intro x b x' hexit hx
    rw [invokeExitMarket_enteredMarkets hexit, Function.update_apply, hx, ite_self]

theorem clear_borrowCTokenEnabled (h : Lists m.borrowCTokens (m.borrowCTokenEnabled · = true))
    (a : Address) : m.clear.borrowCTokenEnabled a = false := by
  by_cases ha : m.borrowCTokenEnabled a = true
  · simp [clear, (h.mem_iff a).mpr ha]
  · simp [clear, ha]

theorem clear_collateralCTokenEnabled
    (h : Lists m.collateralCTokens (m.collateralCTokenEnabled · = true)) (a : Address) :
    m.clear.collateralCTokenEnabled a = false := by
  by_cases ha : m.collateralCTokenEnabled a = true
  · simp [clear, (h.mem_iff a).mpr ha]
  · simp [clear, ha]

/-- The module leaves neither flags nor markets behind. -/
theorem removeModule_parallel {table table' : IssuanceTable}
    (h : m.removeModule table w env = .ok (m', table', w')) (hm : Parallel cToken m w) :
    Parallel cToken m' w' := by
  simp only [removeModule, Outcome.bind_eq_ok, Outcome.pure_eq_ok, Prod.mk.injEq] at h
  obtain ⟨_, -, v, hsync, u, hborrow, x, hcollateral, rfl, rfl, rfl⟩ := h
  have hv : Parallel cToken m v := sync_parallel hsync hm
  have hnone := exitCollateralMarkets_entered hv (exitBorrowMarkets_entered hv hborrow) hcollateral
  have hborrowFlags := clear_borrowCTokenEnabled hv.borrow
  have hcollateralFlags := clear_collateralCTokenEnabled hv.collateral
  refine ⟨hm.markets, rfl, List.nodup_nil, by simp [clear], ?_, ?_, ?_⟩
  · exact .nil fun a ↦ by simp [hborrowFlags a]
  · exact .nil fun a ↦ by simp [hcollateralFlags a]
  · intro a
    change m.enteredMarkets x a = true ↔ _
    rw [hnone a, hborrowFlags a, hcollateralFlags a, or_self]

end CompoundLeverageModule

/-! ## Runs -/

/-- What the manager does to the enabled assets.  In between, everything else of the Set changes in any
way; nobody else makes the SetToken enter or exit markets. -/
inductive MarketAction where
  | initializeCompound (env : Env) (collateralAssets borrowAssets : List Address)
  | addCollateralAssets (env : Env) (assets : List Address)
  | removeCollateralAssets (env : Env) (assets : List Address)
  | addBorrowAssets (env : Env) (assets : List Address)
  | removeBorrowAssets (env : Env) (assets : List Address)
  | removeModule (env : Env) (module : Address)
  | elsewhere (next : Protocol) (calls : List Invocation)

namespace Protocol

variable {P Q : Protocol} {action : MarketAction} {cToken : Address → Address} {env : Env}
  {module : Address}

/-- Run a part of a transaction that changes the world and the Compound module. -/
def onCompound (P : Protocol) (result : Outcome (CompoundLeverageModule × World)) :
    Outcome Protocol := do
  let (compound, w) ← result
  pure { P with compound := compound, world := w }

/-- Replace all but the enabled assets and the contracts of Compound, after further calls. -/
def setBeyondMarkets (P next : Protocol) (calls : List Invocation) : Protocol :=
  { next with
    compound := { P.compound with
      allowedSetToken := next.compound.allowedSetToken
      anySetAllowed := next.compound.anySetAllowed }
    world := { next.world with log := P.world.log ++ calls } }

def performMarket (P : Protocol) : MarketAction → Outcome Protocol
  | .initializeCompound env collateralAssets borrowAssets => do
    let (compound, issuance, w) ←
      P.compound.initializeSetToken P.issuance P.world env collateralAssets borrowAssets
    pure { P with compound := compound, issuance := issuance, world := w }
  | .addCollateralAssets env assets =>
    P.onCompound (P.compound.addCollateralAssets P.world env assets)
  | .removeCollateralAssets env assets =>
    P.onCompound (P.compound.removeCollateralAssets P.world env assets)
  | .addBorrowAssets env assets => P.onCompound (P.compound.addBorrowAssets P.world env assets)
  | .removeBorrowAssets env assets =>
    P.onCompound (P.compound.removeBorrowAssets P.world env assets)
  | .removeModule env module => P.removeModule env module
  | .elsewhere next calls => do
    require (∀ i ∈ calls, i.market P.compound.comptroller = none) "a call by CompoundLeverageModule"
    pure (P.setBeyondMarkets next calls)

/-- The enabled assets of the Set on Compound are in order. -/
def MarketsParallel (cToken : Address → Address) (P : Protocol) : Prop :=
  P.compound.Parallel cToken P.world

/-- A Set that never used Compound. -/
structure WithoutMarkets (P : Protocol) : Prop where
  borrowAssets : P.compound.borrowAssets = []
  borrowCTokens : P.compound.borrowCTokens = []
  collateralCTokens : P.compound.collateralCTokens = []
  borrowFlags : ∀ a, P.compound.borrowCTokenEnabled a = false
  collateralFlags : ∀ a, P.compound.collateralCTokenEnabled a = false
  entered : ∀ a, P.compound.enteredMarkets P.world a = false

theorem WithoutMarkets.marketsParallel (h : P.WithoutMarkets) :
    P.MarketsParallel P.compound.underlyingToCToken := by
  refine ⟨rfl, ?_, ?_, ?_, ?_, ?_, ?_⟩
  · rw [h.borrowCTokens, h.borrowAssets, List.map_nil]
  · rw [h.borrowAssets]
    exact List.nodup_nil
  · simp [h.borrowAssets]
  · rw [h.borrowCTokens]
    exact .nil fun a ↦ by simp [h.borrowFlags a]
  · rw [h.collateralCTokens]
    exact .nil fun a ↦ by simp [h.collateralFlags a]
  · intro a
    rw [h.entered a, h.borrowFlags a, h.collateralFlags a, or_self]

/-! ### One step -/

theorem onCompound_marketsParallel {result : Outcome (CompoundLeverageModule × World)}
    (hresult : ∀ m w, result = .ok (m, w) → m.Parallel cToken w)
    (h : P.onCompound result = .ok Q) : Q.MarketsParallel cToken := by
  simp only [onCompound, Outcome.bind_eq_ok, Outcome.pure_eq_ok, Prod.exists] at h
  obtain ⟨m, w, hok, rfl⟩ := h
  exact hresult m w hok

/-- Aave's module makes no call of the Comptroller. -/
theorem aave_removeModule_edits {m m' : AaveLeverageModule} {table table' : IssuanceTable}
    {w w' : World} (comptroller : Address)
    (h : m.removeModule table w env = .ok (m', table', w')) :
    World.Edits env (.withoutMarkets comptroller) w w' := by
  simp only [AaveLeverageModule.removeModule, Outcome.bind_eq_ok, Outcome.pure_eq_ok,
    Prod.mk.injEq] at h
  obtain ⟨_, -, v, hsync, _, -, u, hloop, -, -, rfl⟩ := h
  apply (AaveLeverageModule.sync_edits (fun _ _ ↦ trivial) hsync).trans
  apply World.Edits.foldlM ?_ hloop
  intro x asset _ x' hstep
  unfold AaveLeverageModule.updateUseReserveAsCollateral at hstep
  split_ifs at hstep
  · apply World.Calls.edits
    apply World.invoke_calls ?_ hstep
    change Invocation.market comptroller _ = none
    simp [Invocation.market]
  · obtain rfl := Outcome.pure_eq_ok.mp hstep
    exact .refl x

theorem removeModuleCallback_marketsParallel (h : P.removeModuleCallback env module = .ok Q)
    (hP : P.MarketsParallel cToken) : Q.MarketsParallel cToken := by
  unfold removeModuleCallback at h
  split at h
  · simp only [Outcome.bind_eq_ok, Outcome.pure_eq_ok] at h
    obtain ⟨_, -, rfl⟩ := h
    exact hP
  · split_ifs at h
    · simp only [Outcome.bind_eq_ok, Outcome.pure_eq_ok, Prod.exists] at h
      obtain ⟨aave, issuance, w, hcall, rfl⟩ := h
      exact CompoundLeverageModule.Parallel.of_edits hP (aave_removeModule_edits _ hcall)
    · simp only [Outcome.bind_eq_ok, Outcome.pure_eq_ok, Prod.exists] at h
      obtain ⟨compound, issuance, w, hcall, rfl⟩ := h
      exact CompoundLeverageModule.removeModule_parallel hcall hP
    · simp only [Outcome.bind_eq_ok, Outcome.pure_eq_ok, Prod.exists] at h
      obtain ⟨perp, issuance, -, rfl⟩ := h
      exact hP
    · simp only [Outcome.bind_eq_ok, Outcome.pure_eq_ok] at h
      obtain ⟨_, -, rfl⟩ := h
      exact hP
    · obtain rfl := Outcome.pure_eq_ok.mp h
      exact hP

theorem removeModule_marketsParallel (h : P.removeModule env module = .ok Q)
    (hP : P.MarketsParallel cToken) : Q.MarketsParallel cToken := by
  simp only [removeModule, onWorld, World.onSetToken, Outcome.bind_eq_ok, Outcome.pure_eq_ok] at h
  obtain ⟨_, -, P₁, hcallback, _, ⟨s, -, rfl⟩, rfl⟩ := h
  have hP₁ := removeModuleCallback_marketsParallel hcallback hP
  exact CompoundLeverageModule.Parallel.of_entered hP₁ rfl

theorem step_marketsParallel (hinjective : CompoundLeverageModule.InjectiveMarkets cToken)
    (hstep : P.performMarket action = .ok Q) (hP : P.MarketsParallel cToken) :
    Q.MarketsParallel cToken := by
  cases action with
  | initializeCompound env collateralAssets borrowAssets =>
    simp only [performMarket, Outcome.bind_eq_ok, Outcome.pure_eq_ok, Prod.exists] at hstep
    obtain ⟨compound, issuance, w, hcall, rfl⟩ := hstep
    exact CompoundLeverageModule.initializeSetToken_parallel hcall hP
  | addCollateralAssets env assets =>
    exact onCompound_marketsParallel
      (fun _ _ hok ↦ CompoundLeverageModule.addCollateralAssets_parallel hok hP) hstep
  | removeCollateralAssets env assets =>
    exact onCompound_marketsParallel
      (fun _ _ hok ↦ CompoundLeverageModule.removeCollateralAssets_parallel hok hP) hstep
  | addBorrowAssets env assets =>
    exact onCompound_marketsParallel
      (fun _ _ hok ↦ CompoundLeverageModule.addBorrowAssets_parallel hok hP) hstep
  | removeBorrowAssets env assets =>
    exact onCompound_marketsParallel
      (fun _ _ hok ↦ CompoundLeverageModule.removeBorrowAssets_parallel hinjective hok hP) hstep
  | removeModule env module => exact removeModule_marketsParallel hstep hP
  | elsewhere next calls =>
    simp only [performMarket, Outcome.bind_eq_ok, Outcome.require_eq_ok, Outcome.pure_eq_ok] at hstep
    obtain ⟨_, hcalls, rfl⟩ := hstep
    refine ⟨hP.markets, hP.aligned, hP.nodup, hP.exist, hP.borrow, hP.collateral, ?_⟩
    intro a
    have hsame : (P.setBeyondMarkets next calls).compound.enteredMarkets
        (P.setBeyondMarkets next calls).world = P.compound.enteredMarkets P.world :=
      enteredMarkets_append_of_none hcalls
    rw [hsame]
    exact hP.entered a

/-! ### Whole runs -/

/-- Lists, flags and markets agree in every state of a run, as long as different assets have different
markets. -/
theorem run_marketsParallel {trace : List (Protocol × MarketAction)}
    (h : Trace performMarket P trace Q) (hP : P.WithoutMarkets)
    (hinjective : CompoundLeverageModule.InjectiveMarkets P.compound.underlyingToCToken) :
    (∀ entry ∈ trace, entry.1.MarketsParallel P.compound.underlyingToCToken) ∧
      Q.MarketsParallel P.compound.underlyingToCToken :=
  h.invariant (I := MarketsParallel P.compound.underlyingToCToken)
    (fun _ _ _ hstep ↦ step_marketsParallel hinjective hstep) hP.marketsParallel

namespace MarketSample

/-- The manager 2 sends a transaction; every call of the Comptroller succeeds. -/
def managerEnv : Env :=
  { Env.plain 2 0 with
    integrationAdapter := fun _ _ ↦ 20
    call := fun _ chain ↦ .ok chain
    returnData := fun _ _ ↦ [0] }

/-- A Set with the issuance module 20 and the pending Compound module 32.  The assets 51 and 52 have
the markets 61 and 62. -/
def start : Protocol :=
  let created := SetToken.new 6 [45] [10] [20, 32] 2
  let empty := Protocol.idle {
    controller := { Controller.enabling 4 [20, 32] with isSet := fun a ↦ a == 6 }
    setToken := (created.initializeModule 20).getD created
    chain := { tokens := fun _ ↦ ERC20.empty 18 }
    log := [] }
  { empty with
    issuance := fun a ↦ if a = 20 then some .empty else none
    compound := { empty.compound with
      underlyingToCToken := fun a ↦ if a = 51 then 61 else if a = 52 then 62 else 0 } }

theorem start_withoutMarkets : start.WithoutMarkets :=
  ⟨rfl, rfl, rfl, fun _ ↦ rfl, fun _ ↦ rfl, fun _ ↦ rfl⟩

theorem start_injectiveMarkets :
    CompoundLeverageModule.InjectiveMarkets start.compound.underlyingToCToken := by
  intro asset other hexists hsame
  change (if asset = 51 then (61 : Address) else if asset = 52 then 62 else 0) ≠ 0 at hexists
  change (if other = 51 then (61 : Address) else if other = 52 then 62 else 0) =
    if asset = 51 then 61 else if asset = 52 then 62 else 0 at hsame
  split_ifs at hexists hsame with hasset hother
  all_goals first | contradiction | simp_all

def joining : MarketAction := .initializeCompound managerEnv [51] [52]

def joined : Protocol := (start.performMarket joining).getD start

/-- The collateral is enabled for borrowing as well. -/
def borrowing : MarketAction := .addBorrowAssets managerEnv [51]

def borrowed : Protocol := (joined.performMarket borrowing).getD start

def repaying : MarketAction := .removeBorrowAssets managerEnv [52]

def repaid : Protocol := (borrowed.performMarket repaying).getD start

def leaving : MarketAction := .removeModule managerEnv 32

def left : Protocol := (repaid.performMarket leaving).getD start

/-- The two lists of borrowed assets lose their first elements, and their last ones move up. -/
theorem repaid_marketsParallel :
    borrowed.compound.borrowAssets = [52, 51] ∧ repaid.compound.borrowAssets = [51] ∧
      left.compound.borrowAssets = [] ∧
      repaid.MarketsParallel start.compound.underlyingToCToken ∧
      left.MarketsParallel start.compound.underlyingToCToken := by
  have hjoin : start.performMarket joining = .ok joined :=
    Outcome.eq_ok_getD start (by decide +kernel)
  have hborrow : joined.performMarket borrowing = .ok borrowed :=
    Outcome.eq_ok_getD start (by decide +kernel)
  have hrepay : borrowed.performMarket repaying = .ok repaid :=
    Outcome.eq_ok_getD start (by decide +kernel)
  have hleave : repaid.performMarket leaving = .ok left :=
    Outcome.eq_ok_getD start (by decide +kernel)
  have hrun : Trace performMarket start [(start, joining), (joined, borrowing),
      (borrowed, repaying), (repaid, leaving)] left :=
    .cons hjoin (.cons hborrow (.cons hrepay (.cons hleave (.nil left))))
  obtain ⟨hstates, hlast⟩ := run_marketsParallel hrun start_withoutMarkets start_injectiveMarkets
  refine ⟨by decide +kernel, by decide +kernel, by decide +kernel, ?_, hlast⟩
  exact hstates (repaid, leaving) (by simp)

end MarketSample

end Protocol

end SetProtocol
