import SetProtocol.Core.ModuleBase

/-!
# What modules do to the SetToken

Whatever a module does while its hooks or its manager's functions run comes down to a few kinds of
edits: the SetToken calls a contract, a lending market accrues interest, a default position is edited,
an external position is edited through the `Position` library, or the unit of an external position is
written directly.  A footprint bounds what an action may do; facts about a whole action follow from
facts about single edits within its footprint.
-/

namespace SetProtocol

open ModuleBase

/-- The calls that an action may make, the external positions that it may edit through the library,
and those whose unit it may write directly, by module and component. -/
structure Footprint where
  calls : Invocation → Prop
  owns : Address → Address → Prop
  writes : Address → Address → Prop

/-- No bound at all. -/
def Footprint.any : Footprint := ⟨fun _ ↦ True, fun _ _ ↦ True, fun _ _ ↦ True⟩

namespace World

variable {F : Footprint} {w w' : World} {env : Env} {amount : ℕ}
  {module token component recipient spender : Address}

/-- One edit within a footprint. -/
inductive Edit (env : Env) (F : Footprint) (w : World) : World → Prop where
  | invoke {w' : World} (module : Address) (invocation : Invocation) (hcalls : F.calls invocation)
      (h : w.invoke env module invocation = .ok w') : Edit env F w w'
  | accrue (cToken : Address) :
      Edit env F w { w with chain := env.accrueInterest cToken w.chain }
  | default (module component : Address) (unit : ℕ) {s : SetToken}
      (h : Position.editDefaultPosition w.setToken w.controller module component unit = .ok s) :
      Edit env F w { w with setToken := s }
  | external (module component : Address) (unit : ℤ) (data : List UInt8) {s : SetToken}
      (howns : F.owns module component)
      (h : Position.editExternalPosition w.setToken w.controller module component module unit data =
        .ok s) : Edit env F w { w with setToken := s }
  | unit (module component : Address) (unit : ℤ) {s : SetToken}
      (hwrites : F.writes module component)
      (h : w.setToken.editExternalPositionUnit w.controller module component module unit = .ok s) :
      Edit env F w { w with setToken := s }

/-- Any number of edits. -/
def Edits (env : Env) (F : Footprint) : World → World → Prop :=
  Relation.ReflTransGen (Edit env F)

namespace Edits

theorem refl (w : World) : Edits env F w w :=
  Relation.ReflTransGen.refl

theorem trans {w₁ w₂ w₃ : World} (h : Edits env F w₁ w₂) (h' : Edits env F w₂ w₃) :
    Edits env F w₁ w₃ :=
  Relation.ReflTransGen.trans h h'

/-- What every edit preserves is preserved by any number of them. -/
theorem invariant {P : World → Prop} (h : Edits env F w w')
    (hedit : ∀ v v', Edit env F v v' → P v → P v') (hw : P w) : P w' := by
  unfold Edits at h
  induction h with
  | refl => exact hw
  | tail _ hstep ih => exact hedit _ _ hstep ih

/-- A loop whose passes are edits. -/
theorem foldlM {α : Type} {step : World → α → Outcome World} {as : List α}
    (hstep : ∀ v, ∀ a ∈ as, ∀ v', step v a = .ok v' → Edits env F v v')
    (h : as.foldlM step w = .ok w') : Edits env F w w' :=
  Outcome.foldlM_invariant_of_mem (P := Edits env F w)
    (fun v a ha v' hv hvs ↦ hvs.trans (hstep v a ha v' hv)) h (.refl w)

end Edits

/-! ## The calls of the SetToken -/

/-- Any number of calls, each of them one of `calls`. -/
def Calls (env : Env) (calls : Invocation → Prop) : World → World → Prop :=
  Relation.ReflTransGen fun w w' ↦ ∃ module invocation, calls invocation ∧
    w.invoke env module invocation = .ok w'

namespace Calls

variable {calls : Invocation → Prop}

theorem refl (w : World) : Calls env calls w w :=
  Relation.ReflTransGen.refl

theorem trans {w₁ w₂ w₃ : World} (h : Calls env calls w₁ w₂) (h' : Calls env calls w₂ w₃) :
    Calls env calls w₁ w₃ :=
  Relation.ReflTransGen.trans h h'

theorem invariant {P : World → Prop} (h : Calls env calls w w')
    (hcall : ∀ v v' module invocation, calls invocation →
      v.invoke env module invocation = .ok v' → P v → P v') (hw : P w) : P w' := by
  unfold Calls at h
  induction h with
  | refl => exact hw
  | tail _ hstep ih =>
    obtain ⟨module, invocation, hcalls, hstep⟩ := hstep
    exact hcall _ _ module invocation hcalls hstep ih

theorem foldlM {α : Type} {step : World → α → Outcome World} {as : List α}
    (hstep : ∀ v, ∀ a ∈ as, ∀ v', step v a = .ok v' → Calls env calls v v')
    (h : as.foldlM step w = .ok w') : Calls env calls w w' :=
  Outcome.foldlM_invariant_of_mem (P := Calls env calls w)
    (fun v a ha v' hv hvs ↦ hvs.trans (hstep v a ha v' hv)) h (.refl w)

theorem edits (h : Calls env F.calls w w') : Edits env F w w' :=
  h.invariant (P := Edits env F w)
    (fun _ _ module invocation hcalls hstep hedits ↦
      hedits.tail (.invoke module invocation hcalls hstep)) (.refl w)

theorem mono {calls' : Invocation → Prop} (h : Calls env calls w w')
    (hcalls : ∀ i, calls i → calls' i) : Calls env calls' w w' :=
  h.invariant (P := Calls env calls' w)
    (fun _ _ module invocation hi hstep hs ↦ hs.tail ⟨module, invocation, hcalls _ hi, hstep⟩)
    (.refl w)

theorem of_pure (h : (pure w : Outcome World) = .ok w') : Calls env calls w w' := by
  obtain rfl := Outcome.pure_eq_ok.mp h
  exact .refl w

end Calls

variable {calls : Invocation → Prop}

theorem invoke_calls {invocation : Invocation} (hcalls : calls invocation)
    (h : w.invoke env module invocation = .ok w') : Calls env calls w w' :=
  Relation.ReflTransGen.single ⟨module, invocation, hcalls, h⟩

theorem invokeChecked_calls {invocation : Invocation} {reason : String}
    (hcalls : calls invocation)
    (h : w.invokeChecked env module invocation reason = .ok w') : Calls env calls w w' := by
  simp only [invokeChecked, Outcome.bind_eq_ok, Outcome.pure_eq_ok] at h
  obtain ⟨v, hv, _, -, rfl⟩ := h
  exact invoke_calls hcalls hv

theorem strictInvokeTransfer_calls (hcalls : calls ⟨token, 0, .transfer recipient amount⟩)
    (h : w.strictInvokeTransfer env module token recipient amount = .ok w') :
    Calls env calls w w' := by
  unfold strictInvokeTransfer invokeTransfer at h
  split_ifs at h with hpos
  · simp only [Outcome.bind_eq_ok, Outcome.pure_eq_ok] at h
    obtain ⟨v, hv, _, -, _, -, rfl⟩ := h
    exact invoke_calls hcalls hv
  · exact .of_pure h

theorem payProtocolFeeFromSetToken_calls
    (hcalls : calls ⟨token, 0, .transfer w.controller.feeRecipient amount⟩)
    (h : payProtocolFeeFromSetToken w env module token amount = .ok w') :
    Calls env calls w w' := by
  unfold payProtocolFeeFromSetToken at h
  split_ifs at h
  · exact strictInvokeTransfer_calls hcalls h
  · exact .of_pure h

/-! ## The edits of positions -/

theorem editDefaultPosition_edits {unit : ℕ}
    (h : (w.onSetToken fun s ↦
      Position.editDefaultPosition s w.controller module component unit) = .ok w') :
    Edits env F w w' := by
  simp only [onSetToken, Outcome.bind_eq_ok, Outcome.pure_eq_ok] at h
  obtain ⟨s, hs, rfl⟩ := h
  exact Relation.ReflTransGen.single (.default module component unit hs)

theorem calculateAndEditDefaultPosition_edits {supply previous : ℕ} {result : ℕ × ℕ × ℕ}
    (h : calculateAndEditDefaultPosition w module component supply previous = .ok (w', result)) :
    Edits env F w w' := by
  simp only [calculateAndEditDefaultPosition, Position.calculateAndEditDefaultPosition,
    Outcome.bind_eq_ok, Outcome.pure_eq_ok, Prod.exists, Prod.mk.injEq] at h
  obtain ⟨s, _, _, _, ⟨_, -, _, -, unit, -, _, hs, rfl, rfl, rfl, rfl⟩, rfl, rfl⟩ := h
  exact Relation.ReflTransGen.single (.default module component unit hs)

theorem editExternalPosition_edits {unit : ℤ} {data : List UInt8}
    (howns : F.owns module component)
    (h : (w.onSetToken fun s ↦
      Position.editExternalPosition s w.controller module component module unit data) = .ok w') :
    Edits env F w w' := by
  simp only [onSetToken, Outcome.bind_eq_ok, Outcome.pure_eq_ok] at h
  obtain ⟨s, hs, rfl⟩ := h
  exact Relation.ReflTransGen.single (.external module component unit data howns hs)

theorem editExternalPositionUnit_edits {unit : ℤ} (hwrites : F.writes module component)
    (h : (w.onSetToken fun s ↦
      s.editExternalPositionUnit w.controller module component module unit) = .ok w') :
    Edits env F w w' := by
  simp only [onSetToken, Outcome.bind_eq_ok, Outcome.pure_eq_ok] at h
  obtain ⟨s, hs, rfl⟩ := h
  exact Relation.ReflTransGen.single (.unit module component unit hwrites hs)

/-! ## What edits leave alone -/

/-- Everything of the Set but its balances and its positions. -/
structure SameStatus (w w' : World) : Prop where
  controller : w'.controller = w.controller
  address : w'.setToken.address = w.setToken.address
  totalSupply : w'.setToken.totalSupply = w.setToken.totalSupply
  manager : w'.setToken.manager = w.setToken.manager
  locker : w'.setToken.locker = w.setToken.locker
  modules : w'.setToken.modules = w.setToken.modules
  moduleStates : w'.setToken.moduleStates = w.setToken.moduleStates
  isLocked : w'.setToken.isLocked = w.setToken.isLocked
  positionMultiplier : w'.setToken.positionMultiplier = w.setToken.positionMultiplier

theorem SameStatus.refl (w : World) : w.SameStatus w :=
  ⟨rfl, rfl, rfl, rfl, rfl, rfl, rfl, rfl, rfl⟩

theorem SameStatus.trans {w₁ w₂ w₃ : World} (h : w₁.SameStatus w₂) (h' : w₂.SameStatus w₃) :
    w₁.SameStatus w₃ where
  controller := h'.controller.trans h.controller
  address := h'.address.trans h.address
  totalSupply := h'.totalSupply.trans h.totalSupply
  manager := h'.manager.trans h.manager
  locker := h'.locker.trans h.locker
  modules := h'.modules.trans h.modules
  moduleStates := h'.moduleStates.trans h.moduleStates
  isLocked := h'.isLocked.trans h.isLocked
  positionMultiplier := h'.positionMultiplier.trans h.positionMultiplier

theorem SameStatus.of_sameFrame {s : SetToken} (h : w.setToken.SameFrame s) :
    w.SameStatus { w with setToken := s } where
  controller := rfl
  address := h.address
  totalSupply := congrArg ERC20.totalSupply h.erc20
  manager := h.manager
  locker := h.locker
  modules := h.modules
  moduleStates := h.moduleStates
  isLocked := h.isLocked
  positionMultiplier := h.positionMultiplier

/-- Balances may differ, but not the supply, nor anything else of the Set. -/
structure Steady (w v : World) : Prop where
  controller : v.controller = w.controller
  setToken : ∃ t : ERC20, v.setToken = w.setToken.setErc20 t ∧
    t.totalSupply = w.setToken.totalSupply

namespace Steady

variable {v : World}

theorem refl (w : World) : w.Steady w :=
  ⟨rfl, _, rfl, rfl⟩

theorem trans {w₁ w₂ w₃ : World} (h : w₁.Steady w₂) (h' : w₂.Steady w₃) : w₁.Steady w₃ := by
  obtain ⟨t, ht, hsupply⟩ := h.setToken
  obtain ⟨t', ht', hsupply'⟩ := h'.setToken
  refine ⟨h'.controller.trans h.controller, t', ?_, ?_⟩
  · rw [ht', ht]
    rfl
  · rw [hsupply', ht, SetToken.setErc20_totalSupply, hsupply]

theorem of_move (h : w.MoveStep v token) : w.Steady v :=
  ⟨h.controller, h.setToken⟩

theorem address (h : w.Steady v) : v.setToken.address = w.setToken.address := by
  obtain ⟨t, ht, -⟩ := h.setToken
  rw [ht, SetToken.setErc20_address]

theorem totalSupply (h : w.Steady v) : v.setToken.totalSupply = w.setToken.totalSupply := by
  obtain ⟨t, ht, hsupply⟩ := h.setToken
  rw [ht, SetToken.setErc20_totalSupply, hsupply]

theorem defaultRealUnit (h : w.Steady v) (c : Address) :
    v.setToken.defaultRealUnit c = w.setToken.defaultRealUnit c := by
  obtain ⟨t, ht, -⟩ := h.setToken
  rw [ht, SetToken.setErc20_defaultRealUnit]

theorem externalRealUnit (h : w.Steady v) (c p : Address) :
    v.setToken.externalRealUnit c p = w.setToken.externalRealUnit c p := by
  obtain ⟨t, ht, -⟩ := h.setToken
  rw [ht]
  rfl

theorem externalPositionModules (h : w.Steady v) (c : Address) :
    v.setToken.externalPositionModules c = w.setToken.externalPositionModules c := by
  obtain ⟨t, ht, -⟩ := h.setToken
  rw [ht]
  rfl

theorem sameStatus (h : w.Steady v) : w.SameStatus v := by
  obtain ⟨t, ht, -⟩ := h.setToken
  refine ⟨h.controller, h.address, h.totalSupply, ?_, ?_, ?_, ?_, ?_, ?_⟩
  all_goals rw [ht]; rfl

end Steady

theorem execute_totalSupply {invocation : Invocation} (h : w.execute env invocation = .ok w') :
    w'.setToken.totalSupply = w.setToken.totalSupply := by
  unfold execute at h
  split at h
  case h_1 => exact (approve_moveStep h).1.totalSupply
  case h_2 => exact (transfer_moveStep h).totalSupply
  case h_3 =>
    simp only [Outcome.bind_eq_ok, Outcome.pure_eq_ok] at h
    obtain ⟨chain, -, rfl⟩ := h
    rfl

theorem invoke_steady {invocation : Invocation} (h : w.invoke env module invocation = .ok w') :
    w.Steady w' := by
  have hcall := (invoke_ok h).1
  obtain ⟨t, ht⟩ := hcall.setToken
  refine ⟨hcall.controller, t, ht, ?_⟩
  simp only [invoke, Outcome.bind_eq_ok, Outcome.pure_eq_ok] at h
  obtain ⟨_, -, v, hv, rfl⟩ := h
  have hsupply : v.setToken.totalSupply = w.setToken.totalSupply := execute_totalSupply hv
  change v.setToken = w.setToken.setErc20 t at ht
  rwa [ht, SetToken.setErc20_totalSupply] at hsupply

theorem Calls.steady (h : Calls env calls w w') : w.Steady w' :=
  h.invariant (P := w.Steady) (fun _ _ _ _ _ hstep hs ↦ hs.trans (invoke_steady hstep)) (.refl w)

theorem Edit.sameStatus (h : Edit env F w w') : w.SameStatus w' := by
  cases h with
  | invoke module invocation hcalls h => exact (invoke_steady h).sameStatus
  | accrue cToken => exact ⟨rfl, rfl, rfl, rfl, rfl, rfl, rfl, rfl, rfl⟩
  | default module component unit h =>
    exact .of_sameFrame (Position.editDefaultPosition_sameFrame h)
  | external module component unit data howns h =>
    exact .of_sameFrame (Position.editExternalPosition_sameFrame h)
  | unit module component unit hwrites h =>
    obtain ⟨-, v, -, rfl⟩ := SetToken.editExternalPositionUnit_eq_ok.mp h
    exact .of_sameFrame (SetToken.sameFrame_setExternalPosition ..)

theorem Edits.sameStatus (h : Edits env F w w') : w.SameStatus w' :=
  h.invariant (P := w.SameStatus) (fun _ _ hedit hs ↦ hs.trans hedit.sameStatus) (.refl w)

/-! ## Balances -/

/-- A call leaves the balance that the SetToken at `setToken` has of a token. -/
def Leaves (env : Env) (token setToken : Address) (invocation : Invocation) : Prop :=
  ∀ w w' : World, w.setToken.address = setToken → w.execute env invocation = .ok w' →
    w'.balance token = w.balance token

theorem invoke_balance {invocation : Invocation} {setToken : Address}
    (hleaves : Leaves env token setToken invocation) (haddress : w.setToken.address = setToken)
    (h : w.invoke env module invocation = .ok w') : w'.balance token = w.balance token := by
  simp only [invoke, Outcome.bind_eq_ok, Outcome.pure_eq_ok] at h
  obtain ⟨_, -, v, hv, rfl⟩ := h
  exact hleaves w v haddress hv

theorem Calls.balance {setToken : Address} (h : Calls env (Leaves env token setToken) w w')
    (haddress : w.setToken.address = setToken) : w'.balance token = w.balance token := by
  have hboth : w'.setToken.address = setToken ∧ w'.balance token = w.balance token := by
    apply h.invariant
      (P := fun v : World ↦ v.setToken.address = setToken ∧ v.balance token = w.balance token)
      ?_ ⟨haddress, rfl⟩
    intro v v' module invocation hleaves hstep ⟨hv, hbalance⟩
    exact ⟨(invoke_steady hstep).address.trans hv, (invoke_balance hleaves hv hstep).trans hbalance⟩
  exact hboth.2

theorem balance_of_sameFrame {s : SetToken} (h : w.setToken.SameFrame s) (c : Address) :
    World.balance { w with setToken := s } c = w.balance c := by
  simp only [balance, erc20, h.address, h.erc20]

theorem Edits.balance {setToken : Address} (h : Edits env F w w')
    (haddress : w.setToken.address = setToken)
    (hleaves : ∀ i, F.calls i → Leaves env token setToken i)
    (haccrue : ∀ cToken chain, ((env.accrueInterest cToken chain).tokens token).balances setToken =
      (chain.tokens token).balances setToken) : w'.balance token = w.balance token := by
  have hboth : w'.setToken.address = setToken ∧ w'.balance token = w.balance token := by
    apply h.invariant
      (P := fun v : World ↦ v.setToken.address = setToken ∧ v.balance token = w.balance token)
      ?_ ⟨haddress, rfl⟩
    intro v v' hedit ⟨hv, hbalance⟩
    refine ⟨hedit.sameStatus.address.trans hv, Eq.trans ?_ hbalance⟩
    cases hedit with
    | invoke module invocation hcalls h => exact invoke_balance (hleaves _ hcalls) hv h
    | accrue cToken =>
      simp only [World.balance, erc20, hv]
      split_ifs
      · rfl
      · exact haccrue cToken v.chain
    | default module component unit h =>
      exact balance_of_sameFrame (Position.editDefaultPosition_sameFrame h) token
    | external module component unit data howns h =>
      exact balance_of_sameFrame (Position.editExternalPosition_sameFrame h) token
    | unit module component unit hwrites h =>
      obtain ⟨-, x, -, rfl⟩ := SetToken.editExternalPositionUnit_eq_ok.mp h
      exact balance_of_sameFrame (SetToken.sameFrame_setExternalPosition ..) token
  exact hboth.2

end World

end SetProtocol
