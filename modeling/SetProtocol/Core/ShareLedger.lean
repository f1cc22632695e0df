import SetProtocol.Core.ModuleRegistry
import SetProtocol.Foundation.Bank

/-!
# The ledger of Sets

The SetToken is itself a token.  Whatever messages it receives, and whatever messages come back to it while
it calls other contracts, what its holders own adds up to the total supply, and an account that sends
nothing itself loses Sets only to the spenders it approved.
-/

namespace SetProtocol

open Function

namespace ERC20

variable {t t' : ERC20} {owner account sender recipient spender : Address} {amount : ℕ}

/-- The balances add up to the supply. -/
def Conserved (t : ERC20) : Prop :=
  Pooled t.balances t.totalSupply

namespace Conserved

theorem holding (decimals allowance : ℕ) {holders : List (Address × ℕ)}
    (hnodup : (holders.map Prod.fst).Nodup) : (ERC20.holding decimals holders allowance).Conserved := by
  induction holders with
  | nil => exact Pooled.empty
  | cons holder holders ih =>
    obtain ⟨hnot, hnodup⟩ := List.nodup_cons.mp hnodup
    have hnone : holders.find? (·.1 == holder.1) = none := by
      rw [List.find?_eq_none]
      intro other hother heq
      exact hnot (List.mem_map.mpr ⟨other, hother, by simpa using heq⟩)
    have hpooled : Pooled (ERC20.holding decimals (holder :: holders) allowance).balances
        ((ERC20.holding decimals holders allowance).totalSupply + holder.2) := by
      apply (ih hnodup).deposit (a := holder.1)
      · simp [ERC20.holding, hnone]
      · intro a ha
        have hbeq : (holder.1 == a) = false := beq_eq_false_iff_ne.mpr ha.symm
        simp [ERC20.holding, List.find?_cons, hbeq]
    unfold Conserved
    rwa [Nat.add_comm] at hpooled

theorem mint (ht : t.Conserved) (h : t.mint account amount = .ok t') : t'.Conserved := by
  obtain ⟨hsupply, -, hself, hother⟩ := mint_ok h
  unfold Conserved
  rw [hsupply]
  exact ht.deposit hself hother

theorem burn (ht : t.Conserved) (h : t.burn account amount = .ok t') : t'.Conserved := by
  obtain ⟨-, hsupply, -, hamount, hself, hother⟩ := burn_ok h
  unfold Conserved
  rw [hsupply]
  exact ht.withdraw hamount hself hother

theorem transfer (ht : t.Conserved) (h : t.transfer sender recipient amount = .ok t') :
    t'.Conserved := by
  obtain ⟨hsupply, -, -, hamount, hsame, hmoved, hother⟩ := transfer_ok h
  unfold Conserved
  rw [hsupply]
  by_cases heq : sender = recipient
  · rw [hsame heq]
    exact ht
  · exact ht.move heq hamount (hmoved heq).1 (hmoved heq).2 hother

theorem approve (ht : t.Conserved) (h : t.approve owner spender amount = .ok t') :
    t'.Conserved := by
  obtain ⟨hsupply, -, hbalances⟩ := approve_ok h
  unfold Conserved
  rw [hsupply, hbalances]
  exact ht

theorem transferFrom (ht : t.Conserved)
    (h : t.transferFrom spender sender recipient amount = .ok t') : t'.Conserved := by
  obtain ⟨moved, hmoved, hsupply, -, hbalances⟩ := transferFrom_ok h
  unfold Conserved
  rw [hsupply, hbalances]
  exact ht.transfer hmoved

end Conserved

/-- No allowance of the owner grows, and what the owner loses is taken from them. -/
structure Spares (owner : Address) (t t' : ERC20) : Prop where
  allowance_le : ∀ spender, t'.allowances owner spender ≤ t.allowances owner spender
  loss_le : ∀ spenders : Finset Address, (∀ spender ∉ spenders, t.allowances owner spender = 0) →
    t.balances owner + ∑ spender ∈ spenders, t'.allowances owner spender ≤
      t'.balances owner + ∑ spender ∈ spenders, t.allowances owner spender

namespace Spares

theorem refl (t : ERC20) : Spares owner t t :=
  ⟨fun _ ↦ le_rfl, fun _ _ ↦ le_rfl⟩

theorem trans {u : ERC20} (h : Spares owner t t') (h' : Spares owner t' u) : Spares owner t u := by
  refine ⟨fun spender ↦ (h'.allowance_le spender).trans (h.allowance_le spender), ?_⟩
  intro spenders hspenders
  have hspenders' : ∀ spender ∉ spenders, t'.allowances owner spender = 0 := fun spender hnot ↦
    Nat.le_zero.mp (hspenders spender hnot ▸ h.allowance_le spender)
  have hfirst := h.loss_le spenders hspenders
  have hsecond := h'.loss_le spenders hspenders'
  omega

/-- Allowances stay and the balance does not fall. -/
theorem of_le (hallowances : t'.allowances owner = t.allowances owner)
    (hbalance : t.balances owner ≤ t'.balances owner) : Spares owner t t' := by
  refine ⟨fun spender ↦ (congrFun hallowances spender).le, fun spenders _ ↦ ?_⟩
  rw [hallowances]
  exact Nat.add_le_add_right hbalance _

theorem mint (h : t.mint account amount = .ok t') : Spares owner t t' := by
  obtain ⟨-, -, hself, hother⟩ := mint_ok h
  simp only [ERC20.mint, Outcome.bind_eq_ok, Outcome.pure_eq_ok] at h
  obtain ⟨_, -, _, -, _, -, rfl⟩ := h
  refine of_le rfl ?_
  by_cases heq : owner = account
  · rw [heq, hself]
    exact Nat.le_add_right _ _
  · exact (hother owner heq).ge

theorem burn (hne : owner ≠ account) (h : t.burn account amount = .ok t') : Spares owner t t' := by
  obtain ⟨-, -, -, -, -, hother⟩ := burn_ok h
  simp only [ERC20.burn, Outcome.bind_eq_ok, Outcome.pure_eq_ok] at h
  obtain ⟨_, -, _, -, _, -, rfl⟩ := h
  exact of_le rfl (hother owner hne).ge

theorem balance_le_of_transfer (hne : owner ≠ sender)
    (h : t.transfer sender recipient amount = .ok t') : t.balances owner ≤ t'.balances owner := by
  obtain ⟨-, -, -, -, -, hmoved, hother⟩ := transfer_ok h
  by_cases heq : owner = recipient
  · subst heq
    rw [(hmoved hne.symm).2]
    exact Nat.le_add_right _ _
  · exact (hother owner hne heq).ge

theorem transfer (hne : owner ≠ sender) (h : t.transfer sender recipient amount = .ok t') :
    Spares owner t t' :=
  of_le (congrFun (transfer_ok h).2.2.1 owner) (balance_le_of_transfer hne h)

theorem approve (hne : owner ≠ account) (h : t.approve account spender amount = .ok t') :
    Spares owner t t' := by
  simp only [ERC20.approve, Outcome.bind_eq_ok, Outcome.pure_eq_ok] at h
  obtain ⟨_, -, _, -, rfl⟩ := h
  exact of_le (update_of_ne hne ..) le_rfl

/-- The owner's account is debited by what the spender's allowance falls. -/
theorem transferFrom_self (h : t.transferFrom spender owner recipient amount = .ok t') :
    Spares owner t t' := by
  obtain ⟨moved, hmoved, -, -, hbalances⟩ := transferFrom_ok h
  obtain ⟨hallowed, hallowances⟩ := transferFrom_allowances h
  obtain ⟨-, -, -, hamount, hsame, hpaid, -⟩ := transfer_ok hmoved
  have howner : t'.allowances owner =
      update (t.allowances owner) spender (t.allowances owner spender - amount) := by
    rw [hallowances, update_self]
  have hdebit : t.balances owner ≤ t'.balances owner + amount := by
    rw [hbalances]
    by_cases heq : owner = recipient
    · rw [hsame heq]
      exact Nat.le_add_right _ _
    · rw [(hpaid heq).1, Nat.sub_add_cancel hamount]
  refine ⟨fun other ↦ ?_, fun spenders hspenders ↦ ?_⟩
  · rw [howner, update_apply]
    split
    next heq => exact heq ▸ Nat.sub_le _ _
    next => exact le_rfl
  · rw [howner]
    by_cases hmem : spender ∈ spenders
    · rw [Finset.sum_update_of_mem hmem, Finset.sdiff_singleton_eq_erase]
      have hsum := Finset.add_sum_erase spenders (t.allowances owner) hmem
      omega
    · have hzero : amount = 0 := Nat.le_zero.mp (hspenders spender hmem ▸ hallowed)
      rw [hzero, Nat.sub_zero, update_eq_self]
      omega

theorem transferFrom (h : t.transferFrom spender account recipient amount = .ok t') :
    Spares owner t t' := by
  by_cases heq : owner = account
  · subst heq
    exact transferFrom_self h
  · obtain ⟨moved, hmoved, -, -, hbalances⟩ := transferFrom_ok h
    obtain ⟨-, hallowances⟩ := transferFrom_allowances h
    refine of_le ?_ ?_
    · rw [hallowances, update_of_ne heq]
    · rw [hbalances]
      exact balance_le_of_transfer heq hmoved

end Spares

end ERC20

namespace SetToken

variable {s s' : SetToken} {message : Message} {P : Message → Prop}

/-- The calls of other contracts that a function makes. -/
def Function.callee : Function → Option (SetToken → Outcome SetToken)
  | .invoke callee => some callee
  | .removeModule _ callee => some callee
  | _ => none

/-- What a message does to the ledger of Sets. -/
inductive LedgerCall (s : SetToken) (message : Message) (t' : ERC20) : Prop
  | idle (h : t' = s.erc20)
  | mint (account : Address) (quantity : ℕ) (h : s.erc20.mint account quantity = .ok t')
  | burn (account : Address) (quantity : ℕ) (hfunction : message.function = .burn account quantity)
      (h : s.erc20.burn account quantity = .ok t')
  | transfer (recipient : Address) (amount : ℕ)
      (h : s.erc20.transfer message.sender recipient amount = .ok t')
  | approve (spender : Address) (amount : ℕ)
      (h : s.erc20.approve message.sender spender amount = .ok t')
  | transferFrom (owner recipient : Address) (amount : ℕ)
      (h : s.erc20.transferFrom message.sender owner recipient amount = .ok t')

theorem onErc20_ok {result : Outcome ERC20} (h : s.onErc20 result = .ok s') :
    result = .ok s'.erc20 := by
  simp only [onErc20, Outcome.bind_eq_ok, Outcome.pure_eq_ok] at h
  obtain ⟨t, ht, rfl⟩ := h
  exact ht

/-- A message changes the ledger by one call of the token, or as the contracts do that it calls. -/
theorem receiveMessage_ledger (h : s.receiveMessage message = .ok s') :
    (∃ callee u, message.function.callee = some callee ∧ callee s = .ok u ∧
      s'.erc20 = u.erc20) ∨ s.LedgerCall message s'.erc20 := by
  obtain ⟨controller, sender, hzero, function⟩ := message
  cases function with
  | invoke callee =>
    simp only [receiveMessage, Outcome.bind_eq_ok] at h
    obtain ⟨_, -, hcallee⟩ := h
    exact .inl ⟨callee, s', rfl, hcallee, rfl⟩
  | removeModule module callee =>
    simp only [receiveMessage, removeModule, clearModule, Outcome.bind_eq_ok,
      Outcome.pure_eq_ok] at h
    obtain ⟨_, -, u, hcallee, _, -, rfl⟩ := h
    exact .inl ⟨callee, u, rfl, hcallee, rfl⟩
  | addComponent component =>
    obtain ⟨-, -, rfl⟩ := addComponent_eq_ok.mp h
    exact .inr (.idle (s.sameFrame_setComponents _).erc20)
  | removeComponent component =>
    obtain ⟨-, -, rfl⟩ := removeComponent_eq_ok.mp h
    exact .inr (.idle (s.sameFrame_setComponents _).erc20)
  | editDefaultPositionUnit component realUnit =>
    obtain ⟨-, v, -, rfl⟩ := editDefaultPositionUnit_eq_ok.mp h
    exact .inr (.idle (s.sameFrame_setDefaultUnit component v).erc20)
  | addExternalPositionModule component positionModule =>
    obtain ⟨-, -, rfl⟩ := addExternalPositionModule_eq_ok.mp h
    exact .inr (.idle (s.sameFrame_setExternalModules component _).erc20)
  | removeExternalPositionModule component positionModule =>
    obtain ⟨-, -, rfl⟩ := removeExternalPositionModule_eq_ok.mp h
    exact .inr (.idle ((s.sameFrame_setExternalModules component _).trans
      (sameFrame_setExternalPosition ..)).erc20)
  | editExternalPositionUnit component positionModule realUnit =>
    obtain ⟨-, v, -, rfl⟩ := editExternalPositionUnit_eq_ok.mp h
    exact .inr (.idle (s.sameFrame_setExternalPosition component positionModule _).erc20)
  | editExternalPositionData component positionModule data =>
    obtain ⟨-, rfl⟩ := editExternalPositionData_eq_ok.mp h
    exact .inr (.idle (s.sameFrame_setExternalPosition component positionModule _).erc20)
  | editPositionMultiplier newMultiplier =>
    obtain ⟨-, -, rfl⟩ := editPositionMultiplier_eq_ok.mp h
    exact .inr (.idle rfl)
  | mint account quantity =>
    obtain ⟨-, t, ht, rfl⟩ := mint_eq_ok.mp h
    exact .inr (.mint account quantity ht)
  | burn account quantity =>
    obtain ⟨-, t, ht, rfl⟩ := burn_eq_ok.mp h
    exact .inr (.burn account quantity rfl ht)
  | lock =>
    simp only [receiveMessage, lock, Outcome.bind_eq_ok, Outcome.pure_eq_ok] at h
    obtain ⟨_, -, _, -, rfl⟩ := h
    exact .inr (.idle rfl)
  | unlock =>
    simp only [receiveMessage, unlock, Outcome.bind_eq_ok, Outcome.pure_eq_ok] at h
    obtain ⟨_, -, _, -, _, -, rfl⟩ := h
    exact .inr (.idle rfl)
  | addModule module =>
    simp only [receiveMessage, addModule, Outcome.bind_eq_ok, Outcome.pure_eq_ok] at h
    obtain ⟨_, -, _, -, _, -, rfl⟩ := h
    exact .inr (.idle rfl)
  | removePendingModule module =>
    simp only [receiveMessage, removePendingModule, Outcome.bind_eq_ok, Outcome.pure_eq_ok] at h
    obtain ⟨_, -, _, -, _, -, rfl⟩ := h
    exact .inr (.idle rfl)
  | initializeModule =>
    simp only [receiveMessage, initializeModule, Outcome.bind_eq_ok, Outcome.pure_eq_ok] at h
    obtain ⟨_, -, _, -, rfl⟩ := h
    exact .inr (.idle rfl)
  | setManager manager =>
    simp only [receiveMessage, setManager, Outcome.bind_eq_ok, Outcome.pure_eq_ok] at h
    obtain ⟨_, -, _, -, rfl⟩ := h
    exact .inr (.idle rfl)
  | transfer recipient amount => exact .inr (.transfer recipient amount (onErc20_ok h))
  | approve spender amount => exact .inr (.approve spender amount (onErc20_ok h))
  | transferFrom owner recipient amount =>
    exact .inr (.transferFrom owner recipient amount (onErc20_ok h))
  | increaseAllowance spender addedValue =>
    have hok := onErc20_ok h
    simp only [ERC20.increaseAllowance, Outcome.bind_eq_ok] at hok
    obtain ⟨amount, -, happrove⟩ := hok
    exact .inr (.approve spender amount happrove)
  | decreaseAllowance spender subtractedValue =>
    have hok := onErc20_ok h
    simp only [ERC20.decreaseAllowance, Outcome.bind_eq_ok] at hok
    obtain ⟨_, -, happrove⟩ := hok
    exact .inr (.approve spender _ happrove)
  | receive value =>
    obtain rfl := Outcome.pure_eq_ok.mp h
    exact .inr (.idle rfl)

/-- States reached by messages that satisfy `P`.  The contracts that a message calls may send further
messages before they return. -/
inductive Reaches (P : Message → Prop) : SetToken → SetToken → Prop
  | refl (s : SetToken) : Reaches P s s
  | tail {s t u : SetToken} {message : Message} (hrun : Reaches P s t) (hmessage : P message)
      (hcall : t.receiveMessage message = .ok u)
      (hnested : ∀ callee, message.function.callee = some callee →
        ∀ v v', callee v = .ok v' → Reaches P v v') : Reaches P s u

theorem Reaches.trans {s'' : SetToken} (h : Reaches P s s') (h' : Reaches P s' s'') :
    Reaches P s s'' := by
  induction h' with
  | refl => exact h
  | tail _ hmessage hcall hnested ih => exact (ih h).tail hmessage hcall hnested

/-- Messages that call no other contract, one after another. -/
theorem Reaches.of_run {messages : List Message} (hmessages : ∀ message ∈ messages, P message)
    (hplain : ∀ message ∈ messages, message.function.callee = none)
    (hrun : messages.foldlM receiveMessage s = .ok s') : Reaches P s s' := by
  refine Outcome.foldlM_invariant_of_mem ?_ hrun (.refl s)
  intro t message hmem u hcall hreached
  refine hreached.tail (hmessages message hmem) hcall ?_
  intro callee hcallee
  rw [hplain message hmem] at hcallee
  exact absurd hcallee.symm (Option.some_ne_none callee)

/-- What the calls of the token do one by one, all messages together do. -/
theorem Reaches.relates (R : ERC20 → ERC20 → Prop) (hrefl : ∀ t, R t t)
    (htrans : ∀ t u v, R t u → R u v → R t v)
    (hstep : ∀ s message t', P message → LedgerCall s message t' → R s.erc20 t')
    (h : Reaches P s s') : R s.erc20 s'.erc20 := by
  induction h with
  | refl s => exact hrefl s.erc20
  | @tail s t u message _ hmessage hcall _ ih hnested =>
    apply htrans _ _ _ ih
    rcases receiveMessage_ledger hcall with ⟨callee, v, hcallee, hok, heq⟩ | hledger
    · rw [heq]
      exact hnested callee hcallee t v hok
    · exact hstep t message u.erc20 hmessage hledger

theorem LedgerCall.conserved {t' : ERC20} (h : s.LedgerCall message t') (hs : s.erc20.Conserved) :
    t'.Conserved := by
  cases h with
  | idle h => exact h ▸ hs
  | mint account quantity h => exact hs.mint h
  | burn account quantity _ h => exact hs.burn h
  | transfer recipient amount h => exact hs.transfer h
  | approve spender amount h => exact hs.approve h
  | transferFrom owner recipient amount h => exact hs.transferFrom h

/-- What the holders of a Set own adds up to its supply, after any messages and however these are
nested. -/
theorem conserved_of_reaches {address manager : Address} {components modules : List Address}
    {units : List ℤ} (h : Reaches P (new address components units modules manager) s) :
    s.erc20.Conserved := by
  have hstart : (new address components units modules manager).erc20.Conserved := Pooled.empty
  refine h.relates (fun t t' ↦ t.Conserved → t'.Conserved) (fun _ ht ↦ ht) ?_ ?_ hstart
  · intro t u v htu huv ht
    exact huv (htu ht)
  · intro s message t' _ hledger
    exact hledger.conserved

namespace LedgerSample

def start : SetToken := new 9 [7] [100] [5] 2

theorem module_ne_zero : (5 : Address) ≠ 0 := by decide

theorem holder_ne_zero : (11 : Address) ≠ 0 := by decide

/-- Module 5 issues 10 Sets to account 11, which lets account 12 spend 4 of them. -/
def messages : List Message :=
  [sampleMessage 5 module_ne_zero .initializeModule, sampleMessage 5 module_ne_zero (.mint 11 10),
    sampleMessage 11 holder_ne_zero (.approve 12 4)]

def approved : SetToken := (messages.foldlM receiveMessage start).getD start

/-- Account 12 moves 3 Sets of account 11 to account 13. -/
def spend : Message := sampleMessage 12 (by decide) (.transferFrom 11 13 3)

/-- The spending happens while module 5 makes the SetToken call another contract. -/
def invocation : Message :=
  sampleMessage 5 module_ne_zero (.invoke fun s ↦ s.receiveMessage spend)

def spent : SetToken := (approved.receiveMessage invocation).getD start

theorem spend_callee : spend.function.callee = none := rfl

/-- What the called contract does is itself a run. -/
theorem invocation_reaches (hP : P spend) (hinvocation : P invocation) :
    Reaches P approved spent := by
  refine .tail (.refl approved) hinvocation (Outcome.eq_ok_getD start (by decide +kernel)) ?_
  rintro callee hcallee v v' hcall
  obtain rfl := Option.some.inj hcallee
  have hrun : [spend].foldlM receiveMessage v = .ok v' := by simpa using hcall
  exact .of_run (by simpa using hP) (by simp [spend_callee]) hrun

theorem spent_conserved :
    spent.erc20.balances 13 = 3 ∧ spent.erc20.totalSupply = 10 ∧ spent.erc20.Conserved := by
  have happroved : Reaches (fun _ ↦ True) start approved := by
    have hrun : messages.foldlM receiveMessage start = .ok approved :=
      Outcome.eq_ok_getD start (by decide +kernel)
    exact .of_run (fun _ _ ↦ trivial) (by simp [messages, sampleMessage, Function.callee]) hrun
  refine ⟨by decide +kernel, by decide +kernel, ?_⟩
  exact conserved_of_reaches (happroved.trans (invocation_reaches trivial trivial))

end LedgerSample

/-- The message is not sent by the owner and does not burn the owner's Sets. -/
def Message.LeavesAlone (owner : Address) (message : Message) : Prop :=
  message.sender ≠ owner ∧ ∀ quantity, message.function ≠ .burn owner quantity

theorem LedgerCall.spares {t' : ERC20} {owner : Address} (h : s.LedgerCall message t')
    (hmessage : message.LeavesAlone owner) : ERC20.Spares owner s.erc20 t' := by
  cases h with
  | idle h => exact h ▸ .refl _
  | mint account quantity h => exact .mint h
  | burn account quantity hfunction h =>
    refine .burn ?_ h
    rintro rfl
    exact hmessage.2 quantity hfunction
  | transfer recipient amount h => exact .transfer hmessage.1.symm h
  | approve spender amount h => exact .approve hmessage.1.symm h
  | transferFrom owner recipient amount h => exact .transferFrom h

/-- An account that sends nothing and whose Sets no module burns loses at most what is taken from its
allowances. -/
theorem spares_of_reaches {owner : Address} (h : Reaches (Message.LeavesAlone owner) s s') :
    ERC20.Spares owner s.erc20 s'.erc20 :=
  h.relates (ERC20.Spares owner) .refl (fun _ _ _ ↦ .trans)
    fun _ _ _ hmessage hledger ↦ hledger.spares hmessage

/-- Account 11 sends nothing while account 12 spends. -/
theorem LedgerSample.spent_spares :
    approved.erc20.balances 11 = 10 ∧ spent.erc20.balances 11 = 7 ∧
      spent.erc20.allowances 11 12 = 1 ∧ ERC20.Spares 11 approved.erc20 spent.erc20 := by
  have hspend : spend.LeavesAlone 11 := ⟨by decide, fun _ ↦ Function.noConfusion⟩
  have hinvocation : invocation.LeavesAlone 11 := ⟨by decide, fun _ ↦ Function.noConfusion⟩
  exact ⟨by decide +kernel, by decide +kernel, by decide +kernel,
    spares_of_reaches (invocation_reaches hspend hinvocation)⟩

end SetToken

end SetProtocol
