import SetProtocol.Core.ModuleBase

/-!
# Voting with the tokens of the Set

`GovernanceModule` makes the SetToken send one call that a governance adapter encodes.  No position is
written, whatever the governance protocol does with the call.
-/

namespace SetProtocol

open ModuleBase

/-- An adapter that encodes calls of a governance protocol. -/
structure GovernanceAdapter where
  getVoteCalldata : (proposalId : ℕ) → (support : Bool) → (data : List UInt8) →
    Outcome (Address × ℕ × List UInt8)
  getDelegateCalldata : (delegatee : Address) → Outcome (Address × ℕ × List UInt8)
  getRegisterCalldata : (setToken : Address) → Outcome (Address × ℕ × List UInt8)
  getRevokeCalldata : Outcome (Address × ℕ × List UInt8)
  getProposeCalldata : (proposalData : List UInt8) → Outcome (Address × ℕ × List UInt8)

structure GovernanceModule where
  address : Address
  adapters : Address → GovernanceAdapter

namespace GovernanceModule

/-- What the functions of the manager share. -/
def invokeGovernance (m : GovernanceModule) (w : World) (env : Env) (governanceName : String)
    (getCalldata : GovernanceAdapter → Outcome (Address × ℕ × List UInt8)) : Outcome World := do
  validateOnlyManagerAndValidSet w m.address env.sender
  let governanceAdapter ← getAndValidateAdapter env m.address governanceName
  let (targetExchange, callValue, methodData) ← getCalldata (m.adapters governanceAdapter)
  w.invoke env m.address ⟨targetExchange, callValue, .raw methodData⟩

def delegate (m : GovernanceModule) (w : World) (env : Env) (governanceName : String)
    (delegatee : Address) : Outcome World :=
  m.invokeGovernance w env governanceName fun adapter ↦ adapter.getDelegateCalldata delegatee

def propose (m : GovernanceModule) (w : World) (env : Env) (governanceName : String)
    (proposalData : List UInt8) : Outcome World :=
  m.invokeGovernance w env governanceName fun adapter ↦ adapter.getProposeCalldata proposalData

def register (m : GovernanceModule) (w : World) (env : Env) (governanceName : String) :
    Outcome World :=
  m.invokeGovernance w env governanceName fun adapter ↦
    adapter.getRegisterCalldata w.setToken.address

def revoke (m : GovernanceModule) (w : World) (env : Env) (governanceName : String) :
    Outcome World :=
  m.invokeGovernance w env governanceName GovernanceAdapter.getRevokeCalldata

def vote (m : GovernanceModule) (w : World) (env : Env) (governanceName : String)
    (proposalId : ℕ) (support : Bool) (data : List UInt8) : Outcome World :=
  m.invokeGovernance w env governanceName fun adapter ↦
    adapter.getVoteCalldata proposalId support data

/-- The source calls this function `initialize`. -/
def initializeSetToken (m : GovernanceModule) (w : World) (env : Env) : Outcome World := do
  validateOnlySetManager w env.sender
  validateOnlyValidAndPendingSet w m.address
  w.onSetToken fun s ↦ s.initializeModule m.address

end GovernanceModule

end SetProtocol
