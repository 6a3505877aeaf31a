import Solochain.Runtime.Types

/-!
The outer call of the runtime, one constructor for each pallet that has calls,
in the order of the pallet indices.

The arguments of a call stay opaque unless they contain calls themselves.
-/
namespace Solochain

inductive WrapperCall (Args Call : Type)
  | plain (args : Args)
  | dispatch (args : Args) (call : Call)
  | batch (args : Args) (calls : List Call)

/-- `transact` is the one dispatchable of pallet_ethereum; `other` is whatever
variant its enumeration has besides. -/
inductive EthereumCall (Args Tx : Type)
  | transact (transaction : Tx)
  | other (args : Args)

inductive RuntimeCall (Args Tx : Type)
  | system (args : Args)
  | timestamp (args : Args)
  | grandpa (args : Args)
  | balances (args : Args)
  | sudo (call : WrapperCall Args (RuntimeCall Args Tx))
  | templateModule (args : Args)
  | evm (args : Args)
  | ethereum (call : EthereumCall Args Tx)
  | dynamicFee (args : Args)
  | baseFee (args : Args)
  | babe (args : Args)
  | treasury (args : Args)
  | utility (call : WrapperCall Args (RuntimeCall Args Tx))
  | imOnline (args : Args)
  | electionProviderMultiPhase (args : Args)
  | staking (args : Args)
  | fastUnstake (args : Args)
  | session (args : Args)
  | democracy (args : Args)
  | council (call : WrapperCall Args (RuntimeCall Args Tx))
  | technicalCommittee (call : WrapperCall Args (RuntimeCall Args Tx))
  | elections (args : Args)
  | technicalMembership (args : Args)
  | voterList (args : Args)
  | scheduler (call : WrapperCall Args (RuntimeCall Args Tx))
  | preimage (args : Args)
  | nominationPools (args : Args)
  | contracts (args : Args)

inductive RuntimeOrigin
  | root
  | signed (who : AccountId)
  | none
  | ethereumTransaction (source : H160)
  deriving DecidableEq

end Solochain
