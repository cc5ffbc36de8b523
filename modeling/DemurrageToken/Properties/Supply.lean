import DemurrageToken.Contract.Replay
import DemurrageToken.Spec.Invariants

/-!
Contract: the supply, its cap and the minter.

Owns: that every run keeps the cap of the instantiation and never exceeds it,
that only the stored minter raises the supply or hands the role over, and that
without a minter the supply never rises.

Does not own: whether the balances sum to the supply.
-/

namespace DemurrageToken.Properties

open DemurrageToken.Library
open DemurrageToken.Library.System
open DemurrageToken.Contract
open DemurrageToken.Spec

/-! ## The cap -/

/-- No minter, if instantiation named none; otherwise a minter with the cap of
the instantiation, which the supply does not exceed. -/
def KeepsCap (mint : Option MinterResponse) (config : TokenInfo) : Prop :=
  match mint with
  | none => config.mint = none
  | some role =>
      (∃ minter, config.mint = some { minter, cap := role.cap }) ∧
      ∀ limit, role.cap = some limit → config.totalSupply.toNat ≤ limit.toNat

variable {api : Api} {genesis : Genesis} {sender : Addr} {msg : ExecuteMsg}
  {config updated : TokenInfo} {mint : Option MinterResponse}

theorem Appoints.keepsCap {stored : Option MinterData}
    (appoints : Appoints api mint stored) (sameRole : config.mint = stored)
    (capped : exceeds config.totalSupply (mint.bind MinterResponse.cap) = false) :
    KeepsCap mint config := by
  cases appoints with
  | nobody => exact sameRole
  | @minter role minter _ =>
      exact ⟨⟨minter, sameRole⟩, exceeds_eq_false_iff.mp capped⟩

/-- One message keeps the cap. -/
theorem TokenStep.keepsCap (step : TokenStep api sender config msg updated)
    (keeps : KeepsCap mint config) : KeepsCap mint updated := by
  cases step with
  | @mint _ _ totalSupply stored minted _ _ capped =>
      cases mint with
      | none => cases minted.symm.trans keeps
      | some role =>
          obtain ⟨⟨minter, appointed⟩, _⟩ := keeps
          refine ⟨⟨minter, appointed⟩, ?_⟩
          rw [TokenInfo.getCap, appointed, Option.bind_some, exceeds_eq_false_iff] at capped
          exact capped
  | burn _ burns =>
      obtain ⟨totalSupply, difference, rfl⟩ := burns
      cases mint with
      | none => exact keeps
      | some role =>
          obtain ⟨appointed, within⟩ := keeps
          refine ⟨appointed, fun limit cap => ?_⟩
          have bounded := within limit cap
          dsimp only
          omega
  | @handOver _ minter stored minted _ _ =>
      cases mint with
      | none => cases minted.symm.trans keeps
      | some role =>
          obtain ⟨⟨earlier, appointed⟩, within⟩ := keeps
          cases minted.symm.trans appointed
          exact ⟨⟨minter, rfl⟩, within⟩
  | keep => exact keeps

/-! ## The minter -/

/-- What a call changed in the token record was up to the stored minter: the
supply rose by a `Mint`, the minter changed by an `UpdateMinter`. -/
structure MinterActed (call : Call) (config updated : TokenInfo) : Prop where
  raised : config.totalSupply.toNat < updated.totalSupply.toNat →
    (∃ recipient amount, call.msg = .mint recipient amount) ∧
      ∃ role, config.mint = some role ∧ role.minter = call.info.sender
  handed : updated.mint ≠ config.mint →
    (∃ newMinter, call.msg = .updateMinter newMinter) ∧
      ∃ role, config.mint = some role ∧ role.minter = call.info.sender

theorem TokenStep.minterActed {call : Call}
    (step : TokenStep api call.info.sender config call.msg updated) :
    MinterActed call config updated := by
  obtain ⟨env, info, msg⟩ := call
  cases step with
  | mint minted authorised _ _ =>
      exact ⟨fun _ => ⟨⟨_, _, rfl⟩, _, minted, authorised⟩, fun changed => absurd rfl changed⟩
  | burn _ burns =>
      obtain ⟨totalSupply, difference, rfl⟩ := burns
      refine ⟨fun rose => ?_, fun changed => absurd rfl changed⟩
      dsimp only at rose
      omega
  | handOver minted authorised _ =>
      exact ⟨fun rose => absurd rose (Nat.lt_irrefl _), fun _ => ⟨⟨_, rfl⟩, _, minted, authorised⟩⟩
  | keep => exact ⟨fun rose => absurd rose (Nat.lt_irrefl _), fun changed => absurd rfl changed⟩

/-! ## Runs -/

theorem keepsCap_of_reachable {chain : Chain}
    (reachable : (tokenSystem api genesis).Reachable chain) :
    ∃ config, chain.storage.tokenInfo = some config ∧ KeepsCap genesis.msg.mint config := by
  refine reachable.invariant (fun chain => ∃ config, chain.storage.tokenInfo = some config ∧
    KeepsCap genesis.msg.mint config) ?_ ?_
  · intro start initial
    obtain ⟨_, _, _, capped, appoints, result⟩ := instantiates_of_init initial
    rw [result]
    exact ⟨_, rfl, Appoints.keepsCap appoints rfl capped⟩
  · intro chain call next _ keeps step
    obtain ⟨config, stored, keeps⟩ := keeps
    obtain ⟨updated, saved, tokenStep⟩ := (effect_of_step step).token stored
    exact ⟨updated, saved, TokenStep.keepsCap tokenStep keeps⟩

/-- In every run the cap of the instantiation stands and holds, every step that
raises the supply or changes the minter is one of the stored minter, and without
a minter no step raises the supply. -/
theorem supply_in_custody {start chain : Chain} {events : List (Event Chain Call)}
    (run : (tokenSystem api genesis).Run start events chain) :
    (∃ config, chain.storage.tokenInfo = some config ∧ KeepsCap genesis.msg.mint config) ∧
    ∀ event ∈ events, ∃ config updated,
      event.source.storage.tokenInfo = some config ∧
      event.target.storage.tokenInfo = some updated ∧
      MinterActed event.label config updated ∧
      (genesis.msg.mint = none → updated.totalSupply.toNat ≤ config.totalSupply.toNat) := by
  refine ⟨keepsCap_of_reachable run.reachable, ?_⟩
  intro event member
  obtain ⟨reachable, step⟩ := run.event event member
  obtain ⟨config, stored, keeps⟩ := keepsCap_of_reachable reachable
  obtain ⟨updated, saved, tokenStep⟩ := (effect_of_step step).token stored
  have acted := TokenStep.minterActed tokenStep
  refine ⟨config, updated, stored, saved, acted, fun nobody => ?_⟩
  apply Nat.le_of_not_lt
  intro rose
  obtain ⟨_, role, minted, _⟩ := acted.raised rose
  rw [nobody] at keeps
  cases minted.symm.trans keeps

/-- The minter mints, burns up to the cap again and hands over. -/
theorem supply_in_custody_handed_over :
    ∃ start events chain config,
      (tokenSystem sampleApi (sampleGenesis 1000000 (some ⟨"dave", some 1000500⟩))).Run start
        events chain ∧
      events.map Event.label =
        [callAt 60 "dave" (.mint "dave" 500), callAt 90 "dave" (.burn 300),
          callAt 100 "dave" (.updateMinter "erin"), callAt 120 "erin" (.mint "bob" 300)] ∧
      chain.storage.tokenInfo = some config ∧
      KeepsCap (some ⟨"dave", some 1000500⟩) config := by
  obtain ⟨start, events, chain, run, labels, _⟩ :=
    exists_run sampleApi (sampleGenesis 1000000 (some ⟨"dave", some 1000500⟩))
      [callAt 60 "dave" (.mint "dave" 500), callAt 90 "dave" (.burn 300),
        callAt 100 "dave" (.updateMinter "erin"), callAt 120 "erin" (.mint "bob" 300)]
      (fun _ _ => true)
      (by decide +kernel)
  obtain ⟨config, stored, keeps⟩ := (supply_in_custody run).1
  exact ⟨start, events, chain, config, run, labels, stored, keeps⟩

end DemurrageToken.Properties
