import DemurrageToken.Contract.Replay
import DemurrageToken.Spec.Regions

/-!
Contract: expired allowances.

Owns: that an allowance which has expired cannot be drawn on until its owner
renews it.

Does not own: the amounts of the allowances.
-/

namespace DemurrageToken.Properties

open DemurrageToken.Library
open DemurrageToken.Library.System
open DemurrageToken.Contract
open DemurrageToken.Spec

variable {api : Api} {genesis : Genesis} {owner spender : Addr} {block later : BlockInfo}

/-! ## Later blocks -/

/-- Neither the height nor the time of `later` is before that of `block`. -/
def NotBefore (block later : BlockInfo) : Prop :=
  block.height.toNat ≤ later.height.toNat ∧ block.time.nanos.toNat ≤ later.time.nanos.toNat

instance : Decidable (NotBefore block later) := inferInstanceAs (Decidable (_ ∧ _))

theorem isExpired_mono {expires : Expiration} (ordered : NotBefore block later)
    (expired : expires.isExpired block = true) : expires.isExpired later = true := by
  obtain ⟨higher, after⟩ := ordered
  cases expires with
  | atHeight height =>
      have reached : height.toNat ≤ block.height.toNat := of_decide_eq_true expired
      exact decide_eq_true (reached.trans higher)
  | atTime time =>
      have reached : time.nanos.toNat ≤ block.time.nanos.toNat := of_decide_eq_true expired
      exact decide_eq_true (reached.trans after)
  | never => cases expired

/-! ## Dead entries -/

/-- The owner has granted the spender an allowance that has expired at `block`. -/
def Dead (block : BlockInfo) (owner spender : Addr) (allowed : Allowances) : Prop :=
  ∃ entry, allowed[(owner, spender)]? = some entry ∧ entry.expires.isExpired block = true

instance {allowed : Allowances} : Decidable (Dead block owner spender allowed) :=
  decidable_of_iff (allowed[(owner, spender)]?.any fun entry => entry.expires.isExpired block)
    (Option.any_eq_true _ _)

/-- The spender moves or burns tokens of the owner. -/
def DrawsOn (owner spender : Addr) (event : Event Chain Call) : Prop :=
  event.label.info.sender = spender ∧
    ∃ amount, delegation event.label.msg = some (owner.asStr, amount)

/-- The owner names a new expiration for the spender, or removes the entry. -/
def Renews (owner spender : Addr) (event : Event Chain Call) : Prop :=
  event.label.info.sender = owner ∧
    match event.label.msg with
    | .increaseAllowance named _ expires => named = spender.asStr ∧ expires.isSome
    | .decreaseAllowance named _ expires =>
        named = spender.asStr ∧
          (expires.isSome ∨ event.target.storage.allowances[(owner, spender)]? = none)
    | _ => False

theorem Dead.of_eq {allowed others : Allowances} (dead : Dead block owner spender allowed)
    (same : others[(owner, spender)]? = allowed[(owner, spender)]?) :
    Dead block owner spender others := by
  unfold Dead
  rw [same]
  exact dead

/-- A draw needs an entry that has not expired. -/
theorem not_drawsOn_of_dead {event : Event Chain Call}
    (executed : Executes api event.label event.source.storage event.target.storage)
    (ordered : NotBefore block event.label.env.block)
    (dead : Dead block owner spender event.source.storage.allowances) :
    ¬ DrawsOn owner spender event := by
  intro drawing
  obtain ⟨source, ⟨env, info, msg⟩, target⟩ := event
  obtain ⟨bySpender, amount, onOwner⟩ := drawing
  obtain ⟨entry, present, expired⟩ := dead
  dsimp only at bySpender onOwner ordered present executed
  have changed := (executes_iff_effect.mp executed).allowances
  generalize target.storage.allowances = allowed at changed
  cases changed with
  | grant _ _ _ _ _ => cases onOwner
  | lower _ _ _ => cases onOwner
  | keep direct _ =>
      rw [direct] at onOwner
      cases onOwner
  | draw delegated valid draws =>
      rw [onOwner] at delegated
      cases delegated
      obtain ⟨fresh, left, found, valuable, _⟩ := draws.entry
      rw [api.addrValidate_eq valid, bySpender] at found
      obtain rfl := Option.some.inj (present.symm.trans found)
      rw [isExpired_mono ordered expired] at valuable
      cases valuable

/-- Only the owner's renewal ends the death of an entry; an increase or a
decrease that names no expiration keeps the old one. -/
theorem renews_or_dead {event : Event Chain Call}
    (executed : Executes api event.label event.source.storage event.target.storage)
    (dead : Dead block owner spender event.source.storage.allowances) :
    Renews owner spender event ∨ Dead block owner spender event.target.storage.allowances := by
  obtain ⟨source, ⟨env, info, msg⟩, target⟩ := event
  dsimp only at dead executed ⊢
  obtain ⟨entry, present, expired⟩ := id dead
  generalize after : target.storage.allowances = allowed
  have changed := (executes_iff_effect.mp executed).allowances
  rw [after] at changed
  cases changed with
  | @grant named amount _ expires spenderAddr _ _ valid _ _ _ grants =>
      by_cases same : (owner, spender) = (info.sender, spenderAddr)
      · obtain ⟨rfl, rfl⟩ := Prod.mk.inj same
        cases expires with
        | some expiration =>
            exact Or.inl ⟨rfl, (api.addrValidate_unchanged valid).symm, rfl⟩
        | none =>
            obtain ⟨allowance, _, rfl⟩ := grants
            refine Or.inr ⟨_, Std.ExtTreeMap.getElem?_insert_self, ?_⟩
            rw [present]
            exact expired
      · exact Or.inr (dead.of_eq (grants.others same))
  | @lower named amount expires spenderAddr _ valid _ lowers =>
      by_cases same : (owner, spender) = (info.sender, spenderAddr)
      · obtain ⟨rfl, rfl⟩ := Prod.mk.inj same
        have byOwner := (api.addrValidate_unchanged valid).symm
        cases lowers with
        | removed _ _ =>
            refine Or.inl ⟨rfl, byOwner, Or.inr ?_⟩
            dsimp only
            rw [after]
            exact Std.ExtTreeMap.getElem?_erase_self
        | lowered found _ _ =>
            obtain rfl := Option.some.inj (present.symm.trans found)
            cases expires with
            | some expiration => exact Or.inl ⟨rfl, byOwner, Or.inl rfl⟩
            | none => exact Or.inr ⟨_, Std.ExtTreeMap.getElem?_insert_self, expired⟩
      · exact Or.inr (dead.of_eq (lowers.others same))
  | @draw _ _ ownerAddr _ _ _ _ draws =>
      by_cases same : (owner, spender) = (ownerAddr, info.sender)
      · obtain ⟨rfl, rfl⟩ := Prod.mk.inj same
        obtain ⟨drawn, left, found, _, kept, _⟩ := draws.entry
        obtain rfl := Option.some.inj (present.symm.trans found)
        exact Or.inr ⟨_, kept, expired⟩
      · exact Or.inr (dead.of_eq (draws.others same))
  | keep _ _ => exact Or.inr dead

/-- Once an allowance has expired at `block`, and as long as the blocks do not go
back before it, the spender does not succeed in drawing on it until the owner
has renewed or removed it. -/
theorem dead_until_renewed {start visited chain : Chain}
    {before after : List (Event Chain Call)}
    (run : (tokenSystem api genesis).Run start (before ++ after) chain)
    (reached : (tokenSystem api genesis).Run start before visited)
    (dead : Dead block owner spender visited.storage.allowances)
    (ordered : ∀ event ∈ after, NotBefore block event.label.env.block) :
    EachStep after fun between event =>
      DrawsOn owner spender event → ∃ past ∈ between, Renews owner spender past := by
  obtain ⟨state, split, continued⟩ := run.split
  obtain rfl := reached.state_unique split
  have inOrder : (((tokenSystem api genesis).startingAt visited).restrict fun call =>
      NotBefore block call.env.block).Run visited after chain := continued.restrict ordered
  refine inOrder.until_released (fun chain => Dead block owner spender chain.storage.allowances)
    ?_ ?_ dead
  · intro event step stillDead
    exact renews_or_dead step.2.2.1 stillDead
  · intro event step stillDead
    exact not_drawsOn_of_dead step.2.2.1 step.1 stillDead

/-- Carol's allowance expires at 60 s. At 90 s alice raises it without a new
expiration and sends carol tokens, which she burns; carol draws nothing, and at
120 s her draw fails. -/
theorem dead_after_increase :
    ∃ start before after chain,
      (tokenSystem sampleApi (sampleGenesis 1000000 none)).Run start (before ++ after) chain ∧
      before.map Event.label =
        [callAt 30 "alice" (.increaseAllowance "carol" 500 (some (.atTime ⟨60000000000⟩)))] ∧
      after.map Event.label =
        [callAt 90 "alice" (.increaseAllowance "carol" 300 none),
          callAt 95 "alice" (.send "carol" 100 []), callAt 120 "carol" (.burn 100)] ∧
      (EachStep after fun between event =>
        DrawsOn ⟨"alice"⟩ ⟨"carol"⟩ event →
          ∃ past ∈ between, Renews ⟨"alice"⟩ ⟨"carol"⟩ past) ∧
      (Handler.run (execute sampleApi (blockAt 120) ⟨⟨"carol"⟩⟩ (.transferFrom "alice" "bob" 10))
        chain.storage).map Prod.fst = some (.error .expired) := by
  obtain ⟨start, before, visited, reached, labels, passed⟩ :=
    exists_run sampleApi (sampleGenesis 1000000 none)
      [callAt 30 "alice" (.increaseAllowance "carol" 500 (some (.atTime ⟨60000000000⟩)))]
      (fun _ visited =>
        decide (Dead (blockAt 60).block ⟨"alice"⟩ ⟨"carol"⟩ visited.storage.allowances) &&
        (System.replay (advance sampleApi) visited
          [callAt 90 "alice" (.increaseAllowance "carol" 300 none),
            callAt 95 "alice" (.send "carol" 100 []),
            callAt 120 "carol" (.burn 100)]).any fun outcome => decide (
              ((Handler.run (execute sampleApi (blockAt 120) ⟨⟨"carol"⟩⟩
                (.transferFrom "alice" "bob" 10)) outcome.2.storage).map Prod.fst) =
                  some (.error .expired)))
      (by decide +kernel)
  obtain ⟨isDead, replays⟩ := Bool.and_eq_true_iff.mp passed
  obtain ⟨⟨after, chain⟩, replayed, refused⟩ := (Option.any_eq_true _ _).mp replays
  have run := reached.replay (fun _ _ _ advanced => step_of_advance advanced) replayed
  have laterLabels := replay_labels replayed
  have ordered : ∀ event ∈ after, NotBefore (blockAt 60).block event.label.env.block := by
    have allLater : ∀ call ∈ [callAt 90 "alice" (.increaseAllowance "carol" 300 none),
        callAt 95 "alice" (.send "carol" 100 []), callAt 120 "carol" (.burn 100)],
        NotBefore (blockAt 60).block call.env.block := by decide
    intro event member
    apply allLater
    rw [← laterLabels]
    exact List.mem_map_of_mem member
  exact ⟨start, before, after, chain, run, labels, laterLabels,
    dead_until_renewed run reached (of_decide_eq_true isDead) ordered,
    of_decide_eq_true refused⟩

end DemurrageToken.Properties
