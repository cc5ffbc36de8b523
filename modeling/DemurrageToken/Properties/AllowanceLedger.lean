import DemurrageToken.Contract.Replay
import DemurrageToken.Library.Allowance
import DemurrageToken.Spec.Invariants

/-!
Contract: the stored allowances against the reference ledger.

The storage keeps the reference ledger of every pair, with one difference: an
`IncreaseAllowance` grants the amount of the message and its base value on top.

Owns: the operations of a run on one allowance, the simulation with the grants
the code makes, and the runs in which these are the grants the owners asked for.

Does not own: what the drawn amounts do to the balances.
-/

namespace DemurrageToken.Properties

open DemurrageToken.Library
open DemurrageToken.Library.System
open DemurrageToken.Library.Allowance
open DemurrageToken.Contract
open DemurrageToken.Spec

/-- A stored entry as one of the reference ledger. -/
def entryOf (stored : AllowanceResponse) : Entry Expiration :=
  ⟨stored.allowance.toNat, stored.expires⟩

/-- What the storage holds for a pair of owner and spender. -/
def storedEntry (storage : Storage) (owner spender : Addr) : Entry Expiration :=
  entryOf (storage.allowances[(owner, spender)]?.getD default)

/-- The grant an owner asks for. -/
def requested (event : Event Chain Call) : Nat :=
  match event.label.msg with
  | .increaseAllowance _ amount _ => amount.toNat
  | _ => 0

/-- The base value of the amount of an `IncreaseAllowance`, at the stored modifier. -/
def surcharge (event : Event Chain Call) : Nat :=
  match event.label.msg, event.source.storage.state with
  | .increaseAllowance _ amount _, some current =>
      ((toBaseAmount amount current.demurrageAmount).getD 0).toNat
  | _, _ => 0

/-- The operation of an event on the allowance of a pair, with the given grant. -/
def operation (grant : Event Chain Call → Nat) (owner spender : Addr)
    (event : Event Chain Call) : Option (Operation Expiration) :=
  match event.label.msg with
  | .increaseAllowance named _ expires =>
      if (event.label.info.sender, (⟨named⟩ : Addr)) = (owner, spender) then
        some (.grant (grant event) expires)
      else
        none
  | .decreaseAllowance named amount expires =>
      if (event.label.info.sender, (⟨named⟩ : Addr)) = (owner, spender) then
        some (.lower amount.toNat expires)
      else
        none
  | msg =>
      match delegation msg with
      | some (named, amount) =>
          if ((⟨named⟩ : Addr), event.label.info.sender) = (owner, spender) then
            some (.draw amount.toNat)
          else
            none
      | none => none

/-- The operations of a history on the allowance of a pair. -/
def operations (grant : Event Chain Call → Nat) (owner spender : Addr)
    (events : List (Event Chain Call)) : List (Operation Expiration) :=
  events.filterMap (operation grant owner spender)

/-- The grant the code makes. -/
def credited (event : Event Chain Call) : Nat :=
  requested event + surcharge event

variable {api : Api} {genesis : Genesis}

/-! ## Simulation -/

theorem operation_of_delegation {grant : Event Chain Call → Nat} {owner spender : Addr}
    {event : Event Chain Call} {named : String} {amount : U128}
    (delegated : delegation event.label.msg = some (named, amount)) :
    operation grant owner spender event =
      if ((⟨named⟩ : Addr), event.label.info.sender) = (owner, spender) then
        some (.draw amount.toNat)
      else
        none := by
  unfold operation
  split
  · rename_i same
    rw [same] at delegated
    cases delegated
  · rename_i same
    rw [same] at delegated
    cases delegated
  · rw [delegated]

theorem operation_eq_none {grant : Event Chain Call → Nat} {owner spender : Addr}
    {event : Event Chain Call} (direct : delegation event.label.msg = none)
    (noOwner : setsAllowance event.label.msg = false) :
    operation grant owner spender event = none := by
  unfold operation
  split
  · rename_i same
    rw [same] at noOwner
    cases noOwner
  · rename_i same
    rw [same] at noOwner
    cases noOwner
  · rw [direct]

section OneEntry

variable {key : Addr × Addr} {expires : Option Expiration} {before after : Allowances}

theorem entry_after_grant {amount : Nat} (grants : Grants key amount expires before after) :
    entryOf (after[key]?.getD default) =
      (entryOf (before[key]?.getD default)).apply (.grant amount expires) := by
  obtain ⟨allowance, raised, rfl⟩ := grants
  rw [Std.ExtTreeMap.getElem?_insert_self]
  simp only [Option.getD_some, entryOf, Entry.apply, raised]

theorem entry_after_lower {amount : U128} (lowers : Lowers key amount expires before after) :
    entryOf (after[key]?.getD default) =
      (entryOf (before[key]?.getD default)).apply (.lower amount.toNat expires) := by
  cases lowers with
  | lowered present covered difference =>
      rw [Std.ExtTreeMap.getElem?_insert_self, present, Option.getD_some, Option.getD_some,
        Entry.apply_lower_of_lt covered]
      simp only [entryOf, ← difference, Nat.add_sub_cancel]
  | removed present exhausted =>
      rw [Std.ExtTreeMap.getElem?_erase_self, present, Option.getD_none, Option.getD_some,
        Entry.apply_lower_of_le exhausted]
      rfl

theorem entry_after_draw {block : BlockInfo} {amount : U128}
    (draws : Draws block key amount before after) :
    entryOf (after[key]?.getD default) =
        (entryOf (before[key]?.getD default)).apply (.draw amount.toNat) ∧
      amount.toNat ≤ (entryOf (before[key]?.getD default)).amount := by
  obtain ⟨entry, left, present, _, lowered, difference⟩ := draws.entry
  rw [present, lowered]
  simp only [Option.getD_some, entryOf, Entry.apply, Entry.mk.injEq, and_true]
  omega

end OneEntry

/-- One message acts on the stored entry of a pair as its operation does on the
reference, and a draw is covered by the stored entry. -/
theorem storedEntry_step {chain next : Chain} {call : Call} {owner spender : Addr}
    (effect : Effect api call.env call.info.sender chain.storage next.storage call.msg) :
    storedEntry next.storage owner spender =
        (operation credited owner spender ⟨chain, call, next⟩).elim
          (storedEntry chain.storage owner spender)
          (storedEntry chain.storage owner spender).apply ∧
      ∀ operated ∈ operation credited owner spender ⟨chain, call, next⟩,
        operated.CoveredBy (storedEntry chain.storage owner spender) := by
  obtain ⟨env, info, msg⟩ := call
  have step := effect.allowances
  unfold storedEntry
  dsimp only at *
  generalize next.storage.allowances = updated at step
  cases step with
  | @grant named amount baseValue expires spenderAddr current _ valid _ stored converted grants =>
      obtain rfl := api.addrValidate_eq valid
      have grantMade : credited ⟨chain, ⟨env, info, .increaseAllowance named amount expires⟩,
          next⟩ = amount.toNat + baseValue.toNat := by
        simp [credited, requested, surcharge, stored, converted]
      by_cases same : (info.sender, (⟨named⟩ : Addr)) = (owner, spender)
      · simp only [operation, if_pos same, Option.elim_some, grantMade]
        rw [← same]
        refine ⟨entry_after_grant grants, ?_⟩
        rintro _ ⟨⟩ _ ⟨⟩
      · simp only [operation, if_neg same, Option.elim_none]
        rw [grants.others (Ne.symm same)]
        exact ⟨rfl, fun _ operated => by cases operated⟩
  | @lower named amount expires spenderAddr _ valid _ lowers =>
      obtain rfl := api.addrValidate_eq valid
      by_cases same : (info.sender, (⟨named⟩ : Addr)) = (owner, spender)
      · simp only [operation, if_pos same, Option.elim_some]
        rw [← same]
        refine ⟨entry_after_lower lowers, ?_⟩
        rintro _ ⟨⟩ _ ⟨⟩
      · simp only [operation, if_neg same, Option.elim_none]
        rw [lowers.others (Ne.symm same)]
        exact ⟨rfl, fun _ operated => by cases operated⟩
  | @draw _ named ownerAddr amount _ delegated valid draws =>
      obtain rfl := api.addrValidate_eq valid
      rw [operation_of_delegation delegated]
      dsimp only
      by_cases same : ((⟨named⟩ : Addr), info.sender) = (owner, spender)
      · rw [if_pos same, ← same]
        refine ⟨(entry_after_draw draws).1, ?_⟩
        rintro _ ⟨⟩ _ ⟨⟩
        exact (entry_after_draw draws).2
      · rw [if_neg same, draws.others (Ne.symm same)]
        exact ⟨rfl, fun _ operated => by cases operated⟩
  | keep direct noOwner =>
      rw [operation_eq_none direct noOwner]
      exact ⟨rfl, fun _ operated => by cases operated⟩

theorem operations_append_singleton {grant : Event Chain Call → Nat} {owner spender : Addr}
    {events : List (Event Chain Call)} {event : Event Chain Call} :
    operations grant owner spender (events ++ [event]) =
      operations grant owner spender events ++ (operation grant owner spender event).toList := by
  unfold operations
  rw [List.filterMap_append, List.filterMap_cons, List.filterMap_nil]
  cases operation grant owner spender event <;> rfl

theorem balance_operations_append {grant : Event Chain Call → Nat} {owner spender : Addr}
    {events : List (Event Chain Call)} {event : Event Chain Call} :
    balance (operations grant owner spender (events ++ [event])) =
      (operation grant owner spender event).elim
        (balance (operations grant owner spender events))
        (balance (operations grant owner spender events)).apply := by
  rw [operations_append_singleton]
  cases operation grant owner spender event with
  | none => rw [Option.toList_none, List.append_nil, Option.elim_none]
  | some operated => rw [Option.toList_some, balance_append_singleton, Option.elim_some]

/-- In every run the stored entry is the reference one for the grants the code
makes, and every draw was covered. -/
theorem storedEntry_eq_balance {start chain : Chain} {events : List (Event Chain Call)}
    {owner spender : Addr} (run : (tokenSystem api genesis).Run start events chain) :
    storedEntry chain.storage owner spender = balance (operations credited owner spender events) ∧
      Covered (operations credited owner spender events) := by
  induction run with
  | nil initial =>
      obtain ⟨_, _, _, _, _, result⟩ := instantiates_of_init initial
      rw [result]
      refine ⟨?_, .nil⟩
      unfold storedEntry
      rw [Std.ExtTreeMap.getElem?_empty]
      rfl
  | @extend events chain next call before step inductionHypothesis =>
      obtain ⟨stands, covered⟩ := inductionHypothesis
      obtain ⟨moved, within⟩ := @storedEntry_step _ _ _ _ owner spender (effect_of_step step)
      rw [balance_operations_append, moved, stands, operations_append_singleton]
      refine ⟨rfl, ?_⟩
      cases operated : operation credited owner spender ⟨chain, call, next⟩ with
      | none =>
          rw [Option.toList_none, List.append_nil]
          exact covered
      | some last =>
          apply covered.snoc
          rw [← stands]
          exact within last operated

/-! ## The reference with the grants asked for -/

/-- `query_allowance` reports the reference entry of every pair it answers for. -/
def ReportsReference (api : Api) (events : List (Event Chain Call)) (chain : Chain) : Prop :=
  ∀ owner spender stored, queryAllowance api chain.storage owner spender = .ok stored →
    entryOf stored = balance (operations requested ⟨owner⟩ ⟨spender⟩ events)

/-- The allowances follow the reference ledger: they report it, and no spender
has drawn more than the owner granted. -/
def FollowsReference (api : Api) (events : List (Event Chain Call)) (chain : Chain) : Prop :=
  ReportsReference api events chain ∧
    ∀ owner spender, drawn (operations requested owner spender events) ≤
      granted (operations requested owner spender events)

/-- The event is no grant, or one of nothing, or its sender is no account the
queries answer for. -/
def GrantsNothing (api : Api) (event : Event Chain Call) : Prop :=
  match event.label.msg with
  | .increaseAllowance _ amount _ => Validates api event.label.info.sender → amount = 0
  | _ => True

instance (event : Event Chain Call) : Decidable (GrantsNothing api event) := by
  unfold GrantsNothing Validates
  split <;> infer_instance

theorem reportsReference_iff {chain : Chain} {events : List (Event Chain Call)} :
    ReportsReference api events chain ↔
      ∀ owner spender, Validates api owner → Validates api spender →
        storedEntry chain.storage owner spender =
          balance (operations requested owner spender events) := by
  constructor
  · intro reports owner spender ownerValid spenderValid
    exact reports owner.asStr spender.asStr _
      (queryAllowance_eq_ok.mpr ⟨owner, spender, ownerValid, spenderValid, rfl⟩)
  · intro stands owner spender stored queried
    obtain ⟨ownerAddr, spenderAddr, ownerValid, spenderValid, rfl⟩ :=
      queryAllowance_eq_ok.mp queried
    rw [← api.addrValidate_eq ownerValid, ← api.addrValidate_eq spenderValid]
    exact stands ownerAddr spenderAddr (validates_of_addrValidate ownerValid)
      (validates_of_addrValidate spenderValid)

/-- Nothing converts to nothing. -/
theorem surcharge_of_zero {event : Event Chain Call} (nothing : requested event = 0) :
    surcharge event = 0 := by
  unfold surcharge
  split
  · rename_i spender amount expires current grants _
    simp only [requested, grants] at nothing
    cases converted : toBaseAmount amount current.demurrageAmount with
    | none => rfl
    | some base =>
        rw [Option.getD_some, (toBaseAmount_value converted).2, nothing, Nat.zero_mul,
          Nat.zero_div]
  · rfl

/-- On the allowances of a validated owner, an event that grants nothing acts
as it is asked to. -/
theorem operation_credited {owner spender : Addr} {event : Event Chain Call}
    (valid : Validates api owner) (nothing : GrantsNothing api event) :
    operation credited owner spender event = operation requested owner spender event := by
  obtain ⟨source, ⟨env, info, msg⟩, target⟩ := event
  cases msg with
  | increaseAllowance named amount expires =>
      by_cases same : (info.sender, (⟨named⟩ : Addr)) = (owner, spender)
      · have senderValid : Validates api info.sender := by
          rw [(Prod.mk.inj same).1]
          exact valid
        have zero : amount = 0 := nothing senderValid
        subst zero
        simp only [operation, credited]
        rw [surcharge_of_zero rfl, Nat.add_zero]
      · simp only [operation, if_neg same]
  | _ => rfl

/-- Where the reference is reported before and after a grant, nothing came on
top of the grant. -/
theorem surcharge_eq_zero_of_reports {env : Env} {info : MessageInfo} {named : String}
    {amount : U128} {expires : Option Expiration} {chain next : Chain}
    {events : List (Event Chain Call)}
    (effect : Effect api env info.sender chain.storage next.storage
      (.increaseAllowance named amount expires))
    (senderValid : Validates api info.sender)
    (reports : ∀ owner spender, Validates api owner → Validates api spender →
      storedEntry chain.storage owner spender = balance (operations requested owner spender events))
    (follows : ∀ owner spender, Validates api owner → Validates api spender →
      storedEntry next.storage owner spender = balance (operations requested owner spender
        (events ++ [⟨chain, ⟨env, info, .increaseAllowance named amount expires⟩, next⟩]))) :
    surcharge ⟨chain, ⟨env, info, .increaseAllowance named amount expires⟩, next⟩ = 0 := by
  have spenderValid : Validates api ⟨named⟩ := by
    cases effect with
    | increaseAllowance valid _ _ _ _ _ =>
        rw [← api.addrValidate_eq valid]
        exact validates_of_addrValidate valid
  have stands := follows info.sender ⟨named⟩ senderValid spenderValid
  have moved := (@storedEntry_step _ _ _ ⟨env, info, _⟩ info.sender ⟨named⟩ effect).1
  rw [moved, balance_operations_append, reports info.sender ⟨named⟩ senderValid spenderValid]
    at stands
  simp only [operation, if_true, Option.elim_some, Entry.apply, Entry.mk.injEq, credited] at stands
  omega

/-- A step keeps reporting the reference exactly if it grants nothing. -/
theorem step_reports_iff {start chain next : Chain} {call : Call}
    {events : List (Event Chain Call)} (before : (tokenSystem api genesis).Run start events chain)
    (step : (tokenSystem api genesis).step chain call next)
    (reports : ReportsReference api events chain) :
    ReportsReference api (events ++ [⟨chain, call, next⟩]) next ↔
      GrantsNothing api ⟨chain, call, next⟩ := by
  have effect := effect_of_step step
  rw [reportsReference_iff] at reports ⊢
  constructor
  · intro follows
    obtain ⟨env, info, msg⟩ := call
    cases msg with
    | increaseAllowance named amount expires =>
        intro senderValid
        have zero := surcharge_eq_zero_of_reports effect senderValid reports follows
        obtain ⟨current, stored, kept⟩ := (wellFormed_of_reachable before.reachable).record
        cases effect with
        | increaseAllowance _ _ same converted _ _ =>
            obtain rfl := Option.some.inj (stored.symm.trans same)
            have least := le_toBaseAmount converted kept.bounded
            simp only [surcharge, stored, converted, Option.getD_some] at zero
            rw [zero] at least
            exact BitVec.eq_of_toNat_eq (Nat.le_zero.mp least)
    | _ => trivial
  · intro nothing owner spender ownerValid spenderValid
    rw [(storedEntry_step effect).1, balance_operations_append,
      operation_credited ownerValid nothing, reports owner spender ownerValid spenderValid]

/-- A draw names a validated owner. -/
theorem draw_validates {event : Event Chain Call} {owner spender : Addr} {amount : Nat}
    (effect : Effect api event.label.env event.label.info.sender event.source.storage
      event.target.storage event.label.msg)
    (drawing : operation requested owner spender event = some (.draw amount)) :
    Validates api owner := by
  obtain ⟨source, ⟨env, info, msg⟩, target⟩ := event
  have step := effect.allowances
  dsimp only at step
  generalize target.storage.allowances = updated at step
  cases step with
  | grant _ _ _ _ _ =>
      simp only [operation] at drawing
      split at drawing
      · cases drawing
      · cases drawing
  | lower _ _ _ =>
      simp only [operation] at drawing
      split at drawing
      · cases drawing
      · cases drawing
  | draw delegated valid _ =>
      rw [operation_of_delegation delegated] at drawing
      split at drawing
      · rename_i same
        rw [← (Prod.mk.inj same).1, ← api.addrValidate_eq valid]
        exact validates_of_addrValidate valid
      · cases drawing
  | keep direct noOwner =>
      rw [operation_eq_none direct noOwner] at drawing
      cases drawing

/-- In a run that grants nothing, nobody draws more than was granted. -/
theorem drawn_le_granted {start chain : Chain} {events : List (Event Chain Call)}
    (run : (tokenSystem api genesis).Run start events chain)
    (nothing : ∀ event ∈ events, GrantsNothing api event) (owner spender : Addr) :
    drawn (operations requested owner spender events) ≤
      granted (operations requested owner spender events) := by
  by_cases valid : Validates api owner
  · have same : operations credited owner spender events =
        operations requested owner spender events :=
      List.filterMap_congr fun event member => operation_credited valid (nothing event member)
    rw [← same]
    exact (storedEntry_eq_balance run).2.drawn_le_granted
  · rw [drawn_eq_zero]
    · exact Nat.zero_le _
    · intro amount member
      obtain ⟨event, listed, drawing⟩ := List.mem_filterMap.mp member
      exact valid (draw_validates (effect_of_step (run.event event listed).2) drawing)

/-! ## Runs -/

/-- The allowances follow the reference ledger all along a run exactly when no
grant of the run is of a positive amount. -/
theorem followsReference_throughout_iff {start chain : Chain} {events : List (Event Chain Call)}
    (run : (tokenSystem api genesis).Run start events chain) :
    (tokenSystem api genesis).Throughout start events (FollowsReference api) ↔
      ∀ event ∈ events, GrantsNothing api event := by
  have reported : (tokenSystem api genesis).Throughout start events (ReportsReference api) ↔
      ∀ event ∈ events, GrantsNothing api event := by
    rw [← eachStep_iff_forall_mem]
    refine Run.throughout_iff_eachStep ?_ ?_ run
    · intro initial
      rw [reportsReference_iff]
      intro owner spender _ _
      exact (storedEntry_eq_balance (.nil initial)).1
    · intro earlier state call next before step reports
      exact step_reports_iff before step reports
  constructor
  · intro follows
    apply reported.mp
    intro earlier visited inside reached
    exact (follows earlier visited inside reached).1
  · intro nothing earlier visited inside reached
    refine ⟨reported.mpr nothing earlier visited inside reached, ?_⟩
    exact drawn_le_granted reached fun event member => nothing event (inside.subset member)

/-- Granting nothing, but until a height, and drawing nothing. -/
theorem followsReference_throughout_empty_grant :
    ∃ start events chain,
      (tokenSystem sampleApi (sampleGenesis 1000000 none)).Run start events chain ∧
      events.map Event.label =
        [callAt 30 "alice" (.increaseAllowance "carol" 0 (some (.atHeight 5))),
          callAt 40 "carol" (.transferFrom "alice" "bob" 0)] ∧
      (tokenSystem sampleApi (sampleGenesis 1000000 none)).Throughout start events
        (FollowsReference sampleApi) := by
  obtain ⟨start, events, chain, run, labels, passed⟩ :=
    exists_run sampleApi (sampleGenesis 1000000 none)
      [callAt 30 "alice" (.increaseAllowance "carol" 0 (some (.atHeight 5))),
        callAt 40 "carol" (.transferFrom "alice" "bob" 0)]
      (fun events _ => decide (∀ event ∈ events, GrantsNothing sampleApi event))
      (by decide +kernel)
  have nothing := of_decide_eq_true passed
  exact ⟨start, events, chain, run, labels, (followsReference_throughout_iff run).mpr nothing⟩

/-- A grant of 500 lets the spender draw 600, with 400 left. -/
theorem spender_overdraws :
    ∃ start events chain stored,
      (tokenSystem sampleApi (sampleGenesis 1000000 none)).Run start events chain ∧
      events.map Event.label =
        [callAt 30 "alice" (.increaseAllowance "carol" 500 none),
          callAt 40 "carol" (.transferFrom "alice" "bob" 600)] ∧
      queryAllowance sampleApi chain.storage "alice" "carol" = .ok stored ∧
      stored.allowance = 400 ∧
      (balance (operations requested ⟨"alice"⟩ ⟨"carol"⟩ events)).amount = 0 ∧
      granted (operations requested ⟨"alice"⟩ ⟨"carol"⟩ events) <
        drawn (operations requested ⟨"alice"⟩ ⟨"carol"⟩ events) ∧
      ¬ FollowsReference sampleApi events chain := by
  obtain ⟨start, events, chain, run, labels, passed⟩ :=
    exists_run sampleApi (sampleGenesis 1000000 none)
      [callAt 30 "alice" (.increaseAllowance "carol" 500 none),
        callAt 40 "carol" (.transferFrom "alice" "bob" 600)]
      (fun events chain => decide (
        (chain.storage.allowances[((⟨"alice"⟩, ⟨"carol"⟩) : Addr × Addr)]?.getD
          default).allowance = 400 ∧
        (balance (operations requested ⟨"alice"⟩ ⟨"carol"⟩ events)).amount = 0 ∧
        granted (operations requested ⟨"alice"⟩ ⟨"carol"⟩ events) <
          drawn (operations requested ⟨"alice"⟩ ⟨"carol"⟩ events)))
      (by decide +kernel)
  obtain ⟨left, exhausted, overdrawn⟩ := of_decide_eq_true passed
  refine ⟨start, events, chain, _, run, labels,
    queryAllowance_eq_ok.mpr ⟨⟨"alice"⟩, ⟨"carol"⟩, rfl, rfl, rfl⟩, left, exhausted, overdrawn, ?_⟩
  intro follows
  have bounded := follows.2 ⟨"alice"⟩ ⟨"carol"⟩
  omega

end DemurrageToken.Properties
