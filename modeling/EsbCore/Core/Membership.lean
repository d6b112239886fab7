/-
  File:      EsbCore/Core/Membership.lean
  Subject:   WHAT THE CORE NODE KNOWS AND REPORTS, over every run of its actor.

  The set of seeds. A seed goes in with every join and none ever leaves (`seeds_removeSeed`), so
  the set holds one seed for every join of an address (`count_seeds`).
  * `MembershipExact` -- the set, and every snapshot built from it, lists the nodes up, each once;
  * `membershipExact_iff` -- that holds at every moment of a run exactly when in the run nothing
    follows the join of an address: no departure and no second join.

  The reports. The two departures, unreachable and removed, are reported alike.
  * `Lifecycle` -- the runs of a cluster: a join of a node that is out, everything else of a node
    that is in;
  * `Alternating` -- for every address joins and leaves in turn, a node reported as left is out,
    one leave for each removal;
  * `alternating_iff` -- that holds at every moment of such a run exactly when nobody becomes
    unreachable in it.
-/
import EsbCore.Core.CoreServerActor

namespace EsbCore

open Java Lib

namespace CoreServerActor

/-! ## 1. The set of seeds -/

/-- A set of seeds lists the nodes up after the run, each once: those whose latest signal is a
    join. -/
def Lists (s : HashSet AkkaSeed.equals) (es : List ClusterMessage) : Prop :=
  ∀ a, (s.elems.map AkkaSeed.address).count a = if latest a (signals es) = some true then 1 else 0

/-- The set lists the nodes up, and so does the set of a snapshot built by the last message. -/
structure MembershipExact (es : List ClusterMessage) : Prop where
  seeds : Lists (machine.after es).seeds es
  snapshot : ∀ p m, es = p ++ [m] → ∀ target r,
    CoreOutput.tellSelection target (.nodeSeedAllEvent r) ∈ (machine.step (machine.after p) m).2 →
      ∃ s, (machine.after es).deref r = some s ∧ Lists s es

/-- **One seed for every join of an address.** -/
theorem count_seeds (es : List ClusterMessage) (a : Address) :
    ((machine.after es).seeds.elems.map AkkaSeed.address).count a =
      (signalsOf a (signals es)).count true := by
  refine machine.history_inv (I := fun es s _ => (s.seeds.elems.map AkkaSeed.address).count a =
    (signalsOf a (signals es)).count true) rfl ?_ es
  intro es s os m ih
  rw [signals_concat, signalsOf_append, List.count_append, ← ih]
  cases m with
  | memberUp m =>
    show ((s.addSeed m).seeds.elems.map AkkaSeed.address).count a = _
    rw [seeds_addSeed, List.map_append, List.count_append]
    congr 1
    show List.count a [m.address] = (signalsOf a [(m.address, true)]).count true
    rw [signalsOf_singleton]
    by_cases h : m.address = a
    · simp [h]
    · simp [h]
  | unreachableMember m =>
    show ((s.removeSeed m).seeds.elems.map AkkaSeed.address).count a =
      _ + (signalsOf a [(m.address, false)]).count true
    rw [seeds_removeSeed, signalsOf_singleton]
    split <;> simp
  | memberRemoved m =>
    show ((s.removeSeed m).seeds.elems.map AkkaSeed.address).count a =
      _ + (signalsOf a [(m.address, false)]).count true
    rw [seeds_removeSeed, signalsOf_singleton]
    split <;> simp
  | memberEvent m => rfl
  | reachableMember m => rfl
  | other => rfl

theorem lists_iff (es : List ClusterMessage) :
    Lists (machine.after es).seeds es ↔ ∀ a, true ∉ (signalsOf a (signals es)).dropLast := by
  refine forall_congr' fun a => ?_
  rw [count_seeds]
  exact count_true_iff _

/-- The actor has one set for life. -/
theorem seedsRef_after (es : List ClusterMessage) : (machine.after es).seedsRef = 0 :=
  machine.state_inv (P := fun s => s.seedsRef = 0) rfl
    (fun s m h => (seedsRef_onReceive s m).trans h) es

/-- A snapshot denotes the actor's set, so it is exact when the set is. -/
theorem membershipExact_iff_lists (es : List ClusterMessage) :
    MembershipExact es ↔ Lists (machine.after es).seeds es := by
  refine ⟨MembershipExact.seeds, fun h => ⟨h, fun p m _ target r hr => ?_⟩⟩
  have href : r = (machine.after es).seedsRef :=
    (ref_of_nodeSeedAllEvent hr).trans ((seedsRef_after p).trans (seedsRef_after es).symm)
  exact ⟨_, if_pos href, h⟩

/-- **The core's set and its snapshots list exactly the nodes up, each once, at every moment of a
    run if and only if nothing follows the join of an address in it.** -/
theorem membershipExact_iff (es : List ClusterMessage) :
    (∀ p, p <+: es → MembershipExact p) ↔ ∀ a, true ∉ (signalsOf a (signals es)).dropLast := by
  refine forall_prefix_iff (fun es => (membershipExact_iff_lists es).trans (lists_iff es)) ?_ es
  intro p es hp h a hmem
  exact h a (mem_dropLast_mono (signalsOf_mono a (signals_mono hp)) hmem)

/-- A node that provides services. -/
def providerNode : Member := ⟨⟨"akka.tcp", "AkkaEsbSystem", "10.0.0.1", 2551⟩, ["provider"]⟩

/-- A node that joined and left is still in the set. -/
theorem not_membershipExact_departed :
    ¬ MembershipExact [.memberUp providerNode, .memberRemoved providerNode] := by
  intro h
  have hcount := h.seeds providerNode.address
  revert hcount
  decide

/-! ## 2. Runs of a cluster -/

/-- A message's say on who is a member: joining makes one, removal ends it, being unreachable
    does not. -/
def membership : ClusterMessage → Option (Address × Bool)
  | .memberUp m => some (m.address, true)
  | .memberRemoved m => some (m.address, false)
  | _ => none

/-- The node at `a` is a member after the run. -/
def IsMember (es : List ClusterMessage) (a : Address) : Prop :=
  latest a (es.filterMap membership) = some true

instance (es : List ClusterMessage) (a : Address) : Decidable (IsMember es a) :=
  inferInstanceAs (Decidable (latest a (es.filterMap membership) = some true))

/-- What may come after the run `es`: nobody joins who is in, and nobody else becomes unreachable
    or is removed. -/
def Allowed (es : List ClusterMessage) : ClusterMessage → Prop
  | .memberUp m => ¬ IsMember es m.address
  | .unreachableMember m => IsMember es m.address
  | .memberRemoved m => IsMember es m.address
  | .memberEvent _ => True
  | .reachableMember _ => True
  | .other => True

instance (es : List ClusterMessage) : (m : ClusterMessage) → Decidable (Allowed es m)
  | .memberUp m => inferInstanceAs (Decidable (¬ IsMember es m.address))
  | .unreachableMember m => inferInstanceAs (Decidable (IsMember es m.address))
  | .memberRemoved m => inferInstanceAs (Decidable (IsMember es m.address))
  | .memberEvent _ => isTrue trivial
  | .reachableMember _ => isTrue trivial
  | .other => isTrue trivial

/-- A run of a cluster: every message was allowed when it came. -/
def Lifecycle (es : List ClusterMessage) : Prop := ∀ p m, p ++ [m] <+: es → Allowed p m

theorem Lifecycle.mono {p es : List ClusterMessage} (h : Lifecycle es) (hp : p <+: es) :
    Lifecycle p := fun q m hq => h q m (hq.trans hp)

theorem lifecycle_concat {es : List ClusterMessage} {m : ClusterMessage} (h : Lifecycle es)
    (hm : Allowed es m) : Lifecycle (es ++ [m]) := (forall_steps_concat_iff es m).mpr ⟨h, hm⟩

theorem lifecycle_nil : Lifecycle [] := forall_steps_nil

/-! ## 3. The reports of a run -/

/-- How often the node at `a` was removed. -/
def departures (a : Address) (es : List ClusterMessage) : Nat :=
  (signalsOf a (es.filterMap membership)).count false

/-- Joins and leaves of every address are reported in turn, a node reported as left is out, and
    each removal is reported once. -/
structure Alternating (es : List ClusterMessage) : Prop where
  turns : ∀ a, Alternates true (reports a es)
  left : ∀ a, (reports a es).getLast? = some false → ¬ IsMember es a
  once : ∀ a, (reports a es).count false = departures a es

theorem signal_eq_membership {m : ClusterMessage} (h : ∀ x, m ≠ .unreachableMember x) :
    signal m = membership m := by
  cases m with
  | unreachableMember x => exact absurd rfl (h x)
  | memberUp x => rfl
  | memberRemoved x => rfl
  | memberEvent x => rfl
  | reachableMember x => rfl
  | other => rfl

/-- Where nobody becomes unreachable, the reports say who is a member. -/
theorem reports_eq_membership {es : List ClusterMessage}
    (h : ∀ m, ClusterMessage.unreachableMember m ∉ es) (a : Address) :
    reports a es = signalsOf a (es.filterMap membership) := by
  have hs : signals es = es.filterMap membership := by
    refine List.filterMap_congr fun m hm => signal_eq_membership fun x hx => ?_
    exact h x (hx ▸ hm)
  unfold reports
  rw [reports_eq_signals, hs]

/-- It is a join's turn exactly where the last signal is no join. -/
theorem turn_of_latest {xs : List Bool} : (turn true xs = false) ↔ xs.getLast? = some true := by
  unfold turn
  cases h : xs.getLast? with
  | none => simp
  | some x => cases x <;> simp

/-- What is allowed to join or to be removed has its turn. -/
theorem turn_of_allowed {es : List ClusterMessage} {m : ClusterMessage} {x : Address × Bool}
    (hx : membership m = some x) (h : Allowed es m) :
    turn true (signalsOf x.1 (es.filterMap membership)) = x.2 := by
  cases m with
  | memberUp m =>
    cases hx
    exact eq_true_of_ne_false (mt turn_of_latest.mp h)
  | memberRemoved m =>
    cases hx
    exact turn_of_latest.mpr h
  | unreachableMember m => cases hx
  | memberEvent m => cases hx
  | reachableMember m => cases hx
  | other => cases hx

/-- In a run of a cluster joins and removals of a node come in turn. -/
theorem alternates_membership {es : List ClusterMessage} (h : Lifecycle es) (a : Address) :
    Alternates true (signalsOf a (es.filterMap membership)) := by
  induction es using List.reverseRecOn with
  | nil => trivial
  | append_singleton es m ih =>
    have ih := ih (h.mono (List.prefix_append es [m]))
    have hm := h es m List.prefix_rfl
    rw [filterMap_concat, signalsOf_append]
    cases hx : membership m with
    | none =>
      rw [Option.toList_none, signalsOf_nil, List.append_nil]
      exact ih
    | some x =>
      rw [Option.toList_some, signalsOf_singleton]
      by_cases ha : x.1 = a
      · subst ha
        rw [if_pos rfl]
        exact (alternates_concat _ _ _).mpr ⟨ih, (turn_of_allowed hx hm).symm⟩
      · rw [if_neg ha, List.append_nil]
        exact ih

/-- **Without a node becoming unreachable, joins and leaves are reported in turn.** -/
theorem alternating_of_reachable {es : List ClusterMessage} (hL : Lifecycle es)
    (h : ∀ m, ClusterMessage.unreachableMember m ∉ es) : Alternating es where
  turns a := by
    rw [reports_eq_membership h]
    exact alternates_membership hL a
  left a hlast hin := by
    rw [reports_eq_membership h] at hlast
    have e : some false = some true := hlast.symm.trans hin
    cases e
  once a := by
    rw [reports_eq_membership h]
    rfl

/-- **A node that becomes unreachable is reported as left while it is a member.** -/
theorem not_alternating_unreachable {es : List ClusterMessage} {m : Member}
    (hL : Lifecycle (es ++ [.unreachableMember m])) :
    ¬ Alternating (es ++ [.unreachableMember m]) := by
  intro h
  have hin : IsMember es m.address := hL es (.unreachableMember m) List.prefix_rfl
  refine h.left m.address ?_ ?_
  · unfold reports
    rw [reports_eq_signals, signals_concat, signalsOf_append]
    show (_ ++ signalsOf m.address [(m.address, false)]).getLast? = some false
    rw [signalsOf_singleton, if_pos rfl, List.getLast?_concat]
  · unfold IsMember at hin ⊢
    rw [filterMap_concat]
    simpa [membership] using hin

/-- **In a run of a cluster joins and leaves are reported in turn at every moment if and only if
    nobody becomes unreachable in it.** -/
theorem alternating_iff (es : List ClusterMessage) (hL : Lifecycle es) :
    (∀ p, p <+: es → Alternating p) ↔ ∀ m, ClusterMessage.unreachableMember m ∉ es := by
  constructor
  · intro h m hm
    obtain ⟨p, q, rfl⟩ := List.append_of_mem hm
    have hp : p ++ [.unreachableMember m] <+: p ++ .unreachableMember m :: q :=
      ⟨q, by rw [List.append_assoc, List.singleton_append]⟩
    exact not_alternating_unreachable (hL.mono hp) (h _ hp)
  · intro h p hp
    exact alternating_of_reachable (hL.mono hp) fun m hm => h m (hp.subset hm)

/-- A node joins, is removed and joins again. -/
theorem alternating_rejoin :
    Alternating [.memberUp providerNode, .memberRemoved providerNode, .memberUp providerNode] := by
  have h1 : Lifecycle [.memberUp providerNode] := lifecycle_concat lifecycle_nil (by decide)
  have h2 : Lifecycle [.memberUp providerNode, .memberRemoved providerNode] :=
    lifecycle_concat h1 (by decide)
  have h3 : Lifecycle [.memberUp providerNode, .memberRemoved providerNode,
      .memberUp providerNode] := lifecycle_concat h2 (by decide)
  exact (alternating_iff _ h3).mpr (by simp) _ List.prefix_rfl

/-- A node joins, becomes unreachable and is removed: it is reported as left twice. -/
theorem not_alternating_downed :
    Lifecycle [.memberUp providerNode, .unreachableMember providerNode,
        .memberRemoved providerNode] ∧
      ¬ Alternating [.memberUp providerNode, .unreachableMember providerNode,
        .memberRemoved providerNode] := by
  have h1 : Lifecycle [.memberUp providerNode] := lifecycle_concat lifecycle_nil (by decide)
  have h2 : Lifecycle [.memberUp providerNode, .unreachableMember providerNode] :=
    lifecycle_concat h1 (by decide)
  refine ⟨lifecycle_concat h2 (by decide), fun h => ?_⟩
  have hturns := h.turns providerNode.address
  revert hturns
  decide

end CoreServerActor

end EsbCore
