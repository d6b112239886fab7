/-
  File:      EsbCore/Core/Snapshot.lean
  Subject:   SNAPSHOTS ON THEIR WAY TO A MONITOR (`org.esb.core.CoreServerActor`,
             `org.esb.monitor.MonitorEvent.NodeSeedAllEvent`).

  The core tells a monitor that joins the set of seeds: not a copy, but the set it works on. The
  event is serialised at some later moment, and the core goes on with its messages meanwhile.

  * `snapshots` -- the core as a sender of such events;
  * `denote_of_sent` -- what an event denotes when it is told is the set the core holds;
  * `snapshots_growing` -- a join adds a seed to what it denotes, all other messages leave it;
  * `stable_iff` -- so every monitor receives the set the core held when it told it exactly if no
    node joins between the telling and the serialising.
-/
import EsbCore.Core.CoreServerActor
import EsbCore.Lib.Reference
import Mathlib.Data.Finset.Card

namespace EsbCore

open Java Lib

namespace CoreServerActor

/-! ## 1. The core as a sender -/

/-- The snapshots among the outputs of a message: to whom, and which set. -/
def snapshotOf : CoreOutput → Option (ActorSelection × SetRef)
  | .tellSelection target (.nodeSeedAllEvent r) => some (target, r)
  | _ => none

/-- The core as a sender of snapshots: an event denotes the set behind its reference. -/
def snapshots : Sender CoreServerActor ClusterMessage (ActorSelection × SetRef)
    (Option (Finset AkkaSeed)) where
  start := new
  step self m := (self.onReceive m).1
  sends self m := (self.onReceive m).2.filterMap snapshotOf
  denote self t := (self.deref t.2).map fun seeds => seeds.elems.toFinset

/-- The set the core holds. -/
def held (self : CoreServerActor) : Finset AkkaSeed := self.seeds.elems.toFinset

/-- A message that lets no node join. -/
def NoJoin (m : ClusterMessage) : Prop := ∀ member, m ≠ .memberUp member

/-- How many seeds a snapshot has. -/
def seedCount (seeds : Option (Finset AkkaSeed)) : Nat := (seeds.map Finset.card).getD 0

theorem mem_sends {self : CoreServerActor} {m : ClusterMessage} {t : ActorSelection × SetRef}
    (h : t ∈ snapshots.sends self m) : t.2 = self.seedsRef := by
  obtain ⟨o, ho, hs⟩ := List.mem_filterMap.mp h
  unfold snapshotOf at hs
  split at hs
  · cases hs
    exact ref_of_nodeSeedAllEvent ho
  · cases hs

/-! ## 2. What a snapshot denotes -/

/-- A snapshot of the core's own set denotes what the core holds. -/
theorem denote_eq {self : CoreServerActor} {t : ActorSelection × SetRef}
    (h : t.2 = self.seedsRef) : snapshots.denote self t = some self.held := by
  show (self.deref t.2).map _ = _
  unfold deref
  rw [if_pos h]
  rfl

/-- When an event is told it denotes the set the core holds. -/
theorem denote_of_sent {self : CoreServerActor} {m : ClusterMessage}
    {t : ActorSelection × SetRef} (h : t ∈ snapshots.sends self m) :
    snapshots.denote (self.onReceive m).1 t = some (self.onReceive m).1.held :=
  denote_eq ((mem_sends h).trans (seedsRef_onReceive self m).symm)

theorem held_addSeed (self : CoreServerActor) (member : Member) :
    (self.addSeed member).held = insert (self.nextSeed member) self.held := by
  unfold held
  rw [seeds_addSeed, List.toFinset_append, Finset.union_comm]
  rfl

/-- The seed of a join is a new one. -/
theorem nextSeed_notMem_held (self : CoreServerActor) (member : Member) :
    self.nextSeed member ∉ self.held := by
  intro h
  have hlt := self.fresh _ (List.mem_toFinset.mp h)
  exact lt_irrefl _ hlt

/-- Every message but a join leaves the set as it is. -/
theorem held_of_noJoin (self : CoreServerActor) {m : ClusterMessage} (h : NoJoin m) :
    (self.onReceive m).1.held = self.held := by
  have hremove : ∀ member, (self.removeSeed member).held = self.held := by
    intro member
    unfold held
    rw [seeds_removeSeed]
  cases m with
  | memberUp member => exact absurd rfl (h member)
  | unreachableMember member => exact hremove member
  | memberRemoved member => exact hremove member
  | memberEvent member => rfl
  | reachableMember member => rfl
  | other => rfl

/-- **A snapshot denotes one seed more after every join**, and the same after everything else. -/
theorem snapshots_growing : snapshots.Growing (fun self t => t.2 = self.seedsRef) NoJoin
    seedCount where
  sent self m t h := (mem_sends h).trans (seedsRef_onReceive self m).symm
  kept self m t h := h.trans (seedsRef_onReceive self m).symm
  quiet self m t h hm := by
    have h' : t.2 = (self.onReceive m).1.seedsRef := h.trans (seedsRef_onReceive self m).symm
    show snapshots.denote (self.onReceive m).1 t = _
    rw [denote_eq h, denote_eq h', held_of_noJoin self hm]
  loud self m t h hm := by
    have h' : t.2 = (self.onReceive m).1.seedsRef := h.trans (seedsRef_onReceive self m).symm
    have hjoin : ∃ member, m = .memberUp member := by
      simpa [NoJoin] using hm
    obtain ⟨member, rfl⟩ := hjoin
    show _ < seedCount (snapshots.denote (self.onReceive (.memberUp member)).1 t)
    rw [denote_eq h, denote_eq h']
    show self.held.card < (self.addSeed member).held.card
    rw [held_addSeed, Finset.card_insert_of_notMem (self.nextSeed_notMem_held member)]
    exact Nat.lt_succ_self _

/-! ## 3. Stability -/

/-- Every monitor that was told the set receives it as the core held it then. -/
def SnapshotsStable (es : List (ReferenceEvent ClusterMessage)) : Prop := snapshots.Faithful es

/-- **Snapshots are stable in exactly the runs that serialise each before the next join.** -/
theorem stable_iff (es : List (ReferenceEvent ClusterMessage)) :
    SnapshotsStable es ↔ snapshots.ReadInTime NoJoin es :=
  snapshots_growing.faithful_iff es

/-- A node with a monitor. -/
def monitorNode : Member := ⟨⟨"akka.tcp", "AkkaEsbSystem", "10.0.0.2", 2551⟩, ["monitor"]⟩

/-- A node that provides services. -/
def servingNode : Member := ⟨⟨"akka.tcp", "AkkaEsbSystem", "10.0.0.3", 2551⟩, ["provider"]⟩

/-- A second node joins before the snapshot for the monitor is serialised: it goes out with two
    seeds, where the core held one. -/
theorem not_stable_second_join :
    (snapshots.machine.emitted [.act (.memberUp monitorNode), .act (.memberUp servingNode),
        .serialise 0]).map (fun r => (seedCount r.held, seedCount r.received)) = [(1, 2)] ∧
      ¬ SnapshotsStable [.act (.memberUp monitorNode), .act (.memberUp servingNode),
        .serialise 0] := by
  have hcounts : (snapshots.machine.emitted [.act (.memberUp monitorNode),
      .act (.memberUp servingNode), .serialise 0]).map
        (fun r => (seedCount r.held, seedCount r.received)) = [(1, 2)] := by decide
  refine ⟨hcounts, fun h => ?_⟩
  have hsame : ∀ x ∈ (snapshots.machine.emitted [.act (.memberUp monitorNode),
      .act (.memberUp servingNode), .serialise 0]).map
        (fun r => (seedCount r.held, seedCount r.received)), x.2 = x.1 := by
    intro x hx
    obtain ⟨r, hr, rfl⟩ := List.mem_map.mp hx
    exact congrArg seedCount (h r hr)
  rw [hcounts] at hsame
  exact absurd (hsame _ (List.mem_singleton_self _)) (by decide)

end CoreServerActor

end EsbCore
