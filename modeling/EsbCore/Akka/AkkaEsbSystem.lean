/-
  File:      EsbCore/Akka/AkkaEsbSystem.lean
  Subject:   THE START OF A NODE (`org.esb.akka.AkkaEsbSystem`) and whether the core's snapshots
             find an actor there (`org.esb.core.CoreServerActor`, `org.esb.monitor.MonitorCoreActor`).

  The core sends a snapshot to the monitor actor of a node that joins with the cluster role
  `monitor`, a name in the list the cluster read from the node's configuration. The node itself
  asks whether the text of its roles has `monitor` somewhere in it, and only where it has not
  `core` somewhere in it.

  * `config`, `startSpecialActor`, `start` -- the start, exceptions included;
  * `createsMonitorCore_iff` -- which texts make a node create the monitor actor, and
    `createsMonitorCore_intercalate_iff`: which lists of names do;
  * `snapshotsArrive_iff` -- every snapshot of a run finds its actor exactly when the text of every
    node that joins as a monitor is one of these.
-/
import EsbCore.Core.CoreServerActor
import EsbCore.Lib.Actor

namespace EsbCore

open Java Lib

/-! ## 1. The start -/

/-- The fields the start reads. -/
structure AkkaEsbSystem where
  systemName : String
  roles : Option String
  host : Option String
  port : Int
  seedNodes : Option (List String)
  deriving DecidableEq, Repr

/-- The actors a start creates. -/
inductive SpecialActor where
  | monitorClientActor | coreServerActor | monitorCoreActor
  deriving DecidableEq, Repr

/-- `system.actorOf(props, name)`. -/
structure ActorOf where
  actor : SpecialActor
  name : String
  deriving DecidableEq, Repr

namespace AkkaEsbSystem

/-- `s.indexOf(t) >= 0`. -/
def Contains (s t : String) : Prop := t.toList <:+: s.toList

instance (s t : String) : Decidable (Contains s t) :=
  inferInstanceAs (Decidable (t.toList <:+: s.toList))

variable (self : AkkaEsbSystem)

/-- `hasRole(role)`. -/
def hasRole (role : Role) : Except Throwable Bool :=
  match self.roles with
  | none => .error .nullPointer
  | some roles => .ok (decide (Contains roles role.text))

/-- The list of seed nodes, as the configuration has it: each in quotes, with commas between. -/
def nodes (seedNodes : List String) : String :=
  String.intercalate "," (seedNodes.map fun seed =>
    "\"akka.tcp://" ++ self.systemName ++ "@" ++ seed ++ "\"")

/-- The texts the configuration is parsed from, the one that counts most first. -/
def config : Except Throwable (List String) :=
  match self.seedNodes with
  | none => .error .nullPointer
  | some seedNodes => .ok (
    ["akka.actor.provider=akka.cluster.ClusterActorRefProvider",
      "akka.remote.netty.tcp.hostname=" ++ self.host.getD "null",
      "akka.remote.netty.tcp.port=" ++ toString self.port,
      "akka.cluster.auto-down = on"] ++
    (match self.roles with
      | none => []
      | some roles => if roles = "" then [] else ["akka.cluster.roles = [" ++ roles ++ "]"]) ++
    (if seedNodes = [] then []
      else ["akka.cluster.seed-nodes = [" ++ self.nodes seedNodes ++ "]"]))

/-- `MonitorCoreActor.ActorName`, as the start uses it. -/
def monitorCore : ActorOf := ⟨.monitorCoreActor, CoreServerActor.monitorCoreName⟩

/-- `startSpecialActor()`, after the monitor client is there. -/
def startByRole : Reaction Unit ActorOf Throwable :=
  match self.hasRole .core with
  | .error e => ⟨(), [], some e⟩
  | .ok true => ⟨(), [⟨.coreServerActor, "esbCore"⟩], none⟩
  | .ok false =>
    match self.hasRole .monitor with
    | .error e => ⟨(), [], some e⟩
    | .ok true => ⟨(), [monitorCore], none⟩
    | .ok false => ⟨(), [], none⟩

/-- `startSpecialActor()`. -/
def startSpecialActor : Reaction Unit ActorOf Throwable :=
  (⟨(), [⟨.monitorClientActor, "monitorClient"⟩], none⟩ : Reaction Unit ActorOf Throwable).andThen
    fun _ => self.startByRole

/-- `ActorSystem.create(name, config)`, with the parsing of the texts: the member the node will be
    in the cluster. -/
abbrev Create := String → List String → Except Throwable Member

/-- `start()`: the member the node is, once its system is created, and the actors it creates. -/
def start (create : Create) : Reaction (Option Member) ActorOf Throwable :=
  match self.config >>= create self.systemName with
  | .error e => ⟨none, [], some e⟩
  | .ok member => ⟨some member, self.startSpecialActor.sent, self.startSpecialActor.thrown⟩

/-! ## 2. Which nodes create the monitor actor -/

/-- The texts of roles that make a node create the monitor actor. -/
def CreatesMonitorCore (roles : Option String) : Prop :=
  ∃ text, roles = some text ∧ ¬ Contains text Role.core.text ∧ Contains text Role.monitor.text

theorem mem_startByRole_iff :
    monitorCore ∈ self.startByRole.sent ↔ CreatesMonitorCore self.roles := by
  unfold startByRole hasRole CreatesMonitorCore
  cases hr : self.roles with
  | none => simp
  | some text =>
    by_cases hc : Contains text Role.core.text
    · simp [hc, monitorCore]
    · by_cases hm : Contains text Role.monitor.text
      · simp [hc, hm]
      · simp [hc, hm]

/-- **A node whose system is created creates the monitor actor exactly where its text has
    `monitor` in it and not `core`.** -/
theorem createsMonitorCore_iff {create : Create} {member : Member}
    (h : (self.start create).self = some member) :
    monitorCore ∈ (self.start create).sent ↔ CreatesMonitorCore self.roles := by
  unfold start at h ⊢
  split
  · rename_i he
    rw [he] at h
    cases h
  · rw [← mem_startByRole_iff]
    simp [startSpecialActor, Reaction.andThen, monitorCore]

/-- A text without the separator stands in a list of texts where it stands in one of them. -/
theorem infix_append_cons_iff {α : Type} {t xs ys : List α} {c : α} (hc : c ∉ t) :
    t <:+: xs ++ c :: ys ↔ t <:+: xs ∨ t <:+: ys := by
  constructor
  · intro h
    obtain ⟨s, u, h⟩ := h
    rw [List.append_assoc] at h
    rcases List.append_eq_append_iff.mp h with ⟨a, hx, ht⟩ | ⟨a, hs, hy⟩
    · rcases List.append_eq_append_iff.mp ht with ⟨b, ha, -⟩ | ⟨b, rfl, hb⟩
      · exact .inl ⟨s, b, by rw [hx, ha, List.append_assoc]⟩
      · cases b with
        | nil => exact .inl ⟨s, [], by rw [hx]; simp⟩
        | cons d b =>
          obtain ⟨rfl, -⟩ := List.cons.inj hb
          exact absurd (by simp) hc
    · cases a with
      | nil =>
        cases t with
        | nil => exact .inl List.nil_infix
        | cons d t =>
          obtain ⟨rfl, -⟩ := List.cons.inj hy
          exact absurd List.mem_cons_self hc
      | cons d a =>
        obtain ⟨-, hy⟩ := List.cons.inj hy
        refine .inr ⟨a, u, ?_⟩
        rw [hy, List.append_assoc]
        rfl
  · intro h
    rcases h with h | h
    · exact List.infix_append_of_infix_left h
    · exact List.infix_append_of_infix_right (List.infix_cons h)

theorem contains_intercalate_iff {t : String} (ht : t ≠ "") (hc : ',' ∉ t.toList) :
    ∀ names : List String,
      Contains (String.intercalate "," names) t ↔ ∃ name ∈ names, Contains name t
  | [] => by
    simp [Contains, ht]
  | [name] => by
    simp [Contains]
  | name :: name' :: names => by
    have ih := contains_intercalate_iff ht hc (name' :: names)
    have hl : (String.intercalate "," (name :: name' :: names)).toList =
        name.toList ++ ',' :: (String.intercalate "," (name' :: names)).toList := by
      simp
    unfold Contains at ih ⊢
    rw [hl, infix_append_cons_iff hc, ih]
    simp only [List.mem_cons, exists_eq_or_imp]

/-- **With a text that is a list of names, the node creates the monitor actor exactly where one of
    the names has `monitor` in it and none has `core`.** -/
theorem createsMonitorCore_intercalate_iff (names : List String) :
    CreatesMonitorCore (some (String.intercalate "," names)) ↔
      (∀ name ∈ names, ¬ Contains name Role.core.text) ∧
        ∃ name ∈ names, Contains name Role.monitor.text := by
  have hcore := contains_intercalate_iff (t := Role.core.text) (by decide) (by decide) names
  have hmonitor := contains_intercalate_iff (t := Role.monitor.text) (by decide) (by decide) names
  constructor
  · intro h
    obtain ⟨text, ht, hc, hm⟩ := h
    cases ht
    exact ⟨fun name hn hx => hc (hcore.mpr ⟨name, hn, hx⟩), hmonitor.mp hm⟩
  · intro h
    obtain ⟨hc, hm⟩ := h
    refine ⟨_, rfl, fun hx => ?_, hmonitor.mpr hm⟩
    obtain ⟨name, hn, hx⟩ := hcore.mp hx
    exact hc name hn hx

end AkkaEsbSystem

/-! ## 3. Snapshots -/

/-- The nodes `ν` of a cluster: how each is set up, and what member its system makes it. -/
structure Cluster (ν : Type) where
  system : ν → AkkaEsbSystem
  create : ν → AkkaEsbSystem.Create

/-- What happens to a node, as the core's cluster sees it. -/
inductive NodeEvent (ν : Type) where
  | memberUp (n : ν)
  | unreachableMember (n : ν)
  | memberRemoved (n : ν)
  | memberEvent (n : ν)
  | reachableMember (n : ν)
  | other
  deriving DecidableEq, Repr

namespace Cluster

open AkkaEsbSystem

variable {ν : Type} (c : Cluster ν)

/-- The start of a node. -/
def start (n : ν) : Reaction (Option Member) ActorOf Throwable := (c.system n).start (c.create n)

/-- The message about an event; about a node whose start failed there is none. -/
def message : NodeEvent ν → Option ClusterMessage
  | .memberUp n => (c.start n).self.map .memberUp
  | .unreachableMember n => (c.start n).self.map .unreachableMember
  | .memberRemoved n => (c.start n).self.map .memberRemoved
  | .memberEvent n => (c.start n).self.map .memberEvent
  | .reachableMember n => (c.start n).self.map .reachableMember
  | .other => some .other

/-- The core's actor after the events of a run. -/
def core (es : List (NodeEvent ν)) : CoreServerActor :=
  CoreServerActor.machine.after (es.filterMap c.message)

/-- What the core's actor does on an event after a run. -/
def outputs (es : List (NodeEvent ν)) (e : NodeEvent ν) : List CoreOutput :=
  match c.message e with
  | none => []
  | some m => (CoreServerActor.machine.step (c.core es) m).2

/-- The monitor actor a selection means was created by the start of the node `n`. -/
def Arrives (n : ν) (target : ActorSelection) : Prop :=
  ∃ member, (c.start n).self = some member ∧
    target = ⟨member.address, "/user/" ++ monitorCore.name⟩ ∧ monitorCore ∈ (c.start n).sent

/-- Every snapshot of a run is sent to the monitor actor the node that joined has created. -/
def SnapshotsArrive (es : List (NodeEvent ν)) : Prop :=
  ∀ p e, p ++ [e] <+: es → ∀ target r,
    CoreOutput.tellSelection target (.nodeSeedAllEvent r) ∈ c.outputs p e →
      ∃ n, e = .memberUp n ∧ c.Arrives n target

/-- **What makes the core send a snapshot**: a node joins with the role `monitor`. -/
theorem mem_outputs_iff {es : List (NodeEvent ν)} {e : NodeEvent ν} {target : ActorSelection}
    {r : SetRef} :
    CoreOutput.tellSelection target (.nodeSeedAllEvent r) ∈ c.outputs es e ↔
      ∃ n member, e = .memberUp n ∧ (c.start n).self = some member ∧
        member.hasRole Role.monitor.text = true ∧ r = (c.core es).seedsRef ∧
        target = ⟨member.address, "/user/" ++ monitorCore.name⟩ := by
  unfold outputs
  cases e with
  | memberUp n =>
    cases hs : (c.start n).self with
    | none => simp [message, hs]
    | some member =>
      by_cases hr : member.hasRole Role.monitor.text = true
      · simp [message, hs, CoreServerActor.machine, CoreServerActor.onReceive, hr, monitorCore,
          and_comm]
      · simp [message, hs, CoreServerActor.machine, CoreServerActor.onReceive, hr]
  | unreachableMember n =>
    cases hs : (c.start n).self <;>
      simp [message, hs, CoreServerActor.machine, CoreServerActor.onReceive]
  | memberRemoved n =>
    cases hs : (c.start n).self <;>
      simp [message, hs, CoreServerActor.machine, CoreServerActor.onReceive]
  | memberEvent n =>
    cases hs : (c.start n).self <;>
      simp [message, hs, CoreServerActor.machine, CoreServerActor.onReceive]
  | reachableMember n =>
    cases hs : (c.start n).self <;>
      simp [message, hs, CoreServerActor.machine, CoreServerActor.onReceive]
  | other => simp [message, CoreServerActor.machine, CoreServerActor.onReceive]

/-- **Every snapshot of a run finds its actor if and only if every node that joins in it with the
    cluster role `monitor` has a text of roles with `monitor` in it and without `core`.** -/
theorem snapshotsArrive_iff (es : List (NodeEvent ν)) :
    c.SnapshotsArrive es ↔ ∀ n member, NodeEvent.memberUp n ∈ es → (c.start n).self = some member →
      member.hasRole Role.monitor.text = true → CreatesMonitorCore (c.system n).roles := by
  constructor
  · intro h n member hn hs hr
    obtain ⟨p, q, rfl⟩ := List.append_of_mem hn
    have hp : p ++ [.memberUp n] <+: p ++ .memberUp n :: q := ⟨q, by simp⟩
    obtain ⟨n', he, -, -, -, hm⟩ :=
      h p _ hp _ _ (c.mem_outputs_iff.mpr ⟨n, member, rfl, hs, hr, rfl, rfl⟩)
    cases he
    exact (createsMonitorCore_iff (c.system n) hs).mp hm
  · intro h p e hp target r hm
    obtain ⟨n, member, rfl, hs, hr, -, ht⟩ := c.mem_outputs_iff.mp hm
    have hn : NodeEvent.memberUp n ∈ es := hp.subset (by simp)
    refine ⟨n, rfl, member, hs, ht, ?_⟩
    exact (createsMonitorCore_iff (c.system n) hs).mpr (h n member hn hs hr)

/-- A node set up with the roles `core` and `monitor`. -/
def coreAndMonitor : AkkaEsbSystem :=
  ⟨"AkkaEsbSystem", some "core,monitor", some "10.0.0.1", 2551, some []⟩

/-- How its configuration is read: the names between the brackets, at the commas. -/
def createAt (host : String) (port : Nat) : AkkaEsbSystem.Create := fun name config =>
  .ok ⟨⟨"akka.tcp", name, host, port⟩, config.flatMap fun text =>
    if "akka.cluster.roles = [".toList <+: text.toList then
      (((text.toList.drop 22).dropLast).splitOnP (· = ',')).map String.ofList
    else []⟩

/-- It joins: the core sends it a snapshot, and it created no monitor actor. -/
theorem not_snapshotsArrive_core : ¬ Cluster.SnapshotsArrive
    ⟨fun _ : Unit => coreAndMonitor, fun _ => createAt "10.0.0.1" 2551⟩ [.memberUp ()] := by
  intro h
  obtain ⟨n, -, -, -, -, hm⟩ := h [] _ List.prefix_rfl
    ⟨⟨"akka.tcp", "AkkaEsbSystem", "10.0.0.1", 2551⟩, "/user/monitorCore"⟩ 0 (by decide)
  revert hm
  cases n
  decide

end Cluster

end EsbCore
