/-
  File:      EsbCore/Consumer/ConsumerFactoryBean.lean
  Subject:   WHERE CONSUMERS LOOK FOR A SERVICE (`org.esb.consumer.ConsumerFactoryBean`) and where
             its pool is.

  The consumer's router sends to `/user/` and the interface's name. The pool is a child of the
  default protocol's server actor, which is created without a name: the system generates one, and
  the pool lives one level further down.

  * `getRemoteActor` -- the consumer's router for an interface;
  * `ProviderNode`, `ProviderNode.pools` -- a node at a moment of its run, and its pools' paths;
  * `not_reachable` -- no router ever sends to a pool.
-/
import EsbCore.Monitor.MonitorEvent
import EsbCore.Rpc.RpcServerActor

namespace EsbCore

open Java Lib

/-! ## 1. The consumer's side -/

/-- `ClusterRouterGroupSettings`. -/
structure ClusterRouterGroupSettings where
  totalInstances : Nat
  routeesPaths : List String
  allowLocalRoutees : Bool
  useRole : String
  deriving DecidableEq, Repr

/-- A `ClusterRouterGroup` over an adaptive group with paths of its own, of which there are none. -/
structure ClusterRouterGroup where
  localPaths : List String
  settings : ClusterRouterGroupSettings
  deriving DecidableEq, Repr

/-- `getRemoteActor(clazz)`: the router it creates. -/
def ConsumerFactoryBean.getRemoteActor (clazz : Java.Class) : ClusterRouterGroup where
  localPaths := []
  settings :=
    { totalInstances := 100
      routeesPaths := ["/user/" ++ clazz.name]
      allowLocalRoutees := false
      useRole := Role.provider.text }

/-! ## 2. The provider's side -/

/-- A node at a moment: the calls made of its factory, one of its server actors, and the part of
    the messages sent to it that this actor has processed. -/
structure ProviderNode where
  host : Option String
  calls : List FactoryCall
  server : ActorRef
  processed : List RpcServerMessage
  sent : processed <+: RpcServerActor.inbox server ((ProtocolFactory.machine host).emitted calls)

/-- The path of an actor the system creates without a name, by the names it generates. -/
def serverPath (randomName : ActorRef → String) (server : ActorRef) : String :=
  "/user/" ++ randomName server

/-- The path of a named child. -/
def childPath (parent name : String) : String := parent ++ "/" ++ name

/-- The live pools of a node: interface and path. -/
def ProviderNode.pools (randomName : ActorRef → String) (node : ProviderNode) :
    List (String × String) :=
  (RpcServerActor.machine.after node.processed).children.names.map fun name =>
    (name, childPath (serverPath randomName node.server) name)

/-- A call of `clazz` that is routed to the node reaches the pool of `clazz` there. -/
def Reachable (randomName : ActorRef → String) (node : ProviderNode) (clazz : Java.Class) : Prop :=
  ∃ path, (clazz.name, path) ∈ node.pools randomName ∧
    path ∈ (ConsumerFactoryBean.getRemoteActor clazz).settings.routeesPaths

/-! ## 3. They do not meet -/

/-- A child of an actor under `/user` is not itself an actor of that name under `/user`. -/
theorem childPath_ne (randomName : ActorRef → String) (server : ActorRef) (name : String) :
    childPath (serverPath randomName server) name ≠ "/user/" ++ name := by
  intro h
  have hl := congrArg String.length h
  unfold childPath serverPath at hl
  simp only [String.length_append] at hl
  have hslash : "/".length = 1 := rfl
  omega

/-- **No consumer's router ever sends to a provider's pool**, on any node, in any run. -/
theorem not_reachable (randomName : ActorRef → String) (node : ProviderNode)
    (clazz : Java.Class) : ¬ Reachable randomName node clazz := by
  intro h
  obtain ⟨path, hpool, hroute⟩ := h
  obtain ⟨name, -, he⟩ := List.mem_map.mp hpool
  obtain ⟨hname, hpath⟩ := Prod.mk.inj he
  have hr : path = "/user/" ++ clazz.name := List.mem_singleton.mp hroute
  rw [← hpath, ← hname] at hr
  exact childPath_ne randomName node.server name hr

/-- A node with one provider. -/
def greeterNode : ProviderNode where
  host := some "10.0.0.1"
  calls := [.provide ⟨⟨"org.demo.Greeter", []⟩, some [], ⟨0, ⟨"org.demo.GreeterImpl", []⟩⟩⟩
    fun _ => none]
  server := 0
  processed := [.provider ⟨⟨"org.demo.Greeter", []⟩, some [], ⟨0, ⟨"org.demo.GreeterImpl", []⟩⟩⟩]
  sent := by decide

/-- Its pool lives, and the router's one path is another. -/
theorem not_reachable_greeter :
    ("org.demo.Greeter", "/user/$a/org.demo.Greeter") ∈ greeterNode.pools (fun _ => "$a") ∧
      (ConsumerFactoryBean.getRemoteActor ⟨"org.demo.Greeter", []⟩).settings.routeesPaths =
        ["/user/org.demo.Greeter"] ∧
      ¬ Reachable (fun _ => "$a") greeterNode ⟨"org.demo.Greeter", []⟩ := by
  refine ⟨by decide, by decide, fun h => ?_⟩
  obtain ⟨path, hpool, hroute⟩ := h
  rw [List.mem_singleton.mp hroute] at hpool
  revert hpool
  decide

end EsbCore
