/-
  File:      EsbCore/Server/ServerFactoryBean.lean
  Subject:   THE START OF THE SERVERS (`org.esb.server.ServerFactoryBean`, `BaseServer`,
             `org.esb.server.socket.SocketServer`, `org.esb.server.socket.SocketClient`) while the
             actors it creates are at work already.

  Once the application's context is there, every server gets an actor under the name of its class,
  is told its actor, and is initialised: a socket server asks the TCP manager to bind its address,
  a client to connect. From the first moment an actor calls its server, whether the loop has got
  to `setActor` or not; and actors may end. `BaseServer.actor` is not volatile: memory is taken as
  sequentially consistent, so that a field read is the last one written.

  * `exec`, `surroundings`, `loop` -- the statements, what goes on between them, and the runs;
  * `Orderly` -- what a server sees of its actor, and what the TCP manager is told;
  * `orderly_emitted` -- so it is in every interleaving;
  * `StartedUpTo`, `startedUpTo` -- the servers are started one after the other;
  * `neverThrows_iff` -- no interleaving throws exactly when every server can be started and no
    two names are one.
-/
import EsbCore.Java.Lang
import EsbCore.Lib.Thread
import EsbCore.Protocol.Beans

namespace EsbCore

open Java Lib

/-! ## 1. The servers -/

inductive SocketType where
  | tcp | udp
  deriving DecidableEq, Repr

/-- The field `akkaEsbSystem`, and what its `getSystem()` returns. -/
inductive SystemField where
  | null | notStarted | started
  deriving DecidableEq, Repr

/-- `InetSocketAddress`, not resolved. -/
structure InetSocketAddress where
  host : String
  port : Int
  deriving DecidableEq, Repr

/-- What the TCP manager is told: `TcpMessage.bind` and `TcpMessage.connect`. -/
inductive TcpCommand where
  | bind (handler : Option ActorRef) (localAddress : InetSocketAddress) (backlog : Nat)
  | connect (remote : InetSocketAddress)
  deriving DecidableEq, Repr

/-- What starting asks of a `SocketServer` or a `SocketClient`: its field, and what its methods
    return or throw. `getSocketType()` is called up to three times. -/
structure SocketMethods where
  akkaEsbSystem : SystemField
  getSocketType : Fin 3 → Except Throwable (Option SocketType)
  getHost : Except Throwable (Option String)
  getPort : Except Throwable Int

inductive ServerClass where
  | plain
  | socketServer (methods : SocketMethods)
  | socketClient (methods : SocketMethods)

/-- A `BaseServer`: which object it is, and the class it is of. -/
structure BaseServer where
  object : Nat
  className : String
  cls : ServerClass

/-- `new InetSocketAddress(host, port)`. -/
def InetSocketAddress.new (host : Option String) (port : Int) :
    Except Throwable InetSocketAddress :=
  match host with
  | none => .error .illegalArgument
  | some host => if 0 ≤ port ∧ port ≤ 65535 then .ok ⟨host, port⟩ else .error .illegalArgument

namespace SocketMethods

def unsupportUdp : Throwable :=
  .application "org.esb.server.socket.SocketException" "Unsupport UDP yet."

variable (self : SocketMethods)

/-- `getActorClass()`. -/
def getActorClass : Except Throwable String :=
  match self.getSocketType 0 with
  | .error e => .error e
  | .ok (some .tcp) => .ok "org.esb.server.socket.tcp.SocketTcpActor"
  | .ok _ => .error unsupportUdp

/-- `init()` after the address is made, with the command it is for. -/
def initTo (command : TcpCommand) : Except Throwable (Option TcpCommand) :=
  match self.getSocketType 1 with
  | .error e => .error e
  | .ok (some .tcp) =>
    if self.akkaEsbSystem = .started then .ok (some command) else .error .nullPointer
  | .ok _ =>
    match self.getSocketType 2 with
    | .error e => .error e
    | .ok (some .udp) => .error unsupportUdp
    | .ok _ => .ok none

/-- `init()`: what the TCP manager is told, if anything. -/
def init (command : InetSocketAddress → TcpCommand) : Except Throwable (Option TcpCommand) := do
  let host ← self.getHost
  let port ← self.getPort
  let address ← InetSocketAddress.new host port
  self.initTo (command address)

variable {self}

theorem initTo_eq_ok_iff {command : TcpCommand} {r : Option TcpCommand} :
    self.initTo command = .ok r ↔
      (self.getSocketType 1 = .ok (some .tcp) ∧ self.akkaEsbSystem = .started ∧
        r = some command) ∨
      ∃ t t', self.getSocketType 1 = .ok t ∧ t ≠ some .tcp ∧ self.getSocketType 2 = .ok t' ∧
        t' ≠ some .udp ∧ r = none := by
  unfold initTo
  cases h1 : self.getSocketType 1 with
  | error e => simp
  | ok t =>
    by_cases ht : t = some .tcp
    · subst ht
      by_cases hs : self.akkaEsbSystem = .started
      · simp [hs, eq_comm]
      · simp [hs]
    · cases h2 : self.getSocketType 2 with
      | error e => simp [ht]
      | ok t' =>
        by_cases hu : t' = some .udp
        · simp [ht, hu]
        · simp [ht, hu, eq_comm]

theorem init_eq_ok_iff {command : InetSocketAddress → TcpCommand} {r : Option TcpCommand} :
    self.init command = .ok r ↔ ∃ host port, self.getHost = .ok (some host) ∧
      self.getPort = .ok port ∧ (0 ≤ port ∧ port ≤ 65535) ∧
      self.initTo (command ⟨host, port⟩) = .ok r := by
  unfold init InetSocketAddress.new
  cases hhost : self.getHost with
  | error e => simp [bind, Except.bind]
  | ok host =>
    cases hport : self.getPort with
    | error e => simp [bind, Except.bind]
    | ok port =>
      cases host with
      | none => simp [bind, Except.bind]
      | some host =>
        by_cases hrange : 0 ≤ port ∧ port ≤ 65535
        · simp [bind, Except.bind, hrange]
        · simp [bind, Except.bind, hrange]

/-- `init()` returns: there is an address, and a system for TCP, or neither TCP nor UDP is asked
    for. -/
def Initialises (self : SocketMethods) : Prop :=
  (∃ host port, self.getHost = .ok (some host) ∧ self.getPort = .ok port ∧
    0 ≤ port ∧ port ≤ 65535) ∧
  ((self.getSocketType 1 = .ok (some .tcp) ∧ self.akkaEsbSystem = .started) ∨
    ∃ t t', self.getSocketType 1 = .ok t ∧ t ≠ some .tcp ∧ self.getSocketType 2 = .ok t' ∧
      t' ≠ some .udp)

theorem init_returns_iff (command : InetSocketAddress → TcpCommand) :
    (∃ r, self.init command = .ok r) ↔ self.Initialises := by
  constructor
  · rintro ⟨r, h⟩
    obtain ⟨host, port, hhost, hport, hrange, h⟩ := init_eq_ok_iff.mp h
    refine ⟨⟨host, port, hhost, hport, hrange⟩, ?_⟩
    rcases initTo_eq_ok_iff.mp h with ⟨ht, hs, -⟩ | ⟨t, t', ht, hn, ht', hn', -⟩
    · exact .inl ⟨ht, hs⟩
    · exact .inr ⟨t, t', ht, hn, ht', hn'⟩
  · rintro ⟨⟨host, port, hhost, hport, hrange⟩, ⟨ht, hs⟩ | ⟨t, t', ht, hn, ht', hn'⟩⟩
    · exact ⟨_, init_eq_ok_iff.mpr ⟨host, port, hhost, hport, hrange,
        initTo_eq_ok_iff.mpr (.inl ⟨ht, hs, rfl⟩)⟩⟩
    · exact ⟨_, init_eq_ok_iff.mpr ⟨host, port, hhost, hport, hrange,
        initTo_eq_ok_iff.mpr (.inr ⟨t, t', ht, hn, ht', hn', rfl⟩)⟩⟩

theorem getActorClass_returns_iff :
    (∃ cls, self.getActorClass = .ok cls) ↔ self.getSocketType 0 = .ok (some .tcp) := by
  unfold getActorClass
  split
  · rename_i e h
    simp [h]
  · rename_i h
    simp [h]
  · rename_i t hne h
    have ht : t ≠ some .tcp := hne
    simp [h, ht]

end SocketMethods

namespace BaseServer

/-- `getActorClass()`. -/
def getActorClass (self : BaseServer) : Except Throwable String :=
  match self.cls with
  | .plain => .ok "org.esb.server.ServerActor"
  | .socketServer methods => methods.getActorClass
  | .socketClient methods => methods.getActorClass

/-- `init()`, of a server whose `getActor()` returns `actor`. -/
def init (self : BaseServer) (actor : Option ActorRef) : Except Throwable (Option TcpCommand) :=
  match self.cls with
  | .plain => .ok none
  | .socketServer methods => methods.init fun address => .bind actor address 100
  | .socketClient methods => methods.init .connect

/-- Nothing of the server's own keeps it from being started. -/
def Ready (self : BaseServer) : Prop :=
  match self.cls with
  | .plain => True
  | .socketServer methods => methods.getSocketType 0 = .ok (some .tcp) ∧ methods.Initialises
  | .socketClient methods => methods.getSocketType 0 = .ok (some .tcp) ∧ methods.Initialises

theorem ready_iff (self : BaseServer) (actor : Option ActorRef) : self.Ready ↔
    (∃ cls, self.getActorClass = .ok cls) ∧ ∃ command, self.init actor = .ok command := by
  unfold Ready getActorClass init
  split
  · exact ⟨fun _ => ⟨⟨_, rfl⟩, _, rfl⟩, fun _ => trivial⟩
  · rw [SocketMethods.getActorClass_returns_iff, SocketMethods.init_returns_iff]
  · rw [SocketMethods.getActorClass_returns_iff, SocketMethods.init_returns_iff]

end BaseServer

namespace ServerFactoryBean

/-! ## 2. The loop and its surroundings -/

/-- The statements of the loop: `actorOf` and what it takes, `setActor`, `init`, and `info`. -/
inductive Statement where
  | actorOf (server : BaseServer)
  | setActor (server : BaseServer)
  | init (server : BaseServer)
  | info (server : BaseServer)

/-- A round of the loop. -/
def round (server : BaseServer) : List Statement :=
  [.actorOf server, .setActor server, .init server, .info server]

/-- The servers among the beans with the annotation `Server`; `none` for a bean that is no
    `BaseServer`. -/
def servers (beans : List (Option BaseServer)) : List BaseServer := beans.reduceOption

/-- `setApplicationContext`, of the beans in the order of their keys. -/
def setApplicationContext (beans : List (Option BaseServer)) : List Statement :=
  (servers beans).flatMap round

/-- What the loop shares with its surroundings: the actors at the top of the system, by name, each
    with the server it calls; the local variable `actorRef`, once it is assigned; the field `actor`
    of every server; and what the TCP manager has been told, by whom. -/
structure World where
  actors : Children String (ActorRef × Option Nat)
  nextRef : ActorRef
  actorRef : ActorRef
  actor : Nat → Option ActorRef
  told : List (TcpCommand × Option ActorRef)

/-- What can be seen: the loop's own doings, and servers whose actors call one of their methods, on
    their own or since the TCP manager answered, with what `getActor()` returns in there. -/
inductive Output where
  | created (ref : ActorRef) (cls : String) (server : Nat) (name : String)
  | setActor (server : Nat) (ref : ActorRef)
  | tell (command : TcpCommand) (sender : Option ActorRef)
  | info (text : String)
  | called (ref : ActorRef) (server : Nat) (actor : Option ActorRef)
  | answered (ref : ActorRef) (server : Nat) (actor : Option ActorRef)
  deriving DecidableEq

/-- `InvalidActorNameException` for a name in use. -/
def notUnique (name : String) : Throwable :=
  .application "akka.actor.InvalidActorNameException" ("actor name [" ++ name ++ "] is not unique!")

variable (akkaEsbSystem : SystemField) (checkName : String → Option Throwable)

/-- `akkaEsbSystem.getSystem().actorOf(Props.create(server.getActorClass(), bean), name)`: the class
    of the actor, and the children then. Of a name that is no good, `checkName` has the
    exception. -/
def actorOf (server : BaseServer) (w : World) :
    Except Throwable (String × Children String (ActorRef × Option Nat)) :=
  if akkaEsbSystem = .null then .error .nullPointer
  else
    match server.getActorClass with
    | .error e => .error e
    | .ok cls =>
      if akkaEsbSystem = .notStarted then .error .nullPointer
      else
        match checkName server.className with
        | some e => .error e
        | none =>
          match w.actors.actorOf server.className (w.nextRef, some server.object) with
          | .error _ => .error (notUnique server.className)
          | .ok children => .ok (cls, children)

/-- What a statement does. -/
def exec : Statement → World → Reaction World Output Throwable
  | .actorOf server, w =>
    match actorOf akkaEsbSystem checkName server w with
    | .error e => ⟨w, [], some e⟩
    | .ok (cls, children) =>
      ⟨{ w with actors := children, nextRef := w.nextRef + 1, actorRef := w.nextRef },
        [.created w.nextRef cls server.object server.className], none⟩
  | .setActor server, w =>
    ⟨{ w with actor := Function.update w.actor server.object (some w.actorRef) },
      [.setActor server.object w.actorRef], none⟩
  | .init server, w =>
    match server.init (w.actor server.object) with
    | .error e => ⟨w, [], some e⟩
    | .ok none => ⟨w, [], none⟩
    | .ok (some command) =>
      ⟨{ w with told := w.told ++ [(command, w.actor server.object)] },
        [.tell command (w.actor server.object)], none⟩
  | .info server, w => ⟨w, [.info server.className], none⟩

/-- What goes on besides: the actor under a name calls a method of its server; the TCP manager
    answers a command, with its outcome to the sender, or with a connection to the handler; the
    actor under a name ends. -/
inductive Act where
  | call (name : String)
  | answer (n : Nat) (connection : Bool)
  | ended (name : String)
  deriving DecidableEq, Repr

/-- Who gets an answer. -/
def recipient : TcpCommand × Option ActorRef → Bool → Option ActorRef
  | (.bind handler _ _, _), true => handler
  | (_, sender), _ => sender

def surroundings : Act → World → World × List Output
  | .call name, w =>
    match w.actors.entries.find? fun entry => entry.1 = name with
    | some (_, ref, some server) => (w, [.called ref server (w.actor server)])
    | _ => (w, [])
  | .answer n connection, w =>
    match w.told[n]?.bind (recipient · connection) with
    | none => (w, [])
    | some ref =>
      match w.actors.entries.find? fun entry => entry.2.1 = ref with
      | some (_, _, some server) => (w, [.answered ref server (w.actor server)])
      | _ => (w, [])
  | .ended name, w => ({ w with actors := w.actors.remove name }, [])

/-- The thread of the loop. -/
def thread : Thread Statement World Act Output Throwable :=
  ⟨exec akkaEsbSystem checkName, surroundings⟩

/-- The world when the loop begins, with the actors already at the top of the system. -/
def World.initial (names : { names : List String // names.Nodup }) : World where
  actors := ⟨names.1.zipIdx.map fun (name, ref) => (name, ref, none), by
    rw [List.map_map]
    show (names.1.zipIdx.map Prod.fst).Nodup
    rw [List.zipIdx_map_fst]
    exact names.2⟩
  nextRef := names.1.length
  actorRef := 0
  actor _ := none
  told := []

/-- The runs of the loop. -/
def loop (names : { names : List String // names.Nodup }) (beans : List (Option BaseServer)) :
    Machine (Progress Statement World Throwable) (Turn Act) Output :=
  (thread akkaEsbSystem checkName).machine (setApplicationContext beans) (.initial names)

/-! ## 3. What a statement does -/

/-- An actor can be created for the server, as far as its name is free. -/
structure Creatable (server : BaseServer) : Prop where
  started : akkaEsbSystem = .started
  name : checkName server.className = none
  cls : ∃ cls, server.getActorClass = .ok cls

variable {akkaEsbSystem checkName}

theorem actorOf_ok {server : BaseServer} {w : World} {cls : String}
    {children : Children String (ActorRef × Option Nat)}
    (h : actorOf akkaEsbSystem checkName server w = .ok (cls, children)) :
    Creatable akkaEsbSystem checkName server ∧ server.className ∉ w.actors.names ∧
      children.entries =
        w.actors.entries ++ [(server.className, w.nextRef, some server.object)] := by
  unfold actorOf at h
  split at h
  · cases h
  · rename_i hnull
    split at h
    · cases h
    · rename_i cls' hcls
      split at h
      · cases h
      · rename_i hnot
        split at h
        · cases h
        · rename_i hname
          have hstarted : akkaEsbSystem = .started := by
            cases akkaEsbSystem with
            | null => exact absurd rfl hnull
            | notStarted => exact absurd rfl hnot
            | started => rfl
          by_cases hmem : server.className ∈ w.actors.names
          · rw [Children.actorOf_of_mem hmem] at h
            cases h
          · obtain ⟨c, hc, hentries⟩ := Children.actorOf_of_notMem hmem
              (w.nextRef, some server.object)
            rw [hc] at h
            cases h
            exact ⟨⟨hstarted, hname, _, hcls⟩, hmem, hentries⟩

theorem actorOf_of_creatable {server : BaseServer} (h : Creatable akkaEsbSystem checkName server)
    {w : World} (hmem : server.className ∉ w.actors.names) :
    ∃ r, actorOf akkaEsbSystem checkName server w = .ok r := by
  obtain ⟨rfl, hname, cls, hcls⟩ := h
  obtain ⟨c, hc, -⟩ := Children.actorOf_of_notMem hmem (w.nextRef, some server.object)
  exact ⟨(cls, c), by simp [actorOf, hcls, hname, hc]⟩

/-- **What a statement that returns does.** -/
theorem exec_returned {a : Statement} {w : World}
    (h : (exec akkaEsbSystem checkName a w).thrown = none) :
    (∃ server cls children, a = .actorOf server ∧ Creatable akkaEsbSystem checkName server ∧
      server.className ∉ w.actors.names ∧
      children.entries =
        w.actors.entries ++ [(server.className, w.nextRef, some server.object)] ∧
      exec akkaEsbSystem checkName a w =
        ⟨{ w with actors := children, nextRef := w.nextRef + 1, actorRef := w.nextRef },
          [.created w.nextRef cls server.object server.className], none⟩) ∨
    (∃ server, a = .setActor server ∧ exec akkaEsbSystem checkName a w =
      ⟨{ w with actor := Function.update w.actor server.object (some w.actorRef) },
        [.setActor server.object w.actorRef], none⟩) ∨
    (∃ server command, a = .init server ∧
      server.init (w.actor server.object) = .ok command ∧
      exec akkaEsbSystem checkName a w =
        ⟨{ w with told := w.told ++ (command.map (·, w.actor server.object)).toList },
          (command.map (Output.tell · (w.actor server.object))).toList, none⟩) ∨
    (∃ server, a = .info server ∧
      exec akkaEsbSystem checkName a w = ⟨w, [.info server.className], none⟩) := by
  cases a with
  | actorOf server =>
    cases hr : actorOf akkaEsbSystem checkName server w with
    | error e =>
      simp only [exec, hr] at h
      cases h
    | ok r =>
      obtain ⟨cls, children⟩ := r
      obtain ⟨hcreatable, hmem, hentries⟩ := actorOf_ok hr
      refine .inl ⟨server, cls, children, rfl, hcreatable, hmem, hentries, ?_⟩
      simp only [exec, hr]
  | setActor server => exact .inr (.inl ⟨server, rfl, rfl⟩)
  | init server =>
    cases hr : server.init (w.actor server.object) with
    | error e =>
      simp only [exec, hr] at h
      cases h
    | ok command =>
      refine .inr (.inr (.inl ⟨server, command, rfl, hr, ?_⟩))
      cases command with
      | none => simp [exec, hr]
      | some command => simp [exec, hr]
  | info server => exact .inr (.inr (.inr ⟨server, rfl, rfl⟩))

/-- What throws has done nothing. -/
theorem exec_thrown {a : Statement} {w : World} {e : Throwable}
    (h : (exec akkaEsbSystem checkName a w).thrown = some e) :
    (exec akkaEsbSystem checkName a w).self = w ∧
      (exec akkaEsbSystem checkName a w).sent = [] := by
  cases a with
  | actorOf server =>
    cases hr : actorOf akkaEsbSystem checkName server w with
    | error e => simp [exec, hr]
    | ok r => simp [exec, hr] at h
  | setActor server => cases h
  | init server =>
    cases hr : server.init (w.actor server.object) with
    | error e => simp [exec, hr]
    | ok command =>
      cases command with
      | none => simp [exec, hr] at h
      | some command => simp [exec, hr] at h
  | info server => cases h

/-- What the surroundings do: a server is called, or called with an answer, or an actor ends. -/
theorem surroundings_cases (k : Act) (w : World) :
    surroundings k w = (w, []) ∨
    (∃ name ref server, (name, ref, some server) ∈ w.actors.entries ∧
      surroundings k w = (w, [.called ref server (w.actor server)])) ∨
    (∃ told connection name ref server, told ∈ w.told ∧ recipient told connection = some ref ∧
      (name, ref, some server) ∈ w.actors.entries ∧
      surroundings k w = (w, [.answered ref server (w.actor server)])) ∨
    ∃ name, surroundings k w = ({ w with actors := w.actors.remove name }, []) := by
  cases k with
  | call name =>
    dsimp only [surroundings]
    split
    · rename_i name' ref server hfind
      exact .inr (.inl ⟨_, ref, server, List.mem_of_find?_eq_some hfind, rfl⟩)
    · exact .inl rfl
  | answer n connection =>
    dsimp only [surroundings]
    split
    · exact .inl rfl
    · rename_i ref href
      obtain ⟨told, htold, hrecipient⟩ := Option.bind_eq_some_iff.mp href
      split
      · rename_i name ref' server hfind
        have he : ref' = ref := by simpa using List.find?_some hfind
        rw [he] at hfind
        exact .inr (.inr (.inl ⟨told, connection, name, ref, server,
          List.mem_of_getElem? htold, hrecipient, List.mem_of_find?_eq_some hfind, rfl⟩))
      · exact .inl rfl
  | ended name => exact .inr (.inr (.inr ⟨name, rfl⟩))

/-! ## 4. What a server sees of its actor -/

/-- The actor was created for the server. -/
def CreatedFor (os : List Output) (ref : ActorRef) (server : Nat) : Prop :=
  ∃ cls name, .created ref cls server name ∈ os

/-- What the server has been told of its actor. -/
def Knows (os : List Output) (server : Nat) : Option ActorRef → Prop
  | none => ∀ ref, .setActor server ref ∉ os
  | some ref => .setActor server ref ∈ os ∧ CreatedFor os ref server

/-- A command is told by an actor its server knows, and names no other. -/
def ToldBy (os : List Output) (command : TcpCommand) (sender : Option ActorRef) : Prop :=
  ∃ ref server, sender = some ref ∧ CreatedFor os ref server ∧ .setActor server ref ∈ os ∧
    ∀ connection, recipient (command, sender) connection = some ref

/-- What may come after the outputs `os`. A server that is called sees none of its actors before
    `setActor`, and after it one that is its own; called with an answer, it always sees one. -/
def Sound (os : List Output) : Output → Prop
  | .created ref _ _ _ => ∀ server, ¬ CreatedFor os ref server
  | .setActor server ref => CreatedFor os ref server
  | .tell command sender => ToldBy os command sender
  | .info _ => True
  | .called ref server actor => CreatedFor os ref server ∧ Knows os server actor
  | .answered ref server actor =>
    CreatedFor os ref server ∧ ∃ own, actor = some own ∧ Knows os server actor

/-- Every output is one that may come after those before it. -/
def Orderly (os : List Output) : Prop :=
  ∀ before o after, os = before ++ o :: after → Sound before o

theorem Orderly.concat {os : List Output} (h : Orderly os) {o : Output} (ho : Sound os o) :
    Orderly (os ++ [o]) := by
  intro before o' after he
  rcases List.eq_nil_or_concat after with rfl | ⟨after, a, rfl⟩
  · obtain ⟨rfl, ho'⟩ := List.append_inj' he rfl
    exact List.singleton_inj.mp ho' ▸ ho
  · have he' : os ++ [o] = (before ++ o' :: after) ++ [a] := by simpa using he
    exact h before o' after (List.append_inj' he' rfl).1

section Known

variable {os : List Output} {ref : ActorRef} {server : Nat}

theorem CreatedFor.mono {more : List Output} (h : CreatedFor os ref server) :
    CreatedFor (os ++ more) ref server := by
  obtain ⟨cls, name, hmem⟩ := h
  exact ⟨cls, name, List.mem_append_left more hmem⟩

theorem ToldBy.mono {command : TcpCommand} {sender : Option ActorRef}
    (h : ToldBy os command sender) (more : List Output) : ToldBy (os ++ more) command sender := by
  obtain ⟨ref, server, hs, hc, hset, hr⟩ := h
  exact ⟨ref, server, hs, hc.mono, List.mem_append_left more hset, hr⟩

/-- What says nothing of any `setActor` changes nothing of what is known. -/
theorem Knows.concat {actor : Option ActorRef} (h : Knows os server actor) {o : Output}
    (ho : ∀ ref, o ≠ .setActor server ref) : Knows (os ++ [o]) server actor := by
  cases actor with
  | none =>
    intro ref hmem
    rcases List.mem_append.mp hmem with hmem | hmem
    · exact h ref hmem
    · exact ho ref (List.mem_singleton.mp hmem).symm
  | some ref => exact ⟨List.mem_append_left _ h.1, h.2.mono⟩

end Known

/-- What the world has to do with what has been seen. -/
structure Known (w : World) (os : List Output) : Prop where
  live : ∀ name ref server, (name, ref, some server) ∈ w.actors.entries →
    CreatedFor os ref server
  fresh : ∀ ref server, CreatedFor os ref server → ref < w.nextRef
  single : ∀ ref server server', CreatedFor os ref server → CreatedFor os ref server' →
    server = server'
  actor : ∀ server, Knows os server (w.actor server)
  told : ∀ command sender, (command, sender) ∈ w.told → ToldBy os command sender

namespace Known

variable {w : World} {os : List Output}

/-- An output that creates nothing and sets nothing. -/
theorem concat (h : Known w os) {o : Output}
    (hc : ∀ ref cls server name, o ≠ .created ref cls server name)
    (hs : ∀ server ref, o ≠ .setActor server ref) : Known w (os ++ [o]) := by
  have hback : ∀ ref server, CreatedFor (os ++ [o]) ref server → CreatedFor os ref server := by
    rintro ref server ⟨cls, name, hmem⟩
    rcases List.mem_append.mp hmem with hmem | hmem
    · exact ⟨cls, name, hmem⟩
    · exact absurd (List.mem_singleton.mp hmem).symm (hc ref cls server name)
  constructor
  · exact fun name ref server hmem => (h.live name ref server hmem).mono
  · exact fun ref server hr => h.fresh ref server (hback ref server hr)
  · exact fun ref server server' hr hr' =>
      h.single ref server server' (hback ref server hr) (hback ref server' hr')
  · exact fun server => (h.actor server).concat (hs server)
  · exact fun command sender hmem => (h.told command sender hmem).mono _

/-- A new actor. -/
theorem created (h : Known w os) {server : BaseServer} (cls : String)
    {children : Children String (ActorRef × Option Nat)} (hentries : children.entries =
      w.actors.entries ++ [(server.className, w.nextRef, some server.object)]) :
    Sound os (.created w.nextRef cls server.object server.className) ∧
    Known { w with actors := children, nextRef := w.nextRef + 1, actorRef := w.nextRef }
      (os ++ [Output.created w.nextRef cls server.object server.className]) := by
  have hsound : ∀ server, ¬ CreatedFor os w.nextRef server :=
    fun server hc => absurd (h.fresh _ server hc) (Nat.lt_irrefl _)
  have hback : ∀ ref s, CreatedFor
      (os ++ [Output.created w.nextRef cls server.object server.className]) ref s →
      CreatedFor os ref s ∨ (ref = w.nextRef ∧ s = server.object) := by
    rintro ref s ⟨cls', name, hmem⟩
    rcases List.mem_append.mp hmem with hmem | hmem
    · exact .inl ⟨cls', name, hmem⟩
    · cases List.mem_singleton.mp hmem
      exact .inr ⟨rfl, rfl⟩
  refine ⟨hsound, ?_, ?_, ?_, ?_, ?_⟩
  · intro name ref s hmem
    rw [hentries] at hmem
    rcases List.mem_append.mp hmem with hmem | hmem
    · exact (h.live name ref s hmem).mono
    · cases List.mem_singleton.mp hmem
      exact ⟨cls, server.className, List.mem_append_right _ (List.mem_singleton_self _)⟩
  · intro ref s hc
    rcases hback ref s hc with hc | ⟨rfl, -⟩
    · exact Nat.lt_succ_of_lt (h.fresh ref s hc)
    · exact Nat.lt_succ_self _
  · intro ref s s' hc hc'
    rcases hback ref s hc with hc | ⟨rfl, rfl⟩
    · rcases hback ref s' hc' with hc' | ⟨rfl, -⟩
      · exact h.single ref s s' hc hc'
      · exact absurd hc (hsound s)
    · rcases hback _ s' hc' with hc' | ⟨-, rfl⟩
      · exact absurd hc' (hsound s')
      · rfl
  · exact fun s => (h.actor s).concat nofun
  · exact fun command sender hmem => (h.told command sender hmem).mono _

/-- A server is told its actor. -/
theorem setActor (h : Known w os) {server : Nat} (hc : CreatedFor os w.actorRef server) :
    Known { w with actor := Function.update w.actor server (some w.actorRef) }
      (os ++ [Output.setActor server w.actorRef]) := by
  have hback : ∀ r s, CreatedFor (os ++ [Output.setActor server w.actorRef]) r s →
      CreatedFor os r s := by
    rintro r s ⟨cls, name, hmem⟩
    rcases List.mem_append.mp hmem with hmem | hmem
    · exact ⟨cls, name, hmem⟩
    · cases List.mem_singleton.mp hmem
  constructor
  · exact fun name r s hmem => (h.live name r s hmem).mono
  · exact fun r s hrs => h.fresh r s (hback r s hrs)
  · exact fun r s s' hrs hrs' => h.single r s s' (hback r s hrs) (hback r s' hrs')
  · intro s
    by_cases hs : s = server
    · subst hs
      show Knows _ s (Function.update w.actor s (some w.actorRef) s)
      rw [Function.update_self]
      exact ⟨List.mem_append_right _ (List.mem_singleton_self _), hc.mono⟩
    · show Knows _ s (Function.update w.actor server (some w.actorRef) s)
      rw [Function.update_of_ne hs]
      exact (h.actor s).concat fun r he => hs (by cases he; rfl)
  · exact fun command sender hmem => (h.told command sender hmem).mono _

/-- A server whose actor has told the TCP manager something has an actor. -/
theorem actor_of_told (h : Known w os) {told : TcpCommand × Option ActorRef} {connection : Bool}
    {ref : ActorRef} {server : Nat} (htold : told ∈ w.told)
    (hrecipient : recipient told connection = some ref) (hc : CreatedFor os ref server) :
    ∃ own, w.actor server = some own := by
  obtain ⟨ref', server', hsender, hc', hset, hr⟩ := h.told told.1 told.2 htold
  have he : ref = ref' := Option.some_inj.mp (hrecipient.symm.trans (hr connection))
  subst he
  cases h.single ref server server' hc hc'
  cases hactor : w.actor server with
  | none =>
    have hnone := h.actor server
    rw [hactor] at hnone
    exact absurd hset (hnone ref)
  | some own => exact ⟨own, rfl⟩

/-- What the surroundings do. -/
theorem surroundings (h : Known w os) (ho : Orderly os) (k : Act) :
    Known (surroundings k w).1 (os ++ (ServerFactoryBean.surroundings k w).2) ∧
      Orderly (os ++ (ServerFactoryBean.surroundings k w).2) := by
  rcases surroundings_cases k w with hk | ⟨name, ref, server, hmem, hk⟩ |
    ⟨told, connection, name, ref, server, htold, hrecipient, hmem, hk⟩ | ⟨name, hk⟩
  · rw [hk, List.append_nil]
    exact ⟨h, ho⟩
  · rw [hk]
    exact ⟨h.concat nofun nofun, ho.concat ⟨h.live name ref server hmem, h.actor server⟩⟩
  · rw [hk]
    have hc := h.live name ref server hmem
    obtain ⟨own, hown⟩ := h.actor_of_told htold hrecipient hc
    exact ⟨h.concat nofun nofun, ho.concat ⟨hc, own, hown, h.actor server⟩⟩
  · rw [hk, List.append_nil]
    refine ⟨⟨fun name' ref server hmem => ?_, h.fresh, h.single, h.actor, h.told⟩, ho⟩
    exact h.live name' ref server (w.actors.entries_remove name hmem)

end Known

/-- Where in a round the next statement stands. -/
theorem head_cases {ss : List BaseServer} {done rest : List Statement} {a : Statement}
    (h : done ++ a :: rest = ss.flatMap round) :
    ∃ pre server more, ss = pre ++ server :: more ∧
      ((a = .actorOf server ∧ done = pre.flatMap round) ∨
        (a = .setActor server ∧ done = pre.flatMap round ++ [Statement.actorOf server]) ∨
        (a = .init server ∧
          done = pre.flatMap round ++ [Statement.actorOf server, .setActor server]) ∨
        (a = .info server ∧ done = pre.flatMap round ++
          [Statement.actorOf server, .setActor server, .init server])) := by
  rcases append_eq_flatMap h with ⟨-, ht⟩ | ⟨pre, server, more, n, hss, hn, hd, ht⟩
  · cases ht
  · refine ⟨pre, server, more, hss, ?_⟩
    match n, hn with
    | 0, _ => exact .inl ⟨(List.cons.inj ht).1, by rw [hd]; exact List.append_nil _⟩
    | 1, _ => exact .inr (.inl ⟨(List.cons.inj ht).1, hd⟩)
    | 2, _ => exact .inr (.inr (.inl ⟨(List.cons.inj ht).1, hd⟩))
    | 3, _ => exact .inr (.inr (.inr ⟨(List.cons.inj ht).1, hd⟩))

theorem last_of_setActor {ss : List BaseServer} {done rest : List Statement} {server : BaseServer}
    (h : done ++ .setActor server :: rest = ss.flatMap round) :
    done.getLast? = some (.actorOf server) := by
  obtain ⟨pre, _, _, -, ⟨hs, -⟩ | ⟨hs, rfl⟩ | ⟨hs, -⟩ | ⟨hs, -⟩⟩ := head_cases h
  · cases hs
  · cases hs
    exact List.getLast?_concat
  · cases hs
  · cases hs

theorem last_of_init {ss : List BaseServer} {done rest : List Statement} {server : BaseServer}
    (h : done ++ .init server :: rest = ss.flatMap round) :
    done.getLast? = some (.setActor server) := by
  obtain ⟨pre, _, _, -, ⟨hs, -⟩ | ⟨hs, -⟩ | ⟨hs, rfl⟩ | ⟨hs, -⟩⟩ := head_cases h
  · cases hs
  · cases hs
  · cases hs
    rw [List.getLast?_append]
    rfl
  · cases hs

/-- Whoever sends a server's command gets all its answers. -/
theorem recipient_init {server : BaseServer} {actor : Option ActorRef} {command : TcpCommand}
    (h : server.init actor = .ok (some command)) (connection : Bool) :
    recipient (command, actor) connection = actor := by
  have hto : ∀ (m : SocketMethods) f, m.init f = .ok (some command) →
      ∃ address, command = f address := by
    intro m f h
    obtain ⟨host, port, -, -, -, h⟩ := SocketMethods.init_eq_ok_iff.mp h
    rcases SocketMethods.initTo_eq_ok_iff.mp h with ⟨-, -, hc⟩ | ⟨-, -, -, -, -, -, hc⟩
    · exact ⟨_, Option.some_inj.mp hc⟩
    · cases hc
  unfold BaseServer.init at h
  split at h
  · cases h
  · obtain ⟨address, rfl⟩ := hto _ _ h
    cases connection <;> rfl
  · obtain ⟨address, rfl⟩ := hto _ _ h
    cases connection <;> rfl

/-- What holds at every moment of a run: where the loop stands, what is known, and what the last
    statement has left behind. -/
structure Running (ss : List BaseServer) (p : Progress Statement World Throwable)
    (os : List Output) : Prop where
  split : p.done ++ p.todo = ss.flatMap round
  known : Known p.world os
  orderly : Orderly os
  created : ∀ server, p.done.getLast? = some (.actorOf server) →
    CreatedFor os p.world.actorRef server.object
  set : ∀ server, p.done.getLast? = some (.setActor server) →
    ∃ ref, p.world.actor server.object = some ref

namespace Running

variable {ss : List BaseServer} {os : List Output}

/-- The surroundings change neither the local variable nor what any server knows. -/
theorem surroundings {p : Progress Statement World Throwable} (h : Running ss p os) (k : Act) :
    Running ss { p with world := (surroundings k p.world).1 }
      (os ++ (ServerFactoryBean.surroundings k p.world).2) := by
  obtain ⟨hk, ho⟩ := h.known.surroundings h.orderly k
  have hsame : (ServerFactoryBean.surroundings k p.world).1.actorRef = p.world.actorRef ∧
      (ServerFactoryBean.surroundings k p.world).1.actor = p.world.actor := by
    rcases surroundings_cases k p.world with hk | ⟨_, _, _, -, hk⟩ | ⟨_, _, _, _, _, -, -, -, hk⟩ |
      ⟨_, hk⟩ <;> rw [hk] <;> exact ⟨rfl, rfl⟩
  refine ⟨h.split, hk, ho, fun server hlast => ?_, fun server hlast => ?_⟩
  · show CreatedFor _ (ServerFactoryBean.surroundings k p.world).1.actorRef _
    rw [hsame.1]
    exact (h.created server hlast).mono
  · obtain ⟨ref, hr⟩ := h.set server hlast
    exact ⟨ref, (congrFun hsame.2 _).trans hr⟩

/-- What the next moment needs, after `init` or `info`. -/
theorem of_known {done rest : List Statement} {a : Statement} {w : World}
    (hsplit : (done ++ [a]) ++ rest = ss.flatMap round) (hknown : Known w os) (ho : Orderly os)
    (hactorOf : ∀ server, a ≠ .actorOf server) (hsetActor : ∀ server, a ≠ .setActor server) :
    Running ss ⟨done ++ [a], rest, none, w⟩ os := by
  refine ⟨hsplit, hknown, ho, fun server hlast => ?_, fun server hlast => ?_⟩
  · exact absurd (Option.some_inj.mp (List.getLast?_concat.symm.trans hlast)) (hactorOf server)
  · exact absurd (Option.some_inj.mp (List.getLast?_concat.symm.trans hlast)) (hsetActor server)

/-- A server is initialised, and its command is told by the actor it has been given. -/
theorem init {done rest : List Statement} {server : BaseServer} {w : World}
    {command : Option TcpCommand} (h : Running ss ⟨done, .init server :: rest, none, w⟩ os)
    (hinit : server.init (w.actor server.object) = .ok command) :
    Running ss ⟨done ++ [Statement.init server], rest, none,
        { w with told := w.told ++ (command.map (·, w.actor server.object)).toList }⟩
      (os ++ (command.map (Output.tell · (w.actor server.object))).toList) := by
  have hsplit : (done ++ [Statement.init server]) ++ rest = ss.flatMap round := by
    rw [List.append_assoc]
    exact h.split
  cases command with
  | none =>
    simp only [Option.map_none, Option.toList_none, List.append_nil]
    exact of_known hsplit h.known h.orderly (fun _ => Statement.noConfusion)
      fun _ => Statement.noConfusion
  | some command =>
    obtain ⟨ref, hr⟩ := h.set server (last_of_init h.split)
    have hr : w.actor server.object = some ref := hr
    have hknows := h.known.actor server.object
    rw [hr] at hknows
    have htold : ToldBy os command (w.actor server.object) := by
      refine ⟨ref, server.object, hr, hknows.2, hknows.1, fun connection => ?_⟩
      rw [recipient_init hinit, hr]
    have hknown := h.known.concat (o := .tell command (w.actor server.object)) nofun nofun
    refine of_known hsplit ?_ (h.orderly.concat htold) (fun _ => Statement.noConfusion)
      fun _ => Statement.noConfusion
    refine ⟨hknown.live, hknown.fresh, hknown.single, hknown.actor, fun c sender hmem => ?_⟩
    rcases List.mem_append.mp hmem with hmem | hmem
    · exact hknown.told c sender hmem
    · cases List.mem_singleton.mp hmem
      exact htold.mono _

/-- A server is told the actor just created for it. -/
theorem setActor {done rest : List Statement} {server : BaseServer} {w : World}
    (h : Running ss ⟨done, .setActor server :: rest, none, w⟩ os) :
    Running ss ⟨done ++ [Statement.setActor server], rest, none,
        { w with actor := Function.update w.actor server.object (some w.actorRef) }⟩
      (os ++ [Output.setActor server.object w.actorRef]) := by
  have hsplit : (done ++ [Statement.setActor server]) ++ rest = ss.flatMap round := by
    rw [List.append_assoc]
    exact h.split
  have hc : CreatedFor os w.actorRef server.object := h.created server (last_of_setActor h.split)
  refine ⟨hsplit, h.known.setActor hc, h.orderly.concat hc, fun s hlast => ?_, fun s hlast => ?_⟩
  · rw [List.getLast?_concat] at hlast
    cases hlast
  · rw [List.getLast?_concat] at hlast
    cases hlast
    exact ⟨w.actorRef, Function.update_self ..⟩

/-- A statement returns. -/
theorem returned {done rest : List Statement} {a : Statement} {w : World}
    (ht : (exec akkaEsbSystem checkName a w).thrown = none)
    (h : Running ss ⟨done, a :: rest, none, w⟩ os) :
    Running ss ⟨done ++ [a], rest, none, (exec akkaEsbSystem checkName a w).self⟩
      (os ++ (exec akkaEsbSystem checkName a w).sent) := by
  have hsplit : (done ++ [a]) ++ rest = ss.flatMap round := by
    rw [List.append_assoc]
    exact h.split
  rcases exec_returned ht with ⟨s, cls, children, rfl, -, -, hentries, he⟩ | ⟨s, rfl, he⟩ |
    ⟨s, command, rfl, hinit, he⟩ | ⟨s, rfl, he⟩
  · obtain ⟨hsound, hknown⟩ := h.known.created cls hentries
    rw [he]
    refine ⟨hsplit, hknown, h.orderly.concat hsound, fun s' hlast => ?_, fun s' hlast => ?_⟩
    · rw [List.getLast?_concat] at hlast
      cases hlast
      exact ⟨cls, _, List.mem_append_right _ (List.mem_singleton_self _)⟩
    · rw [List.getLast?_concat] at hlast
      cases hlast
  · rw [he]
    exact h.setActor
  · rw [he]
    exact h.init hinit
  · rw [he]
    exact of_known hsplit (h.known.concat nofun nofun) (h.orderly.concat trivial)
      (fun _ => Statement.noConfusion) fun _ => Statement.noConfusion

end Running

variable (akkaEsbSystem checkName) (names : { names : List String // names.Nodup })
  (beans : List (Option BaseServer))

theorem running (es : List (Turn Act)) :
    Running (servers beans) ((loop akkaEsbSystem checkName names beans).after es)
      ((loop akkaEsbSystem checkName names beans).emitted es) := by
  refine Thread.thread_inv (I := fun _ p os => Running (servers beans) p os) ?_
    (fun _ p os k h => h.surroundings k) (fun _ done a rest w os ht h => h.returned ht)
    (fun _ done a rest w os e ht h => ?_) (fun _ _ _ _ h => h) es
  · refine ⟨rfl, ⟨fun name ref server hmem => ?_, nofun, nofun, fun server => nofun, nofun⟩, ?_,
      (fun _ h => nomatch h), (fun _ h => nomatch h)⟩
    · obtain ⟨x, -, hx⟩ := List.mem_map.mp hmem
      cases hx
    · intro before o after he
      cases before <;> cases he
  · obtain ⟨hself, hsent⟩ := exec_thrown ht
    show Running _ ⟨_, _, _, (exec akkaEsbSystem checkName a w).self⟩
      (os ++ (exec akkaEsbSystem checkName a w).sent)
    rw [hself, hsent, List.append_nil]
    exact ⟨h.split, h.known, h.orderly, h.created, h.set⟩

/-- **In every interleaving, a server sees none of its actors before `setActor` and one of its own
    after it; the TCP manager is told nothing but by an actor its server knows, and no server ever
    meets an answer without knowing its actor.** -/
theorem orderly_emitted (es : List (Turn Act)) :
    Orderly ((loop akkaEsbSystem checkName names beans).emitted es) :=
  (running akkaEsbSystem checkName names beans es).orderly

/-! ## 5. One server after the other -/

/-- A command but for its handler. -/
def request : TcpCommand → TcpCommand
  | .bind _ localAddress backlog => .bind none localAddress backlog
  | .connect remote => .connect remote

/-- What a server has to ask of the TCP manager, if its `init()` returns. -/
def requestOf (server : BaseServer) : Option TcpCommand :=
  match server.init none with
  | .ok command => command
  | .error _ => none

def createdFor : Output → Option Nat
  | .created _ _ server _ => some server
  | _ => none

def setFor : Output → Option Nat
  | .setActor server _ => some server
  | _ => none

def requested : Output → Option TcpCommand
  | .tell command _ => some (request command)
  | _ => none

def informed : Output → Option String
  | .info text => some text
  | _ => none

/-- The servers that have got as far as an actor, as `setActor`, as `init` and as `info`. -/
structure StartedUpTo (os : List Output) (created set initialised done : List BaseServer) :
    Prop where
  created : os.filterMap createdFor = created.map BaseServer.object
  set : os.filterMap setFor = set.map BaseServer.object
  initialised : os.filterMap requested = initialised.filterMap requestOf
  done : os.filterMap informed = done.map BaseServer.className

/-- What is asked for does not depend on the actor. -/
theorem requestOf_of_init {server : BaseServer} {actor : Option ActorRef}
    {command : Option TcpCommand} (h : server.init actor = .ok command) :
    requestOf server = command.map request := by
  have hto : ∀ (m : SocketMethods) (f g : InetSocketAddress → TcpCommand),
      m.init f = .ok command → (∀ address, g address = request (f address)) →
      m.init g = .ok (command.map request) := by
    intro m f g h hg
    obtain ⟨host, port, hhost, hport, hrange, h⟩ := SocketMethods.init_eq_ok_iff.mp h
    refine SocketMethods.init_eq_ok_iff.mpr ⟨host, port, hhost, hport, hrange, ?_⟩
    rw [hg]
    rcases SocketMethods.initTo_eq_ok_iff.mp h with ⟨ht, hs, rfl⟩ | ⟨t, t', ht, hn, ht', hn', rfl⟩
    · exact SocketMethods.initTo_eq_ok_iff.mpr (.inl ⟨ht, hs, rfl⟩)
    · exact SocketMethods.initTo_eq_ok_iff.mpr (.inr ⟨t, t', ht, hn, ht', hn', rfl⟩)
  have hnone : server.init none = .ok (command.map request) := by
    unfold BaseServer.init at h ⊢
    split at h
    · cases h
      rfl
    · exact hto _ _ _ h fun _ => rfl
    · exact hto _ _ _ h fun _ => rfl
  unfold requestOf
  rw [hnone]

/-- What an observer of the loop sees: nothing of the surroundings, and of every statement that has
    returned what `f` says. -/
theorem filterMap_emitted {β : Type} {g : Output → Option β} {f : Statement → List β}
    (hcalled : ∀ ref server actor, g (.called ref server actor) = none)
    (hanswered : ∀ ref server actor, g (.answered ref server actor) = none)
    (hexec : ∀ a w, (exec akkaEsbSystem checkName a w).thrown = none →
      (exec akkaEsbSystem checkName a w).sent.filterMap g = f a) (es : List (Turn Act)) :
    ((loop akkaEsbSystem checkName names beans).emitted es).filterMap g =
      ((loop akkaEsbSystem checkName names beans).after es).done.flatMap f := by
  refine Thread.filterMap_emitted _ _ _ (fun k w => ?_) hexec (fun a w ht => ?_) es
  · show (surroundings k w).2.filterMap g = []
    rcases surroundings_cases k w with hk | ⟨_, ref, server, -, hk⟩ |
      ⟨_, _, _, ref, server, -, -, -, hk⟩ | ⟨_, hk⟩
    · rw [hk, List.filterMap_nil]
    · rw [hk, List.filterMap_cons_none (hcalled _ _ _), List.filterMap_nil]
    · rw [hk, List.filterMap_cons_none (hanswered _ _ _), List.filterMap_nil]
    · rw [hk, List.filterMap_nil]
  · obtain ⟨e, he⟩ := Option.ne_none_iff_exists'.mp ht
    show (exec akkaEsbSystem checkName a w).sent.filterMap g = []
    rw [(exec_thrown he).2, List.filterMap_nil]

namespace Statement

-- What a statement shows when it returns, in the same four respects.

def createdFor : Statement → List Nat
  | .actorOf server => [server.object]
  | _ => []

def setFor : Statement → List Nat
  | .setActor server => [server.object]
  | _ => []

def requested : Statement → List TcpCommand
  | .init server => (requestOf server).toList
  | _ => []

def informed : Statement → List String
  | .info server => [server.className]
  | _ => []

end Statement

/-- The outputs show the statements that have returned. -/
structure Shown (os : List Output) (done : List Statement) : Prop where
  created : os.filterMap createdFor = done.flatMap Statement.createdFor
  set : os.filterMap setFor = done.flatMap Statement.setFor
  requested : os.filterMap requested = done.flatMap Statement.requested
  informed : os.filterMap informed = done.flatMap Statement.informed

theorem shown_emitted (es : List (Turn Act)) :
    Shown ((loop akkaEsbSystem checkName names beans).emitted es)
      ((loop akkaEsbSystem checkName names beans).after es).done := by
  constructor
  all_goals
    refine filterMap_emitted akkaEsbSystem checkName names beans (fun _ _ _ => rfl)
      (fun _ _ _ => rfl) (fun a w ht => ?_) es
    rcases exec_returned ht with ⟨s, cls, children, rfl, -, -, -, he⟩ | ⟨s, rfl, he⟩ |
      ⟨s, command, rfl, hinit, he⟩ | ⟨s, rfl, he⟩ <;> rw [he]
  · rfl
  · rfl
  · cases command <;> rfl
  · rfl
  · rfl
  · rfl
  · cases command <;> rfl
  · rfl
  · rfl
  · rfl
  · show _ = (requestOf s).toList
    rw [requestOf_of_init hinit]
    cases command <;> rfl
  · rfl
  · rfl
  · rfl
  · cases command <;> rfl
  · rfl

/-- What whole rounds show. -/
theorem flatMap_rounds {β : Type} {f : Statement → List β} {g : BaseServer → List β}
    (h : ∀ server, (round server).flatMap f = g server) (ss : List BaseServer) :
    (ss.flatMap round).flatMap f = ss.flatMap g := by
  rw [List.flatMap_assoc]
  exact congrArg (List.flatMap · ss) (funext h)

/-- Some rounds, and part of another. -/
theorem Shown.startedUpTo {os : List Output} {pre : List BaseServer} {part : List Statement}
    (h : Shown os (pre.flatMap round ++ part)) {created set initialised : List BaseServer}
    (hcreated : part.flatMap Statement.createdFor = created.map BaseServer.object)
    (hset : part.flatMap Statement.setFor = set.map BaseServer.object)
    (hrequested : part.flatMap Statement.requested = initialised.filterMap requestOf)
    (hinformed : part.flatMap Statement.informed = []) :
    StartedUpTo os (pre ++ created) (pre ++ set) (pre ++ initialised) pre := by
  constructor
  · rw [h.created, List.flatMap_append, hcreated, List.map_append]
    exact congrArg (· ++ _) ((flatMap_rounds (fun _ => rfl) pre).trans List.map_eq_flatMap.symm)
  · rw [h.set, List.flatMap_append, hset, List.map_append]
    exact congrArg (· ++ _) ((flatMap_rounds (fun _ => rfl) pre).trans List.map_eq_flatMap.symm)
  · rw [h.requested, List.flatMap_append, hrequested, List.filterMap_append]
    refine congrArg (· ++ _) ((flatMap_rounds (fun _ => ?_) pre).trans
      (List.filterMap_eq_flatMap_toList _ _).symm)
    exact List.append_nil _
  · rw [h.informed, List.flatMap_append, hinformed, List.append_nil]
    exact (flatMap_rounds (fun _ => rfl) pre).trans List.map_eq_flatMap.symm

theorem length_rounds (ss : List BaseServer) : (ss.flatMap round).length = 4 * ss.length := by
  induction ss with
  | nil => rfl
  | cons server ss ih =>
    rw [List.flatMap_cons, List.length_append, ih, List.length_cons]
    show 4 + _ = _
    omega

/-- **The servers are started one after the other**, whatever happens meanwhile: each gets its
    actor, is told it, is initialised and reported before the next one is touched. With four turns
    for each server the loop is through, unless it has thrown. -/
theorem startedInOrder (es : List (Turn Act)) :
    ∃ pre rest created set initialised, servers beans = pre ++ rest ∧
      initialised <+: set ∧ set <+: created ∧ created <+: rest.take 1 ∧
      StartedUpTo ((loop akkaEsbSystem checkName names beans).emitted es)
        (pre ++ created) (pre ++ set) (pre ++ initialised) pre ∧
      (4 * (servers beans).length ≤ Thread.turns es →
        ((loop akkaEsbSystem checkName names beans).after es).thrown = none → rest = []) := by
  have hshown := shown_emitted akkaEsbSystem checkName names beans es
  have hsplit := (running akkaEsbSystem checkName names beans es).split
  have hover : 4 * (servers beans).length ≤ Thread.turns es →
      ((loop akkaEsbSystem checkName names beans).after es).thrown = none →
      ((loop akkaEsbSystem checkName names beans).after es).todo = [] := by
    intro hturns hthrown
    have ho : ((loop akkaEsbSystem checkName names beans).after es).Over :=
      Thread.over_of_turns _ _ _ ((length_rounds _).trans_le hturns)
    exact ho.resolve_right fun h => h hthrown
  rcases append_eq_flatMap hsplit with ⟨hd, -⟩ | ⟨pre, server, more, n, hss, hn, hd, ht⟩
  · refine ⟨servers beans, [], [], [], [], (List.append_nil _).symm, List.prefix_rfl,
      List.prefix_rfl, List.prefix_rfl, ?_, fun _ _ => rfl⟩
    rw [hd, ← List.append_nil (List.flatMap _ _)] at hshown
    exact hshown.startedUpTo rfl rfl rfl rfl
  · have hrest : 4 * (servers beans).length ≤ Thread.turns es →
        ((loop akkaEsbSystem checkName names beans).after es).thrown = none →
        server :: more = [] := by
      intro hturns hthrown
      have hnil := hover hturns hthrown
      rw [ht] at hnil
      have hlen := congrArg List.length (List.append_eq_nil_iff.mp hnil).1
      rw [List.length_drop, List.length_nil] at hlen
      omega
    rw [hd] at hshown
    match n, hn with
    | 0, _ => exact ⟨pre, server :: more, [], [], [], hss, List.prefix_rfl, List.prefix_rfl,
        List.nil_prefix, hshown.startedUpTo rfl rfl rfl rfl, hrest⟩
    | 1, _ => exact ⟨pre, server :: more, [server], [], [], hss, List.prefix_rfl, List.nil_prefix,
        List.prefix_rfl, hshown.startedUpTo rfl rfl rfl rfl, hrest⟩
    | 2, _ => exact ⟨pre, server :: more, [server], [server], [], hss, List.nil_prefix,
        List.prefix_rfl, List.prefix_rfl, hshown.startedUpTo rfl rfl rfl rfl, hrest⟩
    | 3, _ =>
      refine ⟨pre, server :: more, [server], [server], [server], hss, List.prefix_rfl,
        List.prefix_rfl, List.prefix_rfl, hshown.startedUpTo rfl rfl ?_ rfl, hrest⟩
      show (requestOf server).toList ++ [] = _
      rw [List.append_nil, List.filterMap_eq_flatMap_toList, List.flatMap_singleton]

/-! ## 6. When nothing throws -/

/-- What keeps a statement from throwing, but for names in use. -/
def Fit (akkaEsbSystem : SystemField) (checkName : String → Option Throwable) : Statement → Prop
  | .actorOf server => Creatable akkaEsbSystem checkName server
  | .init server => ∃ command, server.init none = .ok command
  | _ => True

/-- The name a statement takes. -/
def Statement.named : Statement → List String
  | .actorOf server => [server.className]
  | _ => []

theorem init_none_iff {server : BaseServer} (actor : Option ActorRef) :
    (∃ command, server.init none = .ok command) ↔ ∃ command, server.init actor = .ok command := by
  unfold BaseServer.init
  split
  · rfl
  · rw [SocketMethods.init_returns_iff, SocketMethods.init_returns_iff]
  · rfl

/-- **A statement returns exactly if it is fit and its name is free.** -/
theorem exec_returns_iff {akkaEsbSystem : SystemField} {checkName : String → Option Throwable}
    {a : Statement} {w : World} : (exec akkaEsbSystem checkName a w).thrown = none ↔
      Fit akkaEsbSystem checkName a ∧ ∀ name ∈ a.named, name ∉ w.actors.names := by
  constructor
  · intro h
    rcases exec_returned h with ⟨s, cls, children, rfl, hc, hfree, -, -⟩ | ⟨s, rfl, -⟩ |
      ⟨s, command, rfl, hinit, -⟩ | ⟨s, rfl, -⟩
    · exact ⟨hc, List.forall_mem_singleton.mpr hfree⟩
    · exact ⟨trivial, nofun⟩
    · exact ⟨(init_none_iff _).mpr ⟨command, hinit⟩, nofun⟩
    · exact ⟨trivial, nofun⟩
  · rintro ⟨hfit, hfree⟩
    cases a with
    | actorOf server =>
      obtain ⟨r, hr⟩ := actorOf_of_creatable hfit (hfree _ (List.mem_singleton_self _))
      simp only [exec, hr]
    | setActor server => rfl
    | init server =>
      obtain ⟨command, hr⟩ := (init_none_iff (w.actor server.object)).mp hfit
      cases command with
      | none => simp only [exec, hr]
      | some command => simp only [exec, hr]
    | info server => rfl

/-- A statement that returns leaves the names there were, and its own. -/
theorem names_exec {akkaEsbSystem : SystemField} {checkName : String → Option Throwable}
    {a : Statement} {w : World} (h : (exec akkaEsbSystem checkName a w).thrown = none) :
    (exec akkaEsbSystem checkName a w).self.actors.names = w.actors.names ++ a.named := by
  rcases exec_returned h with ⟨s, cls, children, rfl, -, -, hentries, he⟩ | ⟨s, rfl, he⟩ |
    ⟨s, command, rfl, -, he⟩ | ⟨s, rfl, he⟩
  · rw [he]
    show children.entries.map Prod.fst = _
    rw [hentries, List.map_append]
    rfl
  · rw [he]
    exact (List.append_nil _).symm
  · rw [he]
    exact (List.append_nil _).symm
  · rw [he]
    exact (List.append_nil _).symm

/-- The surroundings take names away, and give none. -/
theorem names_surroundings (k : Act) (w : World) :
    (surroundings k w).1.actors.names ⊆ w.actors.names := by
  rcases surroundings_cases k w with hk | ⟨_, _, _, -, hk⟩ | ⟨_, _, _, _, _, -, -, -, hk⟩ |
    ⟨name, hk⟩
  · rw [hk]
    exact List.Subset.refl _
  · rw [hk]
    exact List.Subset.refl _
  · rw [hk]
    exact List.Subset.refl _
  · rw [hk]
    exact w.actors.names_remove name

/-- The names in use are among those there were and those taken; and they are all of these when
    the surroundings have done nothing. What is done was fit. -/
structure InUse (akkaEsbSystem : SystemField) (checkName : String → Option Throwable)
    (names : List String) (es : List (Turn Act)) (p : Progress Statement World Throwable) :
    Prop where
  subset : p.world.actors.names ⊆ names ++ p.done.flatMap Statement.named
  alone : (∀ t ∈ es, t = .thread) →
    p.world.actors.names = names ++ p.done.flatMap Statement.named
  fit : ∀ a ∈ p.done, Fit akkaEsbSystem checkName a

theorem inUse_after (es : List (Turn Act)) :
    InUse akkaEsbSystem checkName names.1 es
      ((loop akkaEsbSystem checkName names beans).after es) := by
  refine Thread.thread_inv (I := fun es p _ => InUse akkaEsbSystem checkName names.1 es p) ?_
    (fun es p _ k h => ?_) (fun es done a rest w _ ht h => ?_) (fun es done a rest w _ e ht h => ?_)
    (fun es p _ _ h => ?_) es
  · have hstart : (World.initial names).actors.names = names.1 ++ [] := by
      show (names.1.zipIdx.map fun (name, ref) => (name, ref, none)).map Prod.fst = _
      rw [List.map_map, List.append_nil]
      exact List.zipIdx_map_fst 0 names.1
    exact ⟨fun _ h => hstart ▸ h, fun _ => hstart, fun _ h => absurd h List.not_mem_nil⟩
  · refine ⟨List.Subset.trans (names_surroundings k p.world) h.subset, fun hall => ?_, h.fit⟩
    exact absurd (hall _ (List.mem_append_right _ (List.mem_singleton_self _))) nofun
  · have hnamed : (done ++ [a]).flatMap Statement.named =
        done.flatMap Statement.named ++ a.named := by
      rw [List.flatMap_append, List.flatMap_singleton]
    have hself := names_exec ht
    refine ⟨?_, fun hall => ?_, fun b hb => ?_⟩
    · show (exec akkaEsbSystem checkName a w).self.actors.names ⊆ _
      rw [hself, hnamed, ← List.append_assoc]
      exact List.append_subset.mpr ⟨List.Subset.trans h.subset (List.subset_append_left _ _),
        List.subset_append_right _ _⟩
    · show (exec akkaEsbSystem checkName a w).self.actors.names = _
      rw [hself, hnamed, ← List.append_assoc]
      exact congrArg (· ++ _) (h.alone fun t ht => hall t (List.mem_append_left _ ht))
    · rcases List.mem_append.mp hb with hb | hb
      · exact h.fit b hb
      · rw [List.mem_singleton.mp hb]
        exact (exec_returns_iff.mp ht).1
  · have hself := (exec_thrown ht).1
    refine ⟨?_, fun hall => ?_, h.fit⟩
    · show (exec akkaEsbSystem checkName a w).self.actors.names ⊆ _
      rw [hself]
      exact h.subset
    · show (exec akkaEsbSystem checkName a w).self.actors.names = _
      rw [hself]
      exact h.alone fun t ht => hall t (List.mem_append_left _ ht)
  · exact ⟨h.subset, fun hall => h.alone fun t ht => hall t (List.mem_append_left _ ht), h.fit⟩

theorem flatMap_named (ss : List BaseServer) :
    (ss.flatMap round).flatMap Statement.named = ss.map BaseServer.className :=
  (flatMap_rounds (fun _ => rfl) ss).trans List.map_eq_flatMap.symm

/-- Every server can be started, under a name of its own. -/
structure AllStartable (names : List String) (ss : List BaseServer) : Prop where
  system : ss ≠ [] → akkaEsbSystem = .started
  legal : ∀ server ∈ ss, checkName server.className = none
  ready : ∀ server ∈ ss, server.Ready
  distinct : (names ++ ss.map BaseServer.className).Nodup

theorem fit_rounds_iff {akkaEsbSystem : SystemField} {checkName : String → Option Throwable}
    {ss : List BaseServer} : (∀ a ∈ ss.flatMap round, Fit akkaEsbSystem checkName a) ↔
      (ss ≠ [] → akkaEsbSystem = .started) ∧ (∀ server ∈ ss, checkName server.className = none) ∧
        ∀ server ∈ ss, server.Ready := by
  constructor
  · intro h
    have hcreatable : ∀ server ∈ ss, Creatable akkaEsbSystem checkName server := fun server hs =>
      h (.actorOf server) (List.mem_flatMap.mpr ⟨server, hs, List.mem_cons_self⟩)
    have hinit : ∀ server ∈ ss, ∃ command, server.init none = .ok command := fun server hs =>
      h (.init server) (List.mem_flatMap.mpr ⟨server, hs, by simp [round]⟩)
    refine ⟨fun hne => ?_, fun server hs => (hcreatable server hs).name, fun server hs => ?_⟩
    · obtain ⟨server, hs⟩ := List.exists_mem_of_ne_nil ss hne
      exact (hcreatable server hs).started
    · exact (server.ready_iff none).mpr ⟨(hcreatable server hs).cls, hinit server hs⟩
  · rintro ⟨hsystem, hlegal, hready⟩ a ha
    obtain ⟨server, hs, ha⟩ := List.mem_flatMap.mp ha
    obtain ⟨hcls, hinit⟩ := (server.ready_iff none).mp (hready server hs)
    simp only [round, List.mem_cons, List.not_mem_nil, or_false] at ha
    rcases ha with rfl | rfl | rfl | rfl
    · exact ⟨hsystem (List.ne_nil_of_mem hs), hlegal server hs, hcls⟩
    · trivial
    · exact hinit
    · trivial

/-- **No interleaving makes the loop throw if and only if the system is started, every server can
    be, and no two of them are of one class** -- nor of a class whose name an actor has already. -/
theorem neverThrows_iff :
    (∀ es, ((loop akkaEsbSystem checkName names beans).after es).thrown = none) ↔
      AllStartable akkaEsbSystem checkName names.1 (servers beans) := by
  constructor
  · intro h
    have hturns : (setApplicationContext beans).length ≤ Thread.turns
        (List.replicate (setApplicationContext beans).length (.thread : Turn Act)) := by
      unfold Thread.turns
      rw [List.countP_replicate]
      exact le_rfl
    generalize hes : List.replicate (setApplicationContext beans).length (.thread : Turn Act) = es
      at hturns
    have hover : ((loop akkaEsbSystem checkName names beans).after es).Over :=
      Thread.over_of_turns _ _ _ hturns
    have htodo := hover.resolve_right fun hne => hne (h es)
    have hdone := (running akkaEsbSystem checkName names beans es).split
    rw [htodo, List.append_nil] at hdone
    obtain ⟨-, halone, hfit⟩ := inUse_after akkaEsbSystem checkName names beans es
    rw [hdone] at hfit halone
    obtain ⟨hsystem, hlegal, hready⟩ := fit_rounds_iff.mp hfit
    refine ⟨hsystem, hlegal, hready, ?_⟩
    have hnodup : ((loop akkaEsbSystem checkName names beans).after es).world.actors.names.Nodup :=
      ((loop akkaEsbSystem checkName names beans).after es).world.actors.nodup
    rwa [halone fun t ht => by
      rw [← hes] at ht
      exact List.eq_of_mem_replicate ht, flatMap_named] at hnodup
  · intro h
    refine Thread.never_throws _ _ _ fun es a rest htodo => ?_
    have hsplit := (running akkaEsbSystem checkName names beans es).split
    have htodo : ((loop akkaEsbSystem checkName names beans).after es).todo = a :: rest :=
      htodo
    rw [htodo] at hsplit
    refine exec_returns_iff.mpr ⟨fit_rounds_iff.mpr ⟨h.system, h.legal, h.ready⟩ a ?_, ?_⟩
    · rw [← hsplit]
      exact List.mem_append_right _ List.mem_cons_self
    · intro name hname hused
      have hsubset := (inUse_after akkaEsbSystem checkName names beans es).subset hused
      have hdistinct := h.distinct
      rw [← flatMap_named, ← hsplit, List.flatMap_append, List.flatMap_cons,
        ← List.append_assoc] at hdistinct
      exact List.disjoint_of_nodup_append hdistinct hsubset (List.mem_append_left _ hname)

/-- Two servers of one class. -/
def twins : List (Option BaseServer) :=
  [some ⟨0, "org.demo.Clock", .plain⟩, none, some ⟨1, "org.demo.Clock", .plain⟩]

-- The second gets no actor as long as the first one's is there.
example : ((loop .started (fun _ => none) ⟨[], .nil⟩ twins).after
    (List.replicate 5 .thread)).thrown = some (notUnique "org.demo.Clock") := rfl

example : ((loop .started (fun _ => none) ⟨[], .nil⟩ twins).after
    (List.replicate 4 .thread ++ .other (.ended "org.demo.Clock") ::
      List.replicate 4 .thread)).thrown = none := rfl

-- The first actor may call its server before the server has been told of it.
example : (loop .started (fun _ => none) ⟨[], .nil⟩ twins).emitted
    [.thread, .other (.call "org.demo.Clock"), .thread, .other (.call "org.demo.Clock")] =
      [.created 0 "org.esb.server.ServerActor" 0 "org.demo.Clock", .called 0 0 none,
        .setActor 0 0, .called 0 0 (some 0)] := rfl

end ServerFactoryBean

end EsbCore
