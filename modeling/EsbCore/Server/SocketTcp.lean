/-
  File:      EsbCore/Server/SocketTcp.lean
  Subject:   THE ACTORS OF A SOCKET SERVER OR CLIENT (`org.esb.server.socket.tcp.SocketTcpActor`,
             `SocketTcpHandler`, `SocketTcpLisenter`, `org.esb.server.socket.SocketServer`,
             `SocketClient`) with the connections they talk to.

  The actor of a server is told `Connected` by every connection it accepts, the actor of a client
  by its one connection. For each it creates a handler over the one listener it has, and registers
  the handler with the connection, which from then on sends what it receives to the handler.

  Of TCP the model has what the bus relies on: a connection sends `Connected` to the actor that
  asked for it, and its data and its closing to the handler registered, with itself as sender. A
  `Write` that comes while one is under way it refuses with `CommandFailed`, and all after it: the
  bus registers for resuming and never resumes.

  A restart of the actor stops its handlers, unless the server's own `preRestart` throws before the
  inherited one is called. Then they live on and are created anew as well, each in its own time and
  before it takes another message.

  * `SocketTcpActor.onReceive`, `connected`, `restart` -- the actor, in its two behaviours;
  * `SocketTcpHandler.onReceive`, `SocketTcpLisenter.write`, `writeTo` -- handler and listener;
  * `socketTcp` -- all of them over one world, any order of deliveries;
  * `ActorStep`, `HandlerStep`, `ConnectionStep` -- what one delivery does.
-/
import EsbCore.Lib.Mail
import EsbCore.Server.ServerActor

namespace EsbCore

open Java Lib

variable {δ : Type}

/-! ## 1. Messages -/

/-- The actors: the server's own, its handlers and the connections, in the order in which they were
    created. `noSender` is the null of a sender. -/
inductive SocketRef where
  | noSender
  | actor
  | handler (n : Nat)
  | connection (n : Nat)
  deriving DecidableEq, Repr

/-- `Tcp.Connected`. -/
structure Connected where
  remoteAddress : String
  localAddress : String
  deriving DecidableEq, Repr

/-- What the actors are sent, over byte strings `δ`. `create` is what makes a new handler run its
    constructor; `received` and `write` carry the number of their object. -/
inductive SocketMessage (δ : Type) where
  | create
  | bound
  | commandFailed
  | connected (conn : Connected)
  | received (ref : Nat) (data : δ)
  | connectionClosed
  | byteString (data : δ)
  | run
  | register (handler : SocketRef)
  | write (ref : Nat) (data : δ)
  | other
  deriving DecidableEq, Repr

abbrev SocketEnvelope (δ : Type) := Envelope SocketRef (SocketMessage δ)

/-! ## 2. The listener -/

/-- The fields of a listener. -/
structure SocketTcpLisenter where
  handleActor : Option SocketRef
  connected : Option Connected
  ready : Bool
  deriving DecidableEq, Repr

/-- A call of `write` in the code of a listener's subclass: back to the sender `receive` was given,
    or without a receiver. -/
inductive WriteCall (δ : Type) where
  | writeTo (data : δ)
  | write (data : δ)
  deriving DecidableEq, Repr

/-- A call made: the number of its `Write` object, and what was told to whom. -/
structure Written (δ : Type) where
  call : WriteCall δ
  ref : Nat
  told : Option (SocketEnvelope δ)
  deriving DecidableEq, Repr

namespace SocketTcpLisenter

/-- `new SocketTcpLisenter()`. -/
def new : SocketTcpLisenter := ⟨none, none, false⟩

/-- `setHandler(handler)`. -/
def setHandler (self : SocketTcpLisenter) (handler : SocketRef) : SocketTcpLisenter :=
  { self with handleActor := some handler }

/-- `setConnected(conn)`, which does not keep `conn`. -/
def setConnected (self : SocketTcpLisenter) (_ : Connected) : SocketTcpLisenter :=
  { self with ready := true }

/-- `write(data, sender)`. -/
def writeTo (self : SocketTcpLisenter) (ref : Nat) (data : δ) (sender : SocketRef) :
    SocketEnvelope δ := ⟨sender, self.handleActor.getD .noSender, .write ref data⟩

/-- `write(data)`. -/
def write (self : SocketTcpLisenter) (ref : Nat) (data : δ) :
    Except Throwable (SocketEnvelope δ) :=
  match self.handleActor with
  | none => .error .nullPointer
  | some handler => .ok ⟨handler, handler, .write ref data⟩

theorem write_of_none {self : SocketTcpLisenter} (h : self.handleActor = none) (ref : Nat)
    (data : δ) : self.write ref data = .error .nullPointer := by
  unfold write
  rw [h]

theorem write_of_some {self : SocketTcpLisenter} {r : SocketRef} (h : self.handleActor = some r)
    (ref : Nat) (data : δ) : self.write ref data = .ok ⟨r, r, .write ref data⟩ := by
  unfold write
  rw [h]

/-- The calls of one `receive`, the first `Write` object being the one numbered `ref`; an exception
    ends them. -/
def calls (self : SocketTcpLisenter) (sender : SocketRef) :
    Nat → List (WriteCall δ) → List (Written δ) × Option Throwable
  | _, [] => ([], none)
  | ref, .writeTo data :: cs =>
    let rest := calls self sender (ref + 1) cs
    (⟨.writeTo data, ref, some (self.writeTo ref data sender)⟩ :: rest.1, rest.2)
  | ref, .write data :: cs =>
    match self.write ref data with
    | .error e => ([⟨.write data, ref, none⟩], some e)
    | .ok env =>
      let rest := calls self sender (ref + 1) cs
      (⟨.write data, ref, some env⟩ :: rest.1, rest.2)

/-- What a call tells, by the listener as it is. -/
def told (self : SocketTcpLisenter) (sender : SocketRef) (ref : Nat) :
    WriteCall δ → Option (SocketEnvelope δ)
  | .writeTo data => some (self.writeTo ref data sender)
  | .write data => (self.write ref data).toOption

/-- **Every call made tells what the listener says, and the objects are numbered in order.** -/
theorem calls_spec (self : SocketTcpLisenter) (sender : SocketRef) (cs : List (WriteCall δ)) :
    ∀ ref, (∀ w ∈ (self.calls sender ref cs).1, w.told = self.told sender w.ref w.call) ∧
      (self.calls sender ref cs).1.map Written.ref =
        List.range' ref (self.calls sender ref cs).1.length := by
  induction cs with
  | nil => exact fun ref => ⟨fun w hw => absurd hw List.not_mem_nil, rfl⟩
  | cons c cs ih =>
    intro ref
    obtain ⟨htold, hrefs⟩ := ih (ref + 1)
    cases c with
    | writeTo data =>
      refine ⟨fun w hw => ?_, congrArg (ref :: ·) hrefs⟩
      rcases List.mem_cons.mp hw with rfl | hw
      · rfl
      · exact htold w hw
    | write data =>
      unfold calls
      cases he : self.write ref data with
      | error e =>
        refine ⟨fun w hw => ?_, rfl⟩
        rw [List.mem_singleton.mp hw]
        simp only [told, he]
        rfl
      | ok env =>
        refine ⟨fun w hw => ?_, congrArg (ref :: ·) hrefs⟩
        rcases List.mem_cons.mp hw with rfl | hw
        · simp only [told, he]
          rfl
        · exact htold w hw

end SocketTcpLisenter

/-! ## 3. The world -/

/-- What the user's code does meanwhile: which of the server's methods throw, which listener
    `getSocketLisenter` returns (by its number, or null), and what `receive` calls before it
    returns or throws. `flushes` is for the channel of a connection: it takes a whole `Write` at
    once. -/
structure UserCode (δ : Type) where
  hook : Hook → Option Throwable
  getSocketLisenter : Except Throwable (Option Nat)
  calls : List (WriteCall δ)
  thrown : Option Throwable
  flushes : Bool

/-- What the `ServerEvent` of an actor is. -/
inductive ServerKind where
  | socketServer | socketClient | other
  deriving DecidableEq, Repr

/-- What the actor does with a message: its `onReceive`, or what it became. -/
inductive Behaviour where
  | onReceive
  | connected (connection handler : SocketRef)
  deriving DecidableEq, Repr

/-- The fields of the actor, and its behaviour. -/
structure SocketTcpActor where
  isServer : Bool
  socketLisenter : Option Nat
  behaviour : Behaviour
  deriving DecidableEq, Repr

/-- A handler: `unborn` until its constructor has run. -/
structure SocketTcpHandler where
  socketLisenter : Nat
  phase : Phase
  deriving DecidableEq, Repr

/-- A connection: the handler registered with it, whether it is closed, whether a `Write` is under
    way, and whether it has refused one. -/
structure TcpConnection where
  handler : Option SocketRef
  closed : Bool
  writePending : Bool
  writingSuspended : Bool
  deriving DecidableEq, Repr

/-- The actor, its handlers, which of them are still to be created anew (by number, with their
    listeners), the connections, the listeners by number, and how many `Received` and `Write`
    objects there were. -/
structure SocketNet where
  actor : SocketTcpActor
  phase : Phase
  handlers : List SocketTcpHandler
  owed : List (Nat × Nat)
  connections : List TcpConnection
  lisenters : Nat → SocketTcpLisenter
  allocated : Nat

/-- A call of `receive`: the listener and its handler field at the time, the `Received` object, its
    data, the sender, the calls of `write` made in it, and how the user's code ended it. -/
structure ReceiveCall (δ : Type) where
  lisenter : Nat
  handleActor : Option SocketRef
  ref : Nat
  data : δ
  sender : SocketRef
  written : List (Written δ)
  thrown : Option Throwable
  deriving DecidableEq, Repr

/-- What happens besides messages: the running actor takes a byte string, `receive` is called,
    `write(data)` is called from elsewhere, an open connection takes a `Write`, a handler that
    outlived a restart of the actor is created anew. -/
inductive SocketOutput (δ : Type) where
  | accepted (data : δ)
  | receive (call : ReceiveCall δ)
  | wrote (written : Written δ)
  | handed (connection ref : Nat) (data : δ)
  | recreated (handler : Nat)
  deriving DecidableEq, Repr

abbrev SocketEffect (δ : Type) := Effect SocketRef (SocketMessage δ) (SocketOutput δ)

namespace SocketNet

variable (net : SocketNet)

/-- A listener is changed. -/
@[simps]
def setLisenter (l : Nat) (f : SocketTcpLisenter → SocketTcpLisenter) : SocketNet :=
  { net with lisenters := fun i => if i = l then f (net.lisenters i) else net.lisenters i }

/-- The phase of a handler is changed. -/
@[simps]
def setPhase (n : Nat) (phase : Phase) : SocketNet :=
  { net with handlers := net.handlers.modify n fun h => { h with phase := phase } }

/-- Every handler is stopped. -/
@[simps]
def stopHandlers : SocketNet :=
  { net with handlers := net.handlers.map fun h => { h with phase := .stopped } }

/-- The actor is stopped, and its handlers with it. -/
@[simps!]
def stop : SocketNet := { net.stopHandlers with phase := .stopped }

/-- The handlers at work, by number, with their listeners. -/
def atWork : List (Nat × Nat) :=
  net.handlers.zipIdx.filterMap fun x =>
    if x.1.phase = .alive then some (x.2, x.1.socketLisenter) else none

theorem mem_atWork {net : SocketNet} {x : Nat × Nat} :
    x ∈ net.atWork ↔ net.handlers[x.1]? = some ⟨x.2, .alive⟩ := by
  unfold atWork
  rw [List.mem_filterMap]
  constructor
  · rintro ⟨⟨⟨l, phase⟩, n⟩, hmem, h⟩
    obtain ⟨hp, hx⟩ := Option.ite_none_right_eq_some.mp h
    obtain rfl : phase = .alive := hp
    obtain rfl : (n, l) = x := Option.some.inj hx
    exact List.mem_zipIdx_iff_getElem?.mp hmem
  · intro h
    exact ⟨(⟨x.2, .alive⟩, x.1), List.mem_zipIdx_iff_getElem?.mpr h, if_pos rfl⟩

@[simp] theorem atWork_stopHandlers : net.stopHandlers.atWork = [] := by
  refine List.eq_nil_iff_forall_not_mem.mpr fun x hx => ?_
  have h := mem_atWork.mp hx
  rw [stopHandlers_handlers, List.getElem?_map] at h
  obtain ⟨y, -, hy⟩ := Option.map_eq_some_iff.mp h
  exact nomatch congrArg SocketTcpHandler.phase hy

/-- The handler the next `actorOf` creates. -/
def nextHandler : SocketRef := .handler net.handlers.length

/-- `getContext().actorOf(Props.create(SocketTcpHandler.class, socketLisenter))`. -/
@[simps]
def actorOf (l : Nat) : SocketNet := { net with handlers := net.handlers ++ [⟨l, .unborn⟩] }

@[simp] theorem stop_stopHandlers : net.stopHandlers.stop = net.stop := by
  simp [stop, stopHandlers]

end SocketNet

/-! ## 4. The actor -/

/-- How an actor is set up: what its server is, its schedule, and what `getSocketLisenter` returned
    to the first instance. -/
structure SocketSetup where
  kind : ServerKind
  schedulable : Option Schedulable
  lisenter : Option Nat
  deriving DecidableEq, Repr

namespace SocketTcpActor

variable (setup : SocketSetup) (k : UserCode δ)

/-- The fields after `new SocketTcpActor(serverEvent)`. -/
def new (lisenter : Option Nat) : SocketTcpActor where
  isServer := setup.kind = .socketServer
  socketLisenter := if setup.kind = .other then none else lisenter
  behaviour := .onReceive

/-- What `super(serverEvent)` tells at once. -/
def superNew : List (SocketEffect δ) :=
  match (ServerActor.newOutput setup.schedulable : ServerOutput Empty) with
  | .tellSelf _ => [.tell ⟨.actor, .actor, .run⟩]
  | _ => []

/-- `getSocketLisenter()`, which is asked of a server or a client only. -/
def getSocketLisenter : Except Throwable (Option Nat) :=
  if setup.kind = .other then .ok none else k.getSocketLisenter

/-- The server's methods: they throw or return. -/
def methods : ServerEvent SocketNet (UserCode δ) Empty := ⟨fun h k net => ⟨net, [], k.hook h⟩⟩

/-- `super.onReceive(message)`. -/
def superOnReceive (m : ServerMessage) (net : SocketNet) :
    Reaction SocketNet (SocketEffect δ) Throwable :=
  ⟨net, [], (ServerActor.onReceive methods k m net).thrown⟩

/-- `onReceive`. -/
def onReceive (sender : SocketRef) (m : SocketMessage δ) (net : SocketNet) :
    Reaction SocketNet (SocketEffect δ) Throwable :=
  match m with
  | .bound => ⟨net, [], none⟩
  | .commandFailed => ⟨net.stop, [], none⟩
  | .connected conn =>
    match net.actor.socketLisenter with
    | none => ⟨net, [], some .nullPointer⟩
    | some l =>
      let handler := net.nextHandler
      let net := (net.setLisenter l (·.setConnected conn)).actorOf l
      if net.actor.isServer then
        ⟨net, [.tell ⟨handler, .actor, .create⟩,
          .tell ⟨sender, .actor, .register handler⟩], none⟩
      else
        ⟨{ net with actor := { net.actor with behaviour := .connected sender handler } },
          [.tell ⟨handler, .actor, .create⟩, .tell ⟨handler, sender, .connected conn⟩,
            .tell ⟨sender, .actor, .register handler⟩], none⟩
  | .run => superOnReceive k .run net
  | _ => superOnReceive k .other net

/-- `connected(connection, handler)`. -/
def connected (connection handler : SocketRef) (sender : SocketRef) (m : SocketMessage δ)
    (net : SocketNet) : Reaction SocketNet (SocketEffect δ) Throwable :=
  match m with
  | .byteString data =>
    ⟨{ net with allocated := net.allocated + 1 },
      [.tell ⟨connection, .actor, .write net.allocated data⟩], none⟩
  | .commandFailed => ⟨net, [], none⟩
  | .received ref data => ⟨net, [.tell ⟨handler, .actor, .received ref data⟩], none⟩
  | .connectionClosed => ⟨net.stop, [], none⟩
  | .run => onReceive k sender .run net
  | _ => ⟨net, [], none⟩

/-- A restart: `preRestart` of the old instance, whose exceptions are swallowed, and a new one. If
    that fails, the actor is stopped; else what handlers are left are to be created anew. -/
def restart (net : SocketNet) : SocketNet × List (SocketEffect δ) :=
  let net := (ServerActor.preRestart methods SocketNet.stopHandlers k net).self
  match getSocketLisenter setup k, (ServerActor.postRestart methods k net).thrown with
  | .ok l, none =>
    ({ net with actor := new setup l, owed := net.owed ++ net.atWork }, superNew setup)
  | _, _ => (net.stop, superNew setup)

/-- What marks a byte string taken. -/
def accept : SocketMessage δ → List (SocketEffect δ)
  | .byteString data => [.did (.accepted data)]
  | _ => []

/-- The current behaviour. -/
def behave (sender : SocketRef) (m : SocketMessage δ) (net : SocketNet) :
    Reaction SocketNet (SocketEffect δ) Throwable :=
  match net.actor.behaviour with
  | .onReceive => onReceive k sender m net
  | .connected connection handler => connected k connection handler sender m net

/-- A message for the actor; what throws is restarted. -/
def handle (sender : SocketRef) (m : SocketMessage δ) (net : SocketNet) :
    SocketNet × List (SocketEffect δ) :=
  match net.phase with
  | .alive =>
    let r := behave k sender m net
    match r.thrown with
    | none => (r.self, accept m ++ r.sent)
    | some _ => ((restart setup k r.self).1, accept m ++ r.sent ++ (restart setup k r.self).2)
  | _ => (net, [])

end SocketTcpActor

/-! ## 5. Handlers and connections -/

namespace SocketTcpHandler

variable (k : UserCode δ)

/-- `new SocketTcpHandler(socketLisenter)`, as the handler `n`. -/
def new (n l : Nat) (net : SocketNet) : SocketNet := net.setLisenter l (·.setHandler (.handler n))

/-- The calls of `write` that `receive` makes. -/
def written (l : Nat) (sender : SocketRef) (net : SocketNet) : List (Written δ) :=
  ((net.lisenters l).calls sender net.allocated k.calls).1

/-- The call of `receive`: an exception of its calls ends it, or what the user's code throws. -/
def call (l ref : Nat) (data : δ) (sender : SocketRef) (net : SocketNet) : ReceiveCall δ :=
  ⟨l, (net.lisenters l).handleActor, ref, data, sender, written k l sender net,
    ((net.lisenters l).calls sender net.allocated k.calls).2.or k.thrown⟩

/-- `socketLisenter.receive(data, sender)`. -/
def receive (l ref : Nat) (data : δ) (sender : SocketRef) (net : SocketNet) :
    Reaction SocketNet (SocketEffect δ) Throwable :=
  ⟨{ net with allocated := net.allocated + (written k l sender net).length },
    .did (.receive (call k l ref data sender net)) ::
      ((written k l sender net).filterMap Written.told).map .tell,
    (call k l ref data sender net).thrown⟩

/-- `onReceive` of the handler `n`. -/
def onReceive (n l : Nat) (sender : SocketRef) (m : SocketMessage δ) (net : SocketNet) :
    Reaction SocketNet (SocketEffect δ) Throwable :=
  match m with
  | .received ref data => receive k l ref data sender net
  | .connectionClosed => ⟨net.setPhase n .stopped, [], none⟩
  | .connected _ => ⟨net.setLisenter l (·.setHandler sender), [], none⟩
  | _ => ⟨net, [], none⟩

/-- A message for the handler `n`: its creation, which runs the constructor, or one for its
    `onReceive`; what throws is restarted, which runs the constructor again. -/
def handle (n : Nat) (sender : SocketRef) (m : SocketMessage δ) (net : SocketNet) :
    SocketNet × List (SocketEffect δ) :=
  match net.handlers[n]?, m with
  | none, _ => (net, [])
  | some h, .create =>
    match h.phase with
    | .unborn => ((new n h.socketLisenter net).setPhase n .alive, [])
    | _ => (new n h.socketLisenter net, [])
  | some h, m =>
    match h.phase with
    | .alive =>
      let r := onReceive k n h.socketLisenter sender m net
      match r.thrown with
      | none => (r.self, r.sent)
      | some _ => (new n h.socketLisenter r.self, r.sent)
    | _ => (net, [])

/-- The handler `n` is created anew, if that is owed: its actor's restart left it alive. -/
def recreate (n : Nat) (net : SocketNet) : SocketNet × List (SocketEffect δ) :=
  match net.owed.find? (·.1 = n) with
  | some x => ({ new n x.2 net with owed := net.owed.erase x }, [.did (.recreated n)])
  | none => (net, [])

end SocketTcpHandler

/-- A connection changes. -/
def SocketNet.setConnection (net : SocketNet) (n : Nat) (x : TcpConnection) : SocketNet :=
  { net with connections := net.connections.set n x }

namespace TcpConnection

variable (k : UserCode δ)

/-- A message for the open connection `n`: the first handler is registered. From then on a `Write`
    is taken while none is under way and none was refused; else it is refused. -/
def onReceive (n : Nat) (x : TcpConnection) (sender : SocketRef) (m : SocketMessage δ)
    (net : SocketNet) : SocketNet × List (SocketEffect δ) :=
  match x.handler, m with
  | none, .register handler => (net.setConnection n { x with handler := some handler }, [])
  | some _, .write ref data =>
    if x.writePending ∨ x.writingSuspended then
      (net.setConnection n { x with writingSuspended := true },
        [.tell ⟨sender, .connection n, .commandFailed⟩])
    else
      (net.setConnection n { x with writePending := !k.flushes }, [.did (.handed n ref data)])
  | _, _ => (net, [])

/-- A message for the connection `n`, which may not exist or be closed. -/
def handle (n : Nat) (sender : SocketRef) (m : SocketMessage δ) (net : SocketNet) :
    SocketNet × List (SocketEffect δ) :=
  match net.connections[n]? with
  | none => (net, [])
  | some x => if x.closed then (net, []) else onReceive k n x sender m net

end TcpConnection

/-! ## 6. All together -/

/-- What the surroundings do: a connection comes about (a server accepts any number, a client has
    asked for one), data comes in on one, the `Write` under way is through or it is closed,
    something is sent to the actor, the actor is stopped, a handler is created anew as it is owed,
    or `write(data)` of a listener is called. -/
inductive SocketAct (δ : Type) where
  | connect (conn : Connected)
  | incoming (connection : Nat) (data : δ)
  | writable (connection : Nat)
  | close (connection : Nat)
  | bound
  | commandFailed
  | byteString (data : δ)
  | run
  | other
  | stop
  | recreate (handler : Nat)
  | write (lisenter : Nat) (data : δ)
  deriving DecidableEq, Repr

namespace SocketAct

/-- The connection may come about. -/
def Connects (setup : SocketSetup) (net : SocketNet) : Prop :=
  match setup.kind with
  | .socketServer => True
  | .socketClient => net.connections = []
  | .other => False

instance (setup : SocketSetup) (net : SocketNet) : Decidable (Connects setup net) := by
  unfold Connects
  split <;> infer_instance

/-- The surroundings act. -/
def perform (setup : SocketSetup) (a : SocketAct δ) (net : SocketNet) :
    SocketNet × List (SocketEffect δ) :=
  match a with
  | .connect conn =>
    if Connects setup net then
      ({ net with connections := net.connections ++ [⟨none, false, false, false⟩] },
        [.tell ⟨.actor, .connection net.connections.length, .connected conn⟩])
    else (net, [])
  | .incoming n data =>
    match net.connections[n]? with
    | some ⟨some handler, false, _, _⟩ =>
      ({ net with allocated := net.allocated + 1 },
        [.tell ⟨handler, .connection n, .received net.allocated data⟩])
    | _ => (net, [])
  | .writable n =>
    match net.connections[n]? with
    | some x => (net.setConnection n { x with writePending := false }, [])
    | none => (net, [])
  | .close n =>
    match net.connections[n]? with
    | some ⟨handler, false, p, s⟩ =>
      (net.setConnection n ⟨handler, true, p, s⟩,
        handler.toList.map fun h => .tell ⟨h, .connection n, .connectionClosed⟩)
    | _ => (net, [])
  | .bound => (net, [.tell ⟨.actor, .noSender, .bound⟩])
  | .commandFailed => (net, [.tell ⟨.actor, .noSender, .commandFailed⟩])
  | .byteString data => (net, [.tell ⟨.actor, .noSender, .byteString data⟩])
  | .run => (net, [.tell ⟨.actor, .noSender, .run⟩])
  | .other => (net, [.tell ⟨.actor, .noSender, .other⟩])
  | .stop => (net.stop, [])
  | .recreate n => SocketTcpHandler.recreate n net
  | .write l data =>
    ({ net with allocated := net.allocated + 1 },
      match (net.lisenters l).write net.allocated data with
      | .error _ => [.did (.wrote ⟨.write data, net.allocated, none⟩)]
      | .ok env => [.did (.wrote ⟨.write data, net.allocated, some env⟩), .tell env])

/-- **`write(data)` from elsewhere**: it throws, or tells what the listener has for a handler. -/
theorem perform_write (setup : SocketSetup) (l : Nat) (data : δ) (net : SocketNet) :
    ((net.lisenters l).handleActor = none ∧ perform setup (.write l data) net =
      ({ net with allocated := net.allocated + 1 },
        [.did (.wrote ⟨.write data, net.allocated, none⟩)])) ∨
    ∃ r, (net.lisenters l).handleActor = some r ∧ perform setup (.write l data) net =
      ({ net with allocated := net.allocated + 1 },
        [.did (.wrote ⟨.write data, net.allocated, some ⟨r, r, .write net.allocated data⟩⟩),
          .tell ⟨r, r, .write net.allocated data⟩]) := by
  unfold perform
  dsimp only
  cases hh : (net.lisenters l).handleActor with
  | none =>
    refine .inl ⟨rfl, ?_⟩
    rw [SocketTcpLisenter.write_of_none hh]
  | some r =>
    refine .inr ⟨r, rfl, ?_⟩
    rw [SocketTcpLisenter.write_of_some hh]

theorem told_of_perform_write (setup : SocketSetup) (l : Nat) (data : δ) (net : SocketNet)
    {env : SocketEnvelope δ} (h : .tell env ∈ (perform setup (.write l data) net).2) :
    ∃ r, (net.lisenters l).handleActor = some r ∧ env = ⟨r, r, .write net.allocated data⟩ := by
  rcases perform_write setup l data net with ⟨-, hp⟩ | ⟨r, hr, hp⟩
  · rw [hp] at h
    cases List.mem_singleton.mp h
  · rw [hp] at h
    rcases List.mem_cons.mp h with h | h
    · cases h
    · cases List.mem_singleton.mp h
      exact ⟨r, hr, rfl⟩

end SocketAct

/-- What happens in a run. -/
abbrev SocketEvent (δ : Type) := PostEvent SocketRef (UserCode δ) (SocketAct δ)

/-- The actors of a socket server or client, from the first instance on. -/
def socketTcp (δ : Type) (setup : SocketSetup) :
    Actors SocketNet SocketRef (SocketMessage δ) (UserCode δ) (SocketAct δ) (SocketOutput δ) where
  start := (⟨.new setup setup.lisenter, .alive, [], [], [], fun _ => .new, 0⟩,
    SocketTcpActor.superNew setup)
  receive k env net :=
    match env.receiver with
    | .noSender => (net, [])
    | .actor => SocketTcpActor.handle setup k env.sender env.message net
    | .handler n => SocketTcpHandler.handle k n env.sender env.message net
    | .connection n => TcpConnection.handle k n env.sender env.message net
  act := SocketAct.perform setup
  -- what is to be created anew is suspended until then
  awake net
    | .handler n => net.owed.all (·.1 ≠ n)
    | _ => true

theorem socketTcp_effects_nil (setup : SocketSetup) :
    (socketTcp δ setup).effects [] = SocketTcpActor.superNew setup := Actors.effects_nil _

/-! ## 7. What one delivery does -/

/-- What a message does to the actor. -/
inductive ActorStep (setup : SocketSetup) (net : SocketNet) (sender : SocketRef) :
    SocketMessage δ → SocketNet × List (SocketEffect δ) → Prop where
  | same (m : SocketMessage δ) (hm : net.phase = .alive → ∀ data, m ≠ .byteString data) :
      ActorStep setup net sender m (net, [])
  | dropped (data : δ) (ha : net.phase = .alive) (hb : net.actor.behaviour = .onReceive) :
      ActorStep setup net sender (.byteString data) (net, [.did (.accepted data)])
  | passed (data : δ) (c h : SocketRef) (ha : net.phase = .alive)
      (hb : net.actor.behaviour = .connected c h) :
      ActorStep setup net sender (.byteString data) ({ net with allocated := net.allocated + 1 },
        [.did (.accepted data), .tell ⟨c, .actor, .write net.allocated data⟩])
  | forwarded (ref : Nat) (data : δ) (c h : SocketRef) (hb : net.actor.behaviour = .connected c h) :
      ActorStep setup net sender (.received ref data)
        (net, [.tell ⟨h, .actor, .received ref data⟩])
  | stopped (m : SocketMessage δ) (hm : m = .commandFailed ∨ m = .connectionClosed) :
      ActorStep setup net sender m (net.stop, [])
  | server (conn : Connected) (l : Nat) (ha : net.phase = .alive)
      (hb : net.actor.behaviour = .onReceive) (hl : net.actor.socketLisenter = some l)
      (hs : net.actor.isServer = true) :
      ActorStep setup net sender (.connected conn)
        ((net.setLisenter l (·.setConnected conn)).actorOf l,
          [.tell ⟨net.nextHandler, .actor, .create⟩,
            .tell ⟨sender, .actor, .register net.nextHandler⟩])
  | client (conn : Connected) (l : Nat) (ha : net.phase = .alive)
      (hb : net.actor.behaviour = .onReceive) (hl : net.actor.socketLisenter = some l)
      (hs : net.actor.isServer = false) :
      ActorStep setup net sender (.connected conn)
        ({ (net.setLisenter l (·.setConnected conn)).actorOf l with
            actor := { net.actor with behaviour := .connected sender net.nextHandler } },
          [.tell ⟨net.nextHandler, .actor, .create⟩,
            .tell ⟨net.nextHandler, sender, .connected conn⟩,
            .tell ⟨sender, .actor, .register net.nextHandler⟩])
  | restarted (m : SocketMessage δ) (l : Option Nat) (hm : ∀ data, m ≠ .byteString data) :
      ActorStep setup net sender m
        ({ net.stopHandlers with actor := .new setup l }, SocketTcpActor.superNew setup)
  | survived (m : SocketMessage δ) (l : Option Nat) (hm : ∀ data, m ≠ .byteString data) :
      ActorStep setup net sender m
        ({ net with actor := .new setup l, owed := net.owed ++ net.atWork },
          SocketTcpActor.superNew setup)
  | failed (m : SocketMessage δ) (hm : ∀ data, m ≠ .byteString data) :
      ActorStep setup net sender m (net.stop, SocketTcpActor.superNew setup)

namespace SocketTcpActor

variable {setup : SocketSetup} {k : UserCode δ} {sender : SocketRef}

theorem eq_of_mem_superNew {x : SocketEffect δ} (hx : x ∈ superNew setup) :
    x = .tell ⟨.actor, .actor, .run⟩ := by
  unfold superNew at hx
  split at hx
  · exact List.mem_singleton.mp hx
  · exact absurd hx List.not_mem_nil

/-- What `preRestart` leaves: the handlers are stopped, unless the server's own throws. -/
theorem self_preRestart (net : SocketNet) :
    (ServerActor.preRestart methods SocketNet.stopHandlers k net).self = net.stopHandlers ∨
      (ServerActor.preRestart methods SocketNet.stopHandlers k net).self = net := by
  cases ht : (ServerActor.call methods .preRestart k net).thrown with
  | none =>
    left
    unfold ServerActor.preRestart
    rw [Reaction.andThen_returned ht]
    exact Reaction.self_andThen (s := net.stopHandlers) rfl rfl
  | some e =>
    right
    unfold ServerActor.preRestart
    rw [Reaction.andThen_thrown ht]
    rfl

theorem restart_step (net : SocketNet) {m : SocketMessage δ} (hm : ∀ data, m ≠ .byteString data) :
    ActorStep setup net sender m (restart setup k net) := by
  unfold restart
  rcases self_preRestart (k := k) net with hself | hself
  · rw [hself]
    dsimp only
    split
    · rw [SocketNet.atWork_stopHandlers, List.append_nil]
      exact .restarted m _ hm
    · rw [SocketNet.stop_stopHandlers]
      exact .failed m hm
  · rw [hself]
    dsimp only
    split
    · exact .survived m _ hm
    · exact .failed m hm

/-- `RUN`, in either behaviour. -/
theorem run_step (net : SocketNet) (r : Reaction SocketNet (SocketEffect δ) Throwable)
    (hr : r = superOnReceive k .run net) :
    ActorStep setup net sender (.run : SocketMessage δ)
      (match r.thrown with
        | none => (r.self, r.sent)
        | some _ => ((restart setup k r.self).1, r.sent ++ (restart setup k r.self).2)) := by
  subst hr
  cases ht : (superOnReceive k .run net).thrown with
  | none => exact .same _ fun _ _ => nofun
  | some e => exact restart_step net fun _ => nofun

/-- `Connected`, before the actor has become another. -/
theorem connected_step (conn : Connected) (net : SocketNet)
    (r : Reaction SocketNet (SocketEffect δ) Throwable)
    (hr : r = onReceive k sender (.connected conn) net) (hp : net.phase = .alive)
    (hb : net.actor.behaviour = .onReceive) :
    ActorStep setup net sender (.connected conn : SocketMessage δ)
      (match r.thrown with
        | none => (r.self, r.sent)
        | some _ => ((restart setup k r.self).1, r.sent ++ (restart setup k r.self).2)) := by
  subst hr
  unfold onReceive
  dsimp only
  cases hl : net.actor.socketLisenter with
  | none => exact restart_step net fun _ => nofun
  | some l =>
    dsimp only
    by_cases hs : ((net.setLisenter l (·.setConnected conn)).actorOf l).actor.isServer = true
    · rw [if_pos hs]
      exact .server conn l hp hb hl hs
    · rw [if_neg hs]
      exact .client conn l hp hb hl (by simpa using hs)

/-- **What a message does to the actor**: one of the steps above. -/
theorem handle_step (m : SocketMessage δ) (net : SocketNet) :
    ActorStep setup net sender m (handle setup k sender m net) := by
  unfold handle
  cases hp : net.phase with
  | unborn => exact .same m fun ha => nomatch hp.symm.trans ha
  | stopped => exact .same m fun ha => nomatch hp.symm.trans ha
  | alive =>
    unfold behave
    cases hb : net.actor.behaviour with
    | onReceive =>
      cases m with
      | bound => exact .same _ fun _ _ => nofun
      | commandFailed => exact .stopped _ (.inl rfl)
      | connected conn => exact connected_step conn net _ rfl hp hb
      | run => exact run_step net _ rfl
      | byteString data => exact .dropped data hp hb
      | create => exact .same _ fun _ _ => nofun
      | received ref data => exact .same _ fun _ _ => nofun
      | connectionClosed => exact .same _ fun _ _ => nofun
      | register handler => exact .same _ fun _ _ => nofun
      | write ref data => exact .same _ fun _ _ => nofun
      | other => exact .same _ fun _ _ => nofun
    | connected c h =>
      cases m with
      | byteString data => exact .passed data c h hp hb
      | commandFailed => exact .same _ fun _ _ => nofun
      | received ref data => exact .forwarded ref data c h hb
      | connectionClosed => exact .stopped _ (.inr rfl)
      | run => exact run_step net _ rfl
      | bound => exact .same _ fun _ _ => nofun
      | connected conn => exact .same _ fun _ _ => nofun
      | create => exact .same _ fun _ _ => nofun
      | register handler => exact .same _ fun _ _ => nofun
      | write ref data => exact .same _ fun _ _ => nofun
      | other => exact .same _ fun _ _ => nofun

end SocketTcpActor

/-- What a message does to the handler `n`. -/
inductive HandlerStep (k : UserCode δ) (net : SocketNet) (n : Nat) (sender : SocketRef) :
    SocketMessage δ → SocketNet × List (SocketEffect δ) → Prop where
  | same (m : SocketMessage δ) (hm : ∀ h, net.handlers[n]? = some h → m ≠ .create)
      (ha : ∀ h, net.handlers[n]? = some h → h.phase = .alive → ∀ conn, m ≠ .connected conn) :
      HandlerStep k net n sender m (net, [])
  | created (l : Nat) (hn : net.handlers[n]? = some ⟨l, .unborn⟩) :
      HandlerStep k net n sender .create ((SocketTcpHandler.new n l net).setPhase n .alive, [])
  | late (h : SocketTcpHandler) (hn : net.handlers[n]? = some h) (hp : h.phase ≠ .unborn) :
      HandlerStep k net n sender .create (SocketTcpHandler.new n h.socketLisenter net, [])
  | returned (l ref : Nat) (data : δ) (hn : net.handlers[n]? = some ⟨l, .alive⟩)
      (ht : (SocketTcpHandler.receive k l ref data sender net).thrown = none) :
      HandlerStep k net n sender (.received ref data)
        ((SocketTcpHandler.receive k l ref data sender net).self,
          (SocketTcpHandler.receive k l ref data sender net).sent)
  | thrown (l ref : Nat) (data : δ) (hn : net.handlers[n]? = some ⟨l, .alive⟩)
      (ht : (SocketTcpHandler.receive k l ref data sender net).thrown ≠ none) :
      HandlerStep k net n sender (.received ref data)
        (SocketTcpHandler.new n l (SocketTcpHandler.receive k l ref data sender net).self,
          (SocketTcpHandler.receive k l ref data sender net).sent)
  | closed (l : Nat) (hn : net.handlers[n]? = some ⟨l, .alive⟩) :
      HandlerStep k net n sender .connectionClosed (net.setPhase n .stopped, [])
  | connected (l : Nat) (conn : Connected) (hn : net.handlers[n]? = some ⟨l, .alive⟩) :
      HandlerStep k net n sender (.connected conn)
        (net.setLisenter l (·.setHandler sender), [])

/-- **What a message does to a handler**: one of the steps above. -/
theorem SocketTcpHandler.handle_step (k : UserCode δ) (n : Nat) (sender : SocketRef)
    (m : SocketMessage δ) (net : SocketNet) :
    HandlerStep k net n sender m (handle k n sender m net) := by
  unfold handle
  cases hn : net.handlers[n]? with
  | none =>
    exact .same m (fun h hh => nomatch hn.symm.trans hh) fun h hh => nomatch hn.symm.trans hh
  | some h =>
    obtain ⟨l, phase⟩ := h
    have hdead : phase ≠ .alive → m ≠ .create → HandlerStep k net n sender m (net, []) := by
      refine fun hp hm => .same m (fun _ _ => hm) fun h hh ha => absurd ?_ hp
      cases hn.symm.trans hh
      exact ha
    cases phase with
    | unborn =>
      cases m with
      | create => exact .created l hn
      | _ => exact hdead nofun nofun
    | stopped =>
      cases m with
      | create => exact .late _ hn nofun
      | _ => exact hdead nofun nofun
    | alive =>
      cases m with
      | create => exact .late _ hn nofun
      | received ref data =>
        dsimp only [onReceive]
        cases ht : (receive k l ref data sender net).thrown with
        | none => exact .returned l ref data hn ht
        | some e => exact .thrown l ref data hn (by simp [ht])
      | connectionClosed => exact .closed l hn
      | connected conn => exact .connected l conn hn
      | _ => exact .same _ (fun _ _ => nofun) fun _ _ _ => nofun

/-- What is owed to a handler, and what its creation anew does. -/
inductive RecreateStep (net : SocketNet) (n : Nat) : SocketNet × List (SocketEffect δ) → Prop where
  | same : RecreateStep net n (net, [])
  | recreated (l : Nat) (hmem : (n, l) ∈ net.owed) :
      RecreateStep net n ({ SocketTcpHandler.new n l net with owed := net.owed.erase (n, l) },
        [.did (.recreated n)])

theorem SocketTcpHandler.recreate_step (n : Nat) (net : SocketNet) :
    RecreateStep (δ := δ) net n (recreate n net) := by
  unfold recreate
  cases hf : net.owed.find? (·.1 = n) with
  | none => exact .same
  | some x =>
    obtain ⟨n', l⟩ := x
    obtain rfl : n' = n := by simpa using List.find?_some hf
    exact .recreated l (List.mem_of_find?_eq_some hf)

/-- What a message does to the connection `n`. -/
inductive ConnectionStep (k : UserCode δ) (net : SocketNet) (n : Nat) (sender : SocketRef) :
    SocketMessage δ → SocketNet × List (SocketEffect δ) → Prop where
  | same (m : SocketMessage δ) : ConnectionStep k net n sender m (net, [])
  | registered (handler : SocketRef) (p s : Bool)
      (hn : net.connections[n]? = some ⟨none, false, p, s⟩) :
      ConnectionStep k net n sender (.register handler)
        (net.setConnection n ⟨some handler, false, p, s⟩, [])
  | handed (ref : Nat) (data : δ) (handler : SocketRef)
      (hn : net.connections[n]? = some ⟨some handler, false, false, false⟩) :
      ConnectionStep k net n sender (.write ref data)
        (net.setConnection n ⟨some handler, false, !k.flushes, false⟩, [.did (.handed n ref data)])
  | refused (ref : Nat) (data : δ) (handler : SocketRef) (p s : Bool)
      (hn : net.connections[n]? = some ⟨some handler, false, p, s⟩) :
      ConnectionStep k net n sender (.write ref data)
        (net.setConnection n ⟨some handler, false, p, true⟩,
          [.tell ⟨sender, .connection n, .commandFailed⟩])

/-- **What a message does to a connection**: one of the steps above. -/
theorem TcpConnection.handle_step (k : UserCode δ) (n : Nat) (sender : SocketRef)
    (m : SocketMessage δ) (net : SocketNet) :
    ConnectionStep k net n sender m (handle k n sender m net) := by
  unfold handle
  cases hn : net.connections[n]? with
  | none => exact .same m
  | some x =>
    obtain ⟨handler, closed, p, s⟩ := x
    cases closed with
    | true => exact .same m
    | false =>
      show ConnectionStep k net n sender m (onReceive k n ⟨handler, false, p, s⟩ sender m net)
      unfold onReceive
      split
      · rename_i hh
        obtain rfl : handler = none := hh
        exact .registered _ p s hn
      · rename_i h _ _ hh
        obtain rfl : handler = some h := hh
        split
        · exact .refused _ _ h p s hn
        · rename_i hfree
          obtain ⟨rfl, rfl⟩ : p = false ∧ s = false := by simpa using hfree
          exact .handed _ _ h hn
      · exact .same _

/-! ## 8. Calls of `receive` -/

/-- The call of `receive`, in an effect. -/
def receiveCall : SocketEffect δ → Option (ReceiveCall δ)
  | .did (.receive call) => some call
  | _ => none

/-- The calls of `receive` among effects. -/
def receiveCalls (xs : List (SocketEffect δ)) : List (ReceiveCall δ) := xs.filterMap receiveCall

theorem receiveCalls_append (xs ys : List (SocketEffect δ)) :
    receiveCalls (xs ++ ys) = receiveCalls xs ++ receiveCalls ys := List.filterMap_append

theorem receiveCalls_tells {xs : List (SocketEffect δ)} (h : ∀ x ∈ xs, ∃ env, x = .tell env) :
    receiveCalls xs = [] := by
  refine List.filterMap_eq_nil_iff.mpr fun x hx => ?_
  obtain ⟨env, rfl⟩ := h x hx
  rfl

theorem receiveCalls_superNew (setup : SocketSetup) :
    receiveCalls (SocketTcpActor.superNew setup : List (SocketEffect δ)) = [] :=
  receiveCalls_tells fun _ hx => ⟨_, SocketTcpActor.eq_of_mem_superNew hx⟩

/-- The actor calls no `receive`. -/
theorem ActorStep.receiveCalls_eq_nil {setup : SocketSetup} {net : SocketNet} {sender : SocketRef}
    {m : SocketMessage δ} {t : SocketNet × List (SocketEffect δ)}
    (h : ActorStep setup net sender m t) : receiveCalls t.2 = [] := by
  cases h with
  | restarted m l hm => exact receiveCalls_superNew setup
  | survived m l hm => exact receiveCalls_superNew setup
  | failed m hm => exact receiveCalls_superNew setup
  | _ => rfl

/-- Nor do connections. -/
theorem ConnectionStep.receiveCalls_eq_nil {k : UserCode δ} {net : SocketNet} {n : Nat}
    {sender : SocketRef} {m : SocketMessage δ} {t : SocketNet × List (SocketEffect δ)}
    (h : ConnectionStep k net n sender m t) : receiveCalls t.2 = [] := by
  cases h <;> rfl

/-- Nor does a handler that is created anew. -/
theorem RecreateStep.receiveCalls_eq_nil {net : SocketNet} {n : Nat}
    {t : SocketNet × List (SocketEffect δ)} (h : RecreateStep net n t) : receiveCalls t.2 = [] := by
  cases h <;> rfl

/-- Nor do the surroundings. -/
theorem SocketAct.receiveCalls_perform (setup : SocketSetup) (a : SocketAct δ) (net : SocketNet) :
    receiveCalls (a.perform setup net).2 = [] := by
  unfold perform
  cases a with
  | connect conn =>
    dsimp only
    split <;> rfl
  | incoming n data =>
    dsimp only
    split <;> rfl
  | writable n =>
    dsimp only
    split <;> rfl
  | recreate n =>
    dsimp only
    exact (SocketTcpHandler.recreate_step n net).receiveCalls_eq_nil
  | close n =>
    dsimp only
    split
    · exact receiveCalls_tells fun x hx => by
        obtain ⟨r, -, rfl⟩ := List.mem_map.mp hx
        exact ⟨_, rfl⟩
    · rfl
  | write l data =>
    dsimp only
    split <;> rfl
  | _ => rfl

namespace SocketTcpHandler

/-- `receive` tells nothing but writes. -/
theorem tells_receive (k : UserCode δ) (l ref : Nat) (data : δ) (sender : SocketRef)
    (net : SocketNet) {env : SocketEnvelope δ}
    (h : .tell env ∈ (receive k l ref data sender net).sent) :
    ∃ ref data, env.message = .write ref data := by
  rcases List.mem_cons.mp h with h | h
  · cases h
  · obtain ⟨env', henv, he⟩ := List.mem_map.mp h
    cases he
    obtain ⟨w, hw, htold⟩ := List.mem_filterMap.mp henv
    rw [((net.lisenters l).calls_spec sender k.calls net.allocated).1 w hw] at htold
    cases hc : w.call with
    | writeTo data =>
      rw [hc] at htold
      cases htold
      exact ⟨_, _, rfl⟩
    | write data =>
      rw [hc] at htold
      simp only [SocketTcpLisenter.told, SocketTcpLisenter.write] at htold
      cases hh : (net.lisenters l).handleActor with
      | none => simp [hh, Except.toOption] at htold
      | some r =>
        simp only [hh, Except.toOption, Option.some.injEq] at htold
        exact ⟨w.ref, data, by rw [← htold]⟩

theorem receiveCalls_receive (k : UserCode δ) (l ref : Nat) (data : δ) (sender : SocketRef)
    (net : SocketNet) :
    receiveCalls (receive k l ref data sender net).sent = [call k l ref data sender net] := by
  show call k l ref data sender net :: (List.map _ _).filterMap receiveCall = _
  rw [List.filterMap_map]
  exact congrArg (_ :: ·) (List.filterMap_eq_nil_iff.mpr fun _ _ => rfl)

end SocketTcpHandler

/-- A handler calls `receive` with a `Received` it is sent, at most once a message. -/
theorem HandlerStep.receiveCalls_eq {k : UserCode δ} {net : SocketNet} {n : Nat}
    {sender : SocketRef} {m : SocketMessage δ} {t : SocketNet × List (SocketEffect δ)}
    (h : HandlerStep k net n sender m t) : receiveCalls t.2 = [] ∨
      ∃ l ref data, net.handlers[n]? = some ⟨l, .alive⟩ ∧ m = .received ref data ∧
        receiveCalls t.2 = [SocketTcpHandler.call k l ref data sender net] := by
  cases h with
  | returned l ref data hn ht =>
    exact .inr ⟨l, ref, data, hn, rfl,
      SocketTcpHandler.receiveCalls_receive k l ref data sender net⟩
  | thrown l ref data hn ht =>
    exact .inr ⟨l, ref, data, hn, rfl,
      SocketTcpHandler.receiveCalls_receive k l ref data sender net⟩
  | _ => exact .inl rfl

/-- **A delivery calls `receive` at most once**, and only where it is a `Received` for a handler at
    work, with its data and its sender. -/
theorem receiveCalls_receive (setup : SocketSetup) (k : UserCode δ) (env : SocketEnvelope δ)
    (net : SocketNet) : receiveCalls ((socketTcp δ setup).receive k env net).2 = [] ∨
      ∃ n l ref data, env.receiver = .handler n ∧ net.handlers[n]? = some ⟨l, .alive⟩ ∧
        env.message = .received ref data ∧
        receiveCalls ((socketTcp δ setup).receive k env net).2 =
          [SocketTcpHandler.call k l ref data env.sender net] := by
  unfold socketTcp
  dsimp only
  split
  · exact .inl rfl
  · exact .inl (SocketTcpActor.handle_step env.message net).receiveCalls_eq_nil
  · rename_i n hn
    rcases (SocketTcpHandler.handle_step k n env.sender env.message net).receiveCalls_eq with
      h | ⟨l, ref, data, hh, hm, h⟩
    · exact .inl h
    · exact .inr ⟨n, l, ref, data, hn, hh, hm, h⟩
  · rename_i n hn
    exact .inl (TcpConnection.handle_step k n env.sender env.message net).receiveCalls_eq_nil

/-- A call of `write(data)` in a call of `receive` tells what its listener has for a handler, if it
    has one, and no one else. -/
theorem SocketTcpHandler.told_written {k : UserCode δ} {l ref : Nat} {data : δ}
    {sender : SocketRef} {net : SocketNet} {w : Written δ} {d : δ}
    (hw : w ∈ (call k l ref data sender net).written) (hc : w.call = .write d) :
    w.told = (call k l ref data sender net).handleActor.map fun r => ⟨r, r, .write w.ref d⟩ := by
  rw [((net.lisenters l).calls_spec sender k.calls net.allocated).1 w hw, hc]
  show ((net.lisenters l).write w.ref d).toOption = (net.lisenters l).handleActor.map _
  unfold SocketTcpLisenter.write
  cases (net.lisenters l).handleActor <;> rfl

/-- **One event calls `receive` at most once**, and only where it delivers a `Received`. -/
theorem receiveCalls_effectsOf (setup : SocketSetup) (es : List (SocketEvent δ))
    (e : SocketEvent δ) :
    (receiveCalls ((socketTcp δ setup).effectsOf es e) = [] ∧
      (socketTcp δ setup).delivered es <+: (socketTcp δ setup).delivered (es ++ [e])) ∨
    ∃ k env l ref data, env ∈ (socketTcp δ setup).sent es ∧ env.message = .received ref data ∧
      (socketTcp δ setup).delivered (es ++ [e]) = (socketTcp δ setup).delivered es ++ [env] ∧
      receiveCalls ((socketTcp δ setup).effectsOf es e) =
        [SocketTcpHandler.call k l ref data env.sender
          ((socketTcp δ setup).machine.after es).world] := by
  obtain ⟨k, env, xs, ys, -, hmail, -, -, -, he, hd⟩ | ⟨a, -, -, -, he, hd⟩ | ⟨-, he, hd⟩ :=
    (socketTcp δ setup).run_cases es e
  · have henv : env ∈ (socketTcp δ setup).sent es :=
      (socketTcp δ setup).mail_subset (by rw [hmail]; simp)
    rw [he, hd]
    rcases receiveCalls_receive setup k env ((socketTcp δ setup).machine.after es).world with
      hc | ⟨n, l, ref, data, -, -, hm, hc⟩
    · exact .inl ⟨hc, List.prefix_append _ _⟩
    · exact .inr ⟨k, env, l, ref, data, henv, hm, rfl, hc⟩
  · rw [he, hd]
    exact .inl ⟨SocketAct.receiveCalls_perform setup a _, List.prefix_rfl⟩
  · rw [he, hd]
    exact .inl ⟨rfl, List.prefix_rfl⟩

/-- The calls of a run are calls of handlers. -/
theorem exists_call (setup : SocketSetup) {es : List (SocketEvent δ)} {c : ReceiveCall δ}
    (h : c ∈ receiveCalls ((socketTcp δ setup).effects es)) :
    ∃ k l ref data sender net, c = SocketTcpHandler.call k l ref data sender net := by
  induction es using List.reverseRecOn with
  | nil =>
    rw [socketTcp_effects_nil, receiveCalls_superNew] at h
    exact absurd h List.not_mem_nil
  | append_singleton es e ih =>
    rw [Actors.effects_concat, receiveCalls_append] at h
    rcases List.mem_append.mp h with h | h
    · exact ih h
    · rcases receiveCalls_effectsOf setup es e with
        ⟨hc, -⟩ | ⟨k, env, l, ref, data, -, -, -, hc⟩
      · rw [hc] at h
        exact absurd h List.not_mem_nil
      · rw [hc] at h
        exact ⟨k, l, ref, data, _, _, List.mem_singleton.mp h⟩

/-! ## 9. Writes taken -/

theorem ActorStep.not_handed {setup : SocketSetup} {net : SocketNet} {sender : SocketRef}
    {m : SocketMessage δ} {t : SocketNet × List (SocketEffect δ)}
    (h : ActorStep setup net sender m t) (n ref : Nat) (data : δ) :
    .did (.handed n ref data) ∉ t.2 := by
  cases h with
  | restarted m l hm => exact fun hx => nomatch SocketTcpActor.eq_of_mem_superNew hx
  | survived m l hm => exact fun hx => nomatch SocketTcpActor.eq_of_mem_superNew hx
  | failed m hm => exact fun hx => nomatch SocketTcpActor.eq_of_mem_superNew hx
  | _ => simp

theorem HandlerStep.not_handed {k : UserCode δ} {net : SocketNet} {n : Nat} {sender : SocketRef}
    {m : SocketMessage δ} {t : SocketNet × List (SocketEffect δ)}
    (h : HandlerStep k net n sender m t) (n' ref : Nat) (data : δ) :
    .did (.handed n' ref data) ∉ t.2 := by
  cases h with
  | returned l ref data hn ht => simp [SocketTcpHandler.receive]
  | thrown l ref data hn ht => simp [SocketTcpHandler.receive]
  | _ => simp

theorem RecreateStep.not_handed {net : SocketNet} {n : Nat}
    {t : SocketNet × List (SocketEffect δ)} (h : RecreateStep net n t) (n' ref : Nat) (data : δ) :
    .did (.handed n' ref data) ∉ t.2 := by
  cases h <;> simp

theorem SocketAct.not_handed (setup : SocketSetup) (a : SocketAct δ) (net : SocketNet)
    (n ref : Nat) (data : δ) : .did (.handed n ref data) ∉ (a.perform setup net).2 := by
  unfold perform
  cases a with
  | connect conn =>
    dsimp only
    split <;> simp
  | incoming n data =>
    dsimp only
    split <;> simp
  | writable n =>
    dsimp only
    split <;> simp
  | recreate n' =>
    dsimp only
    exact (SocketTcpHandler.recreate_step n' net).not_handed n ref data
  | close n =>
    dsimp only
    split <;> simp
  | write l data =>
    dsimp only
    split <;> simp
  | _ => simp

theorem ConnectionStep.of_handed {k : UserCode δ} {net : SocketNet} {n : Nat} {sender : SocketRef}
    {m : SocketMessage δ} {t : SocketNet × List (SocketEffect δ)}
    (h : ConnectionStep k net n sender m t) {n' ref : Nat} {data : δ}
    (hx : .did (.handed n' ref data) ∈ t.2) : n' = n ∧ m = .write ref data := by
  cases h with
  | same m => exact absurd hx List.not_mem_nil
  | registered handler p s hn => exact absurd hx List.not_mem_nil
  | handed ref' data' handler hn =>
    cases List.mem_singleton.mp hx
    exact ⟨rfl, rfl⟩
  | refused ref' data' handler p s hn => exact nomatch List.mem_singleton.mp hx

theorem handed_of_receive {setup : SocketSetup} {k : UserCode δ} {env : SocketEnvelope δ}
    {net : SocketNet} {n ref : Nat} {data : δ}
    (h : .did (.handed n ref data) ∈ ((socketTcp δ setup).receive k env net).2) :
    env = ⟨.connection n, env.sender, .write ref data⟩ := by
  obtain ⟨receiver, sender, m⟩ := env
  cases receiver with
  | noSender => exact absurd h List.not_mem_nil
  | actor => exact absurd h ((SocketTcpActor.handle_step m net).not_handed n ref data)
  | handler n' =>
    exact absurd h ((SocketTcpHandler.handle_step k n' sender m net).not_handed n ref data)
  | connection n' =>
    obtain ⟨rfl, rfl⟩ := (TcpConnection.handle_step k n' sender m net).of_handed h
    rfl

/-- **What a connection takes was delivered to it.** -/
theorem delivered_of_handed (setup : SocketSetup) {n ref : Nat} {data : δ}
    (es : List (SocketEvent δ)) (h : .did (.handed n ref data) ∈ (socketTcp δ setup).effects es) :
    ∃ sender, ⟨.connection n, sender, .write ref data⟩ ∈ (socketTcp δ setup).delivered es := by
  induction es using List.reverseRecOn with
  | nil =>
    rw [socketTcp_effects_nil] at h
    exact nomatch SocketTcpActor.eq_of_mem_superNew h
  | append_singleton es e ih =>
    rw [Actors.effects_concat] at h
    obtain ⟨k, env, xs, ys, -, -, -, -, -, he, hd⟩ | ⟨a, -, -, -, he, hd⟩ | ⟨-, he, hd⟩ :=
      (socketTcp δ setup).run_cases es e
    · rw [hd]
      rcases List.mem_append.mp h with h | h
      · obtain ⟨sender, hmem⟩ := ih h
        exact ⟨sender, List.mem_append_left _ hmem⟩
      · rw [he] at h
        rw [handed_of_receive h]
        exact ⟨env.sender, List.mem_append_right _ List.mem_cons_self⟩
    · rw [hd]
      rcases List.mem_append.mp h with h | h
      · exact ih h
      · rw [he] at h
        exact absurd h (SocketAct.not_handed setup a _ n ref data)
    · rw [hd]
      rw [he, List.append_nil] at h
      exact ih h

end EsbCore
