/-
  File:      EsbCore/Server/SocketClient.lean
  Subject:   THE CONNECTION OF A SOCKET CLIENT, over every run of its actors.

  A client has one connection. Its handler's constructor sets the listener's handler field to the
  handler, and the `Connected` the actor passes on sets it to the connection. The constructor of a
  new instance sets it to the handler again: whenever `receive` throws, and when the actor is
  restarted without stopping its handler. No `Connected` comes after that.

  * `ClientNet`, `clientNet` -- one connection, and the one the actor writes to, at every moment;
  * `ClientNote`, `Disturbs` -- what concerns the field, in the order in which it comes;
  * `Stage`, `clientPost` -- how far the handler is set up, at every moment;
  * `answers_iff` -- `receive` finds the connection in the field exactly as long as nothing has
    disturbed it.
-/
import EsbCore.Server.SocketTcp

namespace EsbCore

open Java Lib

variable {δ : Type}

namespace SocketClient

/-- How a client is set up. -/
def setup (schedulable : Option Schedulable) (lisenter : Option Nat) : SocketSetup :=
  ⟨.socketClient, schedulable, lisenter⟩

/-- The actors of a client. -/
abbrev actors (δ : Type) (schedulable : Option Schedulable) (lisenter : Option Nat) :
    Actors SocketNet SocketRef (SocketMessage δ) (UserCode δ) (SocketAct δ) (SocketOutput δ) :=
  socketTcp δ (setup schedulable lisenter)

/-! ## 1. One connection -/

/-- What holds of a client at every moment: it is no server, it has one connection at most, which is
    the one it writes to once it has become another, and no listener has the actor for a handler. -/
structure ClientNet (net : SocketNet) : Prop where
  isServer : net.actor.isServer = false
  connections : net.connections.length ≤ 1
  behaviour : ∀ c h, net.actor.behaviour = .connected c h → c = .connection 0
  fields : ∀ l, (net.lisenters l).handleActor ≠ some .actor

/-- `Connected` has the connection for its sender. -/
def Permitted (env : SocketEnvelope δ) : Prop :=
  ∀ conn, env.message = .connected conn → env.sender = .connection 0

variable {schedulable : Option Schedulable} {lisenter : Option Nat} {k : UserCode δ}
  {net : SocketNet} {t : SocketNet × List (SocketEffect δ)}

/-- A listener is changed, and its handler does not become the actor. -/
theorem ClientNet.setLisenter (h : ClientNet net) (l : Nat)
    {f : SocketTcpLisenter → SocketTcpLisenter}
    (hf : ∀ x, (f x).handleActor = some .actor → x.handleActor = some .actor) :
    ClientNet (net.setLisenter l f) where
  isServer := h.isServer
  connections := h.connections
  behaviour := h.behaviour
  fields i hi := by
    rw [SocketNet.setLisenter_lisenters] at hi
    split at hi
    · exact h.fields i (hf _ hi)
    · exact h.fields i hi

/-- A turn keeps the world a client's, and what it tells is permitted. -/
def Keeps (t : SocketNet × List (SocketEffect δ)) : Prop :=
  ClientNet t.1 ∧ ∀ env, .tell env ∈ t.2 → Permitted env

theorem keeps_quiet (h : ClientNet net) : Keeps (net, ([] : List (SocketEffect δ))) :=
  ⟨h, fun _ hx => absurd hx List.not_mem_nil⟩

theorem permitted_superNew (setup : SocketSetup) (env : SocketEnvelope δ)
    (h : .tell env ∈ SocketTcpActor.superNew setup) : Permitted env := by
  cases SocketTcpActor.eq_of_mem_superNew h
  exact fun _ => nofun

theorem actor_keeps (h : ClientNet net) {env : SocketEnvelope δ} (hp : Permitted env)
    (hstep : ActorStep (setup schedulable lisenter) net env.sender env.message t) : Keeps t := by
  obtain ⟨receiver, sender, m⟩ := env
  cases hstep with
  | same m hm => exact keeps_quiet h
  | dropped data ha hb => exact ⟨h, fun _ hx => nomatch List.mem_singleton.mp hx⟩
  | passed data c r ha hb =>
    refine ⟨⟨h.isServer, h.connections, h.behaviour, h.fields⟩, fun env henv => ?_⟩
    rcases List.mem_cons.mp henv with he | he
    · cases he
    · cases List.mem_singleton.mp he
      exact fun _ => nofun
  | forwarded ref data c r hb =>
    refine ⟨h, fun env henv => ?_⟩
    cases List.mem_singleton.mp henv
    exact fun _ => nofun
  | stopped m hm => exact keeps_quiet ⟨h.isServer, h.connections, h.behaviour, h.fields⟩
  | server conn l ha hb hl hs => exact nomatch h.isServer.symm.trans hs
  | client conn l ha hb hl hs =>
    have hset := h.setLisenter l (f := (·.setConnected conn)) fun _ hx => hx
    have hsender : sender = .connection 0 := hp conn rfl
    refine ⟨⟨h.isServer, h.connections, fun c r he => ?_, hset.fields⟩, fun env henv => ?_⟩
    · cases he
      exact hsender
    · simp only [List.mem_cons, Effect.tell.injEq, List.not_mem_nil, or_false] at henv
      rcases henv with rfl | rfl | rfl
      · exact fun _ => nofun
      · exact fun _ _ => hsender
      · exact fun _ => nofun
  | restarted m l hm =>
    exact ⟨⟨rfl, h.connections, fun _ _ => nofun, h.fields⟩, permitted_superNew _⟩
  | survived m l hm =>
    exact ⟨⟨rfl, h.connections, fun _ _ => nofun, h.fields⟩, permitted_superNew _⟩
  | failed m hm =>
    exact ⟨⟨h.isServer, h.connections, h.behaviour, h.fields⟩, permitted_superNew _⟩

theorem handler_keeps (h : ClientNet net) {n : Nat} {env : SocketEnvelope δ} (hp : Permitted env)
    (hstep : HandlerStep k net n env.sender env.message t) : Keeps t := by
  obtain ⟨receiver, sender, m⟩ := env
  have hnew : ∀ {net' : SocketNet} (l : Nat), ClientNet net' →
      ClientNet (SocketTcpHandler.new n l net') := by
    intro net' l h
    exact h.setLisenter l fun _ hx => nomatch Option.some.inj hx
  have hreceive : ∀ l ref data, ClientNet (SocketTcpHandler.receive k l ref data sender net).self :=
    fun _ _ _ => ⟨h.isServer, h.connections, h.behaviour, h.fields⟩
  have htells : ∀ l ref data env,
      .tell env ∈ (SocketTcpHandler.receive k l ref data sender net).sent → Permitted env := by
    intro l ref data env henv conn hc
    obtain ⟨ref', data', hm⟩ := SocketTcpHandler.tells_receive k l ref data sender net henv
    exact nomatch hm.symm.trans hc
  cases hstep with
  | same m hc ha => exact keeps_quiet h
  | created l hn =>
    have hset := hnew l h
    exact keeps_quiet ⟨hset.isServer, hset.connections, hset.behaviour, hset.fields⟩
  | late r hn hp => exact keeps_quiet (hnew _ h)
  | returned l ref data hn ht => exact ⟨hreceive l ref data, htells l ref data⟩
  | thrown l ref data hn ht => exact ⟨hnew l (hreceive l ref data), htells l ref data⟩
  | closed l hn => exact keeps_quiet ⟨h.isServer, h.connections, h.behaviour, h.fields⟩
  | connected l conn hn =>
    have hsender : sender = .connection 0 := hp conn rfl
    refine keeps_quiet (h.setLisenter l fun _ hx => ?_)
    rw [hsender] at hx
    exact nomatch Option.some.inj hx

theorem ClientNet.setConnection (h : ClientNet net) (n : Nat) (x : TcpConnection) :
    ClientNet (net.setConnection n x) where
  isServer := h.isServer
  connections := by
    show (net.connections.set n x).length ≤ 1
    rw [List.length_set]
    exact h.connections
  behaviour := h.behaviour
  fields := h.fields

theorem connection_keeps (h : ClientNet net) {n : Nat} {sender : SocketRef} {m : SocketMessage δ}
    (hstep : ConnectionStep k net n sender m t) : Keeps t := by
  cases hstep with
  | same m => exact keeps_quiet h
  | registered handler p s hn => exact keeps_quiet (h.setConnection n _)
  | handed ref data handler hn =>
    exact ⟨h.setConnection n _, fun _ hx => nomatch List.mem_singleton.mp hx⟩
  | refused ref data handler p s hn =>
    refine ⟨h.setConnection n _, fun env henv => ?_⟩
    cases List.mem_singleton.mp henv
    exact fun _ => nofun

theorem recreate_keeps (h : ClientNet net) {n : Nat} (hstep : RecreateStep net n t) : Keeps t := by
  cases hstep with
  | same => exact keeps_quiet h
  | recreated l hmem =>
    have hset := h.setLisenter l (f := (·.setHandler (.handler n)))
      fun _ hx => nomatch Option.some.inj hx
    exact ⟨⟨hset.isServer, hset.connections, hset.behaviour, hset.fields⟩,
      fun _ hx => nomatch List.mem_singleton.mp hx⟩

theorem act_keeps (h : ClientNet net) (a : SocketAct δ) :
    Keeps (SocketAct.perform (setup schedulable lisenter) a net) := by
  unfold SocketAct.perform
  cases a with
  | connect conn =>
    dsimp only
    split
    · rename_i hc
      have hnil : net.connections = [] := hc
      refine ⟨⟨h.isServer, ?_, h.behaviour, h.fields⟩, fun env henv => ?_⟩
      · simp [hnil]
      · cases List.mem_singleton.mp henv
        exact fun _ _ => by simp [hnil]
    · exact keeps_quiet h
  | incoming n data =>
    dsimp only
    split
    · refine ⟨⟨h.isServer, h.connections, h.behaviour, h.fields⟩, fun env henv => ?_⟩
      cases List.mem_singleton.mp henv
      exact fun _ => nofun
    · exact keeps_quiet h
  | writable n =>
    dsimp only
    split
    · exact keeps_quiet (h.setConnection n _)
    · exact keeps_quiet h
  | close n =>
    dsimp only
    split
    · refine ⟨h.setConnection n _, fun env henv => ?_⟩
      obtain ⟨r, -, he⟩ := List.mem_map.mp henv
      cases he
      exact fun _ => nofun
    · exact keeps_quiet h
  | recreate n => exact recreate_keeps h (SocketTcpHandler.recreate_step n net)
  | write l data =>
    refine ⟨⟨h.isServer, h.connections, h.behaviour, h.fields⟩, fun env henv => ?_⟩
    obtain ⟨r, -, rfl⟩ :=
      SocketAct.told_of_perform_write (setup schedulable lisenter) l data net henv
    exact fun _ => nofun
  | stop => exact keeps_quiet ⟨h.isServer, h.connections, h.behaviour, h.fields⟩
  | _ =>
    refine ⟨h, fun env henv => ?_⟩
    cases List.mem_singleton.mp henv
    exact fun _ => nofun

theorem receive_keeps (h : ClientNet net) {env : SocketEnvelope δ} (hp : Permitted env) :
    Keeps ((actors δ schedulable lisenter).receive k env net) := by
  obtain ⟨receiver, sender, m⟩ := env
  cases receiver with
  | noSender => exact keeps_quiet h
  | actor => exact actor_keeps h hp (SocketTcpActor.handle_step m net)
  | handler n => exact handler_keeps h hp (SocketTcpHandler.handle_step k n sender m net)
  | connection n => exact connection_keeps h (TcpConnection.handle_step k n sender m net)

section Run

variable (schedulable lisenter)

/-- **A client is one at every moment, and its actors are told only what is permitted.** -/
theorem clientNet (es : List (SocketEvent δ)) :
    ClientNet ((actors δ schedulable lisenter).machine.after es).world ∧
      ∀ env ∈ (actors δ schedulable lisenter).sent es, Permitted env := by
  have hcontract := (actors δ schedulable lisenter).contract (P := ClientNet)
    (Q := fun x => ∀ env, x = .tell env → Permitted env) ?_ ?_ ?_ ?_ es
  · exact ⟨hcontract.1, fun env henv => hcontract.2 _ (Effect.mem_tells.mp henv) env rfl⟩
  · exact ⟨rfl, Nat.zero_le 1, fun _ _ => nofun, fun _ => nofun⟩
  · intro x hx env he
    exact permitted_superNew _ env (he ▸ hx)
  · intro k env net h hp
    have hturn : Keeps ((actors δ schedulable lisenter).receive k env net) :=
      receive_keeps h (hp env rfl)
    exact ⟨hturn.1, fun x hx env he => hturn.2 env (he ▸ hx)⟩
  · intro a net h
    have hturn : Keeps ((actors δ schedulable lisenter).act a net) := act_keeps h a
    exact ⟨hturn.1, fun x hx env he => hturn.2 env (he ▸ hx)⟩

end Run

/-! ## 2. The handler is set up -/

/-- What sets a handler up. -/
def SetsUp : SocketMessage δ → Prop
  | .create | .connected _ => True
  | _ => False

instance : DecidablePred (SetsUp (δ := δ))
  | .create | .connected _ => isTrue trivial
  | .bound | .commandFailed | .received _ _ | .connectionClosed | .byteString _ | .run
  | .register _ | .write _ _ | .other => isFalse id

/-- The actor is told of the connection. -/
def opens (env : SocketEnvelope δ) : Bool := env.receiver = .actor ∧ SetsUp env.message

/-- What concerns the field of the listener: the handler takes `Connected`, `receive` is called, the
    handler is created anew with its actor. -/
inductive ClientNote (δ : Type) where
  | connected
  | call (c : ReceiveCall δ)
  | recreated
  deriving DecidableEq

/-- The note of a message. -/
def messageNote (env : SocketEnvelope δ) : Option (ClientNote δ) :=
  if env.receiver = .handler 0 then
    match env.message with
    | .connected _ => some .connected
    | _ => none
  else none

/-- The note of an effect. -/
def effectNote : SocketEffect δ → Option (ClientNote δ)
  | .did (.receive c) => some (.call c)
  | .did (.recreated _) => some .recreated
  | _ => none

theorem messageNote_of_not_setsUp {env : SocketEnvelope δ} (h : ¬ SetsUp env.message) :
    messageNote env = none := by
  unfold messageNote
  split
  · split
    · rename_i hm
      rw [hm] at h
      exact absurd trivial h
    · rfl
  · rfl

theorem messageNote_of_ne {env : SocketEnvelope δ} (h : env.receiver ≠ .handler 0) :
    messageNote env = none := if_neg h

/-- The effects show nothing that concerns the field. -/
def Unnoted (xs : List (SocketEffect δ)) : Prop := ∀ x ∈ xs, effectNote x = none

theorem unnoted_of_tells {xs : List (SocketEffect δ)} (h : ∀ x ∈ xs, ∃ env, x = .tell env) :
    Unnoted xs := by
  intro x hx
  obtain ⟨env, rfl⟩ := h x hx
  rfl

/-- A turn that sets no handler up, calls no `receive` and creates nothing anew. -/
structure Calm (net : SocketNet) (t : SocketNet × List (SocketEffect δ)) : Prop where
  length : t.1.handlers.length = net.handlers.length
  alive : ∀ (n : Nat) l, t.1.handlers[n]? = some ⟨l, .alive⟩ → net.handlers[n]? = some ⟨l, .alive⟩
  kept : ∀ (n : Nat) l p, net.handlers[n]? = some ⟨l, p⟩ → ∃ p', t.1.handlers[n]? = some ⟨l, p'⟩
  owed : ∀ x ∈ t.1.owed, x ∈ net.owed ∨ net.handlers[x.1]? = some ⟨x.2, .alive⟩
  fields : ∀ l, (t.1.lisenters l).handleActor = (net.lisenters l).handleActor
  notes : Unnoted t.2
  setsUp : ∀ env, .tell env ∈ t.2 → SetsUp env.message → env.receiver = .actor
  opened : (Effect.tells t.2).countP opens + net.connections.length = t.1.connections.length

theorem alive_stopHandlers {n l : Nat} :
    net.stopHandlers.handlers[n]? ≠ some ⟨l, .alive⟩ := by
  intro h
  rw [SocketNet.stopHandlers_handlers, List.getElem?_map] at h
  obtain ⟨x, -, hx⟩ := Option.map_eq_some_iff.mp h
  cases hx

theorem kept_stopHandlers {n l : Nat} {p : Phase} (h : net.handlers[n]? = some ⟨l, p⟩) :
    ∃ p', net.stopHandlers.handlers[n]? = some ⟨l, p'⟩ := by
  rw [SocketNet.stopHandlers_handlers, List.getElem?_map, h]
  exact ⟨_, rfl⟩

theorem countP_opens {xs : List (SocketEffect δ)}
    (hs : ∀ env, .tell env ∈ xs → ¬ SetsUp env.message) : (Effect.tells xs).countP opens = 0 := by
  refine List.countP_eq_zero.mpr fun env henv h => ?_
  exact hs env (Effect.mem_tells.mp henv) (of_decide_eq_true h).2

/-- A turn that tells nothing that sets up, and leaves handlers and fields alone. -/
theorem calm_of {net' : SocketNet} {xs : List (SocketEffect δ)} (hl : net'.handlers = net.handlers)
    (ho : ∀ x ∈ net'.owed, x ∈ net.owed ∨ x ∈ net.atWork)
    (hf : ∀ l, (net'.lisenters l).handleActor = (net.lisenters l).handleActor)
    (hc : net'.connections.length = net.connections.length) (hnotes : Unnoted xs)
    (hs : ∀ env, .tell env ∈ xs → ¬ SetsUp env.message) : Calm net (net', xs) where
  length := by rw [hl]
  alive n l h := hl ▸ h
  kept n l p h := ⟨p, hl ▸ h⟩
  owed x hx := (ho x hx).imp_right SocketNet.mem_atWork.mp
  fields := hf
  notes := hnotes
  setsUp env henv h := absurd h (hs env henv)
  opened := by rw [countP_opens hs, Nat.zero_add, hc]

theorem not_setsUp_superNew (setup : SocketSetup) (env : SocketEnvelope δ)
    (h : .tell env ∈ SocketTcpActor.superNew setup) : ¬ SetsUp env.message := by
  cases SocketTcpActor.eq_of_mem_superNew h
  exact id

theorem unnoted_superNew (setup : SocketSetup) :
    Unnoted (SocketTcpActor.superNew setup : List (SocketEffect δ)) :=
  unnoted_of_tells fun _ hx => ⟨_, SocketTcpActor.eq_of_mem_superNew hx⟩

/-- A turn that stops the handlers, and starts the actor anew at most. -/
theorem calm_stopped {net' : SocketNet} {xs : List (SocketEffect δ)}
    (hl : net'.handlers = net.stopHandlers.handlers) (ho : net'.owed = net.owed)
    (hf : net'.lisenters = net.lisenters) (hc : net'.connections = net.connections)
    (hnotes : Unnoted xs) (hs : ∀ env, .tell env ∈ xs → ¬ SetsUp env.message) :
    Calm net (net', xs) where
  length := by
    rw [hl]
    exact List.length_map _
  alive n l h := by
    rw [hl] at h
    exact absurd h alive_stopHandlers
  kept n l p h := by
    rw [hl]
    exact kept_stopHandlers h
  owed x hx := .inl (ho ▸ hx)
  fields l := by rw [hf]
  notes := hnotes
  setsUp env henv h := absurd h (hs env henv)
  opened := by rw [countP_opens hs, Nat.zero_add, hc]

/-- A turn that tells only the actor: of the connection if and only if there is one more. -/
theorem calm_toActor {net' : SocketNet} {env : SocketEnvelope δ} (hr : env.receiver = .actor)
    (hl : net'.handlers = net.handlers) (hw : net'.owed = net.owed)
    (hf : net'.lisenters = net.lisenters)
    (ho : (if opens env then 1 else 0) + net.connections.length = net'.connections.length) :
    Calm net (net', [.tell env]) where
  length := by rw [hl]
  alive n l h := hl ▸ h
  kept n l p h := ⟨p, hl ▸ h⟩
  owed x hx := .inl (hw ▸ hx)
  fields l := by rw [hf]
  notes := unnoted_of_tells fun _ hx => ⟨_, List.mem_singleton.mp hx⟩
  setsUp env' henv _ := by
    cases List.mem_singleton.mp henv
    exact hr
  opened := by
    have hcount : (Effect.tells [(.tell env : SocketEffect δ)]).countP opens =
        if opens env then 1 else 0 := List.countP_singleton
    rw [hcount, ho]

theorem unnoted_nil : Unnoted ([] : List (SocketEffect δ)) := fun _ h => absurd h List.not_mem_nil

theorem calm_quiet : Calm net (net, ([] : List (SocketEffect δ))) :=
  calm_of rfl (fun _ h => .inl h) (fun _ => rfl) rfl unnoted_nil
    fun _ h => absurd h List.not_mem_nil

/-- The actor stops, and its handlers. -/
theorem calm_stop : Calm net (net.stop, ([] : List (SocketEffect δ))) :=
  calm_stopped rfl rfl rfl rfl unnoted_nil fun _ h => absurd h List.not_mem_nil

/-- The actor's turn when the connection is there: a handler is created, and set up. -/
def connectedTurn (net : SocketNet) (sender : SocketRef) (conn : Connected) (l : Nat) :
    SocketNet × List (SocketEffect δ) :=
  ({ (net.setLisenter l (·.setConnected conn)).actorOf l with
      actor := { net.actor with behaviour := .connected sender net.nextHandler } },
    [.tell ⟨net.nextHandler, .actor, .create⟩, .tell ⟨net.nextHandler, sender, .connected conn⟩,
      .tell ⟨sender, .actor, .register net.nextHandler⟩])

/-- A message for the actor is a calm turn, or `Connected`. -/
theorem actor_calm (h : ClientNet net) {sender : SocketRef} {m : SocketMessage δ}
    (hstep : ActorStep (setup schedulable lisenter) net sender m t) :
    Calm net t ∨ ∃ conn l, m = .connected conn ∧ t = connectedTurn net sender conn l := by
  have hold : ∀ x ∈ net.owed, x ∈ net.owed ∨ x ∈ net.atWork := fun _ hx => .inl hx
  cases hstep with
  | same m hm => exact .inl calm_quiet
  | dropped data ha hb =>
    refine .inl (calm_of rfl hold (fun _ => rfl) rfl (by simp [Unnoted, effectNote]) ?_)
    exact fun _ hx => nomatch List.mem_singleton.mp hx
  | passed data c r ha hb =>
    refine .inl (calm_of rfl hold (fun _ => rfl) rfl (by simp [Unnoted, effectNote]) ?_)
    intro env henv
    rcases List.mem_cons.mp henv with he | he
    · cases he
    · cases List.mem_singleton.mp he
      exact id
  | forwarded ref data c r hb =>
    refine .inl (calm_of rfl hold (fun _ => rfl) rfl (by simp [Unnoted, effectNote]) ?_)
    intro env henv
    cases List.mem_singleton.mp henv
    exact id
  | stopped m hm => exact .inl calm_stop
  | server conn l ha hb hl hs => exact nomatch h.isServer.symm.trans hs
  | client conn l ha hb hl hs => exact .inr ⟨conn, l, rfl, rfl⟩
  | restarted m l hm =>
    exact .inl (calm_stopped rfl rfl rfl rfl (unnoted_superNew _) (not_setsUp_superNew _))
  | survived m l hm =>
    refine .inl (calm_of rfl (fun x hx => ?_) (fun _ => rfl) rfl (unnoted_superNew _)
      (not_setsUp_superNew _))
    exact List.mem_append.mp hx
  | failed m hm =>
    exact .inl (calm_stopped rfl rfl rfl rfl (unnoted_superNew _) (not_setsUp_superNew _))

theorem connection_calm {n : Nat} {sender : SocketRef} {m : SocketMessage δ}
    (hstep : ConnectionStep k net n sender m t) : Calm net t := by
  have hold : ∀ x ∈ net.owed, x ∈ net.owed ∨ x ∈ net.atWork := fun _ hx => .inl hx
  cases hstep with
  | same m => exact calm_quiet
  | registered handler p s hn =>
    exact calm_of rfl hold (fun _ => rfl) (List.length_set ..) unnoted_nil
      fun _ h => absurd h List.not_mem_nil
  | handed ref data handler hn =>
    refine calm_of rfl hold (fun _ => rfl) (List.length_set ..) (by simp [Unnoted, effectNote]) ?_
    exact fun _ hx => nomatch List.mem_singleton.mp hx
  | refused ref data handler p s hn =>
    refine calm_of rfl hold (fun _ => rfl) (List.length_set ..) (by simp [Unnoted, effectNote]) ?_
    intro env henv
    cases List.mem_singleton.mp henv
    exact id

/-- The surroundings' acts are calm, but for a handler created anew. -/
theorem act_calm (a : SocketAct δ) (ha : ∀ n, a ≠ .recreate n) :
    Calm net (SocketAct.perform (setup schedulable lisenter) a net) := by
  have hold : ∀ x ∈ net.owed, x ∈ net.owed ∨ x ∈ net.atWork := fun _ hx => .inl hx
  unfold SocketAct.perform
  cases a with
  | connect conn =>
    dsimp only
    split
    · refine calm_toActor rfl rfl rfl rfl ?_
      rw [List.length_append]
      exact Nat.add_comm 1 _
    · exact calm_quiet
  | incoming n data =>
    dsimp only
    split
    · refine calm_of rfl hold (fun _ => rfl) rfl (by simp [Unnoted, effectNote]) fun env henv => ?_
      cases List.mem_singleton.mp henv
      exact id
    · exact calm_quiet
  | writable n =>
    dsimp only
    split
    · exact calm_of rfl hold (fun _ => rfl) (List.length_set ..) unnoted_nil
        fun _ h => absurd h List.not_mem_nil
    · exact calm_quiet
  | close n =>
    dsimp only
    split
    · refine calm_of rfl hold (fun _ => rfl) (List.length_set ..) (unnoted_of_tells fun x hx => ?_)
        fun env henv => ?_
      · obtain ⟨r, -, rfl⟩ := List.mem_map.mp hx
        exact ⟨_, rfl⟩
      · obtain ⟨r, -, he⟩ := List.mem_map.mp henv
        cases he
        exact id
    · exact calm_quiet
  | write l data =>
    refine calm_of rfl hold (fun _ => rfl) rfl ?_ fun env henv => ?_
    · split <;> simp [Unnoted, effectNote]
    · obtain ⟨r, -, rfl⟩ :=
        SocketAct.told_of_perform_write (setup schedulable lisenter) l data net henv
      exact id
  | stop => exact calm_stop
  | recreate n => exact absurd rfl (ha n)
  | _ => exact calm_toActor rfl rfl rfl rfl (Nat.zero_add _)

/-- After the notes `ns` the field is no longer the connection: `receive` throws, or the handler is
    created anew when it has taken `Connected`. -/
def Disturbs (ns : List (ClientNote δ)) : ClientNote δ → Prop
  | .connected => False
  | .call c => c.thrown ≠ none
  | .recreated => .connected ∈ ns

/-- None of the notes does. -/
def Undisturbed (ns : List (ClientNote δ)) : Prop := ∀ p n, p ++ [n] <+: ns → ¬ Disturbs p n

/-- What the listener has for a handler after the notes `ns`: the connection while nothing disturbs
    it, the handler from then on. -/
def Field (ns : List (ClientNote δ)) (r : Option SocketRef) : Prop :=
  (Undisturbed ns ∧ r = some (.connection 0)) ∨ (¬ Undisturbed ns ∧ r = some (.handler 0))

/-- Every call of `receive` found what the notes before it tell. -/
def Found (ns : List (ClientNote δ)) : Prop :=
  ∀ p c, p ++ [.call c] <+: ns → Field p c.handleActor

/-- What is owed is owed to handlers there are, each over its listener. -/
def Owed (net : SocketNet) : Prop :=
  ∀ x ∈ net.owed, ∃ p, net.handlers[x.1]? = some ⟨x.2, p⟩

/-- How far the handler is set up, where `q` waits for it and `ns` is noted so far: there is none;
    its constructor is still to run; `Connected` is next for it; it is ready. -/
inductive Stage (net : SocketNet) (q : List (SocketEnvelope δ)) (ns : List (ClientNote δ)) :
    Prop where
  | before (hn : net.handlers.length = 0) (ho : net.owed = [])
      (hq : ∀ env ∈ q, ¬ SetsUp env.message) (hc : ns = [])
  | created (junk rest : List (SocketEnvelope δ)) (conn : Connected)
      (hn : net.handlers.length = 1) (ho : net.owed = [])
      (ha : ∀ l, net.handlers[0]? ≠ some ⟨l, .alive⟩)
      (hq : q = junk ++ ⟨.handler 0, .actor, .create⟩ ::
        ⟨.handler 0, .connection 0, .connected conn⟩ :: rest)
      (hj : ∀ env ∈ junk, ¬ SetsUp env.message) (hr : ∀ env ∈ rest, ¬ SetsUp env.message)
      (hc : ns = [])
  | connected (rest : List (SocketEnvelope δ)) (conn : Connected) (hn : net.handlers.length = 1)
      (ho : Owed net) (hq : q = ⟨.handler 0, .connection 0, .connected conn⟩ :: rest)
      (hr : ∀ env ∈ rest, ¬ SetsUp env.message) (hc : ∀ n ∈ ns, n = .recreated)
  | ready (hn : net.handlers.length = 1) (ho : Owed net) (hq : ∀ env ∈ q, ¬ SetsUp env.message)
      (hc : .connected ∈ ns)
      (hf : ∀ l, net.handlers[0]? = some ⟨l, .alive⟩ → Field ns (net.lisenters l).handleActor)
      (he : Found ns)

theorem undisturbed_concat_iff (ns : List (ClientNote δ)) (n : ClientNote δ) :
    Undisturbed (ns ++ [n]) ↔ Undisturbed ns ∧ ¬ Disturbs ns n :=
  forall_steps_concat_iff (Q := fun p n => ¬ Disturbs p n) ns n

/-- Before `Connected` nothing disturbs. -/
theorem undisturbed_of_recreated {ns : List (ClientNote δ)} (h : ∀ n ∈ ns, n = .recreated) :
    Undisturbed ns := by
  intro p n hp hd
  obtain rfl := h n (hp.subset (List.mem_append_right p List.mem_cons_self))
  have hconn : ClientNote.connected ∈ ns := hp.subset (List.mem_append_left _ hd)
  exact nomatch h _ hconn

theorem found_concat {ns : List (ClientNote δ)} {n : ClientNote δ} (h : Found ns)
    (hn : ∀ c, n = .call c → Field ns c.handleActor) : Found (ns ++ [n]) := by
  intro p c hp
  rcases List.prefix_concat_iff.mp hp with he | hp
  · obtain ⟨rfl, hcc⟩ := List.append_inj' he rfl
    exact hn c (List.singleton_inj.mp hcc).symm
  · exact h p c hp

theorem found_of_recreated {ns : List (ClientNote δ)} (h : ∀ n ∈ ns, n = .recreated) :
    Found ns := by
  intro p c hp
  exact nomatch h _ (hp.subset (List.mem_append_right p List.mem_cons_self))

/-- A note that does not disturb leaves the field. -/
theorem Field.keep {ns : List (ClientNote δ)} {r : Option SocketRef} {n : ClientNote δ}
    (h : Field ns r) (hn : ¬ Disturbs ns n) : Field (ns ++ [n]) r := by
  unfold Field
  rw [undisturbed_concat_iff]
  rcases h with ⟨hu, hr⟩ | ⟨hu, hr⟩
  · exact .inl ⟨⟨hu, hn⟩, hr⟩
  · exact .inr ⟨fun hboth => hu hboth.1, hr⟩

/-- After one that does, it is the handler. -/
theorem field_of_disturbs {ns : List (ClientNote δ)} {n : ClientNote δ} (hn : Disturbs ns n) :
    Field (ns ++ [n]) (some (.handler 0)) :=
  .inr ⟨fun hu => ((undisturbed_concat_iff ns n).mp hu).2 hn, rfl⟩

/-- Calls that find what the notes tell all find the connection if and only if nothing disturbs
    before any of them. -/
theorem forall_connection_iff {ns : List (ClientNote δ)} (h : Found ns) :
    (∀ c, .call c ∈ ns → c.handleActor = some (.connection 0)) ↔
      ∀ p c, p ++ [.call c] <+: ns → Undisturbed p := by
  constructor
  · intro hconn p c hp
    rcases h p c hp with ⟨hu, -⟩ | ⟨-, hr⟩
    · exact hu
    · have hmem : .call c ∈ ns := hp.subset (List.mem_append_right p List.mem_cons_self)
      exact nomatch (hconn c hmem).symm.trans hr
  · intro hu c hmem
    obtain ⟨p, r, rfl⟩ := List.append_of_mem hmem
    have hp : p ++ [.call c] <+: p ++ .call c :: r := ⟨r, by simp⟩
    rcases h p c hp with ⟨-, hr⟩ | ⟨hno, -⟩
    · exact hr
    · exact absurd (hu p c hp) hno

variable {q : List (SocketEnvelope δ)} {ns : List (ClientNote δ)}

/-- More messages that set nothing up wait behind. -/
theorem Stage.append (h : Stage net q ns) {new : List (SocketEnvelope δ)}
    (hnew : ∀ env ∈ new, ¬ SetsUp env.message) : Stage net (q ++ new) ns := by
  have happ : ∀ {xs : List (SocketEnvelope δ)}, (∀ env ∈ xs, ¬ SetsUp env.message) →
      ∀ env ∈ xs ++ new, ¬ SetsUp env.message :=
    fun hx env henv => (List.mem_append.mp henv).elim (hx env) (hnew env)
  cases h with
  | before hn ho hq hc => exact .before hn ho (happ hq) hc
  | created junk rest conn hn ho ha hq hj hr hc =>
    exact .created junk (rest ++ new) conn hn ho ha (by rw [hq]; simp) hj (happ hr) hc
  | connected rest conn hn ho hq hr hc =>
    exact .connected (rest ++ new) conn hn ho (by rw [hq]; simp) (happ hr) hc
  | ready hn ho hq hc hf he => exact .ready hn ho (happ hq) hc hf he

/-- A world with the same fields and handlers, no more of them at work, and none owed a creation
    that was not at work. -/
theorem Stage.world {net' : SocketNet} (h : Stage net q ns)
    (hl : net'.handlers.length = net.handlers.length)
    (ha : ∀ (n : Nat) l, net'.handlers[n]? = some ⟨l, .alive⟩ → net.handlers[n]? = some ⟨l, .alive⟩)
    (hk : ∀ (n : Nat) l p, net.handlers[n]? = some ⟨l, p⟩ → ∃ p', net'.handlers[n]? = some ⟨l, p'⟩)
    (hw : ∀ x ∈ net'.owed, x ∈ net.owed ∨ net.handlers[x.1]? = some ⟨x.2, .alive⟩)
    (hf : ∀ l, (net'.lisenters l).handleActor = (net.lisenters l).handleActor) :
    Stage net' q ns := by
  have howed : Owed net → Owed net' := by
    intro ho x hx
    rcases hw x hx with hx | hx
    · obtain ⟨p, hp⟩ := ho x hx
      exact hk _ _ _ hp
    · exact hk _ _ _ hx
  -- where none is at work, none is owed
  have hnil : net.owed = [] → (∀ l, net.handlers[0]? ≠ some ⟨l, .alive⟩) →
      net.handlers.length ≤ 1 → net'.owed = [] := by
    intro ho hno hlen
    refine List.eq_nil_iff_forall_not_mem.mpr fun x hx => ?_
    rcases hw x hx with hx | hx
    · rw [ho] at hx
      cases hx
    · obtain ⟨hlt, -⟩ := List.getElem?_eq_some_iff.mp hx
      have hzero : x.1 = 0 := by omega
      exact hno x.2 (hzero ▸ hx)
  cases h with
  | before hn ho hq hc =>
    refine .before (hl.trans hn) (hnil ho (fun l hx => ?_) (by omega)) hq hc
    rw [List.length_eq_zero_iff.mp hn] at hx
    cases hx
  | created junk rest conn hn ho hal hq hj hr hc =>
    exact .created junk rest conn (hl.trans hn) (hnil ho hal hn.le) (fun l hx => hal l (ha 0 l hx))
      hq hj hr hc
  | connected rest conn hn ho hq hr hc =>
    exact .connected rest conn (hl.trans hn) (howed ho) hq hr hc
  | ready hn ho hq hc hfield he =>
    exact .ready (hl.trans hn) (howed ho) hq hc (fun l hx => by rw [hf]; exact hfield l (ha 0 l hx))
      he

theorem filterMap_unnoted {xs : List (SocketEffect δ)} (h : Unnoted xs) :
    xs.filterMap effectNote = [] := List.filterMap_eq_nil_iff.mpr h

/-- A calm turn leaves the stage as it is. -/
theorem Stage.calm (h : Stage net q ns) (hcalm : Calm net t) :
    Stage t.1 (q ++ queue (.handler 0) (Effect.tells t.2)) (ns ++ t.2.filterMap effectNote) := by
  rw [filterMap_unnoted hcalm.notes, List.append_nil]
  have hworld := h.world hcalm.length hcalm.alive hcalm.kept hcalm.owed hcalm.fields
  refine hworld.append fun env henv hs => ?_
  obtain ⟨hmem, hreceiver⟩ := List.mem_filter.mp henv
  have hactor := hcalm.setsUp env (Effect.mem_tells.mp hmem) hs
  rw [hactor] at hreceiver
  exact nomatch hreceiver

/-- When the connection is there, the handler's constructor and then `Connected` are next for it. -/
theorem Stage.connectedTurn (h : Stage net q ns) (hn : net.handlers.length = 0) {conn : Connected}
    {l : Nat} (ht : t = connectedTurn net (.connection 0) conn l) :
    Stage t.1 (q ++ queue (.handler 0) (Effect.tells t.2)) ns := by
  have hnil : net.handlers = [] := List.length_eq_zero_iff.mp hn
  have hq : queue (.handler 0) (Effect.tells t.2) =
      [⟨.handler 0, .actor, .create⟩, ⟨.handler 0, .connection 0, .connected conn⟩] := by
    simp [ht, SocketClient.connectedTurn, SocketNet.nextHandler, hnil, queue]
  have hhandlers : t.1.handlers = [⟨l, .unborn⟩] := by
    simp [ht, SocketClient.connectedTurn, hnil]
  have howed : t.1.owed = net.owed := by rw [ht]; rfl
  rw [hq]
  cases h with
  | before _ ho hj hc =>
    refine .created q [] conn ?_ (howed.trans ho) (fun l' hx => ?_) rfl hj
      (fun _ hx => absurd hx List.not_mem_nil) hc
    · rw [hhandlers]
      rfl
    · rw [hhandlers] at hx
      cases hx
  | created _ _ _ hn' => exact nomatch hn.symm.trans hn'
  | connected _ _ hn' => exact nomatch hn.symm.trans hn'
  | ready hn' => exact nomatch hn.symm.trans hn'

/-- What the first message that waits for the handler may be: one that sets nothing up, for a
    handler that does not work yet or is ready; its creation; or `Connected`. -/
theorem Stage.head {sender : SocketRef} {m : SocketMessage δ}
    (h : Stage net (⟨.handler 0, sender, m⟩ :: q) ns) :
    (¬ SetsUp m ∧ (∀ l, net.handlers[0]? ≠ some ⟨l, .alive⟩) ∧ Stage net q ns) ∨
    (¬ SetsUp m ∧ net.handlers.length = 1 ∧ Owed net ∧ (∀ env ∈ q, ¬ SetsUp env.message) ∧
      .connected ∈ ns ∧
      (∀ l, net.handlers[0]? = some ⟨l, .alive⟩ → Field ns (net.lisenters l).handleActor) ∧
      Found ns) ∨
    (m = .create ∧ ∃ rest conn, net.handlers.length = 1 ∧ net.owed = [] ∧
      q = ⟨.handler 0, .connection 0, .connected conn⟩ :: rest ∧
      (∀ env ∈ rest, ¬ SetsUp env.message) ∧ ns = []) ∨
    (∃ conn, m = .connected conn ∧ sender = .connection 0 ∧ net.handlers.length = 1 ∧ Owed net ∧
      (∀ env ∈ q, ¬ SetsUp env.message) ∧ ∀ n ∈ ns, n = .recreated) := by
  cases h with
  | before hn ho hq hc =>
    refine .inl ⟨hq _ List.mem_cons_self, fun l hx => ?_, ?_⟩
    · rw [List.length_eq_zero_iff.mp hn] at hx
      cases hx
    · exact .before hn ho (fun env henv => hq env (List.mem_cons_of_mem _ henv)) hc
  | created junk rest conn hn ho ha hq hj hr hc =>
    cases junk with
    | nil =>
      obtain ⟨he, rfl⟩ := List.cons.inj hq
      cases he
      exact .inr (.inr (.inl ⟨rfl, rest, conn, hn, ho, rfl, hr, hc⟩))
    | cons j junk =>
      obtain ⟨rfl, rfl⟩ := List.cons.inj hq
      refine .inl ⟨hj _ List.mem_cons_self, ha, ?_⟩
      exact .created junk rest conn hn ho ha rfl
        (fun env henv => hj env (List.mem_cons_of_mem _ henv)) hr hc
  | connected rest conn hn ho hq hr hc =>
    obtain ⟨he, rfl⟩ := List.cons.inj hq
    cases he
    exact .inr (.inr (.inr ⟨conn, rfl, rfl, hn, ho, hr, hc⟩))
  | ready hn ho hq hc hf he =>
    refine .inr (.inl ⟨hq _ List.mem_cons_self, hn, ho, fun env henv => ?_, hc, hf, he⟩)
    exact hq env (List.mem_cons_of_mem _ henv)

/-- What `receive` tells sets nothing up. -/
theorem setsUp_receive (l ref : Nat) (data : δ) (sender : SocketRef) :
    ∀ env ∈ queue (.handler 0)
      (Effect.tells (SocketTcpHandler.receive k l ref data sender net).sent),
      ¬ SetsUp env.message := by
  intro env henv
  obtain ⟨ref', data', hm⟩ := SocketTcpHandler.tells_receive k l ref data sender net
    (Effect.mem_tells.mp (List.mem_filter.mp henv).1)
  rw [hm]
  exact id

/-- A call of `receive` is one note. -/
theorem notes_receive (l ref : Nat) (data : δ) (sender : SocketRef) :
    (SocketTcpHandler.receive k l ref data sender net).sent.filterMap effectNote =
      [.call (SocketTcpHandler.call k l ref data sender net)] := by
  show .call _ :: (List.map _ _).filterMap effectNote = _
  rw [List.filterMap_map]
  exact congrArg (_ :: ·) (List.filterMap_eq_nil_iff.mpr fun _ _ => rfl)

/-- A call of `receive` on a ready handler: the field stays while it returns, and is the handler
    once it throws. -/
theorem Stage.receive (hn : net.handlers.length = 1) (ho : Owed net)
    (hq : ∀ env ∈ q, ¬ SetsUp env.message) (hc : .connected ∈ ns)
    (hf : ∀ l, net.handlers[0]? = some ⟨l, .alive⟩ → Field ns (net.lisenters l).handleActor)
    (he : Found ns) {l ref : Nat} {data : δ} {sender : SocketRef}
    (hl : net.handlers[0]? = some ⟨l, .alive⟩) {net' : SocketNet}
    (hh : net'.handlers = net.handlers) (hw : net'.owed = net.owed)
    (hfield : (net'.lisenters l).handleActor =
      if (SocketTcpHandler.call k l ref data sender net).thrown = none
      then (net.lisenters l).handleActor else some (.handler 0)) :
    Stage net' (q ++ queue (.handler 0)
      (Effect.tells (SocketTcpHandler.receive k l ref data sender net).sent))
      (ns ++ (SocketTcpHandler.receive k l ref data sender net).sent.filterMap effectNote) := by
  have howed : Owed net' := by
    unfold Owed
    rw [hh, hw]
    exact ho
  rw [notes_receive]
  refine .ready (by rw [hh]; exact hn) howed (fun env henv => ?_) (List.mem_append_left _ hc)
    (fun l' hl' => ?_) (found_concat he fun c hcall => ?_)
  · exact (List.mem_append.mp henv).elim (hq env) (setsUp_receive l ref data sender env)
  · rw [hh, hl] at hl'
    cases hl'
    rw [hfield]
    split
    · exact (hf l hl).keep fun ht => ht ‹_›
    · exact field_of_disturbs ‹_›
  · cases hcall
    exact hf l hl

/-- A handler that is not at work does nothing on what sets nothing up. -/
theorem eq_of_not_alive {n : Nat} {sender : SocketRef} {m : SocketMessage δ}
    (hstep : HandlerStep k net n sender m t) (hm : ¬ SetsUp m)
    (ha : ∀ l, net.handlers[n]? ≠ some ⟨l, .alive⟩) : t = (net, []) := by
  cases hstep with
  | same m hc hal => rfl
  | created l hl => exact absurd trivial hm
  | late x hl hp => exact absurd trivial hm
  | returned l ref data hl ht => exact absurd hl (ha l)
  | thrown l ref data hl ht => exact absurd hl (ha l)
  | closed l hl => exact absurd hl (ha l)
  | connected l conn hl => exact absurd trivial hm

/-- A turn of the handler, on the first message that waits for it. -/
theorem Stage.handlerTurn {sender : SocketRef} {m : SocketMessage δ}
    (h : Stage net (⟨.handler 0, sender, m⟩ :: q) ns) (hstep : HandlerStep k net 0 sender m t) :
    Stage t.1 (q ++ queue (.handler 0) (Effect.tells t.2))
      (ns ++ ((messageNote ⟨.handler 0, sender, m⟩).toList ++ t.2.filterMap effectNote)) := by
  rcases h.head with ⟨hm, ha, hstage⟩ | ⟨hm, hn, ho, hq, hc, hf, he⟩ |
    ⟨rfl, rest, conn, hn, ho, rfl, hr, rfl⟩ | ⟨conn, rfl, rfl, hn, ho, hq, hc⟩
  · rw [messageNote_of_not_setsUp hm, eq_of_not_alive hstep hm ha]
    exact hstage.calm calm_quiet
  · have hstage : Stage net q ns := .ready hn ho hq hc hf he
    rw [messageNote_of_not_setsUp hm]
    show Stage t.1 _ (ns ++ t.2.filterMap effectNote)
    cases hstep with
    | same m hcr hal => exact hstage.calm calm_quiet
    | created l hl => exact absurd trivial hm
    | late x hl hp => exact absurd trivial hm
    | returned l ref data hl ht =>
      have ht : (SocketTcpHandler.call k l ref data sender net).thrown = none := ht
      refine Stage.receive hn ho hq hc hf he hl rfl rfl ?_
      rw [if_pos ht]
      rfl
    | thrown l ref data hl ht =>
      have ht : (SocketTcpHandler.call k l ref data sender net).thrown ≠ none := ht
      refine Stage.receive hn ho hq hc hf he hl rfl rfl ?_
      rw [if_neg ht]
      simp [SocketTcpHandler.new, SocketTcpLisenter.setHandler]
    | closed l hl =>
      rw [filterMap_unnoted unnoted_nil, List.append_nil, Effect.tells_nil, Actors.queue_nil,
        List.append_nil]
      refine hstage.world (by simp) (fun n l' hx => ?_) (fun n l' p hx => ?_) (fun x hx => .inl hx)
        fun _ => rfl
      · rw [SocketNet.setPhase_handlers, List.getElem?_modify] at hx
        obtain ⟨y, hy, hset⟩ := Option.map_eq_some_iff.mp hx
        split at hset
        · cases hset
        · rw [hy, hset]
      · rw [SocketNet.setPhase_handlers, List.getElem?_modify, hx]
        split
        · exact ⟨_, rfl⟩
        · exact ⟨_, rfl⟩
    | connected l conn hl => exact absurd trivial hm
  · -- the constructor runs
    have hnone : messageNote (⟨.handler 0, sender, .create⟩ : SocketEnvelope δ) = none := rfl
    have hnext : ∀ {net' : SocketNet}, net'.handlers.length = net.handlers.length →
        net'.owed = net.owed →
          Stage net' (⟨.handler 0, .connection 0, .connected conn⟩ :: rest ++ [])
            ([] : List (ClientNote δ)) := by
      intro net' hlen hsame
      rw [List.append_nil]
      refine .connected rest conn (hlen.trans hn) (fun x hx => ?_) rfl hr
        fun _ h => absurd h List.not_mem_nil
      rw [hsame, ho] at hx
      cases hx
    rw [hnone]
    cases hstep with
    | same m hcr hal =>
      have hlt : 0 < net.handlers.length := by omega
      exact absurd rfl (hcr _ (List.getElem?_eq_getElem hlt))
    | created l hl => exact hnext (by simp [SocketTcpHandler.new]) rfl
    | late x hl hp => exact hnext rfl rfl
  · -- the field becomes the connection
    have hsome : messageNote (⟨.handler 0, .connection 0, .connected conn⟩ : SocketEnvelope δ) =
        some .connected := rfl
    have hu : Undisturbed (ns ++ [.connected]) :=
      (undisturbed_concat_iff ns _).mpr ⟨undisturbed_of_recreated hc, id⟩
    have hfound : Found (ns ++ [.connected]) := found_concat (found_of_recreated hc) fun _ => nofun
    have hmem : .connected ∈ ns ++ [.connected] := List.mem_append_right _ List.mem_cons_self
    rw [hsome]
    cases hstep with
    | same m hcr hal =>
      refine .ready hn ho (by simpa using hq) (by simp) (fun l hl => ?_) hfound
      exact absurd rfl (hal _ hl rfl conn)
    | connected l conn hl =>
      refine .ready hn ho (by simpa using hq) (by simp) (fun l' hl' => ?_) hfound
      cases hl.symm.trans hl'
      exact .inl ⟨hu, by simp [SocketTcpLisenter.setHandler]⟩

/-- The handler is created anew with its actor: that disturbs if it has taken `Connected`. -/
theorem Stage.recreate {n l : Nat} (h : Stage net q ns) (hmem : (n, l) ∈ net.owed) :
    Stage { SocketTcpHandler.new n l net with owed := net.owed.erase (n, l) } q
      (ns ++ [.recreated]) := by
  have hless : ∀ x ∈ net.owed.erase (n, l), x ∈ net.owed := fun x hx => List.mem_of_mem_erase hx
  cases h with
  | before hn ho hq hc =>
    rw [ho] at hmem
    cases hmem
  | created junk rest conn hn ho ha hq hj hr hc =>
    rw [ho] at hmem
    cases hmem
  | connected rest conn hn ho hq hr hc =>
    refine .connected rest conn hn (fun x hx => ho x (hless x hx)) hq hr fun m hm => ?_
    rcases List.mem_append.mp hm with hm | hm
    · exact hc m hm
    · exact List.mem_singleton.mp hm
  | ready hn ho hq hc hf he =>
    -- there is one handler, and its listener is the one owed
    obtain ⟨p, hp⟩ := ho (n, l) hmem
    obtain ⟨hlt, -⟩ := List.getElem?_eq_some_iff.mp hp
    obtain rfl : n = 0 := by omega
    refine .ready hn (fun x hx => ho x (hless x hx)) hq (List.mem_append_left _ hc)
      (fun l' hl' => ?_) (found_concat he fun _ => nofun)
    obtain rfl : l = l' :=
      congrArg SocketTcpHandler.socketLisenter (Option.some.inj (hp.symm.trans hl'))
    have hfield : ((SocketTcpHandler.new 0 l net).lisenters l).handleActor = some (.handler 0) := by
      simp [SocketTcpHandler.new, SocketTcpLisenter.setHandler]
    show Field _ ((SocketTcpHandler.new 0 l net).lisenters l).handleActor
    rw [hfield]
    exact field_of_disturbs hc

/-! ## 3. Runs -/

/-- The handler is at its stage, and no second one can be: the actor is told of the connection once
    at most. -/
structure ClientPost (net : SocketNet) (mail : List (SocketEnvelope δ))
    (ns : List (ClientNote δ)) : Prop where
  counted : mail.countP opens + net.handlers.length ≤ net.connections.length
  stage : Stage net (queue (.handler 0) mail) ns

variable {mail : List (SocketEnvelope δ)}

/-- A calm turn, after a message that is no news to the handler is taken from the mail. -/
theorem ClientPost.calm (h : ClientPost net mail ns) {ms : List (SocketEnvelope δ)}
    (hq : queue (.handler 0) ms = queue (.handler 0) mail)
    (hc : ms.countP opens ≤ mail.countP opens) (hcalm : Calm net t) :
    ClientPost t.1 (ms ++ Effect.tells t.2) (ns ++ t.2.filterMap effectNote) where
  counted := by
    have hcounted := h.counted
    have hopened := hcalm.opened
    rw [List.countP_append, hcalm.length]
    omega
  stage := by
    rw [Actors.queue_append, hq]
    exact h.stage.calm hcalm

/-- An act of the surroundings. -/
theorem ClientPost.act (h : ClientPost net mail ns) (a : SocketAct δ)
    (ht : t = SocketAct.perform (setup schedulable lisenter) a net) :
    ClientPost t.1 (mail ++ Effect.tells t.2) (ns ++ t.2.filterMap effectNote) := by
  by_cases ha : ∃ n, a = .recreate n
  · obtain ⟨n, rfl⟩ := ha
    have hstep : RecreateStep net n t := ht ▸ SocketTcpHandler.recreate_step n net
    cases hstep with
    | same => exact h.calm rfl (le_refl _) calm_quiet
    | recreated l hmem =>
      refine ⟨?_, ?_⟩
      · rw [Effect.tells_did, Effect.tells_nil, List.append_nil]
        exact h.counted
      · rw [Effect.tells_did, Effect.tells_nil, List.append_nil]
        exact h.stage.recreate hmem
  · subst ht
    exact h.calm rfl (le_refl _) (act_calm a fun n hn => ha ⟨n, hn⟩)

/-- There is one handler at most. -/
theorem ClientPost.handlers_le (h : ClientPost net mail ns) (hnet : ClientNet net) :
    net.handlers.length ≤ 1 := by
  have hcounted := h.counted
  have hconnections := hnet.connections
  omega

/-- What a turn of a handler leaves alone. -/
theorem handler_frame {n : Nat} {sender : SocketRef} {m : SocketMessage δ}
    (hstep : HandlerStep k net n sender m t) :
    t.1.handlers.length = net.handlers.length ∧ t.1.connections = net.connections ∧
      ∀ env, .tell env ∈ t.2 → ¬ SetsUp env.message := by
  have hreceive : ∀ l ref data env,
      .tell env ∈ (SocketTcpHandler.receive k l ref data sender net).sent →
        ¬ SetsUp env.message := by
    intro l ref data env henv
    obtain ⟨ref', data', hm⟩ := SocketTcpHandler.tells_receive k l ref data sender net henv
    rw [hm]
    exact id
  cases hstep with
  | same m hc ha => exact ⟨rfl, rfl, fun _ h => absurd h List.not_mem_nil⟩
  | created l hn =>
    exact ⟨by simp [SocketTcpHandler.new], rfl, fun _ h => absurd h List.not_mem_nil⟩
  | late x hn hp => exact ⟨rfl, rfl, fun _ h => absurd h List.not_mem_nil⟩
  | returned l ref data hn ht => exact ⟨rfl, rfl, hreceive l ref data⟩
  | thrown l ref data hn ht => exact ⟨rfl, rfl, hreceive l ref data⟩
  | closed l hn => exact ⟨by simp, rfl, fun _ h => absurd h List.not_mem_nil⟩
  | connected l conn hn => exact ⟨rfl, rfl, fun _ h => absurd h List.not_mem_nil⟩

/-- A handler that does not exist does nothing. -/
theorem eq_of_handler_none {n : Nat} {sender : SocketRef} {m : SocketMessage δ}
    (hstep : HandlerStep k net n sender m t) (hnone : net.handlers[n]? = none) : t = (net, []) := by
  cases hstep with
  | same m hm ha => rfl
  | created l hn => exact nomatch hn.symm.trans hnone
  | late x hn hp => exact nomatch hn.symm.trans hnone
  | returned l ref data hn ht => exact nomatch hn.symm.trans hnone
  | thrown l ref data hn ht => exact nomatch hn.symm.trans hnone
  | closed l hn => exact nomatch hn.symm.trans hnone
  | connected l conn hn => exact nomatch hn.symm.trans hnone

section Deliver

variable {xs ys : List (SocketEnvelope δ)}

theorem countP_taken (env : SocketEnvelope δ) :
    (xs ++ env :: ys).countP opens = (xs ++ ys).countP opens + if opens env then 1 else 0 := by
  rw [List.countP_append, List.countP_append, List.countP_cons, Nat.add_assoc]

/-- The one `Connected` there is: there was no handler yet. -/
theorem ClientPost.connected {conn : Connected} {l : Nat}
    (h : ClientPost net (xs ++ ⟨.actor, .connection 0, .connected conn⟩ :: ys) ns)
    (hnet : ClientNet net) (hturn : t = connectedTurn net (.connection 0) conn l) :
    ClientPost t.1 (xs ++ ys ++ Effect.tells t.2) (ns ++ t.2.filterMap effectNote) := by
  have hopens : opens (⟨.actor, .connection 0, .connected conn⟩ : SocketEnvelope δ) = true := rfl
  have hcounted := h.counted
  have hconnections := hnet.connections
  rw [countP_taken, hopens, if_pos rfl] at hcounted
  have hnone : net.handlers.length = 0 := by omega
  refine ⟨?_, ?_⟩
  · have htells : (Effect.tells t.2).countP opens = 0 := by
      rw [hturn]
      rfl
    have hhandlers : t.1.handlers.length = net.handlers.length + 1 := by
      rw [hturn]
      simp [connectedTurn]
    have hsame : t.1.connections = net.connections := by
      rw [hturn]
      rfl
    rw [List.countP_append, htells, hhandlers, hsame]
    omega
  · have hstage := h.stage
    rw [Actors.queue_of_ne (by exact nofun)] at hstage
    have hnotes : t.2.filterMap effectNote = [] := by
      rw [hturn]
      rfl
    rw [Actors.queue_append, hnotes, List.append_nil]
    exact hstage.connectedTurn hnone hturn

/-- A message for a handler. -/
theorem ClientPost.handler {n : Nat} {sender : SocketRef} {m : SocketMessage δ}
    (h : ClientPost net (xs ++ ⟨.handler n, sender, m⟩ :: ys) ns) (hnet : ClientNet net)
    (hxs : ∀ x ∈ xs, x.receiver ≠ .handler n) (hstep : HandlerStep k net n sender m t) :
    ClientPost t.1 (xs ++ ys ++ Effect.tells t.2)
      (ns ++ ((messageNote ⟨.handler n, sender, m⟩).toList ++ t.2.filterMap effectNote)) := by
  obtain ⟨hlen, hconn, htells⟩ := handler_frame hstep
  refine ⟨?_, ?_⟩
  · have hcounted := h.counted
    rw [countP_taken] at hcounted
    rw [List.countP_append, countP_opens htells, hlen, hconn]
    omega
  · have hstage := h.stage
    rw [Actors.queue_append]
    by_cases hn : n = 0
    · subst hn
      rw [Actors.queue_taken (by rfl) hxs] at hstage
      exact hstage.handlerTurn hstep
    · -- no other handler exists
      have hle := h.handlers_le hnet
      have hnone : net.handlers[n]? = none := List.getElem?_eq_none (by omega)
      have hne : SocketRef.handler n ≠ .handler 0 := by simpa using hn
      rw [Actors.queue_of_ne hne] at hstage
      rw [messageNote_of_ne hne, eq_of_handler_none hstep hnone]
      exact hstage.calm calm_quiet

/-- A delivery. -/
theorem ClientPost.deliver {env : SocketEnvelope δ} (h : ClientPost net (xs ++ env :: ys) ns)
    (hnet : ClientNet net) (hp : Permitted env) (hxs : ∀ x ∈ xs, x.receiver ≠ env.receiver)
    (ht : t = (actors δ schedulable lisenter).receive k env net) :
    ClientPost t.1 (xs ++ ys ++ Effect.tells t.2)
      (ns ++ ((messageNote env).toList ++ t.2.filterMap effectNote)) := by
  have hle : (xs ++ ys).countP opens ≤ (xs ++ env :: ys).countP opens := by
    rw [countP_taken]
    exact Nat.le_add_right _ _
  have hother : env.receiver ≠ .handler 0 →
      queue (.handler 0) (xs ++ ys) = queue (.handler 0) (xs ++ env :: ys) :=
    fun hne => (Actors.queue_of_ne hne).symm
  obtain ⟨receiver, sender, m⟩ := env
  cases receiver with
  | noSender =>
    subst ht
    exact h.calm (hother nofun) hle calm_quiet
  | actor =>
    have hstep : ActorStep (setup schedulable lisenter) net sender m t :=
      ht ▸ SocketTcpActor.handle_step m net
    rcases actor_calm hnet hstep with hcalm | ⟨conn, l, rfl, hturn⟩
    · exact h.calm (hother nofun) hle hcalm
    · have hsender : sender = .connection 0 := hp conn rfl
      subst hsender
      exact h.connected hnet hturn
  | handler n =>
    have hstep : HandlerStep k net n sender m t :=
      ht ▸ SocketTcpHandler.handle_step k n sender m net
    exact h.handler hnet hxs hstep
  | connection n =>
    have hstep : ConnectionStep k net n sender m t :=
      ht ▸ TcpConnection.handle_step k n sender m net
    exact h.calm (hother nofun) hle (connection_calm hstep)

end Deliver

section Answers

variable (schedulable lisenter)

/-- The notes of a run. -/
def notes (es : List (SocketEvent δ)) : List (ClientNote δ) :=
  (actors δ schedulable lisenter).seen messageNote effectNote es

/-- **The handler of a client is set up in order, in every run.** -/
theorem clientPost (es : List (SocketEvent δ)) :
    ClientPost ((actors δ schedulable lisenter).machine.after es).world
      ((actors δ schedulable lisenter).machine.after es).mail (notes schedulable lisenter es) := by
  induction es using List.reverseRecOn with
  | nil =>
    have hnotes : notes schedulable lisenter ([] : List (SocketEvent δ)) = [] := by
      unfold notes
      rw [Actors.seen_nil]
      exact filterMap_unnoted (unnoted_superNew _)
    have hrun : ∀ env ∈ Effect.tells (SocketTcpActor.superNew (setup schedulable lisenter) :
        List (SocketEffect δ)), ¬ SetsUp env.message :=
      fun env henv => not_setsUp_superNew _ env (Effect.mem_tells.mp henv)
    refine ⟨?_, .before rfl rfl (fun env henv => hrun env (List.mem_filter.mp henv).1) hnotes⟩
    exact (countP_opens fun env henv => hrun env (Effect.mem_tells.mpr henv)).le
  | append_singleton es e ih =>
    obtain ⟨hnet, hsent⟩ := clientNet schedulable lisenter es
    unfold notes at ih ⊢
    obtain ⟨k, env, xs, ys, hmail, hxs, hw, hm, hseen⟩ | ⟨a, hw, hm, hseen⟩ | ⟨hs, hseen⟩ :=
      (actors δ schedulable lisenter).seen_cases messageNote effectNote es e
    · have henv : env ∈ (actors δ schedulable lisenter).sent es :=
        (actors δ schedulable lisenter).mail_subset (by rw [hmail]; simp)
      rw [hw, hm, hseen]
      rw [hmail] at ih
      exact ih.deliver hnet (hsent env henv) hxs rfl
    · rw [hw, hm, hseen]
      exact ih.act a rfl
    · rw [hs, hseen]
      exact ih

/-- Every call of `receive` finds what the notes tell. -/
theorem found_run (es : List (SocketEvent δ)) : Found (notes schedulable lisenter es) := by
  have hnone : ∀ n ∈ ([] : List (ClientNote δ)), n = .recreated :=
    fun _ h => absurd h List.not_mem_nil
  cases (clientPost schedulable lisenter es).stage with
  | before hn ho hq hc => exact hc ▸ found_of_recreated hnone
  | created junk rest conn hn ho ha hq hj hr hc => exact hc ▸ found_of_recreated hnone
  | connected rest conn hn ho hq hr hc => exact found_of_recreated hc
  | ready hn ho hq hc hf he => exact he

/-- The calls of a run are noted, and no others. -/
theorem call_mem_notes_iff {es : List (SocketEvent δ)} {c : ReceiveCall δ} :
    .call c ∈ notes schedulable lisenter es ↔
      c ∈ receiveCalls ((actors δ schedulable lisenter).effects es) := by
  constructor
  · intro h
    have hmessage : ∀ env : SocketEnvelope δ, messageNote env ≠ some (.call c) := by
      intro env
      unfold messageNote
      split
      · split <;> nofun
      · nofun
    obtain ⟨x, hx, hnote⟩ :=
      (actors δ schedulable lisenter).mem_effects_of_seen messageNote effectNote hmessage h
    refine List.mem_filterMap.mpr ⟨x, hx, ?_⟩
    unfold effectNote at hnote
    split at hnote
    · cases hnote
      rfl
    · cases hnote
    · cases hnote
  · intro h
    obtain ⟨x, hx, hcall⟩ := List.mem_filterMap.mp h
    refine (actors δ schedulable lisenter).mem_seen_of_effects messageNote effectNote ?_ hx
    unfold receiveCall at hcall
    split at hcall
    · cases hcall
      rfl
    · cases hcall

/-- The client answers on its connection: every call of `receive` finds the connection in the
    listener's field, and each `write(data)` in it tells the connection one `Write` of the data. -/
def Answers (es : List (SocketEvent δ)) : Prop :=
  ∀ call ∈ receiveCalls ((actors δ schedulable lisenter).effects es),
    call.handleActor = some (.connection 0) ∧ ∀ w ∈ call.written, ∀ data, w.call = .write data →
      w.told = some ⟨.connection 0, .connection 0, .write w.ref data⟩

theorem answers_of_fields {es : List (SocketEvent δ)}
    (h : ∀ call ∈ receiveCalls ((actors δ schedulable lisenter).effects es),
      call.handleActor = some (.connection 0)) : Answers schedulable lisenter es := by
  intro call hcall
  refine ⟨h call hcall, fun w hw data hc => ?_⟩
  have hfield := h call hcall
  obtain ⟨k, l, ref, d, sender, net, rfl⟩ := exists_call (setup schedulable lisenter) hcall
  rw [SocketTcpHandler.told_written hw hc, hfield]
  rfl

/-- **A client answers on its connection in every call of `receive` of a run if and only if nothing
    disturbs before any of them**: no call of `receive` that throws, and no creation of the handler
    anew, with its actor, once it has taken `Connected`. -/
theorem answers_iff (es : List (SocketEvent δ)) : Answers schedulable lisenter es ↔
    ∀ p c, p ++ [.call c] <+: notes schedulable lisenter es → ∀ ns n, ns ++ [n] <+: p →
      ¬ Disturbs ns n := by
  refine Iff.trans ?_ (forall_connection_iff (found_run schedulable lisenter es))
  constructor
  · intro h c hc
    exact (h c ((call_mem_notes_iff schedulable lisenter).mp hc)).1
  · intro h
    refine answers_of_fields schedulable lisenter fun call hcall => ?_
    exact h call ((call_mem_notes_iff schedulable lisenter).mpr hcall)

end Answers

/-- User code that does nothing, `receive` that throws, `receive` that writes, and a server whose
    `run` and `preRestart` throw. -/
def quiet : UserCode Nat := ⟨fun _ => none, .ok none, [], none, true⟩

def throwing : UserCode Nat := { quiet with thrown := some .nullPointer }

def writing : UserCode Nat := { quiet with calls := [.write 7] }

def failing : UserCode Nat :=
  { quiet with hook := fun h => if h = .run ∨ h = .preRestart then some .nullPointer else none }

/-- The connection is there, and its handler is set up and registered. -/
def established : List (SocketEvent Nat) :=
  [.deliver .actor quiet, .act (.connect ⟨"10.0.0.1:5002", "10.0.0.2:40000"⟩),
    .deliver .actor quiet, .deliver (.handler 0) quiet, .deliver (.handler 0) quiet,
    .deliver (.connection 0) quiet]

/-- `receive` throws, and the next `receive` writes to the handler; so it does when the actor is
    restarted and its handler lives on, though no `receive` has thrown. -/
theorem not_answers_disturbed : ¬ Answers none (some 0) (established ++
      [.act (.incoming 0 1), .act (.incoming 0 2), .deliver (.handler 0) throwing,
        .deliver (.handler 0) writing]) ∧
    ¬ Answers none (some 0) (established ++
      [.act .run, .deliver .actor failing, .act (.recreate 0), .act (.incoming 0 1),
        .deliver (.handler 0) writing]) := by
  constructor
  · intro h
    have hfields := fun call hcall => (h call hcall).1
    revert hfields
    decide
  · intro h
    have hfields := fun call hcall => (h call hcall).1
    revert hfields
    decide

end SocketClient

end EsbCore
