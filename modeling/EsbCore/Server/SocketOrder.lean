/-
  File:      EsbCore/Server/SocketOrder.lean
  Subject:   WHAT THE CLIENTS OF A SOCKET SERVER SEND AND GET, in its order, over every run.

  Every connection has a handler of its own for good, a stopped handler stays stopped, a closed
  connection stays closed, and one that has refused a `Write` takes no more. So nothing is
  overtaken on the way in or on the way out, and what gets lost is an end of it.

  * `Grown` -- what no turn of the actors ever takes back;
  * `Housed`, `Addressed` -- to whom the messages of a server go;
  * `received_arrived` -- what `receive` is called with is the beginning of what came in;
  * `handed_answered` -- what a connection takes for its client is the beginning of what `receive`
    answered that client;
  * `echoed` -- both together, for the listener of `org.example.SocketServerTest`.
-/
import EsbCore.Server.SocketIsolation

namespace EsbCore

open Java Lib

variable {δ : Type}

/-! ## 1. What no turn takes back -/

/-- A connection keeps the handler it has, that it is closed, and that it has refused a `Write`. -/
structure TcpConnection.Kept (x x' : TcpConnection) : Prop where
  handler : ∀ r, x.handler = some r → x'.handler = some r
  closed : x.closed = true → x'.closed = true
  suspended : x.writingSuspended = true → x'.writingSuspended = true

theorem TcpConnection.Kept.refl (x : TcpConnection) : x.Kept x := ⟨fun _ => id, id, id⟩

/-- Handlers stay, none is unborn again, and stopped ones stay stopped; and connections stay with
    what they keep. -/
structure Grown (net net' : SocketNet) : Prop where
  handlers : ∀ (n : Nat) h, net.handlers[n]? = some h → ∃ h', net'.handlers[n]? = some h' ∧
    (h.phase = .stopped → h'.phase = .stopped) ∧ (h'.phase = .unborn → h.phase = .unborn)
  connections : ∀ (c : Nat) x, net.connections[c]? = some x →
    ∃ x', net'.connections[c]? = some x' ∧ x.Kept x'

namespace Grown

variable {net net' : SocketNet}

theorem of_eq (hh : net'.handlers = net.handlers) (hc : net'.connections = net.connections) :
    Grown net net' where
  handlers _ h hn := ⟨h, hh ▸ hn, id, id⟩
  connections _ x hx := ⟨x, hc ▸ hx, .refl x⟩

theorem lt (h : Grown net net') {n : Nat} (hn : n < net.handlers.length) :
    n < net'.handlers.length := by
  obtain ⟨h', hh, -⟩ := h.handlers n _ (List.getElem?_eq_getElem hn)
  exact (List.getElem?_eq_some_iff.mp hh).choose

/-- Another actor, other listeners, other numbers. -/
theorem congr (h : Grown net net') {net'' : SocketNet} (hh : net''.handlers = net'.handlers)
    (hc : net''.connections = net'.connections) : Grown net net'' where
  handlers n x hn := hh ▸ h.handlers n x hn
  connections c x hx := hc ▸ h.connections c x hx

theorem stopHandlers : Grown net net.stopHandlers where
  handlers n h hn := by
    refine ⟨{ h with phase := .stopped }, ?_, fun _ => rfl, nofun⟩
    rw [SocketNet.stopHandlers_handlers, List.getElem?_map, hn]
    rfl
  connections _ x hx := ⟨x, hx, .refl x⟩

theorem stop : Grown net net.stop := stopHandlers.congr rfl rfl

theorem actorOf (l : Nat) : Grown net (net.actorOf l) where
  handlers n h hn := by
    refine ⟨h, ?_, id, id⟩
    rw [SocketNet.actorOf_handlers, List.getElem?_append_left (List.getElem?_eq_some_iff.mp hn).1]
    exact hn
  connections _ x hx := ⟨x, hx, .refl x⟩

/-- A handler's phase is changed, but not to unborn and not from stopped. -/
theorem setPhase {n l : Nat} {old phase : Phase} (hn : net.handlers[n]? = some ⟨l, old⟩)
    (hu : phase ≠ .unborn) (hs : old = .stopped → phase = .stopped) :
    Grown net (net.setPhase n phase) where
  handlers i h hi := by
    by_cases he : n = i
    · subst he
      cases hn.symm.trans hi
      exact ⟨⟨l, phase⟩, by simp [hn], hs, fun h => absurd h hu⟩
    · exact ⟨h, by simp [he, hi], id, id⟩
  connections _ x hx := ⟨x, hx, .refl x⟩

/-- A connection is changed. -/
theorem setConnection {c : Nat} {x x' : TcpConnection} (hc : net.connections[c]? = some x)
    (hk : x.Kept x') : Grown net (net.setConnection c x') where
  handlers _ h hn := ⟨h, hn, id, id⟩
  connections i y hy := by
    unfold SocketNet.setConnection
    rw [List.getElem?_set]
    by_cases he : c = i
    · subst he
      cases hc.symm.trans hy
      rw [if_pos rfl, if_pos (List.getElem?_eq_some_iff.mp hc).1]
      exact ⟨x', rfl, hk⟩
    · rw [if_neg he]
      exact ⟨y, hy, .refl y⟩

/-- A connection comes about. -/
theorem connect {x : TcpConnection} :
    Grown net { net with connections := net.connections ++ [x] } where
  handlers _ h hn := ⟨h, hn, id, id⟩
  connections _ y hy :=
    ⟨y, (List.getElem?_append_left (List.getElem?_eq_some_iff.mp hy).1).trans hy, .refl y⟩

theorem actor {setup : SocketSetup} {sender : SocketRef} {m : SocketMessage δ}
    {t : SocketNet × List (SocketEffect δ)} (h : ActorStep setup net sender m t) :
    Grown net t.1 := by
  cases h with
  | stopped m hm => exact stop
  | server conn l ha hb hl hs => exact (actorOf l).congr rfl rfl
  | client conn l ha hb hl hs => exact (actorOf l).congr rfl rfl
  | restarted m l hm => exact stopHandlers.congr rfl rfl
  | failed m hm => exact stop
  | _ => exact .of_eq rfl rfl

theorem handler {k : UserCode δ} {n : Nat} {sender : SocketRef} {m : SocketMessage δ}
    {t : SocketNet × List (SocketEffect δ)} (h : HandlerStep k net n sender m t) :
    Grown net t.1 := by
  cases h with
  | created l hn => exact (@setPhase net n l .unborn .alive hn nofun nofun).congr rfl rfl
  | closed l hn => exact @setPhase net n l .alive .stopped hn nofun nofun
  | _ => exact .of_eq rfl rfl

theorem connection {k : UserCode δ} {n : Nat} {sender : SocketRef} {m : SocketMessage δ}
    {t : SocketNet × List (SocketEffect δ)} (h : ConnectionStep k net n sender m t) :
    Grown net t.1 := by
  cases h with
  | same m => exact .of_eq rfl rfl
  | registered handler p s hn => exact setConnection hn ⟨nofun, id, id⟩
  | handed ref data handler hn => exact setConnection hn ⟨fun _ => id, id, id⟩
  | refused ref data handler p s hn => exact setConnection hn ⟨fun _ => id, id, fun _ => rfl⟩

theorem recreate {n : Nat} {t : SocketNet × List (SocketEffect δ)} (h : RecreateStep net n t) :
    Grown net t.1 := by
  cases h <;> exact .of_eq rfl rfl

theorem perform (setup : SocketSetup) (a : SocketAct δ) : Grown net (a.perform setup net).1 := by
  unfold SocketAct.perform
  cases a with
  | connect conn =>
    dsimp only
    split
    · exact connect
    · exact .of_eq rfl rfl
  | incoming n data =>
    dsimp only
    split <;> exact .of_eq rfl rfl
  | close n =>
    dsimp only
    split
    · rename_i hn
      exact setConnection hn ⟨fun _ => id, fun _ => rfl, id⟩
    · exact .of_eq rfl rfl
  | writable n =>
    dsimp only
    split
    · rename_i hn
      exact setConnection hn ⟨fun _ => id, id, id⟩
    · exact .of_eq rfl rfl
  | recreate n => exact recreate (SocketTcpHandler.recreate_step (δ := δ) n net)
  | stop => exact stop
  | _ => exact .of_eq rfl rfl

/-- **No delivery takes anything back.** -/
theorem receive (setup : SocketSetup) (k : UserCode δ) (env : SocketEnvelope δ) :
    Grown net ((socketTcp δ setup).receive k env net).1 := by
  unfold socketTcp
  dsimp only
  split
  · exact .of_eq rfl rfl
  · exact actor (SocketTcpActor.handle_step env.message net)
  · exact handler (SocketTcpHandler.handle_step k _ env.sender env.message net)
  · exact connection (TcpConnection.handle_step k _ env.sender env.message net)

/-- **No event of a run takes anything back.** -/
theorem step (setup : SocketSetup) (es : List (SocketEvent δ)) (e : SocketEvent δ) :
    Grown ((socketTcp δ setup).machine.after es).world
      ((socketTcp δ setup).machine.after (es ++ [e])).world := by
  obtain ⟨k, env, xs, ys, -, -, -, hw, -⟩ | ⟨a, -, hw, -⟩ | ⟨hs, -, -⟩ :=
    (socketTcp δ setup).run_cases es e
  · rw [hw]
    exact receive setup k env
  · rw [hw]
    exact perform setup a
  · rw [hs]
    exact .of_eq rfl rfl

end Grown

/-! ## 2. To whom messages go -/

/-- It is a handler there is. -/
def IsHandler (net : SocketNet) (r : SocketRef) : Prop :=
  ∃ n < net.handlers.length, r = .handler n

/-- The connection has this handler. -/
def Registered (net : SocketNet) (c : Nat) (r : SocketRef) : Prop :=
  ∃ x, net.connections[c]? = some x ∧ x.handler = some r

theorem IsHandler.grown {net net' : SocketNet} {r : SocketRef} (h : IsHandler net r)
    (hg : Grown net net') : IsHandler net' r := by
  obtain ⟨n, hn, rfl⟩ := h
  exact ⟨n, hg.lt hn, rfl⟩

/-- A connection has no second handler. -/
theorem Registered.unique {net : SocketNet} {c : Nat} {r r' : SocketRef} (h : Registered net c r)
    (h' : Registered net c r') : r = r' := by
  obtain ⟨x, hx, hr⟩ := h
  obtain ⟨x', hx', hr'⟩ := h'
  cases hx.symm.trans hx'
  exact Option.some.inj (hr.symm.trans hr')

theorem Registered.grown {net net' : SocketNet} {c : Nat} {r : SocketRef} (h : Registered net c r)
    (hg : Grown net net') : Registered net' c r := by
  obtain ⟨x, hx, hr⟩ := h
  obtain ⟨x', hx', hk⟩ := hg.connections c x hx
  exact ⟨x', hx', hk.handler r hr⟩

namespace SocketServer

/-- What connections and listeners have for a handler is one, and what is to be created anew. -/
structure Housed (net : SocketNet) : Prop where
  registered : ∀ c r, Registered net c r → IsHandler net r
  fields : ∀ l r, (net.lisenters l).handleActor = some r → IsHandler net r
  owed : ∀ x ∈ net.owed, IsHandler net (.handler x.1)

/-- Where messages of a server go: to handlers there are, `Received` from a connection to its own,
    and writes, of no handlers but those there are, only to connections that have one. -/
structure Addressed (net : SocketNet) (env : SocketEnvelope δ) : Prop where
  handler : ∀ n, env.receiver = .handler n → n < net.handlers.length
  register : ∀ r, env.message = .register r → IsHandler net r
  connected : ∀ conn, env.message = .connected conn → ∃ c, env.sender = .connection c
  received : ∀ ref data c, env.message = .received ref data → env.sender = .connection c →
    Registered net c env.receiver
  write : ∀ ref data c, env.message = .write ref data → env.receiver = .connection c →
    ∃ r, Registered net c r
  answered : ∀ ref data n, env.message = .write ref data → env.sender = .handler n →
    n < net.handlers.length

theorem Addressed.grown {net net' : SocketNet} {env : SocketEnvelope δ} (h : Addressed net env)
    (hg : Grown net net') : Addressed net' env where
  handler n hn := hg.lt (h.handler n hn)
  register r hr := (h.register r hr).grown hg
  connected := h.connected
  received ref data c hm hs := (h.received ref data c hm hs).grown hg
  write ref data c hm hr := by
    obtain ⟨r, hc⟩ := h.write ref data c hm hr
    exact ⟨r, hc.grown hg⟩
  answered ref data n hm hs := hg.lt (h.answered ref data n hm hs)

/-- What one turn leaves: handlers where there have to be, and messages that go where they may. -/
structure Houses (t : SocketNet × List (SocketEffect δ)) : Prop where
  housed : Housed t.1
  addressed : ∀ env, .tell env ∈ t.2 → Addressed t.1 env

variable {net net' : SocketNet}

/-- New registrations and new fields are those of handlers, and so is what is owed. -/
theorem Housed.change (h : Housed net) (hg : Grown net net')
    (hc : ∀ c r, Registered net' c r → Registered net c r ∨ IsHandler net' r)
    (ho : ∀ x ∈ net'.owed, x ∈ net.owed ∨ IsHandler net' (.handler x.1))
    (hl : ∀ l r, (net'.lisenters l).handleActor = some r →
      (net.lisenters l).handleActor = some r ∨ IsHandler net' r) : Housed net' where
  registered c r hr := (hc c r hr).elim (fun hr => (h.registered c r hr).grown hg) id
  fields l r hr := (hl l r hr).elim (fun hr => (h.fields l r hr).grown hg) id
  owed x hx := (ho x hx).elim (fun hx => (h.owed x hx).grown hg) id

/-- No registration changes, and nothing is owed that was not. -/
theorem Housed.keep (h : Housed net) (hg : Grown net net')
    (hc : net'.connections = net.connections) (ho : net'.owed ⊆ net.owed)
    (hl : ∀ l r, (net'.lisenters l).handleActor = some r →
      (net.lisenters l).handleActor = some r ∨ IsHandler net' r) : Housed net' :=
  h.change hg (fun c r hr => .inl (by
    unfold Registered at hr ⊢
    rwa [hc] at hr)) (fun _ hx => .inl (ho hx)) hl

/-- A turn without messages. -/
theorem Houses.quiet (h : Housed net) : Houses (net, ([] : List (SocketEffect δ))) :=
  ⟨h, fun _ henv => absurd henv List.not_mem_nil⟩

/-- A message to the actor that is nobody's object. -/
theorem addressed_actor {env : SocketEnvelope δ} (hr : env.receiver = .actor)
    (hm : ∀ r, env.message ≠ .register r) (hc : ∀ conn, env.message = .connected conn →
      ∃ c, env.sender = .connection c) (hd : ∀ ref data, env.message ≠ .received ref data)
    (hw : ∀ ref data, env.message ≠ .write ref data) : Addressed net env where
  handler _ hn := nomatch hr.symm.trans hn
  register r h := absurd h (hm r)
  connected := hc
  received ref data _ h := absurd h (hd ref data)
  write _ _ _ _ hn := nomatch hr.symm.trans hn
  answered _ _ _ h := absurd h (hw _ _)

/-- A write of a handler to itself. -/
theorem addressed_write {r : SocketRef} (h : IsHandler net r) (ref : Nat) (data : δ) :
    Addressed net ⟨r, r, .write ref data⟩ := by
  obtain ⟨n, hn, rfl⟩ := h
  have hlt : ∀ i, SocketRef.handler n = .handler i → i < net.handlers.length := by
    intro i hi
    cases hi
    exact hn
  exact ⟨hlt, fun _ => nofun, fun _ => nofun, fun _ _ _ => nofun, fun _ _ _ _ => nofun,
    fun _ _ i _ => hlt i⟩

theorem houses_superNew {setup : SocketSetup} (h : Housed net) :
    Houses (net, (SocketTcpActor.superNew setup : List (SocketEffect δ))) := by
  refine ⟨h, fun env henv => ?_⟩
  cases SocketTcpActor.eq_of_mem_superNew henv
  exact addressed_actor rfl (fun _ => nofun) (fun _ => nofun) (fun _ _ => nofun) fun _ _ => nofun

variable {schedulable : Option Schedulable} {lisenter : Option Nat} {k : UserCode δ}
  {sender : SocketRef} {m : SocketMessage δ} {t : SocketNet × List (SocketEffect δ)}

theorem actor_houses (hs : ServerNet net) (h : Housed net) {env : SocketEnvelope δ}
    (ha : Addressed net env)
    (hstep : ActorStep (setup schedulable lisenter) net env.sender env.message t) : Houses t := by
  have hgrown := Grown.actor hstep
  generalize hm : env.message = m at hstep
  cases hstep with
  | same m _ => exact .quiet h
  | dropped data _ _ =>
    exact ⟨h, fun env' henv => nomatch List.mem_singleton.mp henv⟩
  | passed data c r _ hb => exact nomatch hs.behaviour.symm.trans hb
  | forwarded ref data c r hb => exact nomatch hs.behaviour.symm.trans hb
  | stopped m _ => exact .quiet (h.keep hgrown rfl (List.Subset.refl _) fun _ _ hr => .inl hr)
  | server conn l _ _ _ _ =>
    have hnext : IsHandler ((net.setLisenter l (·.setConnected conn)).actorOf l) net.nextHandler :=
      ⟨net.handlers.length, by simp, rfl⟩
    obtain ⟨c, hc⟩ := ha.connected conn hm
    refine ⟨h.keep hgrown rfl (List.Subset.refl _) fun l' r hr => .inl ?_, fun env' henv => ?_⟩
    · simp only [SocketNet.actorOf_lisenters, SocketNet.setLisenter_lisenters] at hr
      split at hr
      · exact hr
      · exact hr
    · rcases List.mem_cons.mp henv with he | he
      · cases he
        refine ⟨fun n hn => ?_, fun _ => nofun, fun _ => nofun, fun _ _ _ => nofun,
          fun _ _ _ => nofun, fun _ _ _ => nofun⟩
        cases hn
        simp
      · cases List.mem_singleton.mp he
        have hsender : ∀ n, env.sender ≠ .handler n := by
          rw [hc]
          exact fun _ => nofun
        refine ⟨fun n hn => absurd hn (hsender n), fun r hr => ?_, fun _ => nofun,
          fun _ _ _ => nofun, fun _ _ _ => nofun, fun _ _ _ => nofun⟩
        cases hr
        exact hnext
  | client conn l _ _ _ hs' => exact nomatch hs.isServer.symm.trans hs'
  | restarted m l _ =>
    exact houses_superNew (h.keep hgrown rfl (List.Subset.refl _) fun _ _ hr => .inl hr)
  | survived m l _ =>
    refine houses_superNew (h.change hgrown (fun _ _ hr => .inl hr) (fun x hx => ?_)
      fun _ _ hr => .inl hr)
    rcases List.mem_append.mp hx with hx | hx
    · exact .inl hx
    · obtain ⟨hlt, -⟩ := List.getElem?_eq_some_iff.mp (SocketNet.mem_atWork.mp hx)
      exact .inr ⟨x.1, hlt, rfl⟩
  | failed m _ =>
    exact houses_superNew (h.keep hgrown rfl (List.Subset.refl _) fun _ _ hr => .inl hr)

/-- The handler a listener gets in a constructor is that one. -/
theorem Housed.new (h : Housed net) {n : Nat} (hn : n < net.handlers.length) (l : Nat) :
    Housed (SocketTcpHandler.new n l net) := by
  refine h.keep (.of_eq rfl rfl) rfl (List.Subset.refl _) fun l' r hr => ?_
  simp only [SocketTcpHandler.new, SocketNet.setLisenter_lisenters] at hr
  split at hr
  · cases hr
    exact .inr ⟨n, hn, rfl⟩
  · exact .inl hr

/-- What `receive` tells: writes back to the connection that sent the data, or to a handler. -/
theorem receive_houses (h : Housed net) {l ref c : Nat} {data : δ} {r : SocketRef}
    (hc : Registered net c r) : Houses
      ((SocketTcpHandler.receive k l ref data (.connection c) net).self,
        (SocketTcpHandler.receive k l ref data (.connection c) net).sent) := by
  refine ⟨h.keep (.of_eq rfl rfl) rfl (List.Subset.refl _) fun _ _ hr => .inl hr,
    fun env henv => ?_⟩
  rcases List.mem_cons.mp henv with he | he
  · cases he
  · obtain ⟨env', htold, he⟩ := List.mem_map.mp he
    cases he
    obtain ⟨w, hw, hwt⟩ := List.mem_filterMap.mp htold
    rw [((net.lisenters l).calls_spec (.connection c) k.calls net.allocated).1 w hw] at hwt
    cases hcall : w.call with
    | writeTo data =>
      rw [hcall] at hwt
      cases hwt
      refine ⟨fun _ => nofun, fun _ => nofun, fun _ => nofun, fun _ _ _ => nofun,
        fun ref data i _ hr => ?_, fun ref data i _ hs => ?_⟩
      · cases hr
        exact ⟨r, hc⟩
      · cases hh : (net.lisenters l).handleActor with
        | none =>
          have hnone := congrArg (·.getD SocketRef.noSender) hh
          exact nomatch hs.symm.trans hnone
        | some r' =>
          have hsome := congrArg (·.getD SocketRef.noSender) hh
          obtain ⟨j, hj, hr'⟩ := h.fields l r' hh
          cases hs.symm.trans (hsome.trans hr')
          exact hj
    | write data =>
      rw [hcall] at hwt
      cases hh : (net.lisenters l).handleActor with
      | none => simp [SocketTcpLisenter.told, SocketTcpLisenter.write, hh, Except.toOption] at hwt
      | some r' =>
        simp only [SocketTcpLisenter.told, SocketTcpLisenter.write, hh, Except.toOption,
          Option.some.injEq] at hwt
        rw [← hwt]
        refine addressed_write ?_ w.ref data
        exact h.fields l r' hh

theorem handler_houses (h : Housed net) {env : SocketEnvelope δ} {n : Nat}
    (hr : env.receiver = .handler n) (hp : Permitted env) (ha : Addressed net env)
    (hstep : HandlerStep k net n env.sender env.message t) : Houses t := by
  have hn := ha.handler n hr
  have hgrown := Grown.handler hstep
  have hcall : ∀ l ref data, env.message = .received ref data → Houses
      ((SocketTcpHandler.receive k l ref data env.sender net).self,
        (SocketTcpHandler.receive k l ref data env.sender net).sent) := by
    intro l ref data hm
    obtain ⟨c, hc⟩ := hp.received ref data hm
    rw [hc]
    exact receive_houses h (ha.received ref data c hm hc)
  generalize hm : env.message = m at hstep
  cases hstep with
  | same m _ _ => exact .quiet h
  | created l hl =>
    have hset := @Grown.setPhase (SocketTcpHandler.new n l net) n l .unborn .alive hl nofun nofun
    exact .quiet ((h.new hn l).keep hset rfl (List.Subset.refl _) fun _ _ hr => .inl hr)
  | late x _ _ => exact .quiet (h.new hn x.socketLisenter)
  | returned l ref data _ _ => exact hcall l ref data hm
  | thrown l ref data _ _ =>
    have hc := hcall l ref data hm
    exact ⟨hc.housed.new hn l, fun env' henv => (hc.addressed env' henv).grown (.of_eq rfl rfl)⟩
  | closed l _ => exact .quiet (h.keep hgrown rfl (List.Subset.refl _) fun _ _ hr => .inl hr)
  | connected l conn _ => exact absurd hm (hp.connected n conn hr)

/-- A connection is changed, and has a handler there is. -/
theorem Housed.setConnection (h : Housed net) {c : Nat} {x x' : TcpConnection}
    (hc : net.connections[c]? = some x) (hk : x.Kept x')
    (hr : ∀ r, x'.handler = some r → IsHandler net r) : Housed (net.setConnection c x') := by
  refine h.change (Grown.setConnection hc hk) (fun i r hi => ?_) (fun _ hx => .inl hx)
    fun _ _ hr => .inl hr
  obtain ⟨y, hy, hyr⟩ := hi
  unfold SocketNet.setConnection at hy
  rw [List.getElem?_set] at hy
  split at hy
  · split at hy
    · cases hy
      exact .inr (hr r hyr)
    · cases hy
  · exact .inl ⟨y, hy, hyr⟩

/-- It keeps the handler it has. -/
theorem Housed.sameHandler (h : Housed net) {c : Nat} {x x' : TcpConnection}
    (hc : net.connections[c]? = some x) (hk : x.Kept x') (hx : x'.handler = x.handler) :
    Housed (net.setConnection c x') :=
  h.setConnection hc hk fun r hr => h.registered c r ⟨x, hc, hx ▸ hr⟩

theorem connection_houses (h : Housed net) {env : SocketEnvelope δ} {n : Nat}
    (ha : Addressed net env) (hstep : ConnectionStep k net n env.sender env.message t) :
    Houses t := by
  generalize hm : env.message = m at hstep
  cases hstep with
  | same m => exact .quiet h
  | registered handler p s hn =>
    refine .quiet (h.setConnection hn ⟨nofun, id, id⟩ fun x hx => ?_)
    cases hx
    exact ha.register _ hm
  | handed ref data handler hn =>
    exact ⟨h.sameHandler hn ⟨fun _ => id, id, id⟩ rfl,
      fun env' henv => nomatch List.mem_singleton.mp henv⟩
  | refused ref data handler p s hn =>
    refine ⟨h.sameHandler hn ⟨fun _ => id, id, fun _ => rfl⟩ rfl, fun env' henv => ?_⟩
    cases List.mem_singleton.mp henv
    exact ⟨fun i => ha.answered ref data i hm, fun _ => nofun, fun _ => nofun, fun _ _ _ => nofun,
      fun _ _ _ => nofun, fun _ _ _ => nofun⟩

/-- One message, with nothing changed that matters. -/
theorem Houses.message {env : SocketEnvelope δ} (h : Housed net) (ha : Addressed net env) :
    Houses (net, [.tell env]) := by
  refine ⟨h, fun env' henv => ?_⟩
  cases List.mem_singleton.mp henv
  exact ha

theorem incoming_houses (h : Housed net) (n : Nat) (data : δ) :
    Houses (SocketAct.perform (setup schedulable lisenter) (.incoming n data) net) := by
  unfold SocketAct.perform
  dsimp only
  split
  · rename_i handler p s hn
    obtain ⟨i, hi, rfl⟩ := h.registered n handler ⟨_, hn, rfl⟩
    refine .message (h.keep (.of_eq rfl rfl) rfl (List.Subset.refl _) fun _ _ hr => .inl hr) ?_
    refine ⟨fun j hj => ?_, fun _ => nofun, fun _ => nofun, fun ref data c _ hs => ?_,
      fun _ _ _ => nofun, fun _ _ _ => nofun⟩
    · cases hj
      exact hi
    · cases hs
      exact ⟨_, hn, rfl⟩
  · exact .quiet h

theorem close_houses (h : Housed net) (n : Nat) :
    Houses (SocketAct.perform (setup schedulable lisenter) (.close n : SocketAct δ) net) := by
  unfold SocketAct.perform
  dsimp only
  split
  · rename_i handler p s hn
    have hhoused : Housed (net.setConnection n ⟨handler, true, p, s⟩) :=
      h.sameHandler hn ⟨fun _ => id, fun _ => rfl, id⟩ rfl
    cases handler with
    | none => exact .quiet hhoused
    | some r =>
      obtain ⟨i, hi, rfl⟩ := h.registered n r ⟨_, hn, rfl⟩
      refine .message hhoused ?_
      refine ⟨fun j hj => ?_, fun _ => nofun, fun _ => nofun, fun _ _ _ => nofun,
        fun _ _ _ => nofun, fun _ _ _ => nofun⟩
      cases hj
      exact hi
  · exact .quiet h

/-- A handler is created anew as it is owed. -/
theorem recreate_houses (h : Housed net) {n : Nat} (hstep : RecreateStep net n t) : Houses t := by
  cases hstep with
  | same => exact .quiet h
  | recreated l hmem =>
    obtain ⟨i, hi, he⟩ := h.owed (n, l) hmem
    cases he
    exact ⟨(h.new hi l).keep (.of_eq rfl rfl) rfl List.erase_subset fun _ _ hr => .inl hr,
      fun env henv => nomatch List.mem_singleton.mp henv⟩

theorem act_houses (h : Housed net) (a : SocketAct δ) :
    Houses (SocketAct.perform (setup schedulable lisenter) a net) := by
  cases a with
  | connect conn =>
    unfold SocketAct.perform
    dsimp only
    split
    · refine .message (h.change .connect (fun c r hr => .inl ?_) (fun _ hx => .inl hx)
        fun _ _ hr => .inl hr) ?_
      · obtain ⟨x, hx, hr⟩ := hr
        rw [List.getElem?_append] at hx
        split at hx
        · exact ⟨x, hx, hr⟩
        · rw [List.getElem?_singleton] at hx
          split at hx
          · cases hx
            cases hr
          · cases hx
      · exact addressed_actor rfl (fun _ => nofun) (fun _ _ => ⟨_, rfl⟩) (fun _ _ => nofun)
          fun _ _ => nofun
    · exact .quiet h
  | incoming n data => exact incoming_houses h n data
  | close n => exact close_houses h n
  | writable n =>
    unfold SocketAct.perform
    dsimp only
    split
    · rename_i x hn
      exact .quiet (h.sameHandler hn ⟨fun _ => id, id, id⟩ rfl)
    · exact .quiet h
  | recreate n => exact recreate_houses h (SocketTcpHandler.recreate_step n net)
  | stop => exact .quiet (h.keep Grown.stop rfl (List.Subset.refl _) fun _ _ hr => .inl hr)
  | write l data =>
    have hkeep : Housed { net with allocated := net.allocated + 1 } :=
      h.keep (.of_eq rfl rfl) rfl (List.Subset.refl _) fun _ _ hr => .inl hr
    rcases SocketAct.perform_write (setup schedulable lisenter) l data net with
      ⟨-, hp⟩ | ⟨r, hr, hp⟩
    · rw [hp]
      exact ⟨hkeep, fun env henv => nomatch List.mem_singleton.mp henv⟩
    · rw [hp]
      refine ⟨hkeep, fun env henv => ?_⟩
      rcases List.mem_cons.mp henv with he | he
      · cases he
      · cases List.mem_singleton.mp he
        exact addressed_write (hkeep.fields l r hr) _ data
  | _ =>
    exact .message h (addressed_actor rfl (fun _ => nofun) (fun _ => nofun) (fun _ _ => nofun)
      fun _ _ => nofun)

/-- A delivery leaves handlers where there have to be. -/
theorem receive_step_houses (hs : ServerNet net) (h : Housed net) {env : SocketEnvelope δ}
    (hp : Permitted env) (ha : Addressed net env) :
    Houses ((actors δ schedulable lisenter).receive k env net) := by
  show Houses ((socketTcp δ (setup schedulable lisenter)).receive k env net)
  unfold socketTcp
  dsimp only
  split
  · exact .quiet h
  · exact actor_houses hs h ha (SocketTcpActor.handle_step env.message net)
  · exact handler_houses h ‹_› hp ha (SocketTcpHandler.handle_step k _ env.sender env.message net)
  · exact connection_houses h ha (TcpConnection.handle_step k _ env.sender env.message net)

variable (schedulable lisenter)

/-- **Handlers are where they have to be, and messages go where they may**, in every run. -/
theorem housed (es : List (SocketEvent δ)) :
    Housed ((actors δ schedulable lisenter).machine.after es).world ∧
      ∀ env ∈ (actors δ schedulable lisenter).sent es,
        Addressed ((actors δ schedulable lisenter).machine.after es).world env := by
  have hcontract := (actors δ schedulable lisenter).contract_in
    (P := fun net => ServerNet net ∧ Housed net)
    (Q := fun net x => ∀ env, x = .tell env → Permitted env ∧ Addressed net env) ?_ ?_ ?_ ?_ es
  · exact ⟨hcontract.1.2, fun env henv =>
      (hcontract.2 _ (Effect.mem_tells.mp henv) env rfl).2⟩
  · refine ⟨(start_turn (δ := δ) schedulable lisenter).kept, fun c r hr => ?_, nofun, nofun⟩
    obtain ⟨x, hx, -⟩ := hr
    cases hx
  · intro x hx env he
    subst he
    have hturn := start_turn (δ := δ) schedulable lisenter
    cases SocketTcpActor.eq_of_mem_superNew hx
    exact ⟨hturn.permitted _ hx,
      addressed_actor rfl (fun _ => nofun) (fun _ => nofun) (fun _ _ => nofun) fun _ _ => nofun⟩
  · intro k env net hP hQ
    obtain ⟨hp, ha⟩ := hQ env rfl
    have hturn : ServerTurn net ((actors δ schedulable lisenter).receive k env net) :=
      receive_step hP.1 hp
    have hhouses : Houses ((actors δ schedulable lisenter).receive k env net) :=
      receive_step_houses hP.1 hP.2 hp ha
    refine ⟨⟨hturn.kept, hhouses.housed⟩, fun x hx env' he => ?_, fun x hx env' he => ?_⟩
    · exact ⟨(hx env' he).1, (hx env' he).2.grown (Grown.receive _ k env)⟩
    · subst he
      exact ⟨hturn.permitted env' hx, hhouses.addressed env' hx⟩
  · intro a net hP
    have hturn : ServerTurn net ((actors δ schedulable lisenter).act a net) := act_turn hP.1 a
    have hhouses : Houses ((actors δ schedulable lisenter).act a net) := act_houses hP.2 a
    refine ⟨⟨hturn.kept, hhouses.housed⟩, fun x hx env' he => ?_, fun x hx env' he => ?_⟩
    · exact ⟨(hx env' he).1, (hx env' he).2.grown (Grown.perform _ a)⟩
    · subst he
      exact ⟨hturn.permitted env' hx, hhouses.addressed env' hx⟩

/-! ## 3. Creation comes first -/

/-- The creation of a handler waits for it before anything else, as long as it is unborn. -/
def CreateFirst (net : SocketNet) (mail : List (SocketEnvelope δ)) : Prop :=
  ∀ (n : Nat) l, net.handlers[n]? = some ⟨l, .unborn⟩ →
    ∃ sender q, queue (.handler n) mail = ⟨.handler n, sender, .create⟩ :: q

theorem length_recreate {net : SocketNet} {n : Nat}
    {t : SocketNet × List (SocketEffect δ)} (h : RecreateStep net n t) :
    t.1.handlers.length = net.handlers.length := by
  cases h <;> rfl

/-- No turn of the surroundings makes a handler. -/
theorem length_perform (setup : SocketSetup) (a : SocketAct δ) (net : SocketNet) :
    (a.perform setup net).1.handlers.length = net.handlers.length := by
  unfold SocketAct.perform
  cases a with
  | connect conn =>
    dsimp only
    split <;> rfl
  | incoming n data =>
    dsimp only
    split <;> rfl
  | close n =>
    dsimp only
    split <;> rfl
  | writable n =>
    dsimp only
    split <;> rfl
  | recreate n => exact length_recreate (SocketTcpHandler.recreate_step (δ := δ) n net)
  | stop => simp
  | _ => rfl

/-- An unborn handler was unborn before, or is new and just been told its creation. -/
theorem unborn_cases {setup : SocketSetup} (k : UserCode δ) (env : SocketEnvelope δ)
    {n l : Nat} (hn : ((socketTcp δ setup).receive k env net).1.handlers[n]? = some ⟨l, .unborn⟩) :
    (n < net.handlers.length ∧ ¬ (env.receiver = .handler n ∧ env.message = .create)) ∨
    (n = net.handlers.length ∧ ∃ sender q,
      queue (.handler n) (Effect.tells ((socketTcp δ setup).receive k env net).2) =
        ⟨.handler n, sender, .create⟩ :: q) := by
  have hlt := (List.getElem?_eq_some_iff.mp hn).choose
  obtain ⟨receiver, sender, m⟩ := env
  cases receiver with
  | noSender => exact .inl ⟨hlt, fun h => nomatch h.1⟩
  | connection i =>
    have hstep : ConnectionStep k net i sender m
        ((socketTcp δ setup).receive k ⟨.connection i, sender, m⟩ net) :=
      TcpConnection.handle_step k i sender m net
    generalize (socketTcp δ setup).receive k _ net = t at hn hlt hstep
    cases hstep <;> exact .inl ⟨hlt, fun h => nomatch h.1⟩
  | handler i =>
    have hstep : HandlerStep k net i sender m
        ((socketTcp δ setup).receive k ⟨.handler i, sender, m⟩ net) :=
      SocketTcpHandler.handle_step k i sender m net
    generalize (socketTcp δ setup).receive k _ net = t at hn hlt hstep
    cases hstep with
    | same m hm _ =>
      refine .inl ⟨hlt, fun h => ?_⟩
      cases h.1
      exact hm _ hn h.2
    | created l' hl =>
      refine .inl ⟨by simpa [SocketTcpHandler.new] using hlt, fun h => ?_⟩
      cases h.1
      simp [SocketTcpHandler.new, hl] at hn
    | late x hx hp =>
      refine .inl ⟨hlt, fun h => ?_⟩
      cases h.1
      cases hx.symm.trans hn
      exact hp rfl
    | closed l' hl => exact .inl ⟨by simpa using hlt, fun h => nomatch h.2⟩
    | _ => exact .inl ⟨hlt, fun h => nomatch h.2⟩
  | actor =>
    have hstep : ActorStep setup net sender m
        ((socketTcp δ setup).receive k ⟨.actor, sender, m⟩ net) :=
      SocketTcpActor.handle_step m net
    generalize (socketTcp δ setup).receive k _ net = t at hn hlt hstep
    have hno : ¬ (SocketRef.actor = .handler n ∧ m = .create) := fun h => nomatch h.1
    cases hstep with
    | stopped m _ => exact .inl ⟨by simpa using hlt, hno⟩
    | restarted m l _ => exact .inl ⟨by simpa using hlt, hno⟩
    | failed m _ => exact .inl ⟨by simpa using hlt, hno⟩
    | server conn l' _ _ _ _ =>
      rcases Nat.lt_or_eq_of_le (Nat.le_of_lt_succ (by simpa using hlt)) with h | rfl
      · exact .inl ⟨h, hno⟩
      · exact .inr ⟨rfl, _, _, Actors.queue_cons_self _ _⟩
    | client conn l' _ _ _ _ =>
      rcases Nat.lt_or_eq_of_le (Nat.le_of_lt_succ (by simpa using hlt)) with h | rfl
      · exact .inl ⟨h, hno⟩
      · exact .inr ⟨rfl, _, _, Actors.queue_cons_self _ _⟩
    | _ => exact .inl ⟨hlt, hno⟩

/-- **The creation of a handler is the first it is told**, in every run. -/
theorem createFirst (schedulable : Option Schedulable) (lisenter : Option Nat)
    (es : List (SocketEvent δ)) :
    CreateFirst ((actors δ schedulable lisenter).machine.after es).world
      ((actors δ schedulable lisenter).machine.after es).mail := by
  induction es using List.reverseRecOn with
  | nil => exact fun n l hn => nomatch hn
  | append_singleton es e ih =>
    intro n l hn
    obtain ⟨-, hsent⟩ := housed schedulable lisenter es
    have hgrown : Grown _ _ := Grown.step (setup schedulable lisenter) es e
    have hold : n < ((actors δ schedulable lisenter).machine.after es).world.handlers.length →
        ∃ sender q, queue (.handler n) ((actors δ schedulable lisenter).machine.after es).mail =
          ⟨.handler n, sender, .create⟩ :: q := by
      intro hlt
      obtain ⟨⟨l', phase⟩, hy⟩ :
          ∃ y, ((actors δ schedulable lisenter).machine.after es).world.handlers[n]? = some y :=
        ⟨_, List.getElem?_eq_getElem hlt⟩
      obtain ⟨x, hx, -, hu⟩ := hgrown.handlers n _ hy
      cases hn.symm.trans hx
      have hphase : phase = .unborn := hu rfl
      subst hphase
      exact ih n l' hy
    obtain ⟨k, env, xs, ys, -, hmail, hxs, hw, hm, -, -⟩ | ⟨a, -, hw, hm, -, -⟩ | ⟨hs, -, -⟩ :=
      (actors δ schedulable lisenter).run_cases es e
    · rw [hw] at hn
      rw [hm, Actors.queue_append]
      rcases unborn_cases k env hn with ⟨hlt, hno⟩ | ⟨rfl, hq⟩
      · obtain ⟨sender, q, hq⟩ := hold hlt
        rw [hmail] at hq
        by_cases hr : env.receiver = .handler n
        · rw [Actors.queue_taken hr (hr ▸ hxs)] at hq
          exact absurd ⟨hr, by rw [(List.cons.inj hq).1]⟩ hno
        · rw [Actors.queue_of_ne hr] at hq
          exact ⟨sender, _, by rw [hq]; rfl⟩
      · have hnil : queue (.handler ((actors δ schedulable lisenter).machine.after
            es).world.handlers.length) (xs ++ ys) = [] := by
          refine Actors.queue_eq_nil fun x hx hr => ?_
          have hmem : x ∈ (actors δ schedulable lisenter).sent es := by
            refine (actors δ schedulable lisenter).mail_subset ?_
            rw [hmail]
            rcases List.mem_append.mp hx with h | h
            · exact List.mem_append_left _ h
            · exact List.mem_append_right _ (List.mem_cons_of_mem _ h)
          exact lt_irrefl _ ((hsent x hmem).handler _ hr)
        rw [hnil]
        exact hq
    · have hlt := (List.getElem?_eq_some_iff.mp hn).choose
      rw [hw] at hlt
      obtain ⟨sender, q, hq⟩ := hold (by
        rw [← length_perform (setup schedulable lisenter) a]
        exact hlt)
      rw [hm, Actors.queue_append, hq]
      exact ⟨sender, _, rfl⟩
    · rw [hs] at hn ⊢
      exact ih n l hn

/-! ## 4. What comes in -/

/-- The `Received` object a connection sends, and its data. -/
def arrivedOn (c : Nat) (env : SocketEnvelope δ) : Option (Nat × δ) :=
  match env.sender, env.message with
  | .connection i, .received ref data => if i = c then some (ref, data) else none
  | _, _ => none

/-- The object and the data of a call of `receive` for a connection. -/
def receivedOn (c : Nat) (call : ReceiveCall δ) : Option (Nat × δ) :=
  if call.sender = .connection c then some (call.ref, call.data) else none

theorem eq_of_arrivedOn {c : Nat} {env : SocketEnvelope δ} {a : Nat × δ}
    (h : arrivedOn c env = some a) :
    env.sender = .connection c ∧ env.message = .received a.1 a.2 := by
  unfold arrivedOn at h
  split at h
  · split at h
    · cases h
      rename_i hs hm he
      exact ⟨he ▸ hs, hm⟩
    · cases h
  · cases h

theorem arrivedOn_received {c ref : Nat} {data : δ} {sender : SocketRef}
    (hs : ∃ i, sender = .connection i) (r : SocketRef) :
    arrivedOn c ⟨r, sender, .received ref data⟩ =
      if sender = .connection c then some (ref, data) else none := by
  obtain ⟨i, rfl⟩ := hs
  unfold arrivedOn
  simp

/-- The handler the connection has is not stopped. -/
def Serving (c : Nat) (net : SocketNet) : Prop :=
  ∀ (n : Nat) l, Registered net c (.handler n) → net.handlers[n]? ≠ some ⟨l, .stopped⟩

theorem Serving.of_grown {c : Nat} {net net' : SocketNet} (hg : Grown net net')
    (h : Serving c net') : Serving c net := by
  intro n l hr hn
  obtain ⟨⟨l', phase⟩, hx, hs, -⟩ := hg.handlers n _ hn
  have hphase : phase = .stopped := hs rfl
  subst hphase
  exact h n l' (hr.grown hg) hx

theorem receiveCalls_alive {k : UserCode δ} {n l ref : Nat} {data : δ} {sender : SocketRef}
    {net : SocketNet} (hn : net.handlers[n]? = some ⟨l, .alive⟩) :
    receiveCalls (SocketTcpHandler.handle k n sender (.received ref data) net).2 =
      [SocketTcpHandler.call k l ref data sender net] := by
  unfold SocketTcpHandler.handle
  simp only [hn, SocketTcpHandler.onReceive]
  split <;> exact SocketTcpHandler.receiveCalls_receive k l ref data sender net

theorem receiveCalls_stopped {k : UserCode δ} {n l ref : Nat} {data : δ} {sender : SocketRef}
    {net : SocketNet} (hn : net.handlers[n]? = some ⟨l, .stopped⟩) :
    receiveCalls (SocketTcpHandler.handle k n sender (.received ref data) net).2 = [] := by
  unfold SocketTcpHandler.handle
  simp only [hn]
  rfl

section Order

variable (schedulable : Option Schedulable) (lisenter : Option Nat) (c : Nat)

/-- What a connection sent, in order. -/
def arrived (es : List (SocketEvent δ)) : List (Nat × δ) :=
  ((actors δ schedulable lisenter).sent es).filterMap (arrivedOn c)

/-- What `receive` was called with for it, in order. -/
def received (es : List (SocketEvent δ)) : List (Nat × δ) :=
  (receiveCalls ((actors δ schedulable lisenter).effects es)).filterMap (receivedOn c)

/-- A `Received` that is delivered finds its handler at work or stopped. -/
theorem handler_of_taken {es : List (SocketEvent δ)} {env : SocketEnvelope δ} {k : UserCode δ}
    {a : Nat × δ} (hsent : env ∈ (actors δ schedulable lisenter).sent es)
    (htaken : (actors δ schedulable lisenter).taken
      ((actors δ schedulable lisenter).machine.after es) (.deliver env.receiver k) = some env)
    (ha : arrivedOn c env = some a) :
    ∃ n l phase, env = ⟨.handler n, .connection c, .received a.1 a.2⟩ ∧
      Registered ((actors δ schedulable lisenter).machine.after es).world c (.handler n) ∧
      ((actors δ schedulable lisenter).machine.after es).world.handlers[n]? = some ⟨l, phase⟩ ∧
      phase ≠ .unborn := by
  obtain ⟨hs, hm⟩ := eq_of_arrivedOn ha
  obtain ⟨hhoused, haddressed⟩ := housed schedulable lisenter es
  have hreg := (haddressed env hsent).received a.1 a.2 c hm hs
  obtain ⟨n, hn, hr⟩ := hhoused.registered c env.receiver hreg
  obtain ⟨⟨l, phase⟩, hx⟩ :
      ∃ x, ((actors δ schedulable lisenter).machine.after es).world.handlers[n]? = some x :=
    ⟨_, List.getElem?_eq_getElem hn⟩
  refine ⟨n, l, phase, ?_, hr ▸ hreg, hx, ?_⟩
  · rw [← hr, ← hs, ← hm]
  · intro hp
    subst hp
    obtain ⟨sender, q, hq⟩ := createFirst schedulable lisenter es n l hx
    obtain ⟨xs, ys, hmail, -, hxs, -⟩ := Actors.split_of_find (Actors.find_of_taken _ htaken)
    rw [hmail, Actors.queue_taken hr (hr ▸ hxs)] at hq
    have hcreate := hm.symm.trans (congrArg Envelope.message (List.cons.inj hq).1)
    cases hcreate

/-- A delivery calls `receive` with what has come in on the connection, or with nothing of it. -/
theorem filterMap_receivedOn {es : List (SocketEvent δ)} {env : SocketEnvelope δ} {k : UserCode δ}
    (hsent : env ∈ (actors δ schedulable lisenter).sent es)
    (htaken : (actors δ schedulable lisenter).taken
      ((actors δ schedulable lisenter).machine.after es) (.deliver env.receiver k) = some env) :
    (Serving c ((actors δ schedulable lisenter).machine.after es).world →
      (receiveCalls ((actors δ schedulable lisenter).receive k env
        ((actors δ schedulable lisenter).machine.after es).world).2).filterMap (receivedOn c) =
        (arrivedOn c env).toList) ∧
    (¬ Serving c ((actors δ schedulable lisenter).machine.after es).world →
      (receiveCalls ((actors δ schedulable lisenter).receive k env
        ((actors δ schedulable lisenter).machine.after es).world).2).filterMap (receivedOn c) =
        []) := by
  cases ha : arrivedOn c env with
  | none =>
    have hnil : (receiveCalls ((actors δ schedulable lisenter).receive k env
        ((actors δ schedulable lisenter).machine.after es).world).2).filterMap (receivedOn c) =
        [] := by
      rcases receiveCalls_receive (setup schedulable lisenter) k env
          ((actors δ schedulable lisenter).machine.after es).world with
        hc | ⟨n, l, ref, data, hr, -, hm, hc⟩
      · exact (congrArg _ hc).trans List.filterMap_nil
      · obtain ⟨i, hi⟩ := ((serverNet schedulable lisenter es).2 env hsent).received ref data hm
        have hne : i ≠ c := by
          rintro rfl
          have hsome : arrivedOn i ⟨env.receiver, env.sender, .received ref data⟩ = none := hm ▸ ha
          rw [arrivedOn_received ⟨i, hi⟩, if_pos hi] at hsome
          cases hsome
        refine (congrArg _ hc).trans (List.filterMap_cons_none ?_)
        unfold receivedOn
        exact if_neg fun h => hne (SocketRef.connection.inj (hi.symm.trans h))
    exact ⟨fun _ => hnil, fun _ => hnil⟩
  | some a =>
    obtain ⟨n, l, phase, rfl, hreg, hx, hborn⟩ :=
      handler_of_taken schedulable lisenter c hsent htaken ha
    cases phase with
    | unborn => exact absurd rfl hborn
    | alive =>
      constructor
      · intro _
        refine (congrArg _ (receiveCalls_alive hx)).trans (List.filterMap_cons_some ?_)
        exact if_pos rfl
      · intro hoff
        refine absurd (fun i l' hi hl => ?_) hoff
        cases hreg.unique hi
        cases hx.symm.trans hl
    | stopped =>
      constructor
      · intro hon
        exact absurd hx (hon n l hreg)
      · intro _
        exact (congrArg _ (receiveCalls_stopped hx)).trans List.filterMap_nil

theorem filterMap_receiveCalls (xs : List (SocketEffect δ)) :
    (receiveCalls xs).filterMap (receivedOn c) =
      xs.filterMap fun x => (receiveCall x).bind (receivedOn c) := by
  unfold receiveCalls
  rw [List.filterMap_filterMap]

/-- The handler of a connection is the one receiver of what comes in on it. -/
theorem filterMap_arrivedOn {es : List (SocketEvent δ)} {r : SocketRef}
    (hr : Registered ((actors δ schedulable lisenter).machine.after es).world c r) :
    arrived schedulable lisenter c es =
      ((actors δ schedulable lisenter).delivered es).filterMap (arrivedOn c) ++
        (queue r ((actors δ schedulable lisenter).machine.after es).mail).filterMap
          (arrivedOn c) := by
  refine (actors δ schedulable lisenter).filterMap_sent es fun env henv hne => ?_
  cases ha : arrivedOn c env with
  | none => rfl
  | some a =>
    obtain ⟨hs, hm⟩ := eq_of_arrivedOn ha
    have hregistered := ((housed schedulable lisenter es).2 env henv).received _ _ c hm hs
    exact absurd (hr.unique hregistered).symm hne

/-- Nothing comes in on a connection without a handler. -/
theorem arrived_eq_nil {es : List (SocketEvent δ)}
    (h : ∀ r, ¬ Registered ((actors δ schedulable lisenter).machine.after es).world c r) :
    arrived schedulable lisenter c es = [] := by
  refine List.filterMap_eq_nil_iff.mpr fun env henv => ?_
  cases ha : arrivedOn c env with
  | none => rfl
  | some a =>
    obtain ⟨hs, hm⟩ := eq_of_arrivedOn ha
    exact absurd (((housed schedulable lisenter es).2 env henv).received _ _ c hm hs) (h _)

/-- What `receive` is called with for a connection is the beginning of what was delivered of it,
    and all of it as long as its handler is not stopped. -/
theorem received_delivered (es : List (SocketEvent δ)) :
    received schedulable lisenter c es <+:
      ((actors δ schedulable lisenter).delivered es).filterMap (arrivedOn c) ∧
    (Serving c ((actors δ schedulable lisenter).machine.after es).world →
      received schedulable lisenter c es =
        ((actors δ schedulable lisenter).delivered es).filterMap (arrivedOn c)) := by
  unfold received
  rw [filterMap_receiveCalls]
  refine (actors δ schedulable lisenter).effects_isPrefix (P := Serving c) ?_ (fun a net => ?_) es
    (fun p e _ h => h.of_grown (Grown.step _ p e)) fun p k env _ hsent htaken => ?_
  · show List.filterMap _ (SocketTcpActor.superNew (setup schedulable lisenter)) = []
    rw [← filterMap_receiveCalls, receiveCalls_superNew, List.filterMap_nil]
  · show List.filterMap _ (SocketAct.perform (setup schedulable lisenter) a net).2 = []
    rw [← filterMap_receiveCalls, SocketAct.receiveCalls_perform, List.filterMap_nil]
  · rw [← filterMap_receiveCalls]
    obtain ⟨hon, hoff⟩ := filterMap_receivedOn schedulable lisenter c hsent htaken
    by_cases h : Serving c ((actors δ schedulable lisenter).machine.after p).world
    · exact .inl ⟨h, hon h⟩
    · exact .inr ⟨fun h' => h (h'.of_grown (Grown.receive _ k env)), hoff h⟩

/-- What came in on a connection was delivered to its handler or waits for it. -/
theorem arrived_split (es : List (SocketEvent δ)) :
    ∃ rest, arrived schedulable lisenter c es =
        ((actors δ schedulable lisenter).delivered es).filterMap (arrivedOn c) ++ rest ∧
      ((∀ r, Registered ((actors δ schedulable lisenter).machine.after es).world c r →
        queue r ((actors δ schedulable lisenter).machine.after es).mail = []) → rest = []) := by
  by_cases hreg : ∃ r, Registered ((actors δ schedulable lisenter).machine.after es).world c r
  · obtain ⟨r, hr⟩ := hreg
    refine ⟨_, filterMap_arrivedOn schedulable lisenter c hr, fun hqueue => ?_⟩
    rw [hqueue r hr, List.filterMap_nil]
  · have hnil := arrived_eq_nil schedulable lisenter c fun r hr => hreg ⟨r, hr⟩
    refine ⟨[], ?_, fun _ => rfl⟩
    rw [hnil, List.append_nil]
    exact (List.filterMap_eq_nil_iff.mpr fun env henv => List.filterMap_eq_nil_iff.mp hnil env
      ((actors δ schedulable lisenter).delivered_subset henv)).symm

theorem received_isPrefix (es : List (SocketEvent δ)) :
    received schedulable lisenter c es <+: arrived schedulable lisenter c es := by
  obtain ⟨rest, hsplit, -⟩ := arrived_split schedulable lisenter c es
  rw [hsplit]
  exact (received_delivered schedulable lisenter c es).1.trans (List.prefix_append _ _)

theorem received_all {es : List (SocketEvent δ)}
    (hon : Serving c ((actors δ schedulable lisenter).machine.after es).world)
    (hqueue : ∀ r, Registered ((actors δ schedulable lisenter).machine.after es).world c r →
      queue r ((actors δ schedulable lisenter).machine.after es).mail = []) :
    received schedulable lisenter c es = arrived schedulable lisenter c es := by
  obtain ⟨rest, hsplit, hrest⟩ := arrived_split schedulable lisenter c es
  rw [hsplit, hrest hqueue, List.append_nil]
  exact (received_delivered schedulable lisenter c es).2 hon

/-- **What `receive` is called with for a connection is the beginning of what came in on it, in its
    order.** All of it once its handler, which is not stopped, has taken every message. -/
theorem received_arrived (es : List (SocketEvent δ)) :
    received schedulable lisenter c es <+: arrived schedulable lisenter c es ∧
    (Serving c ((actors δ schedulable lisenter).machine.after es).world →
      (∀ r, Registered ((actors δ schedulable lisenter).machine.after es).world c r →
        queue r ((actors δ schedulable lisenter).machine.after es).mail = []) →
      received schedulable lisenter c es = arrived schedulable lisenter c es) :=
  ⟨received_isPrefix schedulable lisenter c es, received_all schedulable lisenter c⟩

/-! ## 5. What goes out -/

/-- The object and the data of a write told to the connection. -/
def writtenTo (env : SocketEnvelope δ) : Option (Nat × δ) :=
  match env.receiver, env.message with
  | .connection i, .write ref data => if i = c then some (ref, data) else none
  | _, _ => none

/-- The object and the data of a write the connection takes. -/
def handedTo : SocketEffect δ → Option (Nat × δ)
  | .did (.handed i ref data) => if i = c then some (ref, data) else none
  | _ => none

/-- What is for the connection among answers. -/
def answerTo (a : Nat × Nat × δ) : Option (Nat × δ) := if a.1 = c then some a.2 else none

/-- What the connection takes for the client at the other end, in order. -/
def handed (es : List (SocketEvent δ)) : List (Nat × δ) :=
  ((actors δ schedulable lisenter).effects es).filterMap (handedTo c)

/-- What the calls of `receive` answer it, in order. -/
def answered (es : List (SocketEvent δ)) : List (Nat × δ) :=
  ((receiveCalls ((actors δ schedulable lisenter).effects es)).flatMap
    ReceiveCall.answers).filterMap (answerTo c)

theorem eq_of_writtenTo {c : Nat} {env : SocketEnvelope δ} {a : Nat × δ}
    (h : writtenTo c env = some a) :
    env.receiver = .connection c ∧ env.message = .write a.1 a.2 := by
  unfold writtenTo at h
  split at h
  · split at h
    · cases h
      rename_i hr hm he
      exact ⟨he ▸ hr, hm⟩
    · cases h
  · cases h

/-- What is told a connection in writes is what it is answered. -/
theorem filterMap_writtenTo (es : List (SocketEvent δ)) :
    ((actors δ schedulable lisenter).sent es).filterMap (writtenTo c) =
      answered schedulable lisenter c es := by
  unfold answered
  rw [← tcpWrites_eq schedulable lisenter es]
  unfold Actors.sent Effect.tells
  rw [List.filterMap_filterMap, List.filterMap_filterMap]
  refine List.filterMap_congr fun x _ => ?_
  cases x with
  | did o => rfl
  | tell env =>
    obtain ⟨receiver, sender, m⟩ := env
    cases receiver with
    | connection i => cases m <;> rfl
    | _ => rfl

theorem filterMap_handedTo {xs : List (SocketEffect δ)}
    (h : ∀ ref data, .did (.handed c ref data) ∉ xs) : xs.filterMap (handedTo c) = [] := by
  refine List.filterMap_eq_nil_iff.mpr fun x hx => ?_
  unfold handedTo
  split
  · rename_i i ref data
    refine if_neg fun he => h ref data ?_
    rwa [he] at hx
  · rfl

/-- The connection takes what it is told in writes: it is not closed and has refused none. -/
def Accepting (net : SocketNet) : Prop :=
  ∀ x, net.connections[c]? = some x → x.closed = false ∧ x.writingSuspended = false

theorem Accepting.of_grown {c : Nat} {net net' : SocketNet} (hg : Grown net net')
    (h : Accepting c net') : Accepting c net := by
  intro x hx
  obtain ⟨x', hx', hk⟩ := hg.connections c x hx
  obtain ⟨hclosed, hsuspended⟩ := h x' hx'
  constructor
  · by_contra hc
    exact nomatch hclosed.symm.trans (hk.closed (by simpa using hc))
  · by_contra hs
    exact nomatch hsuspended.symm.trans (hk.suspended (by simpa using hs))

/-- A connection that has a handler takes a write, or from then on none. -/
theorem handle_write {k : UserCode δ} {sender : SocketRef} {ref : Nat} {data : δ} {net : SocketNet}
    {r : SocketRef} (hr : Registered net c r) :
    (Accepting c net ∧
      (TcpConnection.handle k c sender (.write ref data) net).2.filterMap (handedTo c) =
        [(ref, data)]) ∨
    (¬ Accepting c (TcpConnection.handle k c sender (.write ref data) net).1 ∧
      (TcpConnection.handle k c sender (.write ref data) net).2.filterMap (handedTo c) = []) := by
  obtain ⟨⟨handler, closed, p, s⟩, hx, hh⟩ := hr
  obtain rfl : handler = some r := hh
  have hlt := (List.getElem?_eq_some_iff.mp hx).1
  unfold TcpConnection.handle
  rw [hx]
  cases closed with
  | true => exact .inr ⟨fun h => (nomatch (h _ hx).1), rfl⟩
  | false =>
    by_cases hbusy : p ∨ s
    · right
      simp only [TcpConnection.onReceive, if_pos hbusy]
      refine ⟨fun h => ?_, rfl⟩
      exact nomatch (h _ (List.getElem?_set_self hlt)).2
    · left
      obtain ⟨rfl, rfl⟩ : p = false ∧ s = false := by simpa using hbusy
      refine ⟨fun y hy => ?_, List.filterMap_cons_some (if_pos rfl)⟩
      cases hx.symm.trans hy
      exact ⟨rfl, rfl⟩

/-- A delivery hands the connection the write it is told, or it takes none from then on. -/
theorem filterMap_handedTo_receive {es : List (SocketEvent δ)} {env : SocketEnvelope δ}
    {k : UserCode δ} (hsent : env ∈ (actors δ schedulable lisenter).sent es) :
    (Accepting c ((actors δ schedulable lisenter).machine.after es).world ∧
      ((actors δ schedulable lisenter).receive k env
        ((actors δ schedulable lisenter).machine.after es).world).2.filterMap (handedTo c) =
        (writtenTo c env).toList) ∨
    (¬ Accepting c ((actors δ schedulable lisenter).receive k env
        ((actors δ schedulable lisenter).machine.after es).world).1 ∧
      ((actors δ schedulable lisenter).receive k env
        ((actors δ schedulable lisenter).machine.after es).world).2.filterMap (handedTo c) = []) := by
  cases hw : writtenTo c env with
  | none =>
    have hnil : ((actors δ schedulable lisenter).receive k env
        ((actors δ schedulable lisenter).machine.after es).world).2.filterMap (handedTo c) = [] := by
      refine filterMap_handedTo c fun ref data hx => ?_
      rw [handed_of_receive hx] at hw
      unfold writtenTo at hw
      simp at hw
    by_cases h : Accepting c ((actors δ schedulable lisenter).machine.after es).world
    · exact .inl ⟨h, hnil⟩
    · exact .inr ⟨fun h' => h (h'.of_grown (Grown.receive _ k env)), hnil⟩
  | some a =>
    obtain ⟨hr, hm⟩ := eq_of_writtenTo hw
    obtain ⟨r, hreg⟩ := ((housed schedulable lisenter es).2 env hsent).write a.1 a.2 c hm hr
    have hreceive : (actors δ schedulable lisenter).receive k env
        ((actors δ schedulable lisenter).machine.after es).world =
          TcpConnection.handle k c env.sender (.write a.1 a.2)
            ((actors δ schedulable lisenter).machine.after es).world := by
      show (socketTcp δ (setup schedulable lisenter)).receive k env _ = _
      unfold socketTcp
      simp only [hr, hm]
    rw [hreceive]
    exact handle_write c hreg

/-- What a client was answered was delivered to its connection or waits for it. -/
theorem answered_split (es : List (SocketEvent δ)) :
    answered schedulable lisenter c es =
      ((actors δ schedulable lisenter).delivered es).filterMap (writtenTo c) ++
        (queue (.connection c) ((actors δ schedulable lisenter).machine.after es).mail).filterMap
          (writtenTo c) := by
  have hnone : ∀ env ∈ (actors δ schedulable lisenter).sent es,
      env.receiver ≠ .connection c → writtenTo c env = none := by
    intro env _ hne
    cases hw : writtenTo c env with
    | none => rfl
    | some a => exact absurd (eq_of_writtenTo hw).1 hne
  have hsent := (actors δ schedulable lisenter).filterMap_sent es hnone
  rwa [filterMap_writtenTo] at hsent

/-- What a connection takes is the beginning of what it was told, and all of it as long as it is
    not closed and has refused nothing. -/
theorem handed_delivered (es : List (SocketEvent δ)) :
    handed schedulable lisenter c es <+:
      ((actors δ schedulable lisenter).delivered es).filterMap (writtenTo c) ∧
    (Accepting c ((actors δ schedulable lisenter).machine.after es).world →
      handed schedulable lisenter c es =
        ((actors δ schedulable lisenter).delivered es).filterMap (writtenTo c)) := by
  have hstart : (actors δ schedulable lisenter).start.2.filterMap (handedTo c) = [] :=
    filterMap_handedTo c fun ref data hx => nomatch SocketTcpActor.eq_of_mem_superNew hx
  have hact : ∀ a net, ((actors δ schedulable lisenter).act a net).2.filterMap (handedTo c) = [] :=
    fun a net => filterMap_handedTo c fun ref data =>
      SocketAct.not_handed (setup schedulable lisenter) a net c ref data
  exact (actors δ schedulable lisenter).effects_isPrefix hstart hact es
    (fun p e _ (h : Accepting c _) => h.of_grown (Grown.step _ p e))
    fun p k env _ hsent _ => filterMap_handedTo_receive schedulable lisenter c hsent

theorem handed_isPrefix (es : List (SocketEvent δ)) :
    handed schedulable lisenter c es <+: answered schedulable lisenter c es := by
  rw [answered_split]
  exact (handed_delivered schedulable lisenter c es).1.trans (List.prefix_append _ _)

theorem handed_all {es : List (SocketEvent δ)}
    (hopen : Accepting c ((actors δ schedulable lisenter).machine.after es).world)
    (hqueue : queue (.connection c) ((actors δ schedulable lisenter).machine.after es).mail = []) :
    handed schedulable lisenter c es = answered schedulable lisenter c es := by
  rw [answered_split, hqueue, List.filterMap_nil, List.append_nil]
  exact (handed_delivered schedulable lisenter c es).2 hopen

/-- **What a connection takes for its client is the beginning of what `receive` answered that
    client, in its order.** All of it once the connection, which is not closed and has refused no
    `Write`, has taken every message. -/
theorem handed_answered (es : List (SocketEvent δ)) :
    handed schedulable lisenter c es <+: answered schedulable lisenter c es ∧
    (Accepting c ((actors δ schedulable lisenter).machine.after es).world →
      queue (.connection c) ((actors δ schedulable lisenter).machine.after es).mail = [] →
      handed schedulable lisenter c es = answered schedulable lisenter c es) :=
  ⟨handed_isPrefix schedulable lisenter c es, handed_all schedulable lisenter c⟩

end Order

end SocketServer

/-! ## 6. A server that answers with what it is sent -/

namespace SocketServerTest

open SocketServer

variable (schedulable : Option Schedulable) (lisenter : Option Nat) (c : Nat)

/-- `getSocketLisenter().receive(data, sender)`. -/
def receive (data : δ) : List (WriteCall δ) := [.writeTo data]

/-- Every call of `receive` ran to its end in that listener. -/
def Echoes (es : List (SocketEvent δ)) : Prop :=
  ∀ call ∈ receiveCalls ((actors δ schedulable lisenter).effects es),
    call.written.map Written.call = receive call.data

/-- The answer to a call is its data. -/
theorem answers_echo {call : ReceiveCall δ}
    (h : call.written.map Written.call = receive call.data) :
    (call.answers.filterMap (answerTo c)).map Prod.snd =
      ((receivedOn c call).map Prod.snd).toList := by
  obtain ⟨w, hw, hcall⟩ := List.map_eq_singleton_iff.mp h
  unfold ReceiveCall.answers receivedOn
  rw [hw]
  cases hs : call.sender with
  | connection i =>
    simp only [List.filterMap_cons, List.filterMap_nil, hcall, SocketRef.connection.injEq]
    by_cases hi : i = c
    · simp [answerTo, hi]
    · simp [answerTo, hi]
  | _ => simp

theorem map_answered {es : List (SocketEvent δ)} (h : Echoes schedulable lisenter es) :
    (answered schedulable lisenter c es).map Prod.snd =
      (received schedulable lisenter c es).map Prod.snd := by
  unfold answered received
  unfold Echoes at h
  generalize receiveCalls ((actors δ schedulable lisenter).effects es) = calls at h ⊢
  induction calls with
  | nil => rfl
  | cons call calls ih =>
    rw [List.flatMap_cons, List.filterMap_append, List.map_append, ih fun x hx =>
      h x (List.mem_cons_of_mem _ hx), answers_echo c (h call List.mem_cons_self)]
    cases hr : receivedOn c call with
    | none =>
      rw [List.filterMap_cons_none hr]
      rfl
    | some a =>
      rw [List.filterMap_cons_some hr]
      rfl

/-- **The connection of a client of `SocketServerTest` takes for it the beginning of what it sent,
    in its order**, whatever the other clients do. All of it once every message is taken, as long
    as its handler is not stopped and its connection, not closed, has refused no `Write`. -/
theorem echoed (es : List (SocketEvent δ)) (h : Echoes schedulable lisenter es) :
    (handed schedulable lisenter c es).map Prod.snd <+:
      (arrived schedulable lisenter c es).map Prod.snd ∧
    (Serving c ((actors δ schedulable lisenter).machine.after es).world →
      Accepting c ((actors δ schedulable lisenter).machine.after es).world →
      ((actors δ schedulable lisenter).machine.after es).mail = [] →
      (handed schedulable lisenter c es).map Prod.snd =
        (arrived schedulable lisenter c es).map Prod.snd) := by
  have hanswered := map_answered schedulable lisenter c h
  constructor
  · refine ((handed_isPrefix schedulable lisenter c es).map Prod.snd).trans ?_
    rw [hanswered]
    exact (received_isPrefix schedulable lisenter c es).map Prod.snd
  · intro hserving hopen hmail
    rw [handed_all schedulable lisenter c hopen (by rw [hmail]; rfl), hanswered,
      received_all schedulable lisenter c hserving fun r _ => by rw [hmail]; rfl]

/-- What the listener does with the data. -/
def echo (data : Nat) : UserCode Nat := ⟨fun _ => none, .ok none, receive data, none, true⟩

/-- Two clients; the first sends twice, the second once, and all of it is answered. -/
def threeSent : List (SocketEvent Nat) :=
  oneClient ++ [.act (.connect ⟨"10.0.0.3:40000", "10.0.0.1:5002"⟩), .deliver .actor quiet,
    .deliver (.handler 1) quiet, .deliver (.connection 1) quiet, .act (.incoming 0 7),
    .act (.incoming 1 5), .act (.incoming 0 8), .deliver (.handler 0) (echo 7),
    .deliver (.handler 1) (echo 5), .deliver (.handler 0) (echo 8), .deliver (.connection 0) quiet,
    .deliver (.connection 1) quiet, .deliver (.connection 0) quiet]

theorem echoes_threeSent : Echoes none (some 0) threeSent := by
  unfold Echoes
  decide

/-- Both clients are connected to handlers at work. -/
theorem world_threeSent :
    ((actors Nat none (some 0)).machine.after threeSent).world.connections =
      [⟨some (.handler 0), false, false, false⟩, ⟨some (.handler 1), false, false, false⟩] ∧
    ((actors Nat none (some 0)).machine.after threeSent).world.handlers =
      [⟨0, .alive⟩, ⟨0, .alive⟩] := by
  decide

/-- The first client gets what it sent. -/
theorem echoed_threeSent :
    (handed none (some 0) 0 threeSent).map Prod.snd = [7, 8] ∧
      (handed none (some 0) 0 threeSent).map Prod.snd =
        (arrived none (some 0) 0 threeSent).map Prod.snd := by
  obtain ⟨hconnections, hhandlers⟩ := world_threeSent
  refine ⟨by decide, (echoed none (some 0) 0 threeSent echoes_threeSent).2 ?_ ?_ (by decide)⟩
  · intro n l hr hn
    obtain ⟨x, hx, hr⟩ := hr
    rw [hconnections] at hx
    cases hx
    cases hr
    rw [hhandlers] at hn
    cases hn
  · intro x hx
    rw [hconnections] at hx
    cases hx
    exact ⟨rfl, rfl⟩

end SocketServerTest

end EsbCore
