/-
  File:      EsbCore/Server/SocketIsolation.lean
  Subject:   THE CLIENTS OF A SOCKET SERVER, over every run of its actors.

  All connections share one listener, and the listener's handler field is whichever handler ran its
  constructor last. What `receive` is given does not depend on it, and what `write(data, sender)`
  does with it is only who the connection sees as sender.

  * `ServerNet`, `ServerTurn` -- what holds of a server at every moment and of every turn;
  * `Isolated`, `isolated` -- each `Received` is passed on at most once and with its connection as
    sender, and what goes to connections are the answers of `receive`, each to its own;
  * `not_taken` -- what `write(data)` tells goes to a handler, and no connection ever takes it.
-/
import EsbCore.Server.SocketTcp

namespace EsbCore

open Java Lib

variable {δ : Type}

/-! ## 1. What is seen of a run -/

/-- The `Tcp.Write` told to a connection: to which, the number of the object, and the data. -/
def tcpWrite : SocketEffect δ → Option (Nat × Nat × δ)
  | .tell ⟨.connection n, _, .write ref data⟩ => some (n, ref, data)
  | _ => none

/-- The number of the `Received` object in a message. -/
def receivedRef (env : SocketEnvelope δ) : Option Nat :=
  match env.message with
  | .received ref _ => some ref
  | _ => none

/-- The numbers of the `Received` objects told. -/
def receivedRefs (xs : List (SocketEffect δ)) : List Nat := (Effect.tells xs).filterMap receivedRef

theorem receivedRefs_append (xs ys : List (SocketEffect δ)) :
    receivedRefs (xs ++ ys) = receivedRefs xs ++ receivedRefs ys := by
  unfold receivedRefs
  rw [Effect.tells_append, List.filterMap_append]

namespace ReceiveCall

/-- The calls of `write(data, sender)` in a call of `receive`: the connection, the object, the
    data. -/
def answers (call : ReceiveCall δ) : List (Nat × Nat × δ) :=
  call.written.filterMap fun w =>
    match w.call, call.sender with
    | .writeTo data, .connection n => some (n, w.ref, data)
    | _, _ => none

/-- The objects of the calls of `write(data)` in it. -/
def oneWay (call : ReceiveCall δ) : List Nat :=
  call.written.filterMap fun w =>
    match w.call with
    | .write _ => some w.ref
    | .writeTo _ => none

/-- An answer is a call of `write(data, sender)`. -/
theorem exists_of_mem_answers {call : ReceiveCall δ} {a : Nat × Nat × δ} (h : a ∈ call.answers) :
    ∃ w ∈ call.written, w.ref = a.2.1 ∧ ∃ data, w.call = .writeTo data := by
  obtain ⟨w, hw, ha⟩ := List.mem_filterMap.mp h
  split at ha
  · rename_i data n hcall hsender
    cases ha
    exact ⟨w, hw, rfl, data, hcall⟩
  · cases ha

/-- What goes one way is an object of `write(data)`. -/
theorem exists_of_mem_oneWay {call : ReceiveCall δ} {ref : Nat} (h : ref ∈ call.oneWay) :
    ∃ w ∈ call.written, w.ref = ref ∧ ∃ data, w.call = .write data := by
  obtain ⟨w, hw, hr⟩ := List.mem_filterMap.mp h
  split at hr
  · rename_i data hcall
    cases hr
    exact ⟨w, hw, rfl, data, hcall⟩
  · cases hr

/-- No object is of both, where no two calls have one number. -/
theorem answers_apart {call : ReceiveCall δ} (hnodup : (call.written.map Written.ref).Nodup)
    {a : Nat × Nat × δ} (ha : a ∈ call.answers) : a.2.1 ∉ call.oneWay := by
  intro hr
  obtain ⟨x, hx, hxr, data, hxc⟩ := exists_of_mem_answers ha
  obtain ⟨y, hy, hyr, data', hyc⟩ := exists_of_mem_oneWay hr
  have hxy : x = y := List.inj_on_of_nodup_map hnodup hx hy (hxr.trans hyr.symm)
  rw [hxy, hyc] at hxc
  cases hxc

end ReceiveCall

/-- The objects of the calls of `write(data)`, inside `receive` and outside. -/
def oneWay : SocketEffect δ → List Nat
  | .did (.receive call) => call.oneWay
  | .did (.wrote w) => [w.ref]
  | _ => []

namespace SocketServer

/-- How a server is set up. -/
def setup (schedulable : Option Schedulable) (lisenter : Option Nat) : SocketSetup :=
  ⟨.socketServer, schedulable, lisenter⟩

/-! ## 2. One turn -/

/-- What holds of a server at every moment: it is one, it keeps to its `onReceive`, and what a
    listener has for a handler is one. -/
structure ServerNet (net : SocketNet) : Prop where
  isServer : net.actor.isServer = true
  behaviour : net.actor.behaviour = .onReceive
  fields : ∀ l r, (net.lisenters l).handleActor = some r → ∃ n, r = .handler n

/-- What its actors are told: handlers no `Connected`, and `Received` by connections only. -/
structure Permitted (env : SocketEnvelope δ) : Prop where
  connected : ∀ n conn, env.receiver = .handler n → env.message ≠ .connected conn
  received : ∀ ref data, env.message = .received ref data → ∃ c, env.sender = .connection c

/-- What one turn does. Its new objects are numbered from where the last turn left off. -/
structure ServerTurn (net : SocketNet) (t : SocketNet × List (SocketEffect δ)) : Prop where
  kept : ServerNet t.1
  permitted : ∀ env, .tell env ∈ t.2 → Permitted env
  answered : t.2.filterMap tcpWrite = (receiveCalls t.2).flatMap ReceiveCall.answers
  le : net.allocated ≤ t.1.allocated
  received : ∀ ref ∈ receivedRefs t.2, net.allocated ≤ ref ∧ ref < t.1.allocated
  receivedOnce : (receivedRefs t.2).Nodup
  writes : ∀ w ∈ t.2.filterMap tcpWrite, net.allocated ≤ w.2.1 ∧ w.2.1 < t.1.allocated
  oneWays : ∀ ref ∈ t.2.flatMap oneWay, net.allocated ≤ ref ∧ ref < t.1.allocated
  apart : ∀ w ∈ t.2.filterMap tcpWrite, w.2.1 ∉ t.2.flatMap oneWay

/-- Effects without objects. -/
def Plain (x : SocketEffect δ) : Prop :=
  tcpWrite x = none ∧ receiveCall x = none ∧ oneWay x = [] ∧
    ∀ env, x = .tell env → receivedRef env = none

/-- A turn without objects. -/
theorem ServerTurn.plain {net net' : SocketNet} {xs : List (SocketEffect δ)} (h : ServerNet net')
    (ha : net'.allocated = net.allocated) (hx : ∀ x ∈ xs, Plain x)
    (hp : ∀ env, .tell env ∈ xs → Permitted env) : ServerTurn net (net', xs) := by
  have htcp : xs.filterMap tcpWrite = [] := List.filterMap_eq_nil_iff.mpr fun x h => (hx x h).1
  have hcall : receiveCalls xs = [] := List.filterMap_eq_nil_iff.mpr fun x h => (hx x h).2.1
  have hone : xs.flatMap oneWay = [] := List.flatMap_eq_nil_iff.mpr fun x h => (hx x h).2.2.1
  have hrec : receivedRefs xs = [] :=
    List.filterMap_eq_nil_iff.mpr fun env h => (hx _ (Effect.mem_tells.mp h)).2.2.2 env rfl
  exact
    { kept := h
      permitted := hp
      answered := by simp [htcp, hcall]
      le := ha.ge
      received := by simp [hrec]
      receivedOnce := by simp [hrec]
      writes := by simp [htcp]
      oneWays := by simp [hone]
      apart := by simp [htcp] }

/-- A turn without effects. -/
theorem ServerTurn.quiet {net net' : SocketNet} (h : ServerNet net')
    (ha : net'.allocated = net.allocated) :
    ServerTurn net (net', ([] : List (SocketEffect δ))) :=
  .plain h ha (fun _ hx => absurd hx List.not_mem_nil) fun _ hx => absurd hx List.not_mem_nil

/-- A turn that tells one message more, which is no object's. -/
theorem ServerTurn.tell {net : SocketNet} {t : SocketNet × List (SocketEffect δ)}
    (h : ServerTurn net t) {env : SocketEnvelope δ} (hx : Plain (.tell env))
    (hp : Permitted env) : ServerTurn net (t.1, t.2 ++ [.tell env]) := by
  have htcp : (t.2 ++ [Effect.tell env]).filterMap tcpWrite = t.2.filterMap tcpWrite := by
    rw [List.filterMap_append, List.filterMap_cons_none hx.1, List.filterMap_nil, List.append_nil]
  have hone : (t.2 ++ [Effect.tell env]).flatMap oneWay = t.2.flatMap oneWay := by
    rw [List.flatMap_append, List.flatMap_singleton, hx.2.2.1, List.append_nil]
  have hcall : receiveCalls (t.2 ++ [.tell env]) = receiveCalls t.2 := by
    rw [receiveCalls_append]
    exact List.append_nil _
  have hrec : receivedRefs (t.2 ++ [.tell env]) = receivedRefs t.2 := by
    have hnone : receivedRefs [(.tell env : SocketEffect δ)] = [] :=
      List.filterMap_cons_none (hx.2.2.2 env rfl)
    rw [receivedRefs_append, hnone, List.append_nil]
  exact
    { kept := h.kept
      permitted := fun env' henv => by
        rcases List.mem_append.mp henv with henv | henv
        · exact h.permitted env' henv
        · cases List.mem_singleton.mp henv
          exact hp
      answered := by rw [htcp, hcall, h.answered]
      le := h.le
      received := hrec.symm ▸ h.received
      receivedOnce := hrec.symm ▸ h.receivedOnce
      writes := htcp.symm ▸ h.writes
      oneWays := hone.symm ▸ h.oneWays
      apart := by
        rw [htcp, hone]
        exact h.apart }

/-- A turn that ends in another world with as many objects. -/
theorem ServerTurn.congr {net net' : SocketNet} {t : SocketNet × List (SocketEffect δ)}
    (h : ServerTurn net t) (hn : ServerNet net') (ha : net'.allocated = t.1.allocated) :
    ServerTurn net (net', t.2) :=
  { h with
    kept := hn
    le := h.le.trans ha.ge
    received := fun ref hr => ⟨(h.received ref hr).1, (h.received ref hr).2.trans_le ha.ge⟩
    writes := fun w hw => ⟨(h.writes w hw).1, (h.writes w hw).2.trans_le ha.ge⟩
    oneWays := fun ref hr => ⟨(h.oneWays ref hr).1, (h.oneWays ref hr).2.trans_le ha.ge⟩ }

/-- What a call of `write` in `receive` tells a connection is its answer. -/
theorem tcpWrite_told {self : SocketTcpLisenter}
    (hf : ∀ r, self.handleActor = some r → ∃ n, r = .handler n) (sender : SocketRef) (ref : Nat)
    (c : WriteCall δ) :
    ((self.told sender ref c).bind fun env => tcpWrite (.tell env)) =
      match c, sender with
      | .writeTo data, .connection n => some (n, ref, data)
      | _, _ => none := by
  cases c with
  | writeTo data => cases sender <;> rfl
  | write data =>
    cases hh : self.handleActor with
    | none => simp [SocketTcpLisenter.told, SocketTcpLisenter.write, hh, Except.toOption]
    | some r =>
      obtain ⟨n, rfl⟩ := hf r hh
      simp [SocketTcpLisenter.told, SocketTcpLisenter.write, hh, Except.toOption, tcpWrite]

section Receive

open SocketTcpHandler

variable (k : UserCode δ) (l ref : Nat) (data : δ) (sender : SocketRef) (net : SocketNet)

/-- The calls of one `receive` are numbered from where the last turn left off, no two alike. -/
theorem refs_written :
    (∀ w ∈ written k l sender net, net.allocated ≤ w.ref ∧
      w.ref < net.allocated + (written k l sender net).length) ∧
      ((written k l sender net).map Written.ref).Nodup := by
  have hrefs := ((net.lisenters l).calls_spec sender k.calls net.allocated).2
  constructor
  · intro w hw
    have hm : w.ref ∈ (written k l sender net).map Written.ref := List.mem_map_of_mem hw
    unfold written at hm ⊢
    rw [hrefs, List.mem_range'_1] at hm
    exact hm
  · unfold written
    rw [hrefs]
    exact List.nodup_range'

theorem oneWay_receive : (receive k l ref data sender net).sent.flatMap oneWay =
    (call k l ref data sender net).oneWay := by
  show (call k l ref data sender net).oneWay ++ (List.map _ _).flatMap oneWay = _
  rw [List.flatMap_map]
  exact (congrArg (_ ++ ·) (List.flatMap_eq_nil_iff.mpr fun _ _ => rfl)).trans (List.append_nil _)

/-- **What `receive` writes to connections are its answers.** -/
theorem tcpWrite_receive
    (hf : ∀ r, (net.lisenters l).handleActor = some r → ∃ n, r = .handler n) :
    (receive k l ref data sender net).sent.filterMap tcpWrite =
      (call k l ref data sender net).answers := by
  show (List.map Effect.tell ((written k l sender net).filterMap Written.told)).filterMap tcpWrite =
    (written k l sender net).filterMap _
  rw [List.filterMap_map, List.filterMap_filterMap]
  refine List.filterMap_congr fun w hw => ?_
  rw [((net.lisenters l).calls_spec sender k.calls net.allocated).1 w hw]
  exact tcpWrite_told hf sender w.ref w.call

/-- A call of `receive` is a turn of a server. -/
theorem receive_turn {net : SocketNet} (h : ServerNet net) :
    ServerTurn net ((receive k l ref data sender net).self,
      (receive k l ref data sender net).sent) := by
  obtain ⟨hbounds, hnodup⟩ := refs_written k l sender net
  have htcp := tcpWrite_receive k l ref data sender net (h.fields l)
  have hone := oneWay_receive k l ref data sender net
  have hrec : receivedRefs (receive k l ref data sender net).sent = [] := by
    refine List.filterMap_eq_nil_iff.mpr fun env henv => ?_
    obtain ⟨ref', data', hm⟩ :=
      SocketTcpHandler.tells_receive k l ref data sender net (Effect.mem_tells.mp henv)
    simp only [receivedRef, hm]
  exact
    { kept := ⟨h.isServer, h.behaviour, h.fields⟩
      permitted := fun env henv => by
        obtain ⟨ref', data', hm⟩ := SocketTcpHandler.tells_receive k l ref data sender net henv
        exact ⟨fun _ _ _ hc => (nomatch hm.symm.trans hc), fun _ _ hr => (nomatch hm.symm.trans hr)⟩
      answered := by
        show (receive k l ref data sender net).sent.filterMap tcpWrite = _
        rw [htcp, SocketTcpHandler.receiveCalls_receive, List.flatMap_singleton]
      le := Nat.le_add_right _ _
      received := by simp [hrec]
      receivedOnce := by simp [hrec]
      writes := fun w hw => by
        rw [htcp] at hw
        obtain ⟨x, hx, hxr, -⟩ := ReceiveCall.exists_of_mem_answers hw
        exact hxr ▸ hbounds x hx
      oneWays := fun r hr => by
        rw [hone] at hr
        obtain ⟨x, hx, hxr, -⟩ := ReceiveCall.exists_of_mem_oneWay hr
        exact hxr ▸ hbounds x hx
      apart := fun w hw => by
        rw [htcp] at hw
        rw [hone]
        exact ReceiveCall.answers_apart hnodup hw }

end Receive

/-- A listener is changed, and its handler stays or is one. -/
theorem ServerNet.setLisenter {net : SocketNet} (h : ServerNet net) (l : Nat)
    {f : SocketTcpLisenter → SocketTcpLisenter}
    (hf : ∀ x, (f x).handleActor = x.handleActor ∨ ∃ n, (f x).handleActor = some (.handler n)) :
    ServerNet (net.setLisenter l f) where
  isServer := h.isServer
  behaviour := h.behaviour
  fields i r hr := by
    rw [SocketNet.setLisenter_lisenters] at hr
    split at hr
    · rcases hf (net.lisenters i) with he | ⟨n, he⟩
      · exact h.fields i r (he.symm.trans hr)
      · exact ⟨n, Option.some.inj (hr.symm.trans he)⟩
    · exact h.fields i r hr

theorem plain_tell {env : SocketEnvelope δ} (hw : ∀ ref data, env.message ≠ .write ref data)
    (hr : ∀ ref data, env.message ≠ .received ref data) : Plain (.tell env) := by
  obtain ⟨receiver, sender, m⟩ := env
  refine ⟨?_, rfl, rfl, fun env he => ?_⟩
  · cases m <;> first | exact absurd rfl (hw _ _) | cases receiver <;> rfl
  · cases he
    cases m <;> first | exact absurd rfl (hr _ _) | rfl

variable {schedulable : Option Schedulable} {lisenter : Option Nat} {k : UserCode δ}
  {sender : SocketRef} {m : SocketMessage δ} {net : SocketNet}
  {t : SocketNet × List (SocketEffect δ)}

/-- A message for the actor is a turn of a server. -/
theorem actor_turn (h : ServerNet net)
    (hstep : ActorStep (setup schedulable lisenter) net sender m t) : ServerTurn net t := by
  have hnew : ∀ x ∈ (SocketTcpActor.superNew (setup schedulable lisenter) : List (SocketEffect δ)),
      Plain x := by
    intro x hx
    rw [SocketTcpActor.eq_of_mem_superNew hx]
    exact plain_tell (fun _ _ => nofun) fun _ _ => nofun
  have hrun : ∀ env, .tell env ∈
      (SocketTcpActor.superNew (setup schedulable lisenter) : List (SocketEffect δ)) →
        Permitted env := by
    intro env henv
    cases SocketTcpActor.eq_of_mem_superNew henv
    exact ⟨fun _ _ => nofun, fun _ _ => nofun⟩
  cases hstep with
  | same m hm => exact .quiet h rfl
  | dropped data ha hb =>
    refine .plain h rfl (fun x hx => ?_) fun env henv => ?_
    · rw [List.mem_singleton.mp hx]
      exact ⟨rfl, rfl, rfl, fun _ => nofun⟩
    · cases List.mem_singleton.mp henv
  | passed data c h' ha hb => exact nomatch h.behaviour.symm.trans hb
  | forwarded ref data c h' hb => exact nomatch h.behaviour.symm.trans hb
  | stopped m hm => exact .quiet ⟨h.isServer, h.behaviour, h.fields⟩ rfl
  | server conn l ha hb hl hs =>
    have hset := h.setLisenter l (f := (·.setConnected conn)) fun _ => .inl rfl
    refine .plain ⟨hset.isServer, hset.behaviour, hset.fields⟩ rfl (fun x hx => ?_)
      fun env henv => ?_
    · rcases List.mem_cons.mp hx with rfl | hx
      · exact plain_tell (fun _ _ => nofun) fun _ _ => nofun
      · rw [List.mem_singleton.mp hx]
        exact plain_tell (fun _ _ => nofun) fun _ _ => nofun
    · rcases List.mem_cons.mp henv with he | he
      · cases he
        exact ⟨fun _ _ _ => nofun, fun _ _ => nofun⟩
      · cases List.mem_singleton.mp he
        exact ⟨fun _ _ _ => nofun, fun _ _ => nofun⟩
  | client conn l ha hb hl hs => exact nomatch h.isServer.symm.trans hs
  | restarted m l hm => exact .plain ⟨rfl, rfl, h.fields⟩ rfl hnew hrun
  | survived m l hm => exact .plain ⟨rfl, rfl, h.fields⟩ rfl hnew hrun
  | failed m hm => exact .plain ⟨h.isServer, h.behaviour, h.fields⟩ rfl hnew hrun

/-- A message for a handler is a turn of a server. -/
theorem handler_turn (h : ServerNet net) {n : Nat} (hm : ∀ conn, m ≠ .connected conn)
    (hstep : HandlerStep k net n sender m t) : ServerTurn net t := by
  have hnew : ∀ {net' : SocketNet} (l : Nat), ServerNet net' →
      ServerNet (SocketTcpHandler.new n l net') := by
    intro net' l h
    exact h.setLisenter l fun _ => .inr ⟨n, rfl⟩
  cases hstep with
  | same m hc ha => exact .quiet h rfl
  | created l hn =>
    have hset := hnew l h
    exact .quiet ⟨hset.isServer, hset.behaviour, hset.fields⟩ rfl
  | late h' hn hp => exact .quiet (hnew _ h) rfl
  | returned l ref data hn ht => exact receive_turn k l ref data sender h
  | thrown l ref data hn ht =>
    have hturn := receive_turn k l ref data sender h
    exact hturn.congr (hnew l hturn.kept) rfl
  | closed l hn => exact .quiet ⟨h.isServer, h.behaviour, h.fields⟩ rfl
  | connected l conn hn => exact absurd rfl (hm conn)

/-- One message that is no object's. -/
theorem ServerTurn.message {net net' : SocketNet} (h : ServerNet net')
    (ha : net'.allocated = net.allocated) {env : SocketEnvelope δ}
    (hw : ∀ ref data, env.message ≠ .write ref data)
    (hr : ∀ ref data, env.message ≠ .received ref data) (hp : Permitted env) :
    ServerTurn net (net', [.tell env]) := by
  refine .plain h ha (fun x hx => ?_) fun env' henv => ?_
  · rw [List.mem_singleton.mp hx]
    exact plain_tell hw hr
  · cases List.mem_singleton.mp henv
    exact hp

/-- A turn with one effect, which is neither an object's nor a message. -/
theorem ServerTurn.did {net net' : SocketNet} (h : ServerNet net')
    (ha : net'.allocated = net.allocated) {o : SocketOutput δ} (ho : Plain (.did o)) :
    ServerTurn net (net', [.did o]) := by
  refine .plain h ha (fun x hx => ?_) fun env henv => ?_
  · rw [List.mem_singleton.mp hx]
    exact ho
  · cases List.mem_singleton.mp henv

theorem ServerNet.setConnection (h : ServerNet net) (n : Nat) (x : TcpConnection) :
    ServerNet (net.setConnection n x) := ⟨h.isServer, h.behaviour, h.fields⟩

/-- A message for a connection is a turn of a server. -/
theorem connection_turn (h : ServerNet net) {n : Nat}
    (hstep : ConnectionStep k net n sender m t) : ServerTurn net t := by
  cases hstep with
  | same m => exact .quiet h rfl
  | registered handler p s hn => exact .quiet (h.setConnection n _) rfl
  | handed ref data handler hn =>
    refine .did ?_ ?_ ?_
    · exact h.setConnection n _
    · rfl
    · exact ⟨rfl, rfl, rfl, fun _ => nofun⟩
  | refused ref data handler p s hn =>
    refine .message ?_ ?_ ?_ ?_ ?_
    · exact h.setConnection n _
    · rfl
    · exact fun _ _ => nofun
    · exact fun _ _ => nofun
    · exact ⟨fun _ _ _ => nofun, fun _ _ => nofun⟩

/-- A handler that is created anew is a turn of a server. -/
theorem recreate_turn (h : ServerNet net) {n : Nat} (hstep : RecreateStep net n t) :
    ServerTurn net t := by
  cases hstep with
  | same => exact .quiet h rfl
  | recreated l hmem =>
    have hset := h.setLisenter l (f := (·.setHandler (.handler n))) fun _ => .inr ⟨n, rfl⟩
    refine .did ?_ ?_ ?_
    · exact ⟨hset.isServer, hset.behaviour, hset.fields⟩
    · rfl
    · exact ⟨rfl, rfl, rfl, fun _ => nofun⟩

/-- A call of `write(data)` from outside, before it tells anybody. -/
theorem wrote_turn (h : ServerNet net) {w : Written δ} (hw : w.ref = net.allocated) :
    ServerTurn net ({ net with allocated := net.allocated + 1 }, [.did (.wrote w)]) where
  kept := ⟨h.isServer, h.behaviour, h.fields⟩
  permitted env henv := by cases List.mem_singleton.mp henv
  answered := rfl
  le := Nat.le_succ _
  received _ hr := absurd hr List.not_mem_nil
  receivedOnce := List.nodup_nil
  writes _ hw := absurd hw List.not_mem_nil
  oneWays ref hr := by
    rw [List.mem_singleton.mp hr, hw]
    exact ⟨le_refl _, Nat.lt_succ_self _⟩
  apart _ hw := absurd hw List.not_mem_nil

/-- A call of `write(data)` from outside is a turn of a server. -/
theorem write_turn (h : ServerNet net) (l : Nat) (data : δ) :
    ServerTurn net (SocketAct.perform (setup schedulable lisenter) (.write l data) net) := by
  rcases SocketAct.perform_write (setup schedulable lisenter) l data net with
    ⟨-, hp⟩ | ⟨r, hr, hp⟩
  · rw [hp]
    exact wrote_turn h rfl
  · obtain ⟨n, rfl⟩ := h.fields l r hr
    rw [hp]
    have hplain : Plain (.tell ⟨.handler n, .handler n, .write net.allocated data⟩) := by
      refine ⟨rfl, rfl, rfl, fun env he => ?_⟩
      cases he
      rfl
    exact (wrote_turn h rfl).tell hplain ⟨fun _ _ _ => nofun, fun _ _ => nofun⟩

/-- Data that comes in is a turn of a server. -/
theorem incoming_turn (h : ServerNet net) (n : Nat) (data : δ) :
    ServerTurn net (SocketAct.perform (setup schedulable lisenter) (.incoming n data) net) := by
  unfold SocketAct.perform
  dsimp only
  split
  · exact
      { kept := ⟨h.isServer, h.behaviour, h.fields⟩
        permitted := fun env henv => by
          cases List.mem_singleton.mp henv
          exact ⟨fun _ _ _ => nofun, fun _ _ _ => ⟨n, rfl⟩⟩
        answered := by
          rename_i handler _ _ _
          cases handler <;> rfl
        le := Nat.le_succ _
        received := fun ref hr => by
          rw [List.mem_singleton.mp hr]
          exact ⟨le_refl _, Nat.lt_succ_self _⟩
        receivedOnce := List.nodup_singleton _
        writes := fun w hw => by
          rename_i handler _ _ _
          cases handler <;> exact absurd hw List.not_mem_nil
        oneWays := fun _ hr => absurd hr List.not_mem_nil
        apart := fun _ _ => List.not_mem_nil }
  · exact .quiet h rfl

/-- What the surroundings do is a turn of a server. -/
theorem act_turn (h : ServerNet net) (a : SocketAct δ) :
    ServerTurn net (SocketAct.perform (setup schedulable lisenter) a net) := by
  cases a with
  | connect conn =>
    unfold SocketAct.perform
    dsimp only
    split
    · refine .message ?_ ?_ ?_ ?_ ?_
      · exact ⟨h.isServer, h.behaviour, h.fields⟩
      · rfl
      · exact fun _ _ => nofun
      · exact fun _ _ => nofun
      · exact ⟨fun _ _ => nofun, fun _ _ => nofun⟩
    · exact .quiet h rfl
  | incoming n data => exact incoming_turn h n data
  | writable n =>
    unfold SocketAct.perform
    dsimp only
    split
    · exact .quiet (h.setConnection n _) rfl
    · exact .quiet h rfl
  | recreate n => exact recreate_turn h (SocketTcpHandler.recreate_step n net)
  | close n =>
    unfold SocketAct.perform
    dsimp only
    split
    · rename_i handler p s _
      have hkept : ServerNet (net.setConnection n ⟨handler, true, p, s⟩) := h.setConnection n _
      cases handler with
      | none => exact .quiet hkept rfl
      | some handler =>
        show ServerTurn net (_, [.tell ⟨handler, .connection n, .connectionClosed⟩])
        refine .message ?_ ?_ ?_ ?_ ?_
        · exact hkept
        · rfl
        · exact fun _ _ => nofun
        · exact fun _ _ => nofun
        · exact ⟨fun _ _ _ => nofun, fun _ _ => nofun⟩
    · exact .quiet h rfl
  | stop => exact .quiet ⟨h.isServer, h.behaviour, h.fields⟩ rfl
  | write l data => exact write_turn h l data
  | _ =>
    exact .message h rfl (fun _ _ => nofun) (fun _ _ => nofun)
      ⟨fun _ _ => nofun, fun _ _ => nofun⟩

/-! ## 3. Runs -/

/-- The actors of a server. -/
abbrev actors (δ : Type) (schedulable : Option Schedulable) (lisenter : Option Nat) :
    Actors SocketNet SocketRef (SocketMessage δ) (UserCode δ) (SocketAct δ) (SocketOutput δ) :=
  socketTcp δ (setup schedulable lisenter)

/-- A delivery is a turn of a server. -/
theorem receive_step (h : ServerNet net) {env : SocketEnvelope δ} (hp : Permitted env) :
    ServerTurn net ((actors δ schedulable lisenter).receive k env net) := by
  show ServerTurn net ((socketTcp δ (setup schedulable lisenter)).receive k env net)
  unfold socketTcp
  dsimp only
  split
  · exact .quiet h rfl
  · exact actor_turn h (SocketTcpActor.handle_step env.message net)
  · rename_i n hn
    have hm : ∀ conn, env.message ≠ .connected conn := fun conn => hp.connected n conn hn
    exact handler_turn h hm (SocketTcpHandler.handle_step k n env.sender env.message net)
  · rename_i n hn
    exact connection_turn h (TcpConnection.handle_step k n env.sender env.message net)

section Run

variable (schedulable lisenter)

/-- **A server is one at every moment, and its actors are told only what is permitted.** -/
theorem serverNet (es : List (SocketEvent δ)) :
    ServerNet ((actors δ schedulable lisenter).machine.after es).world ∧
      ∀ env ∈ (actors δ schedulable lisenter).sent es, Permitted env := by
  have hcontract := (actors δ schedulable lisenter).contract (P := ServerNet)
    (Q := fun x => ∀ env, x = .tell env → Permitted env) ?_ ?_ ?_ ?_ es
  · exact ⟨hcontract.1, fun env henv => hcontract.2 _ (Effect.mem_tells.mp henv) env rfl⟩
  · exact ⟨rfl, rfl, fun l r hr => nomatch hr⟩
  · intro x hx env he
    cases he.symm.trans (SocketTcpActor.eq_of_mem_superNew hx)
    exact ⟨fun _ _ => nofun, fun _ _ => nofun⟩
  · intro k env net h hp
    have hturn : ServerTurn net ((actors δ schedulable lisenter).receive k env net) :=
      receive_step h (hp env rfl)
    exact ⟨hturn.kept, fun x hx env he => hturn.permitted env (he ▸ hx)⟩
  · intro a net h
    have hturn : ServerTurn net ((actors δ schedulable lisenter).act a net) := act_turn h a
    exact ⟨hturn.kept, fun x hx env he => hturn.permitted env (he ▸ hx)⟩

/-- **Every event of a run is a turn of a server.** -/
theorem step_turn (es : List (SocketEvent δ)) (e : SocketEvent δ) :
    ServerTurn ((actors δ schedulable lisenter).machine.after es).world
      (((actors δ schedulable lisenter).machine.after (es ++ [e])).world,
        (actors δ schedulable lisenter).effectsOf es e) := by
  obtain ⟨hnet, hsent⟩ := serverNet schedulable lisenter es
  obtain ⟨k, env, xs, ys, -, hmail, -, hw, -, he, -⟩ | ⟨a, -, hw, -, he, -⟩ | ⟨hs, he, -⟩ :=
    (actors δ schedulable lisenter).run_cases es e
  · have henv : env ∈ (actors δ schedulable lisenter).sent es :=
      (actors δ schedulable lisenter).mail_subset (by rw [hmail]; simp)
    rw [hw, he]
    exact receive_step hnet (hsent env henv)
  · rw [hw, he]
    exact act_turn hnet a
  · rw [hs, he]
    exact .quiet hnet rfl

/-- The numbers of the objects of a run. -/
structure Numbered (es : List (SocketEvent δ)) : Prop where
  received : ∀ ref ∈ receivedRefs ((actors δ schedulable lisenter).effects es),
    ref < ((actors δ schedulable lisenter).machine.after es).world.allocated
  receivedOnce : (receivedRefs ((actors δ schedulable lisenter).effects es)).Nodup
  writes : ∀ w ∈ ((actors δ schedulable lisenter).effects es).filterMap tcpWrite,
    w.2.1 < ((actors δ schedulable lisenter).machine.after es).world.allocated
  oneWays : ∀ ref ∈ ((actors δ schedulable lisenter).effects es).flatMap oneWay,
    ref < ((actors δ schedulable lisenter).machine.after es).world.allocated
  apart : ∀ w ∈ ((actors δ schedulable lisenter).effects es).filterMap tcpWrite,
    w.2.1 ∉ ((actors δ schedulable lisenter).effects es).flatMap oneWay

/-- Numbers below one bound, and then numbers between that bound and the next. -/
theorem lt_of_mem_append {α : Type} {f : α → Nat} {xs ys : List α} {m n : Nat}
    (hx : ∀ x ∈ xs, f x < m) (hy : ∀ y ∈ ys, m ≤ f y ∧ f y < n) (hle : m ≤ n) :
    ∀ x ∈ xs ++ ys, f x < n := by
  intro x hmem
  rcases List.mem_append.mp hmem with h | h
  · exact (hx x h).trans_le hle
  · exact (hy x h).2

/-- The start is a turn of a server. -/
theorem start_turn : ServerTurn (actors δ schedulable lisenter).start.1
    ((actors δ schedulable lisenter).start.1,
      (SocketTcpActor.superNew (setup schedulable lisenter) : List (SocketEffect δ))) := by
  refine .plain ⟨rfl, rfl, fun l r hr => nomatch hr⟩ rfl (fun x hx => ?_) fun env henv => ?_
  · rw [SocketTcpActor.eq_of_mem_superNew hx]
    exact plain_tell (fun _ _ => nofun) fun _ _ => nofun
  · cases SocketTcpActor.eq_of_mem_superNew henv
    exact ⟨fun _ _ => nofun, fun _ _ => nofun⟩

/-- **No two objects of a run have one number, and what connections are told is never an object of
    `write(data)`.** -/
theorem numbered (es : List (SocketEvent δ)) : Numbered schedulable lisenter es := by
  induction es using List.reverseRecOn with
  | nil =>
    have heffects := socketTcp_effects_nil (δ := δ) (setup schedulable lisenter)
    have hturn := start_turn (δ := δ) schedulable lisenter
    exact
      { received := heffects ▸ fun ref hr => (hturn.received ref hr).2
        receivedOnce := heffects ▸ hturn.receivedOnce
        writes := heffects ▸ fun w hw => (hturn.writes w hw).2
        oneWays := heffects ▸ fun ref hr => (hturn.oneWays ref hr).2
        apart := heffects ▸ hturn.apart }
  | append_singleton es e ih =>
    have hturn := step_turn schedulable lisenter es e
    refine ⟨?_, ?_, ?_, ?_, ?_⟩
    all_goals rw [Actors.effects_concat]
    · rw [receivedRefs_append]
      exact lt_of_mem_append ih.received hturn.received hturn.le
    · rw [receivedRefs_append]
      refine List.nodup_append.mpr ⟨ih.receivedOnce, hturn.receivedOnce, fun a ha b hb he => ?_⟩
      have hlt := ih.received a ha
      have hge := (hturn.received b hb).1
      omega
    · rw [List.filterMap_append]
      exact lt_of_mem_append ih.writes hturn.writes hturn.le
    · rw [List.flatMap_append]
      exact lt_of_mem_append ih.oneWays hturn.oneWays hturn.le
    · rw [List.filterMap_append, List.flatMap_append]
      intro w hw hr
      rcases List.mem_append.mp hw with hw | hw
      · rcases List.mem_append.mp hr with hr | hr
        · exact ih.apart w hw hr
        · have hlt := ih.writes w hw
          have hge := (hturn.oneWays _ hr).1
          omega
      · rcases List.mem_append.mp hr with hr | hr
        · have hlt := ih.oneWays _ hr
          have hge := (hturn.writes w hw).1
          omega
        · exact hturn.apart w hw hr

/-! ## 4. Isolation -/

/-- The numbers of the `Received` objects among messages. -/
theorem receivedRefs_effects (es : List (SocketEvent δ)) :
    receivedRefs ((actors δ schedulable lisenter).effects es) =
      ((actors δ schedulable lisenter).sent es).filterMap receivedRef := rfl

/-- The `Received` objects `receive` was called with are some of those delivered, in order. -/
theorem sublist_delivered (es : List (SocketEvent δ)) :
    ((receiveCalls ((actors δ schedulable lisenter).effects es)).map ReceiveCall.ref).Sublist
      (((actors δ schedulable lisenter).delivered es).filterMap receivedRef) := by
  induction es using List.reverseRecOn with
  | nil =>
    rw [socketTcp_effects_nil, receiveCalls_superNew]
    exact List.nil_sublist _
  | append_singleton es e ih =>
    rw [Actors.effects_concat, receiveCalls_append, List.map_append]
    rcases receiveCalls_effectsOf (setup schedulable lisenter) es e with
      ⟨hc, hd⟩ | ⟨k, env, l, ref, data, -, hm, hd, hc⟩
    · rw [hc, List.map_nil, List.append_nil]
      exact ih.trans (hd.sublist.filterMap receivedRef)
    · have hr : receivedRef env = some ref := by simp only [receivedRef, hm]
      have henv : [env].filterMap receivedRef = [ref] := by simp [hr]
      rw [hc, show (actors δ schedulable lisenter).delivered (es ++ [e]) = _ from hd,
        List.filterMap_append, henv]
      exact ih.append (List.Sublist.refl _)

/-- A call of `receive` is about a `Received` some connection has sent, with its data and with
    itself as sender. -/
theorem sent_of_receiveCall {es : List (SocketEvent δ)} {call : ReceiveCall δ}
    (h : call ∈ receiveCalls ((actors δ schedulable lisenter).effects es)) :
    ∃ n r, call.sender = .connection n ∧ ⟨r, .connection n, .received call.ref call.data⟩ ∈
      (actors δ schedulable lisenter).sent es := by
  induction es using List.reverseRecOn with
  | nil =>
    rw [socketTcp_effects_nil, receiveCalls_superNew] at h
    exact absurd h List.not_mem_nil
  | append_singleton es e ih =>
    rw [Actors.sent_concat]
    rw [Actors.effects_concat, receiveCalls_append] at h
    rcases List.mem_append.mp h with h | h
    · obtain ⟨n, r, hs, hmem⟩ := ih h
      exact ⟨n, r, hs, List.mem_append_left _ hmem⟩
    · rcases receiveCalls_effectsOf (setup schedulable lisenter) es e with
        ⟨hc, -⟩ | ⟨k, env, l, ref, data, henv, hm, -, hc⟩
      · rw [hc] at h
        exact absurd h List.not_mem_nil
      · obtain ⟨c, hsender⟩ := ((serverNet schedulable lisenter es).2 env henv).received ref data hm
        have heq : env = ⟨env.receiver, .connection c, .received ref data⟩ := by
          rw [← hsender, ← hm]
        rw [hc] at h
        cases List.mem_singleton.mp h
        exact ⟨c, env.receiver, hsender, List.mem_append_left _ (heq ▸ henv)⟩

/-- What connections were told are the answers of `receive`. -/
theorem tcpWrites_eq (es : List (SocketEvent δ)) :
    ((actors δ schedulable lisenter).effects es).filterMap tcpWrite =
      (receiveCalls ((actors δ schedulable lisenter).effects es)).flatMap ReceiveCall.answers := by
  induction es using List.reverseRecOn with
  | nil =>
    rw [socketTcp_effects_nil, receiveCalls_superNew]
    refine List.filterMap_eq_nil_iff.mpr fun x hx => ?_
    rw [SocketTcpActor.eq_of_mem_superNew hx]
    rfl
  | append_singleton es e ih =>
    have hturn := (step_turn schedulable lisenter es e).answered
    rw [Actors.effects_concat, receiveCalls_append, List.filterMap_append, List.flatMap_append, ih,
      hturn]

/-- The clients of a server are apart: no two `Received` objects are one; each leads to at most one
    call of `receive`, which has its data and its connection as sender; at every event the
    connections are told what the calls of `write(data, sender)` in `receive` say, each call one
    `Write` to the sender of that `receive`, and nothing else; and what a connection takes is one
    of these. -/
structure Isolated (es : List (SocketEvent δ)) : Prop where
  numbered : (receivedRefs ((actors δ schedulable lisenter).effects es)).Nodup
  once : ((receiveCalls ((actors δ schedulable lisenter).effects es)).map ReceiveCall.ref).Nodup
  own : ∀ call ∈ receiveCalls ((actors δ schedulable lisenter).effects es), ∃ n r,
    call.sender = .connection n ∧ ⟨r, .connection n, .received call.ref call.data⟩ ∈
      (actors δ schedulable lisenter).sent es
  answered : ∀ p e, p ++ [e] <+: es →
    ((actors δ schedulable lisenter).effectsOf p e).filterMap tcpWrite =
      (receiveCalls ((actors δ schedulable lisenter).effectsOf p e)).flatMap ReceiveCall.answers
  taken : ∀ n ref data,
    .did (.handed n ref data) ∈ (actors δ schedulable lisenter).effects es →
      ∃ call ∈ receiveCalls ((actors δ schedulable lisenter).effects es),
        (n, ref, data) ∈ call.answers

/-- **The clients of a socket server are isolated**, in every run. -/
theorem isolated (es : List (SocketEvent δ)) : Isolated schedulable lisenter es where
  numbered := (numbered schedulable lisenter es).receivedOnce
  once := by
    have hnodup := (numbered schedulable lisenter es).receivedOnce
    rw [receivedRefs_effects] at hnodup
    have hperm := ((actors δ schedulable lisenter).sent_perm es).filterMap receivedRef
    rw [hperm.nodup_iff, List.filterMap_append] at hnodup
    exact (List.nodup_append.mp hnodup).1.sublist (sublist_delivered schedulable lisenter es)
  own _ hcall := sent_of_receiveCall schedulable lisenter hcall
  answered p e _ := (step_turn schedulable lisenter p e).answered
  taken n ref data h := by
    obtain ⟨sender, hd⟩ := delivered_of_handed (setup schedulable lisenter) es h
    have hsent := (actors δ schedulable lisenter).delivered_subset hd
    have hmem : (n, ref, data) ∈
        ((actors δ schedulable lisenter).effects es).filterMap tcpWrite :=
      List.mem_filterMap.mpr ⟨_, Effect.mem_tells.mp hsent, rfl⟩
    rw [tcpWrites_eq] at hmem
    exact List.mem_flatMap.mp hmem

/-! ## 5. Writes without a receiver -/

/-- The objects connections took in a run. -/
def taken (es : List (SocketEvent δ)) : List Nat :=
  ((actors δ schedulable lisenter).effects es).filterMap fun
    | .did (.handed _ ref _) => some ref
    | _ => none

/-- Some open connection has its handler, whose constructor has run. -/
def HasClient (net : SocketNet) : Prop :=
  ∃ n, net.handlers[n]?.any (·.phase = .alive) ∧
    ∃ x ∈ net.connections, x.handler = some (.handler n) ∧ x.closed = false

/-- A call of `write(data)` in the event `e` after `p`, while there is a client: once every message
    is processed, its object was taken by an open connection exactly once. -/
def ReachesClient (p : List (SocketEvent δ)) (e : SocketEvent δ) : Prop :=
  ∀ ref ∈ ((actors δ schedulable lisenter).effectsOf p e).flatMap oneWay,
    HasClient ((actors δ schedulable lisenter).machine.after p).world → ∀ q,
      ((actors δ schedulable lisenter).machine.after (p ++ e :: q)).mail = [] →
        (taken schedulable lisenter (p ++ e :: q)).count ref = 1

theorem taken_subset {es : List (SocketEvent δ)} {ref : Nat}
    (h : ref ∈ taken schedulable lisenter es) :
    ∃ w ∈ ((actors δ schedulable lisenter).effects es).filterMap tcpWrite, w.2.1 = ref := by
  obtain ⟨x, hx, hr⟩ := List.mem_filterMap.mp h
  split at hr
  · rename_i n ref' data
    cases hr
    obtain ⟨sender, hd⟩ := delivered_of_handed (setup schedulable lisenter) es hx
    have hsent := (actors δ schedulable lisenter).delivered_subset hd
    exact ⟨(n, ref, data), List.mem_filterMap.mpr ⟨_, Effect.mem_tells.mp hsent, rfl⟩, rfl⟩
  · cases hr

/-- **A `write(data)` never reaches a client**: whenever it is called, inside `receive` or outside,
    and whatever follows, no connection ever takes its object. -/
theorem not_taken (p : List (SocketEvent δ)) (e : SocketEvent δ) (q : List (SocketEvent δ)) :
    ∀ ref ∈ ((actors δ schedulable lisenter).effectsOf p e).flatMap oneWay,
      (taken schedulable lisenter (p ++ e :: q)).count ref = 0 := by
  intro ref hr
  refine List.count_eq_zero.mpr fun ht => ?_
  have hsplit : p ++ e :: q = p ++ [e] ++ q := by simp
  have hone : ∀ q, ref ∈
      ((actors δ schedulable lisenter).effects (p ++ [e] ++ q)).flatMap oneWay := by
    intro q
    induction q using List.reverseRecOn with
    | nil =>
      rw [List.append_nil, Actors.effects_concat, List.flatMap_append]
      exact List.mem_append_right _ hr
    | append_singleton q e' ih =>
      rw [← List.append_assoc, Actors.effects_concat, List.flatMap_append]
      exact List.mem_append_left _ ih
  obtain ⟨w, hw, rfl⟩ := taken_subset schedulable lisenter ht
  rw [hsplit] at hw
  exact (numbered schedulable lisenter (p ++ [e] ++ q)).apart w hw (hone q)

end Run

/-- User code that does nothing. -/
def quiet : UserCode Nat := ⟨fun _ => none, .ok none, [], none, true⟩

/-- A client has connected, its handler is there and registered. -/
def oneClient : List (SocketEvent Nat) :=
  [.deliver .actor quiet, .act (.connect ⟨"10.0.0.2:40000", "10.0.0.1:5002"⟩),
    .deliver .actor quiet, .deliver (.handler 0) quiet, .deliver (.connection 0) quiet]

/-- `write(data)` is called, and its message is processed: no client gets the data. -/
theorem not_reachesClient_open :
    ¬ ReachesClient none (some 0) oneClient (.act (.write 0 7)) := by
  intro h
  have hclient : HasClient ((actors Nat none (some 0)).machine.after oneClient).world :=
    ⟨0, by decide, ⟨some (.handler 0), false, false, false⟩, by decide, rfl, rfl⟩
  have hcount := h 0 (by decide) hclient [.deliver (.handler 0) quiet] (by decide)
  revert hcount
  decide

/-- The same call: no connection ever takes it. -/
theorem not_taken_open : (taken none (some 0)
    (oneClient ++ .act (.write 0 7) :: [.deliver (.handler 0) quiet])).count 0 = 0 :=
  not_taken none (some 0) oneClient (.act (.write 0 7)) [.deliver (.handler 0) quiet] 0 (by decide)

end SocketServer

end EsbCore
