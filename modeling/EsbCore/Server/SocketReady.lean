/-
  File:      EsbCore/Server/SocketReady.lean
  Subject:   WHAT A LISTENER KNOWS OF ITS CONNECTIONS (`isReady`, `getConnected`), over every run of a
             socket server's or client's actors.

  `setConnected(conn)` raises the flag and keeps no `conn`, and nothing lowers the flag when a
  handler takes the closing of its connection.

  * `ConnectionNote`, `history` -- what of a run is about the listeners: connections established,
    closings processed;
  * `Recorded` -- the fields of the listeners against it, at every moment;
  * `mirrors_iff` -- they say which connections are open exactly in the runs without a connection,
    and the flag alone exactly in those that never close the last one open.
-/
import EsbCore.Server.SocketIsolation

namespace EsbCore

open Java Lib

variable {δ : Type}

namespace SocketTcpLisenter

/-- `isReady()`. -/
def isReady (self : SocketTcpLisenter) : Bool := self.ready

/-- `getConnected()`. -/
def getConnected (self : SocketTcpLisenter) : Option Connected := self.connected

end SocketTcpLisenter

namespace SocketReady

/-! ## 1. What is noted of a run -/

/-- A connection is established, with the listener and the handler made for it; or a handler
    processes the closing of its connection. -/
inductive ConnectionNote where
  | established (lisenter handler : Nat) (conn : Connected)
  | closed (handler : Nat)
  deriving DecidableEq, Repr

/-- What a message says of the connections, where it is processed: `Connected` by the actor in its
    `onReceive`, `ConnectionClosed` by a handler. -/
def note (net : SocketNet) : SocketEnvelope δ → Option ConnectionNote
  | ⟨.actor, _, .connected conn⟩ =>
    if net.phase = .alive ∧ net.actor.behaviour = .onReceive then
      net.actor.socketLisenter.map fun l => .established l net.handlers.length conn
    else none
  | ⟨.handler n, _, .connectionClosed⟩ =>
    if net.handlers[n]?.map SocketTcpHandler.phase = some .alive then some (.closed n) else none
  | _ => none

variable (setup : SocketSetup)

/-- What one event of a run says of the connections. -/
def noteOf (es : List (SocketEvent δ)) (e : SocketEvent δ) : Option ConnectionNote :=
  (socketTcp δ setup).noteOf note ((socketTcp δ setup).machine.after es) e

/-- All that has been said of them. -/
def history (es : List (SocketEvent δ)) : List ConnectionNote :=
  (socketTcp δ setup).machine.noted ((socketTcp δ setup).noteOf note) es

theorem history_concat (es : List (SocketEvent δ)) (e : SocketEvent δ) :
    history setup (es ++ [e]) = history setup es ++ (noteOf setup es e).toList :=
  Machine.noted_concat _ _ es e

/-- A connection of the listener `l` with the handler `n` is open. -/
def Open (ns : List ConnectionNote) (l n : Nat) : Prop :=
  (∃ conn, .established l n conn ∈ ns) ∧ .closed n ∉ ns

/-- The `Connected` of the latest connection of the listener `l`. -/
def lastConnected (ns : List ConnectionNote) (l : Nat) : Option Connected :=
  (ns.filterMap fun
    | .established l' _ conn => if l' = l then some conn else none
    | .closed _ => none).getLast?

/-! ## 2. The fields of the listeners -/

/-- What the fields of the listeners hold, by what was noted: no `Connected`, and whether there ever
    was a connection. A closing that was noted was processed by a handler that was made. -/
structure Recorded (ns : List ConnectionNote) (net : SocketNet) : Prop where
  connected : ∀ l, (net.lisenters l).getConnected = none
  ready : ∀ l, (net.lisenters l).isReady = true ↔ ∃ n conn, .established l n conn ∈ ns
  closed : ∀ n, .closed n ∈ ns → n < net.handlers.length

variable {setup : SocketSetup} {k : UserCode δ} {net net' : SocketNet} {sender : SocketRef}
  {m : SocketMessage δ} {t : SocketNet × List (SocketEffect δ)} {ns : List ConnectionNote}

/-- What leaves these fields of every listener, and takes no handler away, keeps it. -/
theorem Recorded.keep (h : Recorded ns net)
    (hc : ∀ l, (net'.lisenters l).getConnected = (net.lisenters l).getConnected)
    (hr : ∀ l, (net'.lisenters l).isReady = (net.lisenters l).isReady)
    (hn : net.handlers.length ≤ net'.handlers.length) : Recorded ns net' where
  connected l := (hc l).trans (h.connected l)
  ready l := by
    rw [hr]
    exact h.ready l
  closed n hmem := Nat.lt_of_lt_of_le (h.closed n hmem) hn

theorem Recorded.keep_of_lisenters (h : Recorded ns net) (hl : net'.lisenters = net.lisenters)
    (hn : net'.handlers.length = net.handlers.length) : Recorded ns net' :=
  h.keep (fun l => by rw [hl]) (fun l => by rw [hl]) hn.ge

/-- So does a new handler in the handler's field of a listener. -/
theorem Recorded.setHandler (h : Recorded ns net) (l : Nat) (r : SocketRef) :
    Recorded ns (net.setLisenter l (·.setHandler r)) := by
  refine h.keep (fun i => ?_) (fun i => ?_) le_rfl
  all_goals
    rw [SocketNet.setLisenter_lisenters]
    split
    · rename_i hi
      rw [hi]
      rfl
    · rfl

/-- A closing is noted of a handler there is. -/
theorem Recorded.note_closed (h : Recorded ns net) {n : Nat} (hn : n < net.handlers.length) :
    Recorded (ns ++ [.closed n]) net where
  connected := h.connected
  ready l := by
    rw [h.ready l]
    simp
  closed i hi := by
    rcases List.mem_append.mp hi with hi | hi
    · exact h.closed i hi
    · cases List.mem_singleton.mp hi
      exact hn

/-- A connection is established: the flag of its listener is up, and there is a handler more. -/
theorem Recorded.note_established (h : Recorded ns net) (l : Nat) (conn : Connected)
    (hl : net'.lisenters = (net.setLisenter l (·.setConnected conn)).lisenters)
    (hn : net.handlers.length ≤ net'.handlers.length) :
    Recorded (ns ++ [.established l net.handlers.length conn]) net' where
  connected i := by
    rw [hl, SocketNet.setLisenter_lisenters]
    split
    · exact h.connected i
    · exact h.connected i
  ready i := by
    rw [hl, SocketNet.setLisenter_lisenters]
    split
    · rename_i hi
      subst hi
      exact ⟨fun _ => ⟨_, conn, List.mem_append_right _ List.mem_cons_self⟩, fun _ => rfl⟩
    · rename_i hi
      rw [h.ready i]
      refine ⟨fun ⟨n, c, hmem⟩ => ⟨n, c, List.mem_append_left _ hmem⟩, fun h => ?_⟩
      obtain ⟨n, c, hmem⟩ := h
      rcases List.mem_append.mp hmem with hmem | hmem
      · exact ⟨n, c, hmem⟩
      · cases List.mem_singleton.mp hmem
        exact absurd rfl hi
  closed i hi := by
    rcases List.mem_append.mp hi with hi | hi
    · exact Nat.lt_of_lt_of_le (h.closed i hi) hn
    · cases List.mem_singleton.mp hi

/-! ## 3. One event -/

theorem note_connected (conn : Connected) (l : Nat) (hp : net.phase = .alive)
    (hb : net.actor.behaviour = .onReceive) (hl : net.actor.socketLisenter = some l) :
    note net (⟨.actor, sender, .connected conn⟩ : SocketEnvelope δ) =
      some (.established l net.handlers.length conn) := by
  show (if _ then _ else _) = _
  rw [if_pos ⟨hp, hb⟩, hl]
  rfl

/-- The actor takes a `Connected` that is noted. -/
theorem handle_connected (setup : SocketSetup) (k : UserCode δ) (sender : SocketRef)
    (conn : Connected) (l : Nat) (hp : net.phase = .alive)
    (hb : net.actor.behaviour = .onReceive) (hl : net.actor.socketLisenter = some l) :
    (SocketTcpActor.handle setup k sender (.connected conn) net).1.lisenters =
        (net.setLisenter l (·.setConnected conn)).lisenters ∧
      (SocketTcpActor.handle setup k sender (.connected conn) net).1.handlers =
        net.handlers ++ [⟨l, .unborn⟩] := by
  unfold SocketTcpActor.handle SocketTcpActor.behave SocketTcpActor.onReceive
  rw [hp, hb]
  dsimp only
  rw [hl]
  dsimp only
  by_cases hs : ((net.setLisenter l (·.setConnected conn)).actorOf l).actor.isServer = true
  · rw [if_pos hs]
    exact ⟨rfl, rfl⟩
  · rw [if_neg hs]
    exact ⟨rfl, rfl⟩

/-- What is not noted of the actor leaves the listeners. -/
theorem ActorStep.recorded (h : ActorStep setup net sender m t)
    (hn : note net ⟨.actor, sender, m⟩ = none) (hns : Recorded ns net) : Recorded ns t.1 := by
  cases h with
  | same m hm => exact hns
  | dropped data ha hb => exact hns
  | passed data c h ha hb => exact hns.keep_of_lisenters rfl rfl
  | forwarded ref data c h hb => exact hns
  | stopped m hm => exact hns.keep_of_lisenters rfl (List.length_map _)
  | server conn l ha hb hl hs =>
    rw [note_connected conn l ha hb hl] at hn
    cases hn
  | client conn l ha hb hl hs =>
    rw [note_connected conn l ha hb hl] at hn
    cases hn
  | restarted m l hm => exact hns.keep_of_lisenters rfl (List.length_map _)
  | survived m l hm => exact hns.keep_of_lisenters rfl rfl
  | failed m hm => exact hns.keep_of_lisenters rfl (List.length_map _)

/-- What a handler does leaves the listeners' flags. -/
theorem HandlerStep.recorded {n : Nat} (h : HandlerStep k net n sender m t)
    (hns : Recorded ns net) : Recorded ns t.1 := by
  cases h with
  | same m hm ha => exact hns
  | created l hn =>
    exact (hns.setHandler l (.handler n)).keep_of_lisenters rfl (List.length_modify ..)
  | late h hn hp => exact hns.setHandler h.socketLisenter (.handler n)
  | returned l ref data hn ht => exact hns.keep_of_lisenters rfl rfl
  | thrown l ref data hn ht =>
    have hreceive : Recorded ns (SocketTcpHandler.receive k l ref data sender net).self :=
      hns.keep_of_lisenters rfl rfl
    exact hreceive.setHandler l (.handler n)
  | closed l hn => exact hns.keep_of_lisenters rfl (List.length_modify ..)
  | connected l conn hn => exact hns.setHandler l sender

/-- Connections leave the listeners. -/
theorem ConnectionStep.recorded {n : Nat} (h : ConnectionStep k net n sender m t)
    (hns : Recorded ns net) : Recorded ns t.1 := by
  cases h with
  | same m => exact hns
  | registered handler p s hn => exact hns.keep_of_lisenters rfl rfl
  | handed ref data handler hn => exact hns.keep_of_lisenters rfl rfl
  | refused ref data handler p s hn => exact hns.keep_of_lisenters rfl rfl

/-- A handler that is created anew leaves the listeners' flags. -/
theorem RecreateStep.recorded {n : Nat} (h : RecreateStep net n t) (hns : Recorded ns net) :
    Recorded ns t.1 := by
  cases h with
  | same => exact hns
  | recreated l hmem => exact (hns.setHandler l (.handler n)).keep_of_lisenters rfl rfl

/-- So do the surroundings. -/
theorem recorded_perform (a : SocketAct δ) (hns : Recorded ns net) :
    Recorded ns (a.perform setup net).1 := by
  unfold SocketAct.perform
  cases a with
  | connect conn =>
    dsimp only
    split
    · exact hns.keep_of_lisenters rfl rfl
    · exact hns
  | incoming n data =>
    dsimp only
    split
    · exact hns.keep_of_lisenters rfl rfl
    · exact hns
  | close n =>
    dsimp only
    split
    · exact hns.keep_of_lisenters rfl rfl
    · exact hns
  | writable n =>
    dsimp only
    split
    · exact hns.keep_of_lisenters rfl rfl
    · exact hns
  | recreate n => exact RecreateStep.recorded (SocketTcpHandler.recreate_step (δ := δ) n net) hns
  | stop => exact hns.keep_of_lisenters rfl (List.length_map _)
  | write l data => exact hns.keep_of_lisenters rfl rfl
  | _ => exact hns

/-- What is noted of a message: nothing, a connection that the actor establishes, or a closing that
    a handler processes. -/
theorem note_cases (net : SocketNet) (env : SocketEnvelope δ) :
    note net env = none ∨
    (∃ sender conn l, env = ⟨.actor, sender, .connected conn⟩ ∧ net.phase = .alive ∧
      net.actor.behaviour = .onReceive ∧ net.actor.socketLisenter = some l ∧
      note net env = some (.established l net.handlers.length conn)) ∨
    ∃ n sender, env = ⟨.handler n, sender, .connectionClosed⟩ ∧ n < net.handlers.length ∧
      note net env = some (.closed n) := by
  unfold note
  split
  · rename_i sender conn
    split
    · rename_i h
      cases hl : net.actor.socketLisenter with
      | none => exact .inl rfl
      | some l => exact .inr (.inl ⟨sender, conn, l, rfl, h.1, h.2, rfl, rfl⟩)
    · exact .inl rfl
  · rename_i n sender
    split
    · rename_i h
      obtain ⟨handler, hn, -⟩ := Option.map_eq_some_iff.mp h
      exact .inr (.inr ⟨n, sender, rfl, (List.getElem?_eq_some_iff.mp hn).1, rfl⟩)
    · exact .inl rfl
  · exact .inl rfl

/-- **One delivery**: the fields hold what was noted before and what is noted of the message. -/
theorem recorded_receive (env : SocketEnvelope δ) (hns : Recorded ns net) :
    Recorded (ns ++ (note net env).toList) ((socketTcp δ setup).receive k env net).1 := by
  rcases note_cases net env with
    hn | ⟨sender, conn, l, rfl, hp, hb, hl, hn⟩ | ⟨n, sender, rfl, hlt, hn⟩
  · rw [hn]
    show Recorded (ns ++ []) _
    rw [List.append_nil]
    obtain ⟨receiver, sender, m⟩ := env
    cases receiver with
    | noSender => exact hns
    | actor => exact ActorStep.recorded (SocketTcpActor.handle_step m net) hn hns
    | handler n => exact HandlerStep.recorded (SocketTcpHandler.handle_step k n sender m net) hns
    | connection n =>
      exact ConnectionStep.recorded (TcpConnection.handle_step k n sender m net) hns
  · rw [hn]
    obtain ⟨hlis, hhandlers⟩ := handle_connected setup k sender conn l hp hb hl
    refine hns.note_established l conn hlis ?_
    show _ ≤ (SocketTcpActor.handle setup k sender (.connected conn) net).1.handlers.length
    rw [hhandlers, List.length_append]
    exact Nat.le_add_right _ _
  · rw [hn]
    exact HandlerStep.recorded (SocketTcpHandler.handle_step k n sender .connectionClosed net)
      (hns.note_closed hlt)

/-- **At every moment** the fields hold what was noted. -/
theorem recorded_history (setup : SocketSetup) (es : List (SocketEvent δ)) :
    Recorded (history setup es) ((socketTcp δ setup).machine.after es).world := by
  refine (socketTcp δ setup).noted_inv (I := Recorded) ⟨fun _ => rfl, fun l => ?_, fun n hn => ?_⟩
    (fun k env w ns h => recorded_receive env h) (fun a w ns h => recorded_perform a h) es
  · exact ⟨fun h => Bool.noConfusion h, fun ⟨_, _, h⟩ => absurd h List.not_mem_nil⟩
  · exact absurd hn List.not_mem_nil

/-! ## 4. The flag against the connections open -/

/-- Every listener that had a connection has one open. -/
def Covered (ns : List ConnectionNote) : Prop :=
  ∀ l, (∃ n conn, .established l n conn ∈ ns) → ∃ n, Open ns l n

/-- The closing of the last connection of a listener that is open. -/
def ClosesLast (ns : List ConnectionNote) (note : Option ConnectionNote) : Prop :=
  ∃ l n, note = some (.closed n) ∧ Open ns l n ∧ ∀ i, Open ns l i → i = n

/-- Only the note of a closing closes a connection. -/
theorem not_closesLast {x : Option ConnectionNote} (hx : ∀ n, x ≠ some (.closed n)) :
    ¬ ClosesLast ns x := fun ⟨_, n, hn, _⟩ => hx n hn

theorem open_established {l n l' n' : Nat} {conn : Connected} (h : Open ns l n) :
    Open (ns ++ [.established l' n' conn]) l n := by
  obtain ⟨⟨c, hmem⟩, hopen⟩ := h
  refine ⟨⟨c, List.mem_append_left _ hmem⟩, fun hc => ?_⟩
  rcases List.mem_append.mp hc with hc | hc
  · exact hopen hc
  · cases List.mem_singleton.mp hc

/-- The other connections are open after a closing. -/
theorem open_closed_iff {l n i : Nat} :
    Open (ns ++ [.closed n]) l i ↔ Open ns l i ∧ i ≠ n := by
  unfold Open
  simp only [List.mem_append, List.mem_singleton, reduceCtorEq, or_false, not_or,
    ConnectionNote.closed.injEq, and_assoc, ne_eq]

/-- A new connection leaves every listener covered. -/
theorem covered_established {l n : Nat} {conn : Connected} (h : Covered ns) (hn : .closed n ∉ ns) :
    Covered (ns ++ [.established l n conn]) := by
  rintro l' ⟨n', c, hmem⟩
  rcases List.mem_append.mp hmem with hmem | hmem
  · obtain ⟨i, hi⟩ := h l' ⟨n', c, hmem⟩
    exact ⟨i, open_established hi⟩
  · cases List.mem_singleton.mp hmem
    refine ⟨n, ⟨conn, List.mem_append_right _ List.mem_cons_self⟩, fun hc => ?_⟩
    rcases List.mem_append.mp hc with hc | hc
    · exact hn hc
    · cases List.mem_singleton.mp hc

/-- A closing does so exactly when it is not of the last one open. -/
theorem covered_closed_iff {n : Nat} (h : Covered ns) :
    Covered (ns ++ [.closed n]) ↔ ¬ ClosesLast ns (some (.closed n)) := by
  refine ⟨?_, fun hlast l hl => ?_⟩
  · rintro hc ⟨l, n', hn, ⟨⟨conn, hmem⟩, -⟩, hlast⟩
    cases hn
    obtain ⟨i, hi⟩ := hc l ⟨n, conn, List.mem_append_left _ hmem⟩
    obtain ⟨hi, hne⟩ := open_closed_iff.mp hi
    exact hne (hlast i hi)
  · obtain ⟨n', conn, hmem⟩ := hl
    have hmem : .established l n' conn ∈ ns := by simpa using hmem
    obtain ⟨i, hi⟩ := h l ⟨n', conn, hmem⟩
    by_contra hnone
    -- whatever is open is closed now, so that what is closed was the last
    have hall : ∀ j, Open ns l j → j = n := by
      intro j hj
      by_contra hne
      exact hnone ⟨j, open_closed_iff.mpr ⟨hj, hne⟩⟩
    exact hlast ⟨l, n, rfl, hall i hi ▸ hi, hall⟩

/-- **One event more** leaves every listener covered exactly when it does not close the last
    connection open. -/
theorem covered_concat_iff (setup : SocketSetup) (es : List (SocketEvent δ)) (e : SocketEvent δ)
    (h : Covered (history setup es)) :
    Covered (history setup (es ++ [e])) ↔ ¬ ClosesLast (history setup es) (noteOf setup es e) := by
  rw [history_concat]
  have hrec := recorded_history setup es
  unfold noteOf Actors.noteOf
  cases (socketTcp δ setup).taken ((socketTcp δ setup).machine.after es) e with
  | none =>
    show Covered (history setup es ++ []) ↔ _
    rw [List.append_nil]
    exact iff_of_true h (not_closesLast fun _ => nofun)
  | some env =>
    rw [Option.bind_some]
    rcases note_cases ((socketTcp δ setup).machine.after es).world env with
      hn | ⟨sender, conn, l, -, -, -, -, hn⟩ | ⟨n, sender, -, -, hn⟩
    · rw [hn]
      show Covered (history setup es ++ []) ↔ _
      rw [List.append_nil]
      exact iff_of_true h (not_closesLast fun _ => nofun)
    · rw [hn]
      -- the handler is new, and no closing of it has been noted
      have hfresh : .closed ((socketTcp δ setup).machine.after es).world.handlers.length ∉
          history setup es := fun hc => absurd (hrec.closed _ hc) (lt_irrefl _)
      exact iff_of_true (covered_established h hfresh) (not_closesLast fun _ => nofun)
    · rw [hn]
      exact covered_closed_iff h

/-! ## 5. What the fields say -/

variable (setup)

/-- The flag of every listener says whether one of its connections is open. -/
def ReadyMirrors (es : List (SocketEvent δ)) : Prop :=
  ∀ l, (((socketTcp δ setup).machine.after es).world.lisenters l).isReady = true ↔
    ∃ n, Open (history setup es) l n

/-- And where it is up, `getConnected()` is that of the latest. -/
structure Mirrors (es : List (SocketEvent δ)) : Prop where
  ready : ReadyMirrors setup es
  connected : ∀ l, (((socketTcp δ setup).machine.after es).world.lisenters l).isReady = true →
    ∃ conn, lastConnected (history setup es) l = some conn ∧
      (((socketTcp δ setup).machine.after es).world.lisenters l).getConnected = some conn

theorem readyMirrors_iff_covered (es : List (SocketEvent δ)) :
    ReadyMirrors setup es ↔ Covered (history setup es) := by
  refine forall_congr' fun l => ?_
  rw [(recorded_history setup es).ready l]
  exact ⟨fun h => h.mp, fun h => ⟨h, fun ⟨n, ⟨conn, hmem⟩, _⟩ => ⟨n, conn, hmem⟩⟩⟩

/-- Once there was a connection, the fields are wrong: `getConnected()` is null. -/
theorem mirrors_iff_not_established (es : List (SocketEvent δ)) :
    Mirrors setup es ↔ ∀ l n conn, .established l n conn ∉ history setup es := by
  have hrec := recorded_history setup es
  refine ⟨fun h l n conn hmem => ?_, fun h => ⟨?_, fun l hl => ?_⟩⟩
  · obtain ⟨c, -, hc⟩ := h.connected l ((hrec.ready l).mpr ⟨n, conn, hmem⟩)
    rw [hrec.connected l] at hc
    cases hc
  · rw [readyMirrors_iff_covered]
    rintro l ⟨n, conn, hmem⟩
    exact absurd hmem (h l n conn)
  · obtain ⟨n, conn, hmem⟩ := (hrec.ready l).mp hl
    exact absurd hmem (h l n conn)

/-- **When the fields say which connections are open.** Flag and `getConnected()` are right at every
    moment of exactly the runs in which no connection is established, and the flag alone in exactly
    those in which no handler processes the closing of the last connection open. -/
theorem mirrors_iff (es : List (SocketEvent δ)) :
    ((∀ p, p <+: es → Mirrors setup p) ↔
      ∀ p e, p ++ [e] <+: es → ∀ l n conn, noteOf setup p e ≠ some (.established l n conn)) ∧
    ((∀ p, p <+: es → ReadyMirrors setup p) ↔
      ∀ p e, p ++ [e] <+: es → ¬ ClosesLast (history setup p) (noteOf setup p e)) := by
  constructor
  · refine forall_prefix_iff_steps ?_ (fun p e hp => ?_) es
    · exact (mirrors_iff_not_established setup []).mpr fun _ _ _ => List.not_mem_nil
    · have hp := (mirrors_iff_not_established setup p).mp hp
      rw [mirrors_iff_not_established, history_concat]
      refine forall_congr' fun l => forall_congr' fun n => forall_congr' fun conn => ?_
      rw [List.mem_append, Option.mem_toList]
      exact ⟨fun h hn => h (.inr hn), fun h hn => hn.elim (hp l n conn) h⟩
  · refine forall_prefix_iff_steps ?_ (fun p e hp => ?_) es
    · exact (readyMirrors_iff_covered setup []).mpr fun _ ⟨_, _, h⟩ => absurd h List.not_mem_nil
    · rw [readyMirrors_iff_covered]
      exact covered_concat_iff setup p e ((readyMirrors_iff_covered setup p).mp hp)

/-- A server whose one connection is established: `getConnected()` is null. Its handler processes the
    closing: the flag stays up. -/
theorem not_mirrors :
    ¬ Mirrors (SocketServer.setup none (some 0)) SocketServer.oneClient ∧
    ¬ ReadyMirrors (SocketServer.setup none (some 0))
      (SocketServer.oneClient ++ [.act (.close 0), .deliver (.handler 0) SocketServer.quiet]) := by
  constructor
  · intro h
    obtain ⟨conn, -, hc⟩ := h.connected 0 (by decide)
    revert hc
    exact nofun
  · intro h
    obtain ⟨n, ⟨conn, hmem⟩, hopen⟩ := (h 0).mp (by decide)
    have hh : history (SocketServer.setup none (some 0))
        (SocketServer.oneClient ++ [.act (.close 0), .deliver (.handler 0) SocketServer.quiet]) =
          [.established 0 0 ⟨"10.0.0.2:40000", "10.0.0.1:5002"⟩, .closed 0] := by decide
    rw [hh] at hmem hopen
    simp at hmem hopen
    exact hopen hmem.1

end SocketReady

end EsbCore
