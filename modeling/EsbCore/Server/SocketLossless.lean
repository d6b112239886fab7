/-
  File:      EsbCore/Server/SocketLossless.lean
  Subject:   BYTE STRINGS SENT TO A SOCKET CLIENT, over every run of its actors.

  Before the actor has become another it has no one to pass a byte string on to, and takes it all
  the same; a restart makes it one that has not. That its connection is closed it is never told,
  and it goes on.

  * `Sound` -- what was taken was passed on and comes to the connection in its order, and a closed
    connection finds the actor stopped;
  * `sound_iff` -- that holds at every moment exactly when no byte string is taken before the
    actor has become another, and no connection closes while it runs.
-/
import EsbCore.Server.SocketClient

namespace EsbCore

open Java Lib

variable {δ : Type}

/-- The byte string the running actor took. -/
def acceptedIn : SocketEffect δ → Option δ
  | .did (.accepted data) => some data
  | _ => none

/-- The data of a `Write` the actor told its connection. -/
def passedIn : SocketEffect δ → Option δ
  | .tell ⟨.connection 0, .actor, .write _ data⟩ => some data
  | _ => none

/-- The data of such a `Write`, on its way. -/
def writeIn (env : SocketEnvelope δ) : Option δ := passedIn (.tell env)

theorem filterMap_passedIn (xs : List (SocketEffect δ)) :
    xs.filterMap passedIn = (Effect.tells xs).filterMap writeIn := by
  unfold Effect.tells
  rw [List.filterMap_filterMap]
  congr 1
  funext x
  cases x with
  | did o => rfl
  | tell env => rfl

/-- They go to the connection. -/
theorem filterMap_writeIn_queue (mail : List (SocketEnvelope δ)) :
    (queue (.connection 0) mail).filterMap writeIn = mail.filterMap writeIn := by
  unfold queue
  rw [List.filterMap_filter]
  congr 1
  funext env
  split
  · rfl
  · rename_i hr
    unfold writeIn passedIn
    split
    · rename_i he
      cases he
      exact absurd (decide_eq_true rfl) hr
    · rfl

namespace SocketClient

variable {schedulable : Option Schedulable} {lisenter : Option Nat} {k : UserCode δ}
  {net : SocketNet} {t : SocketNet × List (SocketEffect δ)}

/-! ## 1. What one turn passes on -/

/-- A turn that takes no byte string and passes none on. -/
def Idle (xs : List (SocketEffect δ)) : Prop :=
  xs.filterMap passedIn = [] ∧ xs.filterMap acceptedIn = []

theorem idle_of {xs : List (SocketEffect δ)}
    (htell : ∀ env, .tell env ∈ xs → env.sender = .actor → ∀ ref data,
      env.message ≠ .write ref data)
    (hdid : ∀ data, .did (.accepted data) ∉ xs) : Idle xs := by
  constructor
  · refine List.filterMap_eq_nil_iff.mpr fun x hx => ?_
    cases x with
    | did o => rfl
    | tell env =>
      unfold passedIn
      split
      · rename_i ref data he
        cases he
        exact absurd rfl (htell _ hx rfl ref data)
      · rfl
  · refine List.filterMap_eq_nil_iff.mpr fun x hx => ?_
    unfold acceptedIn
    split
    · exact absurd hx (hdid _)
    · rfl

theorem idle_nil : Idle ([] : List (SocketEffect δ)) := ⟨rfl, rfl⟩

/-- One message more that is no `Write`. -/
theorem Idle.tell {xs : List (SocketEffect δ)} (h : Idle xs) {env : SocketEnvelope δ}
    (henv : ∀ ref data, env.message ≠ .write ref data) : Idle (.tell env :: xs) := by
  have hnone : passedIn (.tell env : SocketEffect δ) = none := by
    unfold passedIn
    split
    · rename_i ref data he
      cases he
      exact absurd rfl (henv ref data)
    · rfl
  exact ⟨(List.filterMap_cons_none hnone).trans h.1, h.2⟩

/-- What is idle passes on what it takes. -/
theorem Idle.passes {xs : List (SocketEffect δ)} (h : Idle xs) :
    xs.filterMap passedIn = xs.filterMap acceptedIn := h.1.trans h.2.symm

theorem idle_superNew (setup : SocketSetup) :
    Idle (SocketTcpActor.superNew setup : List (SocketEffect δ)) := by
  refine idle_of (fun env henv _ ref data => ?_) fun data hx => ?_
  · cases SocketTcpActor.eq_of_mem_superNew henv
    exact nofun
  · cases SocketTcpActor.eq_of_mem_superNew hx

/-- **The actor passes on what it takes, or drops it**: it has not become another. -/
theorem actor_passes (h : ClientNet net) {sender : SocketRef} {m : SocketMessage δ}
    (hstep : ActorStep (setup schedulable lisenter) net sender m t) :
    (t.2.filterMap passedIn = t.2.filterMap acceptedIn ∧
      ∀ data, m = .byteString data → net.phase = .alive → net.actor.behaviour ≠ .onReceive) ∨
    (∃ data, m = .byteString data ∧ net.phase = .alive ∧ net.actor.behaviour = .onReceive ∧
      t = (net, [.did (.accepted data)])) := by
  cases hstep with
  | same m hm => exact .inl ⟨rfl, fun data hd ha => absurd hd (hm ha data)⟩
  | dropped data ha hb => exact .inr ⟨data, rfl, ha, hb, rfl⟩
  | passed data c r ha hb =>
    have hc : c = .connection 0 := h.behaviour c r hb
    subst hc
    exact .inl ⟨rfl, fun _ _ _ hno => nomatch hb.symm.trans hno⟩
  | forwarded ref data c r hb =>
    exact .inl ⟨Idle.passes (.tell idle_nil fun _ _ => nofun), fun _ => nofun⟩
  | stopped m hm =>
    refine .inl ⟨rfl, fun data hd => ?_⟩
    rcases hm with rfl | rfl
    · cases hd
    · cases hd
  | server conn l ha hb hl hs => exact nomatch h.isServer.symm.trans hs
  | client conn l ha hb hl hs =>
    refine .inl ⟨Idle.passes ?_, fun _ => nofun⟩
    refine .tell (.tell (.tell idle_nil ?_) ?_) ?_
    all_goals exact fun _ _ => nofun
  | restarted m l hm =>
    exact .inl ⟨(idle_superNew _).passes, fun data hd => absurd hd (hm data)⟩
  | survived m l hm =>
    exact .inl ⟨(idle_superNew _).passes, fun data hd => absurd hd (hm data)⟩
  | failed m hm =>
    exact .inl ⟨(idle_superNew _).passes, fun data hd => absurd hd (hm data)⟩

/-- A listener's writes are not the actor's. -/
theorem sender_told {self : SocketTcpLisenter} (hf : self.handleActor ≠ some .actor)
    {sender : SocketRef} {ref : Nat} {c : WriteCall δ} {env : SocketEnvelope δ}
    (h : self.told sender ref c = some env) : env.sender ≠ .actor := by
  cases c with
  | writeTo data =>
    cases h
    show self.handleActor.getD .noSender ≠ .actor
    cases hh : self.handleActor with
    | none => exact nofun
    | some r => exact fun he => hf (hh.trans (congrArg some he))
  | write data =>
    unfold SocketTcpLisenter.told SocketTcpLisenter.write at h
    cases hh : self.handleActor with
    | none =>
      rw [hh] at h
      cases h
    | some r =>
      rw [hh] at h
      cases h
      exact fun he => hf (hh.trans (congrArg some he))

theorem idle_receive (h : ClientNet net) (l ref : Nat) (data : δ) (sender : SocketRef) :
    Idle (SocketTcpHandler.receive k l ref data sender net).sent := by
  refine idle_of (fun env henv hs => absurd hs ?_) fun d hx => ?_
  · rcases List.mem_cons.mp henv with he | he
    · cases he
    · obtain ⟨env', hw, he⟩ := List.mem_map.mp he
      cases he
      obtain ⟨w, hmem, htold⟩ := List.mem_filterMap.mp hw
      rw [((net.lisenters l).calls_spec sender k.calls net.allocated).1 w hmem] at htold
      exact sender_told (h.fields l) htold
  · rcases List.mem_cons.mp hx with hx | hx
    · cases hx
    · obtain ⟨_, -, he⟩ := List.mem_map.mp hx
      cases he

theorem handler_idle (h : ClientNet net) {n : Nat} {sender : SocketRef} {m : SocketMessage δ}
    (hstep : HandlerStep k net n sender m t) : Idle t.2 := by
  cases hstep with
  | returned l ref data hn ht => exact idle_receive h l ref data sender
  | thrown l ref data hn ht => exact idle_receive h l ref data sender
  | _ => exact ⟨rfl, rfl⟩

theorem connection_idle {n : Nat} {sender : SocketRef} {m : SocketMessage δ}
    (hstep : ConnectionStep k net n sender m t) : Idle t.2 := by
  cases hstep with
  | refused ref data handler p s hn => exact idle_nil.tell fun _ _ => nofun
  | _ => exact ⟨rfl, rfl⟩

theorem recreate_idle {n : Nat} (hstep : RecreateStep net n t) : Idle t.2 := by
  cases hstep <;> exact ⟨rfl, rfl⟩

theorem act_idle (h : ClientNet net) (a : SocketAct δ) :
    Idle (SocketAct.perform (setup schedulable lisenter) a net).2 := by
  unfold SocketAct.perform
  cases a with
  | connect conn =>
    dsimp only
    split
    · exact idle_nil.tell fun _ _ => nofun
    · exact idle_nil
  | incoming n data =>
    dsimp only
    split
    · exact idle_nil.tell fun _ _ => nofun
    · exact idle_nil
  | close n =>
    dsimp only
    split
    · refine idle_of (fun env henv _ _ _ => ?_) fun _ hx => ?_
      · obtain ⟨r, -, he⟩ := List.mem_map.mp henv
        cases he
        exact nofun
      · obtain ⟨r, -, he⟩ := List.mem_map.mp hx
        cases he
    · exact ⟨rfl, rfl⟩
  | writable n =>
    dsimp only
    split <;> exact idle_nil
  | recreate n => exact recreate_idle (SocketTcpHandler.recreate_step n net)
  | write l data =>
    show Idle (SocketAct.perform (setup schedulable lisenter) (.write l data) net).2
    rcases SocketAct.perform_write (setup schedulable lisenter) l data net with
      ⟨-, hp⟩ | ⟨r, hr, hp⟩
    · rw [hp]
      exact ⟨rfl, rfl⟩
    · rw [hp]
      refine idle_of (fun env henv hs => ?_) (by simp)
      rcases List.mem_cons.mp henv with he | he
      · cases he
      · cases List.mem_singleton.mp he
        exact absurd (hr.trans (congrArg some hs)) (h.fields l)
  | stop => exact idle_nil
  | _ => exact idle_nil.tell fun _ _ => nofun

/-! ## 2. Closed connections -/

/-- A connection that is closed finds the actor stopped. -/
def ClosedStopped (net : SocketNet) : Prop :=
  ∀ c ∈ net.connections, c.closed = true → net.phase = .stopped

instance (net : SocketNet) : Decidable (ClosedStopped net) :=
  inferInstanceAs (Decidable (∀ c ∈ net.connections, c.closed = true → net.phase = .stopped))

theorem closedStopped_of {net' : SocketNet} (h : ClosedStopped net)
    (hp : net'.phase = net.phase ∨ net'.phase = .stopped)
    (hc : ∀ c ∈ net'.connections, c.closed = true → c ∈ net.connections) : ClosedStopped net' := by
  intro c hmem hclosed
  rcases hp with hp | hp
  · exact hp.trans (h c (hc c hmem hclosed) hclosed)
  · exact hp

/-- A connection changes and does not close. -/
theorem ClosedStopped.setConnection (h : ClosedStopped net) {n : Nat} {x : TcpConnection}
    (hx : x.closed = false) : ClosedStopped (net.setConnection n x) := by
  refine closedStopped_of h (.inl rfl) fun c hc hclosed => ?_
  rcases List.mem_or_eq_of_mem_set hc with hc | rfl
  · exact hc
  · exact nomatch hx.symm.trans hclosed

/-- No message closes a connection. -/
theorem closedStopped_receive (h : ClosedStopped net) (env : SocketEnvelope δ) :
    ClosedStopped ((actors δ schedulable lisenter).receive k env net).1 := by
  obtain ⟨receiver, sender, m⟩ := env
  cases receiver with
  | noSender => exact h
  | actor =>
    have hstep : ActorStep (setup schedulable lisenter) net sender m
        (SocketTcpActor.handle (setup schedulable lisenter) k sender m net) :=
      SocketTcpActor.handle_step m net
    show ClosedStopped (SocketTcpActor.handle (setup schedulable lisenter) k sender m net).1
    generalize SocketTcpActor.handle (setup schedulable lisenter) k sender m net = t at hstep ⊢
    cases hstep with
    | stopped m hm => exact closedStopped_of h (.inr rfl) fun _ hc _ => hc
    | failed m hm => exact closedStopped_of h (.inr rfl) fun _ hc _ => hc
    | _ => exact closedStopped_of h (.inl rfl) fun _ hc _ => hc
  | handler n =>
    have hstep := SocketTcpHandler.handle_step k n sender m net
    show ClosedStopped (SocketTcpHandler.handle k n sender m net).1
    generalize SocketTcpHandler.handle k n sender m net = t at hstep ⊢
    cases hstep <;> exact closedStopped_of h (.inl rfl) fun _ hc _ => hc
  | connection n =>
    have hstep := TcpConnection.handle_step k n sender m net
    show ClosedStopped (TcpConnection.handle k n sender m net).1
    generalize TcpConnection.handle k n sender m net = t at hstep ⊢
    cases hstep with
    | same m => exact h
    | registered handler p s hn => exact h.setConnection rfl
    | handed ref data handler hn => exact h.setConnection rfl
    | refused ref data handler p s hn => exact h.setConnection rfl

/-- The act closes an open connection. -/
def ClosesOpen (a : SocketAct δ) (net : SocketNet) : Prop :=
  ∃ n c, a = .close n ∧ net.connections[n]? = some c ∧ c.closed = false

/-- Nothing else the surroundings do closes a connection. -/
theorem closedStopped_perform (h : ClosedStopped net) {a : SocketAct δ} (ha : ∀ n, a ≠ .close n) :
    ClosedStopped (SocketAct.perform (setup schedulable lisenter) a net).1 := by
  cases a with
  | close n => exact absurd rfl (ha n)
  | connect conn =>
    unfold SocketAct.perform
    dsimp only
    split
    · refine closedStopped_of h (.inl rfl) fun c hc hclosed => ?_
      rcases List.mem_append.mp hc with hc | hc
      · exact hc
      · rw [List.mem_singleton.mp hc] at hclosed
        cases hclosed
    · exact h
  | incoming n data =>
    unfold SocketAct.perform
    dsimp only
    split <;> exact closedStopped_of h (.inl rfl) fun _ hc _ => hc
  | writable n =>
    unfold SocketAct.perform
    dsimp only
    split
    · rename_i x hx
      intro c hc hclosed
      rcases List.mem_or_eq_of_mem_set hc with hc | rfl
      · exact h c hc hclosed
      · exact h x (List.mem_of_getElem? hx) hclosed
    · exact h
  | recreate n =>
    have hstep := SocketTcpHandler.recreate_step (δ := δ) n net
    show ClosedStopped (SocketTcpHandler.recreate (δ := δ) n net).1
    generalize SocketTcpHandler.recreate (δ := δ) n net = t at hstep ⊢
    cases hstep <;> exact closedStopped_of h (.inl rfl) fun _ hc _ => hc
  | stop => exact closedStopped_of h (.inr rfl) fun _ hc _ => hc
  | _ => exact closedStopped_of h (.inl rfl) fun _ hc _ => hc

/-- What the surroundings do keeps closed connections with a stopped actor exactly where they do
    not close one while it runs. -/
theorem closedStopped_perform_iff (h : ClosedStopped net) (a : SocketAct δ) :
    ClosedStopped (SocketAct.perform (setup schedulable lisenter) a net).1 ↔
      (ClosesOpen a net → net.phase = .stopped) := by
  by_cases ha : ∃ n, a = .close n
  · obtain ⟨n, rfl⟩ := ha
    unfold SocketAct.perform
    dsimp only
    split
    · rename_i handler p s hn
      constructor
      · intro hafter _
        have hlt : n < net.connections.length := (List.getElem?_eq_some_iff.mp hn).1
        exact hafter ⟨handler, true, p, s⟩ (List.mem_set hlt _) rfl
      · intro hphase c _ _
        exact hphase ⟨n, _, rfl, hn, rfl⟩
    · rename_i hno
      refine ⟨fun _ hopen => ?_, fun _ => h⟩
      obtain ⟨n', ⟨handler, closed, p, s⟩, he, hc, hclosed⟩ := hopen
      cases he
      cases hclosed
      exact absurd hc (hno handler p s)
  · refine ⟨fun _ hopen => ?_, fun _ => closedStopped_perform h fun n hn => ha ⟨n, hn⟩⟩
    obtain ⟨n, _, hn, -⟩ := hopen
    exact absurd ⟨n, hn⟩ ha

/-! ## 3. Runs -/

/-- The delivery drops a byte string: the running actor has not become another. -/
def Drops (env : SocketEnvelope δ) (net : SocketNet) : Prop :=
  env.receiver = .actor ∧ (∃ data, env.message = .byteString data) ∧ net.phase = .alive ∧
    net.actor.behaviour = .onReceive

/-- A delivery passes on what the actor takes in it exactly where it drops nothing. -/
theorem receive_passes_iff (h : ClientNet net) (env : SocketEnvelope δ) :
    ((actors δ schedulable lisenter).receive k env net).2.filterMap passedIn =
        ((actors δ schedulable lisenter).receive k env net).2.filterMap acceptedIn ↔
      ¬ Drops env net := by
  obtain ⟨receiver, sender, m⟩ := env
  have hidle : receiver ≠ .actor → Idle ((actors δ schedulable lisenter).receive k
      ⟨receiver, sender, m⟩ net).2 → (((actors δ schedulable lisenter).receive k
        ⟨receiver, sender, m⟩ net).2.filterMap passedIn =
          ((actors δ schedulable lisenter).receive k ⟨receiver, sender, m⟩ net).2.filterMap
            acceptedIn ↔ ¬ Drops ⟨receiver, sender, m⟩ net) :=
    fun hr hi => ⟨fun _ hd => hr hd.1, fun _ => hi.passes⟩
  cases receiver with
  | noSender => exact hidle nofun ⟨rfl, rfl⟩
  | handler n => exact hidle nofun (handler_idle h (SocketTcpHandler.handle_step k n sender m net))
  | connection n => exact hidle nofun (connection_idle (TcpConnection.handle_step k n sender m net))
  | actor =>
    have hstep : ActorStep (setup schedulable lisenter) net sender m
        (SocketTcpActor.handle (setup schedulable lisenter) k sender m net) :=
      SocketTcpActor.handle_step m net
    show (SocketTcpActor.handle (setup schedulable lisenter) k sender m net).2.filterMap passedIn =
      (SocketTcpActor.handle (setup schedulable lisenter) k sender m net).2.filterMap acceptedIn ↔ _
    rcases actor_passes h hstep with ⟨hpass, hno⟩ | ⟨data, hm, ha, hb, ht⟩
    · refine ⟨fun _ hd => ?_, fun _ => hpass⟩
      obtain ⟨-, ⟨data, hm⟩, ha, hb⟩ := hd
      exact hno data hm ha hb
    · rw [ht]
      exact ⟨(nomatch ·), fun hno => absurd ⟨rfl, ⟨data, hm⟩, ha, hb⟩ hno⟩

section Run

variable (schedulable lisenter)

/-- What the running actor took in a run, in order. -/
def accepted (es : List (SocketEvent δ)) : List δ :=
  ((actors δ schedulable lisenter).effects es).filterMap acceptedIn

/-- What it told its connection to write, in order. -/
def passed (es : List (SocketEvent δ)) : List δ :=
  ((actors δ schedulable lisenter).effects es).filterMap passedIn

/-- The `Write`s of the actor come to the connection in the order in which they were passed on. -/
theorem delivered_prefix (es : List (SocketEvent δ)) :
    ((actors δ schedulable lisenter).delivered es).filterMap writeIn <+:
      passed schedulable lisenter es := by
  have hqueue := (actors δ schedulable lisenter).queue_sent (.connection 0) es
  unfold passed
  rw [filterMap_passedIn]
  show _ <+: ((actors δ schedulable lisenter).sent es).filterMap writeIn
  rw [← filterMap_writeIn_queue,
    ← filterMap_writeIn_queue ((actors δ schedulable lisenter).sent es), hqueue,
    List.filterMap_append]
  exact List.prefix_append _ _

/-- No byte string is lost: what the actor took was passed on to the connection, each byte string
    once and in order, and comes to it in that order; and a closed connection finds the actor
    stopped. -/
structure Sound (es : List (SocketEvent δ)) : Prop where
  passed : passed schedulable lisenter es = accepted schedulable lisenter es
  arrives : ((actors δ schedulable lisenter).delivered es).filterMap writeIn <+:
    accepted schedulable lisenter es
  closed : ClosedStopped ((actors δ schedulable lisenter).machine.after es).world

/-- What was passed on comes in order. -/
theorem sound_of_passed {es : List (SocketEvent δ)}
    (hp : SocketClient.passed schedulable lisenter es = accepted schedulable lisenter es)
    (hc : ClosedStopped ((actors δ schedulable lisenter).machine.after es).world) :
    Sound schedulable lisenter es := ⟨hp, hp ▸ delivered_prefix schedulable lisenter es, hc⟩

instance [DecidableEq δ] (es : List (SocketEvent δ)) : Decidable (Sound schedulable lisenter es) :=
  decidable_of_iff (_ ∧ _)
    ⟨fun h => sound_of_passed schedulable lisenter h.1 h.2, fun h => ⟨h.passed, h.closed⟩⟩

/-- The event drops no byte string and closes no open connection under the running actor. -/
structure Careful (p : List (SocketEvent δ)) (e : SocketEvent δ) : Prop where
  bytes : ∀ env,
    (actors δ schedulable lisenter).taken ((actors δ schedulable lisenter).machine.after p) e =
      some env → ¬ Drops env ((actors δ schedulable lisenter).machine.after p).world
  close : ∀ a, e = .act a → ClosesOpen a ((actors δ schedulable lisenter).machine.after p).world →
    ((actors δ schedulable lisenter).machine.after p).world.phase = .stopped

/-- What an event adds. -/
theorem passed_concat_iff {p : List (SocketEvent δ)} (h : Sound schedulable lisenter p)
    (e : SocketEvent δ) :
    passed schedulable lisenter (p ++ [e]) = accepted schedulable lisenter (p ++ [e]) ↔
      ((actors δ schedulable lisenter).effectsOf p e).filterMap passedIn =
        ((actors δ schedulable lisenter).effectsOf p e).filterMap acceptedIn := by
  have hp := h.passed
  unfold passed accepted at hp ⊢
  rw [Actors.effects_concat, List.filterMap_append, List.filterMap_append, hp,
    List.append_cancel_left_eq]

/-- **One event more** leaves it sound exactly where it is careful. -/
theorem sound_concat_iff {p : List (SocketEvent δ)} (h : Sound schedulable lisenter p)
    (e : SocketEvent δ) :
    Sound schedulable lisenter (p ++ [e]) ↔ Careful schedulable lisenter p e := by
  obtain ⟨hnet, -⟩ := clientNet schedulable lisenter p
  have hpassed := passed_concat_iff schedulable lisenter h e
  have hclosed : ∀ a, e = .act a → (ClosedStopped
      ((actors δ schedulable lisenter).machine.after (p ++ [e])).world ↔
        (ClosesOpen a ((actors δ schedulable lisenter).machine.after p).world →
          ((actors δ schedulable lisenter).machine.after p).world.phase = .stopped)) := by
    rintro a rfl
    rw [Machine.after_concat]
    exact closedStopped_perform_iff h.closed a
  obtain ⟨k, env, xs, ys, rfl, -, -, hw, -, he, hd⟩ | ⟨a, rfl, -, -, he, hd⟩ | ⟨hs, he, hd⟩ :=
    (actors δ schedulable lisenter).run_cases p e
  · have ht := (actors δ schedulable lisenter).taken_of_delivered hd
    rw [he] at hpassed
    have hpasses := @receive_passes_iff δ schedulable lisenter k _ hnet env
    constructor
    · intro hs
      refine ⟨fun env' ht' => ?_, fun _ => nofun⟩
      cases ht.symm.trans ht'
      exact hpasses.mp (hpassed.mp hs.passed)
    · intro hc
      refine sound_of_passed schedulable lisenter (hpassed.mpr (hpasses.mpr (hc.bytes env ht))) ?_
      rw [hw]
      exact closedStopped_receive h.closed env
  · have ht := (actors δ schedulable lisenter).not_taken_of_delivered hd
    constructor
    · intro hs
      exact ⟨fun env ht' => (nomatch ht.symm.trans ht'),
        fun a heq => (hclosed a heq).mp hs.closed⟩
    · intro hc
      refine sound_of_passed schedulable lisenter (hpassed.mpr ?_)
        ((hclosed a rfl).mpr (hc.close a rfl))
      rw [he]
      exact (act_idle hnet a).passes
  · have ht := (actors δ schedulable lisenter).not_taken_of_delivered hd
    constructor
    · intro hsound
      exact ⟨fun env ht' => (nomatch ht.symm.trans ht'),
        fun a heq => (hclosed a heq).mp hsound.closed⟩
    · intro _
      refine sound_of_passed schedulable lisenter (hpassed.mpr ?_) ?_
      · rw [he]
        rfl
      · rw [hs]
        exact h.closed

/-- **Byte strings are passed on and a closed connection finds the actor stopped, at every moment
    of a run, if and only if none is taken before the actor has become another and no connection
    closes while it runs.** -/
theorem sound_iff (es : List (SocketEvent δ)) :
    (∀ p, p <+: es → Sound schedulable lisenter p) ↔
      ∀ p e, p ++ [e] <+: es → Careful schedulable lisenter p e := by
  refine forall_prefix_iff_steps (sound_of_passed schedulable lisenter ?_ ?_)
    (fun p e h => sound_concat_iff schedulable lisenter h e) es
  · unfold passed accepted
    rw [socketTcp_effects_nil]
    exact (idle_superNew _).passes
  · exact fun c hc => absurd hc List.not_mem_nil

end Run

/-- A byte string taken before the connection is there is never passed on, though the connection is
    open and has its handler in the end; and the actor takes what it is sent after its connection
    has closed, and goes on when every message is processed. -/
theorem not_sound_early :
    ¬ Sound none (some 0) ([.act (.byteString 5), .deliver .actor quiet] ++ established) ∧
      (¬ Sound none (some 0) (established ++
        [.act (.close 0), .deliver (.handler 0) quiet, .act (.byteString 5),
          .deliver .actor quiet, .deliver (.connection 0) quiet]) ∧
        ((actors Nat none (some 0)).machine.after (established ++
          [.act (.close 0), .deliver (.handler 0) quiet, .act (.byteString 5),
            .deliver .actor quiet, .deliver (.connection 0) quiet])).mail = []) := by
  decide

end SocketClient

end EsbCore
