/-
  File:      EsbCore/Server/SerialportServer.lean
  Subject:   A SERIAL SERVER OVER RESTARTS (`org.esb.server.serialport.SerialportServer`,
             `SerialportListener.start`, `org.esb.server.BaseServer`).

  `preStart` makes a new listener and opens the port for it; nothing in the server closes the
  port. On a restart the port is open already: the listener's `start` prints the exception, and
  the new listener is left without streams.

  * `preStart` -- the search for the port and the opening, exceptions included;
  * `event` -- the server as its actor sees it;
  * `preStart_held` -- with the port open, `preStart` leaves a listener that cannot write;
  * `survives_iff` -- the server survives the restarts of a run exactly when there are none.
-/
import EsbCore.Server.SerialportListener
import EsbCore.Server.ServerActor

namespace EsbCore

open Java Lib

/-! ## 1. The server -/

/-- A `CommPortIdentifier`; `serial` is whether its port type is `PORT_SERIAL`. -/
structure CommPortIdentifier where
  name : String
  serial : Bool
  deriving DecidableEq, Repr

/-- A `Serialport`, as far as the search for its port asks. -/
structure Serialport where
  portName : Option String
  deriving DecidableEq, Repr

/-- How an attempt to open a port turns out, where it is not open already: whether somebody else
    holds it, and whether asking for its streams fails. -/
structure Opening where
  inUse : Bool
  inputFails : Bool
  outputFails : Bool
  deriving DecidableEq, Repr

/-- The fields of a listener that opening sets; an open port and its streams go by its name. -/
structure SerialportListener where
  portId : Option CommPortIdentifier
  serialPort : Option String
  inputStream : Option String
  outputStream : Option String
  deriving DecidableEq, Repr

namespace SerialportListener

/-- `new SerialportListener()`. -/
def new : SerialportListener := ⟨none, none, none, none⟩

/-- `start()`, where `held` are the ports that are open. The exceptions of the serial library are
    printed and go no further; parameters, event listener and thread come after the streams and
    change no field. -/
def start (self : SerialportListener) (o : Opening) (held : List String) :
    Reaction (SerialportListener × List String) Empty Throwable :=
  match self.portId with
  | none => ⟨(self, held), [], some .nullPointer⟩
  | some id =>
    -- PortInUseException
    if id.name ∈ held ∨ o.inUse then ⟨(self, held), [], none⟩
    -- IOException of getInputStream, of getOutputStream
    else if o.inputFails then
      ⟨({ self with serialPort := id.name }, id.name :: held), [], none⟩
    else if o.outputFails then
      ⟨({ self with serialPort := id.name, inputStream := id.name }, id.name :: held), [], none⟩
    else
      ⟨({ self with serialPort := id.name, inputStream := id.name, outputStream := id.name },
        id.name :: held), [], none⟩

/-- `write(data)`: the port whose stream the data goes to. -/
def write (self : SerialportListener) (data : List JByte) :
    Except Throwable (String × List JByte) :=
  match self.outputStream with
  | none => .error .nullPointer
  | some port => .ok (port, data)

end SerialportListener

/-- The server's listener, and the ports that are open. -/
structure SerialWorld where
  listener : Option SerialportListener
  held : List String
  deriving DecidableEq, Repr

/-- The surroundings at a moment: what the subclass's own methods throw, and the ports that are
    enumerated, with what would come of opening them. -/
structure SerialEnv where
  user : Hook → Option Throwable
  ports : List (CommPortIdentifier × Opening)

namespace SerialportServer

variable (serialport : Serialport)

/-- `write(data)`. -/
def write (w : SerialWorld) (data : List JByte) : Except Throwable (String × List JByte) :=
  match w.listener with
  | none => .error .nullPointer
  | some l => l.write data

/-- The listener is given a port and started. -/
def startOn (id : CommPortIdentifier) (o : Opening) (w : SerialWorld) :
    Reaction SerialWorld Empty Throwable :=
  match w.listener with
  | none => ⟨w, [], some .nullPointer⟩
  | some l =>
    let r := { l with portId := some id }.start o w.held
    ⟨⟨some r.self.1, r.self.2⟩, [], r.thrown⟩

/-- The loop over the enumerated ports. -/
def search : List (CommPortIdentifier × Opening) → SerialWorld →
    Reaction SerialWorld Empty Throwable
  | [], w => ⟨w, [], none⟩
  | (id, o) :: ports, w =>
    if id.serial ∧ serialport.portName = some id.name then
      (startOn id o w).andThen (search ports)
    else search ports w

/-- `preStart()`. -/
def preStart (k : SerialEnv) (w : SerialWorld) : Reaction SerialWorld Empty Throwable :=
  search serialport k.ports ⟨some .new, w.held⟩

/-- The server: `preRun`, `run` and `postRun` are the subclass's, the other hooks those of
    `BaseServer`, which do nothing. -/
def event : ServerEvent SerialWorld SerialEnv Empty where
  method
    | .preStart, k, w => preStart serialport k w
    | .preRun, k, w => ⟨w, [], k.user .preRun⟩
    | .run, k, w => ⟨w, [], k.user .run⟩
    | .postRun, k, w => ⟨w, [], k.user .postRun⟩
    | .postStop, _, w => ⟨w, [], none⟩
    | .preRestart, _, w => ⟨w, [], none⟩
    | .postRestart, _, w => ⟨w, [], none⟩

/-- The actor of a serial server. -/
abbrev lifeClass (schedulable : Option Schedulable) :
    LifeClass SerialWorld ServerMessage SerialEnv (ServerOutput Empty) Throwable :=
  ServerActor.lifeClass (event serialport) schedulable

/-- Its life, from a state in which no port is open. -/
abbrev life (schedulable : Option Schedulable) :
    Machine (Life SerialWorld) (LifeEvent ServerMessage SerialEnv)
      (LifeOutput (ServerOutput Empty)) :=
  (lifeClass serialport schedulable).life ⟨none, []⟩

/-! ## 2. Opening -/

/-- A port opened is one that was not open. -/
theorem start_held (l : SerialportListener) (o : Opening) (held : List String) :
    (l.start o held).self.2 = held ∨
      ∃ id, l.portId = some id ∧ id.name ∉ held ∧ (l.start o held).self.2 = id.name :: held := by
  unfold SerialportListener.start
  cases hid : l.portId with
  | none => exact .inl rfl
  | some id =>
    by_cases hin : id.name ∈ held ∨ o.inUse
    · left
      simp only [if_pos hin]
    · right
      refine ⟨id, rfl, fun h => hin (.inl h), ?_⟩
      simp only [if_neg hin]
      split
      · rfl
      · split <;> rfl

/-- **A port that is open is not opened again**: the listener keeps the streams it has. -/
theorem start_of_mem {l : SerialportListener} {id : CommPortIdentifier} {held : List String}
    (hl : l.portId = some id) (h : id.name ∈ held) (o : Opening) :
    l.start o held = ⟨(l, held), [], none⟩ := by
  simp only [SerialportListener.start, hl, if_pos (Or.inl h : id.name ∈ held ∨ o.inUse)]

theorem startOn_held (id : CommPortIdentifier) (o : Opening) (w : SerialWorld) :
    (startOn id o w).self.held = w.held ∨
      id.name ∉ w.held ∧ (startOn id o w).self.held = id.name :: w.held := by
  unfold startOn
  cases w.listener with
  | none => exact .inl rfl
  | some l =>
    rcases start_held { l with portId := some id } o w.held with h | ⟨id', hid, hn, h⟩
    · exact .inl h
    · cases hid
      exact .inr ⟨hn, h⟩

/-- What every opening keeps: no port is open twice, and an open port stays open. -/
theorem search_held : ∀ (ports : List (CommPortIdentifier × Opening)) {w : SerialWorld},
    w.held.Nodup → (search serialport ports w).self.held.Nodup ∧
      ∀ name ∈ w.held, name ∈ (search serialport ports w).self.held
  | [], _, h => ⟨h, fun _ hn => hn⟩
  | (id, o) :: ports, w, h => by
    unfold search
    split
    · have hstep : (startOn id o w).self.held.Nodup ∧
          ∀ name ∈ w.held, name ∈ (startOn id o w).self.held := by
        rcases startOn_held id o w with he | ⟨hn, he⟩
        · rw [he]
          exact ⟨h, fun _ hm => hm⟩
        · rw [he]
          exact ⟨List.nodup_cons.mpr ⟨hn, h⟩, fun _ hm => List.mem_cons_of_mem _ hm⟩
      cases ht : (startOn id o w).thrown with
      | some e =>
        rw [Reaction.andThen_thrown ht]
        exact hstep
      | none =>
        rw [Reaction.andThen_returned ht]
        obtain ⟨hnd, hm⟩ := search_held ports hstep.1
        exact ⟨hnd, fun name hn => hm name (hstep.2 name hn)⟩
    · exact search_held ports h

theorem preStart_opens (k : SerialEnv) {w : SerialWorld} (h : w.held.Nodup) :
    (preStart serialport k w).self.held.Nodup ∧
      ∀ name ∈ w.held, name ∈ (preStart serialport k w).self.held :=
  search_held serialport k.ports (w := ⟨some .new, w.held⟩) h

/-- While the configured port is open, the search opens nothing. -/
theorem search_of_mem {name : String} (hname : serialport.portName = some name) :
    ∀ (ports : List (CommPortIdentifier × Opening)) {l : SerialportListener} {held : List String},
      name ∈ held → ∃ l', search serialport ports ⟨some l, held⟩ = ⟨⟨some l', held⟩, [], none⟩ ∧
        l'.outputStream = l.outputStream
  | [], l, _, _ => ⟨l, rfl, rfl⟩
  | (id, o) :: ports, l, held, h => by
    unfold search
    split
    · rename_i hid
      have he : id.name = name := Option.some.inj (hid.2.symm.trans hname)
      have hstart : startOn id o ⟨some l, held⟩ =
          ⟨⟨some { l with portId := some id }, held⟩, [], none⟩ := by
        have hmem : id.name ∈ held := he ▸ h
        have hs := start_of_mem (l := { l with portId := some id }) rfl hmem o
        simp only [startOn, hs]
      obtain ⟨l', hl', ho⟩ := search_of_mem hname ports (l := { l with portId := some id }) h
      refine ⟨l', ?_, ho⟩
      rw [hstart, Reaction.andThen_returned rfl, hl']
      rfl
    · exact search_of_mem hname ports h

/-- **With the port open, `preStart` leaves a listener that cannot write.** -/
theorem preStart_held {name : String} (hname : serialport.portName = some name) (k : SerialEnv)
    {w : SerialWorld} (h : name ∈ w.held) (data : List JByte) :
    write (preStart serialport k w).self data = .error .nullPointer := by
  obtain ⟨l, hl, ho⟩ := search_of_mem serialport hname k.ports (l := .new) h
  unfold preStart
  rw [hl]
  simp only [write, SerialportListener.write, ho, SerialportListener.new]

/-! ## 3. Restarts -/

variable {serialport} {schedulable : Option Schedulable}

theorem self_onReceive (k : SerialEnv) (m : ServerMessage) (w : SerialWorld) :
    (ServerActor.onReceive (event serialport) k m w).self = w := by
  cases m with
  | other => rfl
  | run => exact Reaction.self_andThen (Reaction.self_andThen rfl rfl) rfl

/-- A start leaves what the server's `preStart` leaves. -/
theorem self_preStart (k : SerialEnv) (w : SerialWorld) :
    (ServerActor.preStart (event serialport) k w).self = (preStart serialport k w).self := by
  cases ht : (preStart serialport k w).thrown with
  | none =>
    have hc : (ServerActor.call (event serialport) .preStart k w).thrown = none := ht
    unfold ServerActor.preStart
    rw [Reaction.andThen_returned hc]
    rfl
  | some e =>
    have hc : (ServerActor.call (event serialport) .preStart k w).thrown = some e := ht
    unfold ServerActor.preStart
    rw [Reaction.andThen_thrown hc]
    rfl

/-- And so does a restart. -/
theorem self_reborn (k : SerialEnv) (w : SerialWorld) :
    ((lifeClass serialport schedulable).reborn k w).self = (preStart serialport k w).self :=
  self_preStart k w

theorem world_recreate (k : SerialEnv) (w : SerialWorld) :
    ((lifeClass serialport schedulable).recreate k w).1.world =
      (preStart serialport k w).self := by
  unfold LifeClass.recreate
  split
  · exact self_reborn k w
  · exact self_reborn k w

variable (serialport schedulable) in
/-- **What one event leaves**: the world as it was, or as `preStart` leaves it. -/
theorem world_step (l : Life SerialWorld) (e : LifeEvent ServerMessage SerialEnv) :
    ((life serialport schedulable).step l e).1.world = l.world ∨
      ∃ k, ((life serialport schedulable).step l e).1.world =
        (preStart serialport k l.world).self := by
  obtain ⟨k, -, -, hs⟩ | ⟨m, d, k, -, -, hs⟩ | ⟨k, -, -, hs⟩ | ⟨k, -, -, hs⟩ | ⟨hs, -⟩ :=
    LifeClass.step_cases (lifeClass serialport schedulable) ⟨none, []⟩ l e
  · right
    refine ⟨k, ?_⟩
    rw [hs]
    unfold LifeClass.create
    split
    · exact self_preStart k l.world
    · exact self_preStart k l.world
  · rw [hs]
    cases ht : ((lifeClass serialport schedulable).onReceive k m l.world).thrown with
    | none =>
      left
      rw [LifeClass.handle_returned ht]
      exact self_onReceive k m l.world
    | some x =>
      rw [LifeClass.handle_thrown (by simp [ht])]
      have hself : ((lifeClass serialport schedulable).onReceive k m l.world).self = l.world :=
        self_onReceive k m l.world
      rw [hself]
      cases d with
      | restart => exact .inr ⟨k, world_recreate k l.world⟩
      | stop => exact .inl rfl
  · right
    rw [hs]
    exact ⟨k, world_recreate k l.world⟩
  · left
    rw [hs]
    rfl
  · left
    rw [hs]

/-- A restart leaves what `preStart` leaves of the world before it. -/
theorem world_of_restarts {p : List (LifeEvent ServerMessage SerialEnv)}
    {e : LifeEvent ServerMessage SerialEnv}
    (h : (lifeClass serialport schedulable).Restarts ⟨none, []⟩ p e) :
    ∃ k, ((life serialport schedulable).after (p ++ [e])).world =
      (preStart serialport k ((life serialport schedulable).after p).world).self := by
  obtain ⟨hp, hR⟩ := h
  obtain ⟨k, hu, -, -⟩ | ⟨m, d, k, -, rfl, hs⟩ | ⟨k, -, rfl, hs⟩ | ⟨k, -, rfl, -⟩ | ⟨-, hq⟩ :=
    LifeClass.step_cases (lifeClass serialport schedulable) ⟨none, []⟩
      ((life serialport schedulable).after p) e
  · exact nomatch hu.symm.trans hp
  · obtain ⟨m', k', he, ht, -⟩ | ⟨k', he, -⟩ := hR
    · cases he
      refine ⟨k, ?_⟩
      rw [Machine.after_concat, hs, LifeClass.handle_thrown ht]
      show ((lifeClass serialport schedulable).recreate k _).1.world = _
      rw [world_recreate]
      exact congrArg (fun w => (preStart serialport k w).self) (self_onReceive k m _)
    · cases he
  · refine ⟨k, ?_⟩
    rw [Machine.after_concat, hs]
    exact world_recreate k _
  · obtain ⟨m', k', he, -⟩ | ⟨k', he, -⟩ := hR
    · cases he
    · cases he
  · obtain ⟨k, rfl⟩ := hq hp
    obtain ⟨m', k', he, -⟩ | ⟨k', he, -⟩ := hR
    · cases he
    · cases he

/-- No port is ever open twice. -/
theorem nodup_held (es : List (LifeEvent ServerMessage SerialEnv)) :
    ((life serialport schedulable).after es).world.held.Nodup := by
  refine (life serialport schedulable).state_inv (P := fun l => l.world.held.Nodup)
    List.nodup_nil ?_ es
  intro l e h
  rcases world_step serialport schedulable l e with he | ⟨k, he⟩
  · rw [he]
    exact h
  · rw [he]
    exact (preStart_opens serialport k h).1

/-- A port stays open. -/
theorem mem_held_append {name : String} (p es : List (LifeEvent ServerMessage SerialEnv))
    (h : name ∈ ((life serialport schedulable).after p).world.held) :
    name ∈ ((life serialport schedulable).after (p ++ es)).world.held := by
  induction es using List.reverseRecOn with
  | nil => rwa [List.append_nil]
  | append_singleton es e ih =>
    rw [← List.append_assoc, Machine.after_concat]
    rcases world_step serialport schedulable
      ((life serialport schedulable).after (p ++ es)) e with he | ⟨k, he⟩
    · rw [he]
      exact ih
    · rw [he]
      exact (preStart_opens serialport k (nodup_held (p ++ es))).2 name ih

/-- After each completed restart the server writes to its port, and at no moment is the port open
    more than once. -/
structure Survives (serialport : Serialport) (schedulable : Option Schedulable) (name : String)
    (es : List (LifeEvent ServerMessage SerialEnv)) : Prop where
  writes : ∀ p e, p ++ [e] <+: es →
    (lifeClass serialport schedulable).Restarts ⟨none, []⟩ p e → ∀ data,
      write ((life serialport schedulable).after (p ++ [e])).world data = .ok (name, data)
  once : ∀ p, p <+: es → ((life serialport schedulable).after p).world.held.count name ≤ 1

/-- **A serial server whose port was opened at the start survives the restarts of a run if and
    only if there are none.** -/
theorem survives_iff {name : String} (hname : serialport.portName = some name) (k : SerialEnv)
    (hk : name ∈ ((life serialport schedulable).after [.start k]).world.held)
    (es : List (LifeEvent ServerMessage SerialEnv)) :
    Survives serialport schedulable name (.start k :: es) ↔
      ∀ p e, p ++ [e] <+: .start k :: es →
        ¬ (lifeClass serialport schedulable).Restarts ⟨none, []⟩ p e := by
  constructor
  · intro h p e hp hR
    have hopen : name ∈ ((life serialport schedulable).after p).world.held := by
      cases p with
      | nil => exact nomatch hR.1
      | cons e' q =>
        obtain ⟨rfl, -⟩ := List.cons_prefix_cons.mp hp
        exact mem_held_append [.start k] q hk
    obtain ⟨k', hw⟩ := world_of_restarts hR
    have hwrite := h.writes p e hp hR []
    rw [hw, preStart_held serialport hname k' hopen] at hwrite
    cases hwrite
  · intro h
    exact { writes := fun p e hp hR => absurd hR (h p e hp)
            once := fun p _ => List.nodup_iff_count_le_one.mp (nodup_held p) name }

/-- The surroundings of a server whose port `COM1` is there, when `run` throws what it is told. -/
def com1 (thrown : Option Throwable) : SerialEnv where
  user h := if h = .run then thrown else none
  ports := [(⟨"COM1", true⟩, ⟨false, false, false⟩)]

/-- It is opened, and `run` succeeds. -/
theorem survives_quiet :
    Survives ⟨some "COM1"⟩ none "COM1" [.start (com1 none), .message .run .restart (com1 none)] := by
  refine (survives_iff rfl (com1 none) (by decide) _).mpr fun p e hp hR => ?_
  have hmem := hp.subset (List.mem_append_right p List.mem_cons_self)
  obtain ⟨-, ⟨m, k, rfl, ht, -⟩ | ⟨k, rfl, -⟩⟩ := hR
  · simp only [List.mem_cons, reduceCtorEq, LifeEvent.message.injEq, List.not_mem_nil, or_false,
      false_or, true_and] at hmem
    obtain ⟨rfl, rfl⟩ := hmem
    exact ht rfl
  · simp at hmem

/-- It is opened, and `run` fails once: the port is open, and the server cannot write. -/
theorem not_survives_failed :
    ¬ Survives ⟨some "COM1"⟩ none "COM1"
      [.start (com1 none), .message .run .restart (com1 (some .nullPointer))] := by
  intro h
  have hw := h.writes [.start (com1 none)] (.message .run .restart (com1 (some .nullPointer)))
    List.prefix_rfl ⟨rfl, .inl ⟨.run, _, rfl, by decide, rfl⟩⟩ []
  revert hw
  decide

end SerialportServer

end EsbCore
