/-
  File:      EsbCore/Http/DispatcherServlet.lean
  Subject:   ONE SERVLET FOR MANY SERVERS (`org.esb.http.servlet.DispatcherServlet`,
             `org.esb.http.servlet.ServletHttpServer`, `org.esb.http.servlet.ServletHttpBinder`,
             `org.esb.http.AbstractHttpServer`).

  A server that is bound puts its handler into a table all servers share, under its port; the
  servlet looks the port of a request up there. `stop` of a server is empty: NOTHING takes a handler
  out of the table, although there is a method that would.

  * `HttpSystem.step`, `service` -- the operations, and what becomes of a request;
  * `Bound`, `current` -- what there is to follow: the servers with what is left of them, and the
    one bound last on a port that has not been stopped;
  * `handlers_after` -- the table has the handler bound last, stopped or not;
  * `dispatches_iff` -- so dispatch follows the live servers exactly where a stopped server, bound
    last on its port, has left a live one with the same handler.
-/
import EsbCore.Lib.LastWith
import EsbCore.Lib.Machine
import EsbCore.Protocol.Beans

namespace EsbCore

open Java Lib

/-! ## 1. Servers -/

/-- A reference to a handler: which one. -/
abbrev HandlerRef := Nat

/-- A server object, as `AbstractHttpServer` has it. -/
structure HttpServer where
  url : URL
  handler : HandlerRef
  deriving DecidableEq, Repr

/-- The servers made so far, and the table of the servlet's class. -/
structure HttpSystem where
  servers : List HttpServer
  handlers : AList fun _ : Int => HandlerRef

/-- What is done to it: a server is bound, arguments that may be null, and the server made as the
    `i`-th is started or stopped. -/
inductive HttpOp where
  | bind (url : Option URL) (handler : Option HandlerRef)
  | start (i : Nat)
  | stop (i : Nat)
  deriving DecidableEq, Repr

/-- What comes of an operation: a server, or an exception. -/
inductive HttpOutput where
  | bound (server : HttpServer)
  | thrown (e : Throwable)
  deriving DecidableEq, Repr

/-- What becomes of a request. -/
inductive ServiceOutput where
  | sendError (sc : Int) (msg : String)
  | handle (handler : HandlerRef)
  deriving DecidableEq, Repr

/-- `new AbstractHttpServer(url, handler)`. -/
def HttpServer.new (url : Option URL) (handler : Option HandlerRef) :
    Except Throwable HttpServer :=
  match url, handler with
  | none, _ => .error .illegalArgument
  | some _, none => .error .illegalArgument
  | some url, some handler => .ok ⟨url, handler⟩

namespace HttpSystem

/-- `DispatcherServlet.addHttpHandler(port, processor)`. -/
def addHttpHandler (self : HttpSystem) (port : Int) (processor : HandlerRef) : HttpSystem :=
  { self with handlers := AList.insert port processor self.handlers }

/-- `ServletHttpBinder.bind(url, handler)`: `new ServletHttpServer(url, handler)`. -/
def bind (self : HttpSystem) (url : Option URL) (handler : Option HandlerRef) :
    HttpSystem × List HttpOutput :=
  match HttpServer.new url handler with
  | .error e => (self, [.thrown e])
  | .ok server =>
    ({ self with servers := self.servers ++ [server] }.addHttpHandler server.url.port
      server.handler, [.bound server])

/-- An operation; `start()` and `stop()` of `AbstractHttpServer` are empty. -/
def step (self : HttpSystem) : HttpOp → HttpSystem × List HttpOutput
  | .bind url handler => self.bind url handler
  | .start _ => (self, [])
  | .stop _ => (self, [])

/-- The system under operations, no server at first. -/
def machine : Machine HttpSystem HttpOp HttpOutput where
  start := (⟨[], ∅⟩, [])
  step := step

/-- `service(request, response)`, of the local port of the request. -/
def service (self : HttpSystem) (localPort : Int) : ServiceOutput :=
  match AList.lookup localPort self.handlers with
  | none => .sendError 404 "Service not found."
  | some handler => .handle handler

/-! ## 2. What there is to follow -/

/-- A server, and whether it has not been stopped. -/
structure Bound where
  server : HttpServer
  live : Bool
  deriving DecidableEq, Repr

/-- The servers a caller has, with what it has done to them. -/
def record (bs : List Bound) : HttpOp → List Bound
  | .bind (some url) (some handler) => bs ++ [⟨⟨url, handler⟩, true⟩]
  | .bind _ _ => bs
  | .start _ => bs
  | .stop i => bs.modify i fun b => { b with live := false }

/-- The servers after some operations, in the order they were bound. -/
def bounds (es : List HttpOp) : List Bound := es.foldl record []

/-- The server bound last on a port. -/
def lastBound (bs : List Bound) (port : Int) : Option Bound :=
  lastWith (fun b => decide (b.server.url.port = port)) bs

/-- The server bound last on a port of those that have not been stopped. -/
def current (bs : List Bound) (port : Int) : Option Bound :=
  lastWith (fun b => decide (b.server.url.port = port) && b.live) bs

/-- The operation is on a server of the port. -/
def OnPort (self : HttpSystem) (port : Int) : HttpOp → Prop
  | .bind url _ => ∃ u, url = some u ∧ u.port = port
  | .start i => ∃ server, self.servers[i]? = some server ∧ server.url.port = port
  | .stop i => ∃ server, self.servers[i]? = some server ∧ server.url.port = port

/-- After the operations, a request is passed to the handler of the server bound last on its port
    of those not stopped, and answered "not found" if there is none; and no further operation on
    another port changes that. -/
structure Dispatches (es : List HttpOp) : Prop where
  handled : ∀ port b, current (bounds es) port = some b →
    (machine.after es).service port = .handle b.server.handler
  notFound : ∀ port, current (bounds es) port = none ↔
    (machine.after es).service port = .sendError 404 "Service not found."
  separate : ∀ e port, ¬ (machine.after es).OnPort port e →
    (machine.after (es ++ [e])).service port = (machine.after es).service port

/-! ## 3. The table -/

theorem bounds_concat (es : List HttpOp) (e : HttpOp) :
    bounds (es ++ [e]) = record (bounds es) e := by
  unfold bounds
  rw [List.foldl_append]
  rfl

/-- The handler of the server bound last, by the servers alone. -/
theorem lastBound_eq (bs : List Bound) (port : Int) :
    (lastBound bs port).map Bound.server =
      lastWith (fun s : HttpServer => decide (s.url.port = port)) (bs.map Bound.server) :=
  map_lastWith Bound.server (fun s : HttpServer => decide (s.url.port = port)) bs

/-- A stopped server is still the server it was. -/
theorem server_record_stop (bs : List Bound) (i : Nat) :
    (record bs (.stop i)).map Bound.server = bs.map Bound.server :=
  map_modify_of_eq (f := fun b : Bound => { b with live := false }) (fun _ => rfl) bs i

/-- **What one operation does**: it leaves servers and table as they are, or it binds a server. -/
theorem step_cases (self : HttpSystem) (bs : List Bound) (e : HttpOp) :
    ((self.step e).1 = self ∧ (record bs e).map Bound.server = bs.map Bound.server) ∨
    ∃ url handler, e = .bind (some url) (some handler) ∧
      (self.step e).1 =
        { self with servers := self.servers ++ [HttpServer.mk url handler] }.addHttpHandler
          url.port handler ∧
      (record bs e).map Bound.server = bs.map Bound.server ++ [⟨url, handler⟩] := by
  cases e with
  | start i => exact .inl ⟨rfl, rfl⟩
  | stop i => exact .inl ⟨rfl, server_record_stop bs i⟩
  | bind url handler =>
    cases url with
    | none => exact .inl ⟨rfl, rfl⟩
    | some url =>
      cases handler with
      | none => exact .inl ⟨rfl, rfl⟩
      | some handler => exact .inr ⟨url, handler, rfl, rfl, List.map_append⟩

/-- **The table has the handler of the server bound last on each port**, stopped or not. -/
theorem handlers_after (es : List HttpOp) :
    (machine.after es).servers = (bounds es).map Bound.server ∧
      ∀ port, AList.lookup port (machine.after es).handlers =
        (lastBound (bounds es) port).map fun b => b.server.handler := by
  have hshown : ∀ bs port, ((lastBound bs port).map fun b => b.server.handler) =
      (lastWith (fun s : HttpServer => decide (s.url.port = port)) (bs.map Bound.server)).map
        HttpServer.handler := by
    intro bs port
    rw [← lastBound_eq, Option.map_map]
    rfl
  simp only [hshown]
  refine machine.history_inv (I := fun es s _ => s.servers = (bounds es).map Bound.server ∧
    ∀ port, AList.lookup port s.handlers = (lastWith (fun s : HttpServer =>
      decide (s.url.port = port)) ((bounds es).map Bound.server)).map HttpServer.handler)
    ⟨rfl, fun _ => rfl⟩ ?_ es
  intro es s os e h
  obtain ⟨hservers, hhandlers⟩ := h
  rw [bounds_concat]
  show (s.step e).1.servers = _ ∧ ∀ port, AList.lookup port (s.step e).1.handlers = _
  rcases s.step_cases (bounds es) e with ⟨hs, hrecord⟩ | ⟨url, handler, -, hs, hrecord⟩
  · rw [hs, hrecord]
    exact ⟨hservers, hhandlers⟩
  · rw [hs, hrecord]
    refine ⟨congrArg (· ++ _) hservers, fun port => ?_⟩
    rw [lastWith_concat]
    show AList.lookup port (AList.insert url.port handler s.handlers) = _
    by_cases hp : url.port = port
    · subst hp
      rw [AList.lookup_insert, if_pos (decide_eq_true rfl)]
      rfl
    · rw [AList.lookup_insert_ne (Ne.symm hp), if_neg (by simpa using hp)]
      exact hhandlers port

/-- What becomes of a request: the handler of the server bound last has it. -/
theorem service_after (es : List HttpOp) (port : Int) :
    (machine.after es).service port =
      match lastBound (bounds es) port with
      | none => .sendError 404 "Service not found."
      | some b => .handle b.server.handler := by
  unfold service
  rw [(handlers_after es).2]
  cases lastBound (bounds es) port <;> rfl

/-- An operation on another port leaves the entry of a port as it is. -/
theorem service_step {self : HttpSystem} {e : HttpOp} {port : Int} (h : ¬ self.OnPort port e) :
    (self.step e).1.service port = self.service port := by
  rcases self.step_cases [] e with ⟨hs, -⟩ | ⟨url, handler, rfl, hs, -⟩
  · rw [hs]
  · have hp : port ≠ url.port := fun he => h ⟨url, rfl, he.symm⟩
    have hlookup : AList.lookup port (self.step (.bind (some url) (some handler))).1.handlers =
        AList.lookup port self.handlers := by
      rw [hs]
      exact AList.lookup_insert_ne hp
    unfold service
    rw [hlookup]

/-! ## 4. Dispatch -/

/-- Where the server bound last is the current one, or has left one that does for it: there is no
    server on the port, or the two have the same handler. -/
theorem lastBound_cases {bs : List Bound} {port : Int}
    (h : ∀ b, lastBound bs port = some b → b.live = false →
      ∃ b', current bs port = some b' ∧ b'.server.handler = b.server.handler) :
    (lastBound bs port = none ∧ current bs port = none) ∨
      ∃ b b', lastBound bs port = some b ∧ current bs port = some b' ∧
        b'.server.handler = b.server.handler := by
  cases hl : lastBound bs port with
  | none => exact .inl ⟨rfl, lastWith_and_eq_none hl Bound.live⟩
  | some b =>
    cases hlive : b.live with
    | true => exact .inr ⟨b, b, rfl, lastWith_and hl hlive, rfl⟩
    | false =>
      obtain ⟨b', hb', he⟩ := h b hl hlive
      exact .inr ⟨b, b', rfl, hb', he⟩

/-- **Dispatch follows the live servers if and only if**, on every port whose server bound last has
    been stopped, a server is left whose handler is the same. -/
theorem dispatches_iff (es : List HttpOp) :
    Dispatches es ↔ ∀ port b, lastBound (bounds es) port = some b → b.live = false →
      ∃ b', current (bounds es) port = some b' ∧ b'.server.handler = b.server.handler := by
  constructor
  · intro h port b hb hdead
    have hservice := service_after es port
    rw [hb] at hservice
    cases hc : current (bounds es) port with
    | none =>
      rw [(h.notFound port).mp hc] at hservice
      cases hservice
    | some b' =>
      rw [h.handled port b' hc] at hservice
      exact ⟨b', rfl, ServiceOutput.handle.inj hservice⟩
  · intro h
    refine ⟨fun port b hb => ?_, fun port => ?_, fun e port hp => ?_⟩
    · rw [service_after]
      rcases lastBound_cases (h port) with ⟨-, hnone⟩ | ⟨b₁, b₂, hl, hc, he⟩
      · rw [hnone] at hb
        cases hb
      · rw [hc] at hb
        cases hb
        rw [hl, he]
    · rw [service_after]
      rcases lastBound_cases (h port) with ⟨hl, hnone⟩ | ⟨b₁, b₂, hl, hc, -⟩
      · rw [hl, hnone]
        exact iff_of_true rfl rfl
      · rw [hl, hc]
        exact iff_of_false nofun nofun
    · rw [Machine.after_concat]
      exact service_step hp

/-- A server is bound and stopped: its handler still has the requests. -/
theorem not_dispatches_stopped :
    ¬ Dispatches [.bind (some ⟨some "h", 8080, some "http", none⟩) (some 0), .stop 0] := by
  intro h
  have hnone : current (bounds [.bind (some ⟨some "h", 8080, some "http", none⟩) (some 0),
      .stop 0]) 8080 = none := by decide
  have hfound := (h.notFound 8080).mp hnone
  revert hfound
  decide

end HttpSystem

end EsbCore
