/-
  File:      EsbCore/Protocol/AbstractProtocol.lean
  Subject:   ONE PROTOCOL (`org.esb.protocol.AbstractProtocol`, `org.esb.rpc.DefaultProtocol`,
             `org.esb.rpc.webservice.WebServiceProtocol`, `org.esb.rpc.rest.RestServiceProtocol`).

  The three classes share `provide` and `consume` and differ in their names, ports, default URLs
  and in what providing and consuming does; `ProtocolClass` says which one an object is of.

  A web service protocol has one `svrFactory` for all its providers. What that invokes is made at
  its first `create()`, from the service bean it has then, and it keeps it. The RESTful protocol
  has one `sf`, which is given resources until it is started; of each class it serves the one it
  was given last.

  * `AbstractProtocol.provide`, `AbstractProtocol.consume` -- the shared methods;
  * `provide_default`, `provide_webservice`, `provide_restful` -- what providing does: the default
    protocol tells its server, and the other two always have a URL to provide under.
-/
import EsbCore.Lib.Actor
import EsbCore.Protocol.Beans
import Mathlib.Data.Finset.Insert

namespace EsbCore

open Java Lib

/-! ## 1. The classes -/

/-- The class of a protocol object; a `DefaultProtocol` has its server actor. -/
inductive ProtocolClass where
  | default (rpcServerActor : ActorRef)
  | webservice
  | restful
  deriving DecidableEq, Repr

/-- What protocols and their factory do to the outside. `published` is a `svrFactory.create()`: its
    address, the service bean set, and the object that the server invokes. -/
inductive ProtocolOutput where
  | actorOf (server : ActorRef)
  | tell (server : ActorRef) (provider : ProviderBean)
  | published (address : String) (serviceBean invoked : Bean)
  | resource (implementor : Bean)
  | resourceAddress (address : String)
  | client (address : String) (serviceClass : Java.Class)
  deriving DecidableEq, Repr

namespace ProtocolClass

/-- `getProtocolName()`, `Protocol_Name` of each class. -/
def getProtocolName : ProtocolClass → String
  | .default _ => "default"
  | .webservice => "webservice"
  | .restful => "restful"

def getDefaultPort : ProtocolClass → Int
  | .default _ => -1
  | .webservice => 9800
  | .restful => 9900

def getProtocol : ProtocolClass → Option String
  | .default _ => none
  | .webservice => some "http"
  | .restful => some "http"

/-- `getDefaultUrl()`, of the host of the system. -/
def getDefaultUrl (host : Option String) (c : ProtocolClass) : Option URL :=
  match c with
  | .default _ => none
  | .webservice => some ⟨host, c.getDefaultPort, c.getProtocol, some "ws"⟩
  | .restful => some ⟨host, c.getDefaultPort, c.getProtocol, some "rest"⟩

/-- `doConsume(consumer, url)`, as far as its effects go. -/
def doConsume (c : ProtocolClass) (consumer : ConsumerBean) (url : Option URL) :
    List ProtocolOutput × Option Throwable :=
  match c, url with
  | .default _, _ => ([], none)
  | .webservice, none => ([], some .nullPointer)
  | .webservice, some u => ([.client (u.getFullPath ++ consumer.getName) consumer.interfaze], none)
  | .restful, _ => ([], none)

end ProtocolClass

/-! ## 2. What they share -/

/-- A protocol object with the fields of its class: what the `svrFactory` of a web service invokes,
    and the resources the `sf` of a RESTful service was given, in their order. -/
structure AbstractProtocol where
  cls : ProtocolClass
  providers : Finset String
  consumers : Finset String
  url : Option URL
  svrFactory : Option Bean
  sf : List Bean
  deriving DecidableEq

namespace AbstractProtocol

/-- A new protocol object. -/
def new (cls : ProtocolClass) : AbstractProtocol := ⟨cls, ∅, ∅, none, none, []⟩

/-- `getUrl()`: the default URL is kept once it was asked for. -/
def getUrl (self : AbstractProtocol) (host : Option String) : AbstractProtocol × Option URL :=
  match self.url with
  | some u => (self, some u)
  | none =>
    let u := self.cls.getDefaultUrl host
    ({ self with url := u }, u)

/-- `doProvide(provider, url)`; `create` is the exception of `svrFactory.create()`, if it throws. -/
def doProvide (self : AbstractProtocol) (provider : ProviderBean) (url : Option URL)
    (create : Option Throwable) : Reaction AbstractProtocol ProtocolOutput Throwable :=
  match self.cls, url with
  | .default rpcServerActor, _ => ⟨self, [.tell rpcServerActor provider], none⟩
  | .webservice, none => ⟨self, [], some .nullPointer⟩
  | .webservice, some u =>
    let invoked := self.svrFactory.getD provider.implementor
    let created := { self with svrFactory := some invoked }
    match create with
    | some e => ⟨created, [], some e⟩
    | none =>
      ⟨created, [.published (u.getFullPath ++ provider.getName) provider.implementor invoked], none⟩
  | .restful, none =>
    ⟨{ self with sf := self.sf ++ [provider.implementor] }, [.resource provider.implementor],
      some .nullPointer⟩
  | .restful, some u =>
    ⟨{ self with sf := self.sf ++ [provider.implementor] },
      [.resource provider.implementor, .resourceAddress u.getFullPath], none⟩

/-- `provide(provider)`. -/
def provide (self : AbstractProtocol) (host : Option String) (provider : ProviderBean)
    (create : Option Throwable) : Reaction AbstractProtocol ProtocolOutput Throwable :=
  let recorded := { self with providers := insert provider.getName self.providers }
  let (located, url) := recorded.getUrl host
  located.doProvide provider url create

/-- `consume(consumer)`; the URL is the field as it stands. -/
def consume (self : AbstractProtocol) (consumer : ConsumerBean) :
    Reaction AbstractProtocol ProtocolOutput Throwable :=
  let recorded := { self with consumers := insert consumer.getName self.consumers }
  let (sent, thrown) := recorded.cls.doConsume consumer recorded.url
  ⟨recorded, sent, thrown⟩

/-! ## 3. What a call does -/

/-- `doProvide` leaves what the classes share. -/
theorem shared_doProvide (self : AbstractProtocol) (provider : ProviderBean) (url : Option URL)
    (create : Option Throwable) :
    (self.doProvide provider url create).self.cls = self.cls ∧
      (self.doProvide provider url create).self.providers = self.providers ∧
      (self.doProvide provider url create).self.consumers = self.consumers ∧
      (self.doProvide provider url create).self.url = self.url := by
  obtain ⟨cls, providers, consumers, url', svrFactory, sf⟩ := self
  cases cls with
  | default server => exact ⟨rfl, rfl, rfl, rfl⟩
  | webservice => cases url <;> cases create <;> exact ⟨rfl, rfl, rfl, rfl⟩
  | restful => cases url <;> exact ⟨rfl, rfl, rfl, rfl⟩

/-- Where an object has its URL from, it has all else from before. -/
theorem getUrl_eq (self : AbstractProtocol) (host : Option String) :
    (self.getUrl host).1 = { self with url := (self.getUrl host).2 } := by
  unfold getUrl
  split
  · rename_i u hu
    rw [← hu]
  · rfl

/-- Where the default URL is there, so is the URL. -/
theorem getUrl_ne_none (self : AbstractProtocol) {host : Option String}
    (h : self.cls.getDefaultUrl host ≠ none) : (self.getUrl host).2 ≠ none := by
  unfold getUrl
  cases self.url with
  | none => exact h
  | some u => exact Option.some_ne_none u

/-- **Providing** records the provider, and does what the class does, under the URL. -/
theorem provide_eq (self : AbstractProtocol) (host : Option String) (provider : ProviderBean)
    (create : Option Throwable) :
    ∃ url, self.provide host provider create =
        AbstractProtocol.doProvide { self with
          providers := insert provider.getName self.providers
          url := url } provider url create ∧
      (self.cls.getDefaultUrl host ≠ none → url ≠ none) := by
  let recorded : AbstractProtocol :=
    { self with providers := insert provider.getName self.providers }
  refine ⟨(recorded.getUrl host).2, ?_, getUrl_ne_none recorded⟩
  show (recorded.getUrl host).1.doProvide _ _ _ = _
  rw [recorded.getUrl_eq host]
  rfl

@[simp] theorem cls_provide (self : AbstractProtocol) (host : Option String)
    (provider : ProviderBean) (create : Option Throwable) :
    (self.provide host provider create).self.cls = self.cls := by
  obtain ⟨url, he, -⟩ := self.provide_eq host provider create
  rw [he]
  exact (shared_doProvide _ _ _ _).1

@[simp] theorem cls_consume (self : AbstractProtocol) (consumer : ConsumerBean) :
    (self.consume consumer).self.cls = self.cls := rfl

/-- The default protocol tells its server. -/
theorem provide_default {self : AbstractProtocol} {server : ActorRef}
    (h : self.cls = .default server) (host : Option String) (provider : ProviderBean)
    (create : Option Throwable) :
    (self.provide host provider create).sent = [.tell server provider] ∧
      (self.provide host provider create).thrown = none := by
  obtain ⟨url, he, -⟩ := self.provide_eq host provider create
  rw [he]
  unfold doProvide
  simp only [h, and_self]

/-- A consumer is only recorded there. -/
theorem consume_default {self : AbstractProtocol} {server : ActorRef}
    (h : self.cls = .default server) (consumer : ConsumerBean) :
    (self.consume consumer).sent = [] ∧ (self.consume consumer).thrown = none := by
  unfold consume
  simp only [h]
  exact ⟨rfl, rfl⟩

/-- What a web service does for a provider: the server it creates invokes what the first one did. -/
theorem provide_webservice {self : AbstractProtocol} (h : self.cls = .webservice)
    (host : Option String) (provider : ProviderBean) (create : Option Throwable) :
    ∃ u : URL, (self.provide host provider create).sent =
        (if create = none then [.published (u.getFullPath ++ provider.getName) provider.implementor
          (self.svrFactory.getD provider.implementor)] else []) ∧
      (self.provide host provider create).thrown = create ∧
      (self.provide host provider create).self.svrFactory =
        some (self.svrFactory.getD provider.implementor) := by
  obtain ⟨url, he, hurl⟩ := self.provide_eq host provider create
  obtain ⟨u, rfl⟩ := Option.ne_none_iff_exists'.mp (hurl (by rw [h]; exact Option.some_ne_none _))
  refine ⟨u, ?_⟩
  rw [he]
  unfold doProvide
  simp only [h]
  cases create <;> exact ⟨rfl, rfl, rfl⟩

/-- A RESTful service is given one resource more, and a URL. -/
theorem provide_restful {self : AbstractProtocol} (h : self.cls = .restful) (host : Option String)
    (provider : ProviderBean) (create : Option Throwable) :
    ∃ u : URL, (self.provide host provider create).sent =
        [.resource provider.implementor, .resourceAddress u.getFullPath] ∧
      (self.provide host provider create).thrown = none ∧
      (self.provide host provider create).self.sf = self.sf ++ [provider.implementor] := by
  obtain ⟨url, he, hurl⟩ := self.provide_eq host provider create
  obtain ⟨u, rfl⟩ := Option.ne_none_iff_exists'.mp (hurl (by rw [h]; exact Option.some_ne_none _))
  refine ⟨u, ?_⟩
  rw [he]
  unfold doProvide
  simp only [h, and_self]

end AbstractProtocol

end EsbCore
