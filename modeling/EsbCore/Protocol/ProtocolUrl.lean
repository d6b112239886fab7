/-
  File:      EsbCore/Protocol/ProtocolUrl.lean
  Subject:   THE URL OF A PROTOCOL (`org.esb.protocol.AbstractProtocol`).

  What `AbstractProtocol` itself keeps and passes on, for any class built on it: `provide` takes
  the URL from `getUrl()`, which sets the default where there is none; `consume` passes the field
  as it stands.

  * `ProtocolFields`, `machine` -- the fields under calls, and the URLs `doProvide` and `doConsume`
    receive;
  * `provide_fields`, `consume_fields` -- the three classes of the bus are such;
  * `effective` -- the URL in force: the last one set, the default for none or null;
  * `url_eq` -- the field is that URL once something has located the protocol, and null before;
  * `sameUrl_iff` -- so all receive the URL in force exactly where no `consume` comes before that,
    and exactly there a web service's address is that of its clients.
-/
import EsbCore.Protocol.AbstractProtocol
import EsbCore.Lib.Machine

namespace EsbCore

open Java Lib

/-! ## 1. The fields -/

/-- The private fields of an `AbstractProtocol`. -/
structure ProtocolFields where
  providers : Finset String
  consumers : Finset String
  url : Option URL
  deriving DecidableEq

/-- A call of a protocol. What a `doProvide` or `doConsume` calls itself comes after its own URL
    was taken, as a later call. -/
inductive ProtocolCall where
  | provide (provider : ProviderBean)
  | consume (consumer : ConsumerBean)
  | getUrl
  | setUrl (url : Option URL)
  deriving DecidableEq, Repr

/-- What a class built on `AbstractProtocol` receives. -/
inductive Received where
  | doProvide (provider : ProviderBean) (url : Option URL)
  | doConsume (consumer : ConsumerBean) (url : Option URL)
  deriving DecidableEq, Repr

def Received.url : Received → Option URL
  | .doProvide _ url => url
  | .doConsume _ url => url

namespace ProtocolFields

/-- A new protocol object. -/
def new : ProtocolFields := ⟨∅, ∅, none⟩

/-- `getUrl()`. -/
def getUrl (defaultUrl : URL) (self : ProtocolFields) : ProtocolFields × Option URL :=
  match self.url with
  | some u => (self, some u)
  | none => ({ self with url := some defaultUrl }, some defaultUrl)

/-- `setUrl(url)`. -/
def setUrl (self : ProtocolFields) (url : Option URL) : ProtocolFields := { self with url := url }

/-- One call. -/
def call (defaultUrl : URL) (self : ProtocolFields) : ProtocolCall → ProtocolFields × List Received
  | .provide provider =>
    let recorded := { self with providers := insert provider.getName self.providers }
    let (located, url) := recorded.getUrl defaultUrl
    (located, [.doProvide provider url])
  | .consume consumer =>
    let recorded := { self with consumers := insert consumer.getName self.consumers }
    (recorded, [.doConsume consumer recorded.url])
  | .getUrl => ((self.getUrl defaultUrl).1, [])
  | .setUrl url => (self.setUrl url, [])

/-- A protocol under calls. -/
def machine (defaultUrl : URL) : Machine ProtocolFields ProtocolCall Received where
  start := (new, [])
  step := call defaultUrl

end ProtocolFields

/-! ## 2. The classes of the bus -/

namespace AbstractProtocol

/-- The fields of an object of one of the three classes that they share. -/
def fields (self : AbstractProtocol) : ProtocolFields :=
  ⟨self.providers, self.consumers, self.url⟩

/-- An object with other shared fields. -/
def withFields (self : AbstractProtocol) (f : ProtocolFields) : AbstractProtocol :=
  { self with providers := f.providers, consumers := f.consumers, url := f.url }

theorem fields_doProvide (self : AbstractProtocol) (provider : ProviderBean) (url : Option URL)
    (create : Option Throwable) :
    (self.doProvide provider url create).self.fields = self.fields := by
  obtain ⟨-, hp, hc, hu⟩ := shared_doProvide self provider url create
  unfold fields
  rw [hp, hc, hu]

/-- `setUrl(url)`. -/
def setUrl (self : AbstractProtocol) (url : Option URL) : AbstractProtocol :=
  { self with url := url }

/-- An object after one call; a publication does not fail. -/
def call (host : Option String) (self : AbstractProtocol) : ProtocolCall → AbstractProtocol
  | .provide provider => (self.provide host provider none).self
  | .consume consumer => (self.consume consumer).self
  | .getUrl => (self.getUrl host).1
  | .setUrl url => self.setUrl url

/-- A new object after a list of calls. -/
def after (host : Option String) (cls : ProtocolClass) (cs : List ProtocolCall) :
    AbstractProtocol := cs.foldl (call host) (new cls)

section

variable {self : AbstractProtocol} {host : Option String} {defaultUrl : URL}

/-- **Providing on a class with a default URL** does to the shared fields what the shared method
    does, and then what `doProvide` of the class does with the URL that passes on. -/
theorem provide_fields (h : self.cls.getDefaultUrl host = some defaultUrl)
    (provider : ProviderBean) (create : Option Throwable) :
    ∃ url, (self.fields.call defaultUrl (.provide provider)).2 = [.doProvide provider url] ∧
      self.provide host provider create =
        (self.withFields (self.fields.call defaultUrl (.provide provider)).1).doProvide provider url
          create := by
  obtain ⟨cls, providers, consumers, url, svrFactory, sf⟩ := self
  cases url with
  | some u => exact ⟨some u, rfl, rfl⟩
  | none =>
    refine ⟨some defaultUrl, rfl, ?_⟩
    simp only [provide, getUrl, h]
    rfl

/-- The same of consuming. -/
theorem consume_fields (defaultUrl : URL) (consumer : ConsumerBean) :
    ∃ url, (self.fields.call defaultUrl (.consume consumer)).2 = [.doConsume consumer url] ∧
      (self.consume consumer).self =
        self.withFields (self.fields.call defaultUrl (.consume consumer)).1 ∧
      (self.consume consumer).sent = (self.cls.doConsume consumer url).1 ∧
      (self.consume consumer).thrown = (self.cls.doConsume consumer url).2 :=
  ⟨self.url, rfl, rfl, rfl, rfl⟩

/-- One call of an object is one call of its shared fields. -/
theorem call_fields (h : self.cls.getDefaultUrl host = some defaultUrl) (c : ProtocolCall) :
    (self.call host c).fields = (self.fields.call defaultUrl c).1 := by
  cases c with
  | provide provider =>
    obtain ⟨url, -, he⟩ := provide_fields h provider none
    show (self.provide host provider none).self.fields = _
    rw [he, fields_doProvide]
    rfl
  | consume consumer => rfl
  | setUrl url => rfl
  | getUrl =>
    show (self.getUrl host).1.fields = _
    obtain ⟨cls, providers, consumers, url, svrFactory, sf⟩ := self
    cases url with
    | some u => rfl
    | none =>
      simp only [getUrl, h]
      rfl

theorem cls_call (self : AbstractProtocol) (host : Option String) (c : ProtocolCall) :
    (self.call host c).cls = self.cls := by
  cases c with
  | provide provider => exact cls_provide _ _ _ _
  | getUrl =>
    show (self.getUrl host).1.cls = self.cls
    rw [self.getUrl_eq host]
  | _ => rfl

/-- **An object runs as its shared fields do.** -/
theorem after_fields {cls : ProtocolClass} (h : cls.getDefaultUrl host = some defaultUrl)
    (cs : List ProtocolCall) :
    (after host cls cs).cls = cls ∧
      (after host cls cs).fields = (ProtocolFields.machine defaultUrl).after cs := by
  induction cs using List.reverseRecOn with
  | nil => exact ⟨rfl, rfl⟩
  | append_singleton cs c ih =>
    obtain ⟨hcls, hfields⟩ := ih
    have hstep : after host cls (cs ++ [c]) = (after host cls cs).call host c :=
      List.foldl_concat ..
    rw [hstep, Machine.after_concat, ← hfields]
    exact ⟨(cls_call _ host c).trans hcls, call_fields (by rw [hcls, h]) c⟩

end

end AbstractProtocol

/-! ## 3. The URL in force -/

namespace ProtocolCall

/-- The value of a `setUrl`. -/
def value : ProtocolCall → Option (Option URL)
  | .setUrl url => some url
  | _ => none

/-- A call that does not look at the URL but passes it on as it is. -/
def isConsume : ProtocolCall → Bool
  | .consume _ => true
  | _ => false

end ProtocolCall

/-- The URL in force after some calls: the last one set, the default if none or null was. -/
def effective (defaultUrl : URL) (cs : List ProtocolCall) : URL :=
  (cs.filterMap ProtocolCall.value).getLast?.join.getD defaultUrl

/-- The last call other than a `consume` was made and was not `setUrl(null)`. -/
def Located (cs : List ProtocolCall) : Prop :=
  ∃ c, (cs.filter fun c => !c.isConsume).getLast? = some c ∧ c ≠ .setUrl none

theorem not_located_nil : ¬ Located [] := by
  rintro ⟨c, hc, -⟩
  cases hc

theorem located_concat_consume {cs : List ProtocolCall} {c : ProtocolCall}
    (h : c.isConsume = true) : Located (cs ++ [c]) ↔ Located cs := by
  unfold Located
  rw [List.filter_append, List.filter_singleton]
  simp [h]

theorem located_concat_other {cs : List ProtocolCall} {c : ProtocolCall}
    (h : c.isConsume = false) : Located (cs ++ [c]) ↔ c ≠ .setUrl none := by
  unfold Located
  rw [List.filter_append, List.filter_singleton]
  simp [h]

theorem effective_concat_other (defaultUrl : URL) (cs : List ProtocolCall) {c : ProtocolCall}
    (h : c.value = none) : effective defaultUrl (cs ++ [c]) = effective defaultUrl cs := by
  unfold effective
  rw [List.filterMap_append, List.filterMap_cons_none h, List.filterMap_nil, List.append_nil]

theorem effective_concat_setUrl (defaultUrl : URL) (cs : List ProtocolCall) (url : Option URL) :
    effective defaultUrl (cs ++ [.setUrl url]) = url.getD defaultUrl := by
  have hlast : [ProtocolCall.setUrl url].filterMap ProtocolCall.value = [url] := rfl
  unfold effective
  rw [List.filterMap_append, hlast, List.getLast?_concat, Option.join_some]

/-- **The field** is the URL in force once something has located the protocol; before that it is
    null, and the URL in force is the default. -/
theorem url_eq (defaultUrl : URL) (cs : List ProtocolCall) :
    (Located cs ∧
        ((ProtocolFields.machine defaultUrl).after cs).url = some (effective defaultUrl cs)) ∨
      (¬ Located cs ∧ ((ProtocolFields.machine defaultUrl).after cs).url = none ∧
        effective defaultUrl cs = defaultUrl) := by
  induction cs using List.reverseRecOn with
  | nil => exact .inr ⟨not_located_nil, rfl, rfl⟩
  | append_singleton cs c ih =>
    rw [Machine.after_concat]
    generalize (ProtocolFields.machine defaultUrl).after cs = s at ih
    -- the two calls of `getUrl()`: the field, or the default where it is null
    have hget : ∀ s : ProtocolFields, (s.url = some (effective defaultUrl cs) ∨
        s.url = none ∧ effective defaultUrl cs = defaultUrl) →
        (s.getUrl defaultUrl).1.url = some (effective defaultUrl cs) := by
      rintro s (h | ⟨h, hd⟩)
      · simp only [ProtocolFields.getUrl, h]
      · simp only [ProtocolFields.getUrl, h, hd]
    have hs : s.url = some (effective defaultUrl cs) ∨
        s.url = none ∧ effective defaultUrl cs = defaultUrl :=
      ih.imp And.right And.right
    cases c with
    | provide provider =>
      rw [located_concat_other rfl, effective_concat_other _ _ rfl]
      exact .inl ⟨nofun, hget { s with providers := insert provider.getName s.providers } hs⟩
    | getUrl =>
      rw [located_concat_other rfl, effective_concat_other _ _ rfl]
      exact .inl ⟨nofun, hget s hs⟩
    | consume consumer =>
      rw [located_concat_consume rfl, effective_concat_other _ _ rfl]
      exact ih
    | setUrl url =>
      rw [located_concat_other rfl, effective_concat_setUrl]
      cases url with
      | some u => exact .inl ⟨nofun, rfl⟩
      | none => exact .inr ⟨fun h => h rfl, rfl, rfl⟩

/-! ## 4. Providing and consuming -/

/-- Whatever is called, each `doProvide` and `doConsume` of a run receives the URL in force. -/
def SameUrl (defaultUrl : URL) (cs : List ProtocolCall) : Prop :=
  ∀ p c, p ++ [c] <+: cs →
    ∀ r ∈ (((ProtocolFields.machine defaultUrl).after p).call defaultUrl c).2,
      r.url = some (effective defaultUrl p)

/-- The address a web service publishes for a provider of an interface is the one its client for
    the interface has, whichever comes first. (What it invokes there is what it did first.) -/
def SameAddress (host : Option String) (self : AbstractProtocol) : Prop :=
  ∀ (provider : ProviderBean) (consumer : ConsumerBean), provider.interfaze = consumer.interfaze →
    ∃ address,
      ((self.provide host provider none).sent = [.published address provider.implementor
          (self.svrFactory.getD provider.implementor)] ∧
        ((self.provide host provider none).self.consume consumer).sent =
          [.client address consumer.interfaze]) ∧
      ((self.consume consumer).sent = [.client address consumer.interfaze] ∧
        ((self.consume consumer).self.provide host provider none).sent =
          [.published address provider.implementor
            (self.svrFactory.getD provider.implementor)])

/-- Every `consume` of a run finds the protocol located. -/
def ConsumesLocated (cs : List ProtocolCall) : Prop :=
  ∀ p c, p ++ [c] <+: cs → c.isConsume = true → Located p

/-- One call passes the URL in force on, unless it consumes before the protocol is located. -/
theorem call_sameUrl_iff (defaultUrl : URL) (p : List ProtocolCall) (c : ProtocolCall) :
    (∀ r ∈ (((ProtocolFields.machine defaultUrl).after p).call defaultUrl c).2,
      r.url = some (effective defaultUrl p)) ↔ (c.isConsume = true → Located p) := by
  have h := url_eq defaultUrl p
  generalize (ProtocolFields.machine defaultUrl).after p = s at h
  cases c with
  | provide provider =>
    refine iff_of_true ?_ nofun
    intro r hr
    rw [List.mem_singleton.mp hr]
    show (ProtocolFields.getUrl defaultUrl { s with providers := _ }).2 = _
    rcases h with ⟨-, h⟩ | ⟨-, h, hd⟩
    · simp only [ProtocolFields.getUrl, h]
    · simp only [ProtocolFields.getUrl, h, hd]
  | getUrl => exact iff_of_true (fun r hr => absurd hr List.not_mem_nil) nofun
  | setUrl url => exact iff_of_true (fun r hr => absurd hr List.not_mem_nil) nofun
  | consume consumer =>
    have hone : (∀ r ∈ (s.call defaultUrl (.consume consumer)).2,
        r.url = some (effective defaultUrl p)) ↔ s.url = some (effective defaultUrl p) := by
      constructor
      · intro hr
        exact hr _ (List.mem_singleton_self _)
      · intro hs r hr
        rw [List.mem_singleton.mp hr]
        exact hs
    rw [hone]
    rcases h with ⟨hl, h⟩ | ⟨hl, h, -⟩
    · exact iff_of_true h fun _ => hl
    · rw [h]
      exact iff_of_false nofun fun hc => hl (hc rfl)

/-- **A web service and its clients have one address exactly if the URL is there.** -/
theorem sameAddress_iff_url (host : Option String) {self : AbstractProtocol}
    (hcls : self.cls = .webservice) : SameAddress host self ↔ self.url ≠ none := by
  obtain ⟨cls, providers, consumers, url, svrFactory, sf⟩ := self
  subst hcls
  cases url with
  | some u =>
    refine iff_of_true ?_ (Option.some_ne_none u)
    intro provider consumer hI
    have hname : consumer.getName = provider.getName := congrArg Java.Class.name hI.symm
    have hclient : ∀ ps cs kept,
        ((AbstractProtocol.mk .webservice ps cs (some u) kept sf).consume consumer).sent =
          [.client (u.getFullPath ++ provider.getName) consumer.interfaze] := by
      intro ps cs kept
      rw [← hname]
      rfl
    exact ⟨u.getFullPath ++ provider.getName, ⟨rfl, hclient _ _ _⟩, hclient _ _ _, rfl⟩
  | none =>
    -- the client is asked for with no URL at all
    refine iff_of_false (fun h => ?_) (fun h => h rfl)
    obtain ⟨address, -, hclient, -⟩ := h
      ⟨⟨"Calculator", []⟩, none, ⟨0, ⟨"CalculatorImpl", []⟩⟩⟩ ⟨⟨"Calculator", []⟩, none⟩ rfl
    cases hclient

/-- The URL of a new web service after some calls is that of its fields. -/
theorem sameAddress_iff (host : Option String) (cs : List ProtocolCall) :
    SameAddress host (AbstractProtocol.after host .webservice cs) ↔ Located cs := by
  obtain ⟨d, hd⟩ : ∃ d, ProtocolClass.getDefaultUrl host .webservice = some d := ⟨_, rfl⟩
  obtain ⟨hcls, hfields⟩ := AbstractProtocol.after_fields hd cs
  have hurl : (AbstractProtocol.after host .webservice cs).url =
      ((ProtocolFields.machine d).after cs).url := congrArg ProtocolFields.url hfields
  rw [sameAddress_iff_url host hcls, hurl]
  rcases url_eq d cs with ⟨hl, h⟩ | ⟨hl, h, -⟩
  · rw [h]
    exact iff_of_true (Option.some_ne_none _) hl
  · rw [h]
    exact iff_of_false (fun h => h rfl) hl

/-- **Providing and consuming go by one URL exactly as long as every `consume` finds the protocol
    located**: each `doProvide` and `doConsume` of a run receives the URL in force if and only if
    all its `consume` calls come after a `provide`, a `getUrl` or the setting of a URL that no
    `setUrl(null)` has undone; and a web service has its clients' address in exactly such states. -/
theorem sameUrl_iff (defaultUrl : URL) (host : Option String) (cs : List ProtocolCall) :
    (SameUrl defaultUrl cs ↔ ConsumesLocated cs) ∧
      (SameAddress host (AbstractProtocol.after host .webservice cs) ↔ Located cs) :=
  ⟨forall_congr' fun p => forall_congr' fun c => imp_congr_right fun _ =>
    call_sameUrl_iff defaultUrl p c, sameAddress_iff host cs⟩

/-- A node that consumes before it provides: `doConsume` receives null. -/
theorem not_sameUrl_consume_first :
    ¬ SameUrl ⟨some "h", 9800, some "http", some "ws"⟩
        [.consume ⟨⟨"Calculator", []⟩, none⟩] ∧
      ¬ SameAddress (some "h") (AbstractProtocol.after (some "h") .webservice []) := by
  refine ⟨fun h => ?_, fun h => not_located_nil ((sameAddress_iff _ _).mp h)⟩
  have hone := h [] (.consume ⟨⟨"Calculator", []⟩, none⟩) List.prefix_rfl _
    (List.mem_singleton_self _)
  cases hone

end EsbCore
