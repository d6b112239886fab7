/-
  File:      EsbCore/Provider/ProviderFactoryBean.lean
  Subject:   THE PROVIDERS OF AN APPLICATION (`org.esb.provider.ProviderFactoryBean`,
             `org.esb.common.Provider`).

  Once the application's context is there, every bean with the annotation is provided, and then the
  protocols are started. The attribute `protocol` is an array whose default is ONE EMPTY STRING.

  Of the web service library the model has what the two factories keep: whom the one of the web
  services invokes, and of the RESTful one its resource classes, each with the last object set for
  it. Which classes are resources (`isResource`) and whether a `create()` throws is given.

  * `setApplicationContext` -- the loop over the beans and the start;
  * `AllPublished` -- what it is for: every bean to be reached on the default protocol and on those
    it names, and the protocols started afterwards;
  * `provideBeans_through`, `provideBeans_returned_iff` -- what the loop leaves, and when it gets
    through: a bean that leaves the attribute out stops it;
  * `allPublished_iff` -- so all is published exactly if none does, the web services are those of
    one object, and of the RESTful ones there is one object for each class, a resource class.
-/
import EsbCore.Protocol.Published

namespace EsbCore

open Java Lib

/-! ## 1. The beans -/

/-- A bean with the annotation `Provider`: the interfaces of its class, and the `protocol`
    attribute where it is written. -/
structure AnnotatedBean where
  interfaces : List Java.Class
  implementor : Bean
  protocol : Option (List String)
  deriving DecidableEq, Repr

/-- `anno.protocol()`: `String[] protocol() default ""`. -/
def AnnotatedBean.protocols (b : AnnotatedBean) : List String := b.protocol.getD [""]

/-- The names the attribute lists, if it is written. -/
def AnnotatedBean.names (b : AnnotatedBean) : List String := b.protocol.getD []

/-- The `ProviderBean` the loop makes, for the first interface. -/
def AnnotatedBean.provider (b : AnnotatedBean) (interfaze : Java.Class) : ProviderBean :=
  ⟨interfaze, some b.protocols, b.implementor⟩

/-- What happens when the context is set: protocols act, are started, and the RESTful one creates
    its server, of some resources. -/
inductive ContextOutput where
  | protocol (o : ProtocolOutput)
  | start (name : String)
  | server (name : String) (resources : List Bean)
  deriving DecidableEq, Repr

/-! ## 2. Starting -/

namespace AbstractProtocol

variable (isResource : Java.Class → Bool)

/-- `sf.getResourceClasses()`: of the classes set, those that are resources. -/
def getResourceClasses (self : AbstractProtocol) : List Java.Class :=
  (self.sf.map Bean.cls).filter isResource

/-- The resource provider of a class: the last one set. -/
def resourceProvider (self : AbstractProtocol) (cls : Java.Class) : Option Bean :=
  (self.sf.filter (·.cls = cls)).getLast?

/-- The objects that serve the resource classes. -/
def served (self : AbstractProtocol) : List Bean :=
  (self.getResourceClasses isResource).filterMap self.resourceProvider

/-- `start()` of a protocol; `create` is the exception of `sf.create()`, if it throws. -/
def start (self : AbstractProtocol) (create : Option Throwable) :
    List ContextOutput × Option Throwable :=
  match self.cls with
  | .default _ => ([], none)
  | .webservice => ([], none)
  | .restful =>
    if self.getResourceClasses isResource = [] then ([], none)
    else
      match create with
      | some e => ([], some e)
      | none => ([.server self.cls.getProtocolName (self.served isResource)], none)

end AbstractProtocol

namespace ProtocolFactory

variable (isResource : Java.Class → Bool)

/-- One round of the loop of `start()`. -/
def startKey (self : ProtocolFactory) (key : String) (create : Option Throwable) :
    Reaction ProtocolFactory ContextOutput Throwable :=
  match AList.lookup key self.protocols with
  | none => ⟨self, [], none⟩
  | some r =>
    let (sent, thrown) := (self.objects r).start isResource create
    ⟨self, .start key :: sent, thrown⟩

def startKeys (create : Option Throwable) :
    List String → ProtocolFactory → Reaction ProtocolFactory ContextOutput Throwable
  | [], self => ⟨self, [], none⟩
  | key :: keys, self => (self.startKey isResource key create).andThen (startKeys create keys)

/-- `start()`. -/
def start (create : Option Throwable) (self : ProtocolFactory) :
    Reaction ProtocolFactory ContextOutput Throwable :=
  startKeys isResource create self.protocols.keys self

end ProtocolFactory

namespace ProviderFactoryBean

/-! ## 3. The loop -/

/-- One round: the bean is provided for `interfaces[0]`. -/
def provideBean (self : ProtocolFactory) (b : AnnotatedBean) (create : Nat → Option Throwable) :
    Reaction ProtocolFactory ContextOutput Throwable :=
  match b.interfaces with
  | [] => ⟨self, [], some (.application "java.lang.ArrayIndexOutOfBoundsException" "0")⟩
  | interfaze :: _ => (self.provide (b.provider interfaze) create).map .protocol

/-- The loop, from the `i`-th bean on, in the order the map of beans is iterated. -/
def provideBeans (create : Nat → Nat → Option Throwable) :
    Nat → List AnnotatedBean → ProtocolFactory →
      Reaction ProtocolFactory ContextOutput Throwable
  | _, [], self => ⟨self, [], none⟩
  | i, b :: beans, self =>
    (provideBean self b (create i)).andThen (provideBeans create (i + 1) beans)

/-- `setApplicationContext(applicationContext)`; `create i j` is the exception of
    `svrFactory.create()`, if it throws, at the `j`-th name of the `i`-th bean, and `createRest`
    that of `sf.create()`. -/
def setApplicationContext (isResource : Java.Class → Bool) (self : ProtocolFactory)
    (beans : List AnnotatedBean) (create : Nat → Nat → Option Throwable)
    (createRest : Option Throwable) : Reaction ProtocolFactory ContextOutput Throwable :=
  (provideBeans create 0 beans self).andThen (ProtocolFactory.start isResource createRest)

/-! ## 4. What it is for -/

/-- The protocol effects among the outputs. -/
def effects (os : List ContextOutput) : List ProtocolOutput :=
  os.filterMap fun
    | .protocol o => some o
    | _ => none

/-- Who calls under the name gets to the provider's object: the default protocol's server has been
    told of it, a web service invokes it, the RESTful server serves it. -/
def ReachedOn (os : List ContextOutput) (name : String) (provider : ProviderBean) : Prop :=
  (name = "default" → ∃ server, .protocol (.tell server provider) ∈ os) ∧
    (name = "webservice" → ∃ u : URL, .protocol (.published (u.getFullPath ++ provider.getName)
      provider.implementor provider.implementor) ∈ os) ∧
    (name = "restful" → ∃ served, .server "restful" served ∈ os ∧ provider.implementor ∈ served)

/-- The loop and the start have done their work: no exception, every bean provided on the default
    protocol and on those it names, and to be reached there, and after the last bean's effects the
    start of each registered protocol. -/
structure AllPublished (isResource : Java.Class → Bool) (s : ProtocolFactory)
    (beans : List AnnotatedBean) (create : Nat → Nat → Option Throwable)
    (createRest : Option Throwable) : Prop where
  completes : (setApplicationContext isResource s beans create createRest).thrown = none
  published : ∀ b ∈ beans, ∀ interfaze, b.interfaces.head? = some interfaze →
    ∀ name, name = "default" ∨ name ∈ b.names →
      (setApplicationContext isResource s beans create createRest).self.ProvidedOn
        (effects (setApplicationContext isResource s beans create createRest).sent) name
        (b.provider interfaze)
  reached : ∀ b ∈ beans, ∀ interfaze, b.interfaces.head? = some interfaze →
    ∀ name, name = "default" ∨ name ∈ b.names →
      ReachedOn (setApplicationContext isResource s beans create createRest).sent name
        (b.provider interfaze)
  started : ∃ (os : List ProtocolOutput) (tail : List ContextOutput),
    (setApplicationContext isResource s beans create createRest).sent = os.map .protocol ++ tail ∧
    effects tail = [] ∧
    ∀ name, AList.lookup name ProtocolFactory.registered ≠ none → .start name ∈ tail

/-- A bean of a class with an interface, whose attribute is left out or names protocols there
    are. -/
def Declared (b : AnnotatedBean) : Prop :=
  b.interfaces ≠ [] ∧ ∀ names, b.protocol = some names →
    ∀ name ∈ names, ¬ ProtocolFactory.Unknown name

/-- When it does: every bean writes the attribute, and no `create()` throws; the beans with
    `webservice`, and what the factory invokes already, are one object; each bean with `restful` is
    of a resource class, and no two of them are different objects of one class. -/
structure Publishable (isResource : Java.Class → Bool) (s : ProtocolFactory)
    (beans : List AnnotatedBean) (create : Nat → Nat → Option Throwable)
    (createRest : Option Throwable) : Prop where
  named : ∀ b ∈ beans, b.protocol ≠ none
  created : ∀ i b, beans[i]? = some b → ∀ j, b.names[j]? = some "webservice" → create i j = none
  served : createRest = none ∨ (∀ b ∈ beans, "restful" ∉ b.names) ∧
    ∀ x ∈ (s.objects 1).sf, isResource x.cls = false
  webservice : ∀ b ∈ beans, "webservice" ∈ b.names →
    (∀ x, (s.objects 0).svrFactory = some x → x = b.implementor) ∧
      ∀ b' ∈ beans, "webservice" ∈ b'.names → b'.implementor = b.implementor
  restful : ∀ b ∈ beans, "restful" ∈ b.names → isResource b.implementor.cls = true ∧
    ∀ b' ∈ beans, "restful" ∈ b'.names → b'.implementor.cls = b.implementor.cls →
      b'.implementor = b.implementor

@[simp] theorem effects_append (os os' : List ContextOutput) :
    effects (os ++ os') = effects os ++ effects os' := List.filterMap_append

@[simp] theorem effects_map (os : List ProtocolOutput) : effects (os.map .protocol) = os := by
  unfold effects
  rw [List.filterMap_map]
  exact List.filterMap_some

theorem mem_effects {os : List ContextOutput} {o : ProtocolOutput} :
    o ∈ effects os ↔ .protocol o ∈ os := by
  unfold effects
  rw [List.mem_filterMap]
  constructor
  · rintro ⟨x, hx, he⟩
    cases x with
    | protocol o' =>
      cases he
      exact hx
    | _ => cases he
  · exact fun h => ⟨_, h, rfl⟩

/-! ## 5. The start -/

variable (isResource : Java.Class → Bool)

/-- One round of the start. -/
theorem startKey_cases (self : ProtocolFactory) (key : String) (create : Option Throwable) :
    (AList.lookup key self.protocols = none ∧
      self.startKey isResource key create = ⟨self, [], none⟩) ∨
    ∃ r, AList.lookup key self.protocols = some r ∧ self.startKey isResource key create =
      ⟨self, .start key :: ((self.objects r).start isResource create).1,
        ((self.objects r).start isResource create).2⟩ := by
  unfold ProtocolFactory.startKey
  cases AList.lookup key self.protocols with
  | none => exact .inl ⟨rfl, rfl⟩
  | some r => exact .inr ⟨r, rfl, rfl⟩

/-- **Starting** leaves the factory alone. It goes through if each protocol's start does, and then
    shows that and what it does. -/
theorem startKeys_spec (self : ProtocolFactory) (create : Option Throwable) (keys : List String) :
    (ProtocolFactory.startKeys isResource create keys self).self = self ∧
      ((ProtocolFactory.startKeys isResource create keys self).thrown = none ↔
        ∀ key ∈ keys, ∀ r, AList.lookup key self.protocols = some r →
          ((self.objects r).start isResource create).2 = none) ∧
      ((ProtocolFactory.startKeys isResource create keys self).thrown = none →
        ∀ o, o ∈ (ProtocolFactory.startKeys isResource create keys self).sent ↔
          ∃ key ∈ keys, ∃ r, AList.lookup key self.protocols = some r ∧
            (o = .start key ∨ o ∈ ((self.objects r).start isResource create).1)) := by
  induction keys with
  | nil => exact ⟨rfl, iff_of_true rfl nofun, fun _ o => iff_of_false nofun nofun⟩
  | cons key keys ih =>
    obtain ⟨hself, hthrown, hsent⟩ := ih
    unfold ProtocolFactory.startKeys
    rcases startKey_cases isResource self key create with ⟨hno, he⟩ | ⟨r, hr, he⟩
    · rw [he, Reaction.andThen_returned rfl, List.nil_append]
      refine ⟨hself, ?_, fun ht o => ?_⟩
      · rw [hthrown, List.forall_mem_cons]
        exact (and_iff_right fun r hr => nomatch hno.symm.trans hr).symm
      · rw [hsent ht, List.exists_mem_cons_iff]
        exact (or_iff_right fun ⟨r, hr, _⟩ => nomatch hno.symm.trans hr).symm
    · cases ht : ((self.objects r).start isResource create).2 with
      | some e =>
        rw [he, Reaction.andThen_thrown ht]
        have hno : ((self.objects r).start isResource create).2 ≠ none := by simp [ht]
        refine ⟨rfl, iff_of_false hno fun h => ?_, fun h => absurd h hno⟩
        exact hno (h key List.mem_cons_self r hr)
      | none =>
        rw [he, Reaction.andThen_returned ht]
        refine ⟨hself, ?_, fun ht' o => ?_⟩
        · rw [hthrown, List.forall_mem_cons]
          refine (and_iff_right fun r' hr' => ?_).symm
          cases hr.symm.trans hr'
          exact ht
        · rw [List.mem_append, List.mem_cons, hsent ht', List.exists_mem_cons_iff]
          refine or_congr_left ⟨fun h => ⟨r, hr, h⟩, fun ⟨r', hr', h⟩ => ?_⟩
          cases hr.symm.trans hr'
          exact h

/-- What is registered is the two protocols. -/
theorem lookup_registered_iff {key : String} {r : ProtocolRef} :
    AList.lookup key ProtocolFactory.registered = some r ↔
      key = "webservice" ∧ r = 0 ∨ key = "restful" ∧ r = 1 := by
  constructor
  · intro h
    by_cases hw : key = "webservice"
    · subst hw
      exact .inl ⟨rfl, (Option.some.inj h).symm⟩
    · by_cases hr : key = "restful"
      · subst hr
        exact .inr ⟨rfl, (Option.some.inj h).symm⟩
      · rw [ProtocolFactory.lookup_registered hw hr] at h
        cases h
  · rintro (⟨rfl, rfl⟩ | ⟨rfl, rfl⟩) <;> rfl

theorem mem_keys_registered {key : String} {r : ProtocolRef}
    (h : AList.lookup key ProtocolFactory.registered = some r) :
    key ∈ ProtocolFactory.registered.keys := by
  by_contra hn
  exact nomatch (AList.lookup_eq_none.mpr hn).symm.trans h

theorem start_webservice {self : AbstractProtocol} (h : self.cls = .webservice)
    (create : Option Throwable) : self.start isResource create = ([], none) := by
  unfold AbstractProtocol.start
  rw [h]

theorem start_restful {self : AbstractProtocol} (h : self.cls = .restful)
    (create : Option Throwable) :
    ((self.start isResource create).2 = none ↔
        self.getResourceClasses isResource = [] ∨ create = none) ∧
      ((self.start isResource create).2 = none →
        ∀ o, o ∈ (self.start isResource create).1 ↔ self.getResourceClasses isResource ≠ [] ∧
          o = .server "restful" (self.served isResource)) := by
  unfold AbstractProtocol.start
  rw [h]
  by_cases hc : self.getResourceClasses isResource = []
  · simp [hc]
  · cases create with
    | none => simp [hc, ProtocolClass.getProtocolName]
    | some e => simp [hc]

/-- **What starting does**: the RESTful server is created if there are resource classes. -/
theorem start_spec {self : ProtocolFactory} (h : self.Wf) (create : Option Throwable) :
    (ProtocolFactory.start isResource create self).self = self ∧
      ((ProtocolFactory.start isResource create self).thrown = none ↔
        (self.objects 1).getResourceClasses isResource = [] ∨ create = none) ∧
      ((ProtocolFactory.start isResource create self).thrown = none →
        ∀ o, o ∈ (ProtocolFactory.start isResource create self).sent ↔
          o = .start "webservice" ∨ o = .start "restful" ∨
            (self.objects 1).getResourceClasses isResource ≠ [] ∧
              o = .server "restful" ((self.objects 1).served isResource)) := by
  have hw := start_webservice isResource h.webservice create
  obtain ⟨hrt, hrs⟩ := start_restful isResource h.restful create
  obtain ⟨hself, hthrown, hsent⟩ := startKeys_spec isResource self create
    ProtocolFactory.registered.keys
  have heq : ProtocolFactory.start isResource create self =
      ProtocolFactory.startKeys isResource create ProtocolFactory.registered.keys self := by
    unfold ProtocolFactory.start
    rw [h.protocols]
  rw [h.protocols] at hthrown hsent
  have hall : (ProtocolFactory.start isResource create self).thrown = none ↔
      ((self.objects 1).start isResource create).2 = none := by
    rw [heq, hthrown]
    constructor
    · exact fun hs => hs "restful" (mem_keys_registered rfl) 1 rfl
    · intro hs key _ r hr
      rcases lookup_registered_iff.mp hr with ⟨-, rfl⟩ | ⟨-, rfl⟩
      · rw [hw]
      · exact hs
  refine ⟨heq ▸ hself, hall.trans hrt, fun ht o => ?_⟩
  have hr := hrs (hall.mp ht)
  rw [heq] at ht ⊢
  rw [hsent ht]
  constructor
  · rintro ⟨key, -, r, hkey, ho⟩
    rcases lookup_registered_iff.mp hkey with ⟨rfl, rfl⟩ | ⟨rfl, rfl⟩
    · rw [hw] at ho
      exact .inl (ho.resolve_right List.not_mem_nil)
    · exact .inr (ho.imp_right (hr o).mp)
  · rintro (rfl | rfl | ho)
    · exact ⟨"webservice", mem_keys_registered (r := 0) rfl, 0, rfl, .inl rfl⟩
    · exact ⟨"restful", mem_keys_registered (r := 1) rfl, 1, rfl, .inl rfl⟩
    · exact ⟨"restful", mem_keys_registered (r := 1) rfl, 1, rfl, .inr ((hr o).mpr ho)⟩

/-! ## 6. The beans -/

open ProtocolFactory (ServesAll Serves Unknown serviceBeans resources)

/-- The names of every bean serve, where the list is from the `i`-th bean on. -/
def ServesBeans (create : Nat → Nat → Option Throwable) : Nat → List AnnotatedBean → Prop
  | _, [] => True
  | i, b :: beans => ServesAll (create i) 0 b.protocols ∧ ServesBeans create (i + 1) beans

theorem servesAll_iff {create : Nat → Option Throwable} {i : Nat} {names : List String} :
    ServesAll create i names ↔
      ∀ j name, names[j]? = some name → Serves name (create (i + j)) := by
  induction names generalizing i with
  | nil => exact iff_of_true trivial nofun
  | cons name names ih =>
    unfold ServesAll
    rw [ih]
    constructor
    · rintro ⟨hone, hall⟩ j name' hj
      cases j with
      | zero =>
        cases hj
        exact hone
      | succ j =>
        have hserves := hall j name' hj
        rwa [Nat.add_assoc, Nat.add_comm 1] at hserves
    · refine fun h => ⟨h 0 name rfl, fun j name' hj => ?_⟩
      rw [Nat.add_assoc, Nat.add_comm 1]
      exact h (j + 1) name' hj

/-- A name that is some protocol's serves, unless it is a web service's and that fails. -/
theorem serves_of_known {name : String} (h : ¬ Unknown name) {create : Option Throwable}
    (hc : name = "webservice" → create = none) : Serves name create := by
  unfold Serves
  by_contra hnot
  simp only [not_or, not_and] at hnot
  obtain ⟨hd, hr, hw⟩ := hnot
  exact h ⟨hd, ProtocolFactory.lookup_registered (fun hn => hw hn (hc hn)) hr⟩

/-- The names of a declared bean serve exactly if it writes the attribute and no server of it
    fails. -/
theorem servesAll_declared {b : AnnotatedBean} (hd : Declared b)
    (create : Nat → Option Throwable) : ServesAll create 0 b.protocols ↔
      b.protocol ≠ none ∧ ∀ j, b.names[j]? = some "webservice" → create j = none := by
  rw [servesAll_iff]
  unfold AnnotatedBean.protocols AnnotatedBean.names
  cases hp : b.protocol with
  | none =>
    refine iff_of_false (fun h => ?_) fun h => h.1 rfl
    have hempty := h 0 "" rfl
    revert hempty
    simp [Serves]
  | some names =>
    constructor
    · intro h
      refine ⟨Option.some_ne_none _, fun j hj => ?_⟩
      have hserves := h j "webservice" hj
      rw [Nat.zero_add] at hserves
      simpa [Serves] using hserves
    · rintro ⟨-, hw⟩ j name hj
      refine serves_of_known (hd.2 names hp name (List.mem_of_getElem? hj)) fun hn => ?_
      subst hn
      rw [Nat.zero_add]
      exact hw j hj

theorem servesBeans_iff {create : Nat → Nat → Option Throwable} {i : Nat}
    {beans : List AnnotatedBean} (hd : ∀ b ∈ beans, Declared b) :
    ServesBeans create i beans ↔ (∀ b ∈ beans, b.protocol ≠ none) ∧
      ∀ j b, beans[j]? = some b →
        ∀ l, b.names[l]? = some "webservice" → create (i + j) l = none := by
  induction beans generalizing i with
  | nil => exact iff_of_true trivial ⟨nofun, nofun⟩
  | cons b beans ih =>
    rw [List.forall_mem_cons] at hd
    unfold ServesBeans
    rw [servesAll_declared hd.1, ih hd.2, List.forall_mem_cons]
    constructor
    · rintro ⟨⟨hb, hone⟩, hbeans, hall⟩
      refine ⟨⟨hb, hbeans⟩, fun j b' hj => ?_⟩
      cases j with
      | zero =>
        cases hj
        exact hone
      | succ j =>
        have hrest := hall j b' hj
        rwa [Nat.add_assoc, Nat.add_comm 1] at hrest
    · rintro ⟨⟨hb, hbeans⟩, hall⟩
      refine ⟨⟨hb, hall 0 b rfl⟩, hbeans, fun j b' hj => ?_⟩
      rw [Nat.add_assoc, Nat.add_comm 1]
      exact hall (j + 1) b' hj

/-- What providing some beans leaves: each is provided, the two factories hold what the effects
    say, and service beans and resources are those of the beans that ask for it. -/
structure Through (s : ProtocolFactory) (beans : List AnnotatedBean) (os : List ProtocolOutput)
    (s' : ProtocolFactory) : Prop where
  wf : s'.Wf
  kept : s.Extends s'
  provided : ∀ b ∈ beans, ∀ interfaze, b.interfaces.head? = some interfaze →
    ∀ name, name = "default" ∨ name ∈ b.protocols → s'.ProvidedOn os name (b.provider interfaze)
  holds : s.Holds os s'
  serviceBeans : ∀ x ∈ serviceBeans os,
    ∃ b ∈ beans, b.implementor = x ∧ "webservice" ∈ b.protocols
  resources : ∀ x ∈ resources os, ∃ b ∈ beans, b.implementor = x ∧ "restful" ∈ b.protocols

theorem Through.nil {s : ProtocolFactory} (h : s.Wf) : Through s [] [] s where
  wf := h
  kept := .refl s
  provided _ hb := absurd hb List.not_mem_nil
  holds := .refl s
  serviceBeans _ hx := absurd hx List.not_mem_nil
  resources _ hx := absurd hx List.not_mem_nil

/-- One bean and then the others. -/
theorem Through.cons {s t u : ProtocolFactory} {b : AnnotatedBean} {beans : List AnnotatedBean}
    {os os' : List ProtocolOutput} (h : Through s [b] os t) (h' : Through t beans os' u) :
    Through s (b :: beans) (os ++ os') u where
  wf := h'.wf
  kept := h.kept.trans h'.kept
  provided := by
    refine List.forall_mem_cons.mpr ⟨fun interfaze hi name hname => ?_,
      fun b' hb' interfaze hi name hname => ?_⟩
    · exact (h.provided b List.mem_cons_self interfaze hi name hname).mono h.wf h'.kept
        (List.subset_append_left _ _)
    · exact (h'.provided b' hb' interfaze hi name hname).mono h'.wf (.refl _)
        (List.subset_append_right _ _)
  holds := h.holds.trans h'.holds
  serviceBeans x hx := by
    rw [ProtocolFactory.serviceBeans_append] at hx
    rw [List.exists_mem_cons_iff]
    exact (List.mem_append.mp hx).imp (fun hx => by simpa using h.serviceBeans x hx)
      (h'.serviceBeans x)
  resources x hx := by
    rw [ProtocolFactory.resources_append] at hx
    rw [List.exists_mem_cons_iff]
    exact (List.mem_append.mp hx).imp (fun hx => by simpa using h.resources x hx) (h'.resources x)

/-- A bean whose names serve is provided on each of them and on the default protocol. -/
theorem provideBean_through {self : ProtocolFactory} (h : self.Wf) {b : AnnotatedBean}
    (hi : b.interfaces ≠ []) {create : Nat → Option Throwable}
    (hs : ServesAll create 0 b.protocols) :
    ∃ os, (provideBean self b create).thrown = none ∧
      (provideBean self b create).sent = os.map .protocol ∧
      Through self [b] os (provideBean self b create).self := by
  unfold provideBean
  cases hcls : b.interfaces with
  | nil => exact absurd hcls hi
  | cons interfaze rest =>
    have hlist : (b.provider interfaze).protocols = some b.protocols := rfl
    obtain ⟨ht, hext, hp⟩ := ProtocolFactory.provide_provided h hlist hs
    have honly := ProtocolFactory.provide_only h create hlist
    refine ⟨_, ht, rfl, ?_⟩
    exact
      { wf := (ProtocolFactory.provide_tells h _ _).1
        kept := hext
        provided := by
          refine List.forall_mem_singleton.mpr fun interfaze' hhead name hname => ?_
          rw [hcls] at hhead
          cases hhead
          exact hp name hname
        holds := ProtocolFactory.provide_holds h hlist hs
        serviceBeans := fun x hx => by
          obtain ⟨rfl, hn⟩ := honly.serviceBeans x hx
          exact ⟨b, List.mem_singleton_self _, rfl, hn⟩
        resources := fun x hx => by
          obtain ⟨rfl, hn⟩ := honly.resources x hx
          exact ⟨b, List.mem_singleton_self _, rfl, hn⟩ }

/-- A bean with a name that does not serve throws. -/
theorem provideBean_thrown {self : ProtocolFactory} (h : self.Wf) {b : AnnotatedBean}
    (hi : b.interfaces ≠ []) {create : Nat → Option Throwable}
    (hs : ¬ ServesAll create 0 b.protocols) : (provideBean self b create).thrown ≠ none := by
  unfold provideBean
  cases hcls : b.interfaces with
  | nil => exact absurd hcls hi
  | cons interfaze rest =>
    have hlist : (b.provider interfaze).protocols = some b.protocols := rfl
    exact fun ht => hs ((ProtocolFactory.provide_returned_iff h hlist).mp ht)

/-- **Beans whose names all serve** get through the loop. -/
theorem provideBeans_through {self : ProtocolFactory} (h : self.Wf) {beans : List AnnotatedBean}
    (hd : ∀ b ∈ beans, Declared b) {create : Nat → Nat → Option Throwable} {i : Nat}
    (hs : ServesBeans create i beans) :
    ∃ os, (provideBeans create i beans self).thrown = none ∧
      (provideBeans create i beans self).sent = os.map .protocol ∧
      Through self beans os (provideBeans create i beans self).self := by
  induction beans generalizing i self with
  | nil =>
    exact ⟨[], rfl, rfl, .nil h⟩
  | cons b beans ih =>
    rw [List.forall_mem_cons] at hd
    obtain ⟨os, ht, hsent, hone⟩ := provideBean_through h hd.1.1 hs.1
    obtain ⟨os', ht', hsent', hall⟩ := ih hone.wf hd.2 hs.2
    unfold provideBeans
    rw [Reaction.andThen_returned ht]
    refine ⟨os ++ os', ht', ?_, hone.cons hall⟩
    rw [hsent, hsent', List.map_append]

/-- **One that does not stops it**, wherever it stands. -/
theorem provideBeans_returned_iff {self : ProtocolFactory} (h : self.Wf)
    {beans : List AnnotatedBean} (hd : ∀ b ∈ beans, Declared b)
    {create : Nat → Nat → Option Throwable} {i : Nat} :
    (provideBeans create i beans self).thrown = none ↔ ServesBeans create i beans := by
  induction beans generalizing i self with
  | nil => exact iff_of_true rfl trivial
  | cons b beans ih =>
    rw [List.forall_mem_cons] at hd
    unfold provideBeans ServesBeans
    by_cases hs : ServesAll (create i) 0 b.protocols
    · obtain ⟨os, ht, -, hone⟩ := provideBean_through h hd.1.1 hs
      rw [Reaction.andThen_returned ht, and_iff_right hs]
      exact ih hone.wf hd.2
    · have ht := provideBean_thrown h hd.1.1 hs
      obtain ⟨e, he⟩ := Option.ne_none_iff_exists'.mp ht
      rw [Reaction.andThen_thrown he]
      exact iff_of_false ht fun hboth => hs hboth.1

/-! ## 7. The context -/

/-- The names of a bean that writes the attribute. -/
theorem names_eq {b : AnnotatedBean} (h : b.protocol ≠ none) : b.names = b.protocols := by
  obtain ⟨names, hn⟩ := Option.ne_none_iff_exists'.mp h
  unfold AnnotatedBean.names AnnotatedBean.protocols
  rw [hn]
  rfl

variable {isResource}

/-- The resource provider of a class is one of that class. -/
theorem mem_of_resourceProvider {self : AbstractProtocol} {cls : Java.Class} {x : Bean}
    (h : self.resourceProvider cls = some x) : x ∈ self.sf ∧ x.cls = cls := by
  have hmem := List.mem_of_getLast? h
  rw [List.mem_filter] at hmem
  exact ⟨hmem.1, by simpa using hmem.2⟩

theorem mem_served {self : AbstractProtocol} {x : Bean} :
    x ∈ self.served isResource ↔
      isResource x.cls = true ∧ self.resourceProvider x.cls = some x := by
  unfold AbstractProtocol.served AbstractProtocol.getResourceClasses
  rw [List.mem_filterMap]
  constructor
  · rintro ⟨cls, hcls, hx⟩
    obtain ⟨-, rfl⟩ := mem_of_resourceProvider hx
    exact ⟨(List.mem_filter.mp hcls).2, hx⟩
  · rintro ⟨hres, hx⟩
    obtain ⟨hmem, -⟩ := mem_of_resourceProvider hx
    exact ⟨x.cls, List.mem_filter.mpr ⟨List.mem_map_of_mem hmem, hres⟩, hx⟩

theorem getResourceClasses_eq_nil_iff {self : AbstractProtocol} :
    self.getResourceClasses isResource = [] ↔ ∀ x ∈ self.sf, isResource x.cls = false := by
  unfold AbstractProtocol.getResourceClasses
  rw [List.filter_eq_nil_iff, List.forall_mem_map]
  simp only [Bool.not_eq_true]

section Context

variable {s s' : ProtocolFactory} {beans : List AnnotatedBean} {os : List ProtocolOutput}
  {create : Nat → Nat → Option Throwable} {createRest : Option Throwable}

/-- What is given last, of a class, is one of the resources given. -/
theorem Through.resourceProvider_eq (h : Through s beans os s') {b : AnnotatedBean}
    (hgiven : .resource b.implementor ∈ os)
    (hone : ∀ b' ∈ beans, "restful" ∈ b'.protocols → b'.implementor.cls = b.implementor.cls →
      b'.implementor = b.implementor) :
    (s'.objects 1).resourceProvider b.implementor.cls = some b.implementor := by
  unfold AbstractProtocol.resourceProvider
  rw [h.holds.resources, List.filter_append, List.getLast?_append]
  have hne : (ProtocolFactory.resources os).filter (·.cls = b.implementor.cls) ≠ [] :=
    List.ne_nil_of_mem (List.mem_filter.mpr
      ⟨ProtocolFactory.mem_resources hgiven, decide_eq_true rfl⟩)
  have hlast := List.getLast?_eq_some_getLast hne
  rw [hlast]
  have hmem := List.getLast_mem hne
  rw [List.mem_filter] at hmem
  obtain ⟨b', hb', he, hn⟩ := h.resources _ hmem.1
  have hcls : b'.implementor.cls = b.implementor.cls := by
    rw [he]
    simpa using hmem.2
  rw [← he, hone b' hb' hn hcls]
  rfl

/-- Every web service invokes the object of all the beans that ask for one. -/
theorem Through.invoked_implementor (h : Through s beans os s') {address : String} {x : Bean}
    {b : AnnotatedBean} (hmem : .published address b.implementor x ∈ os)
    (hkept : ∀ y, (s.objects 0).svrFactory = some y → y = b.implementor)
    (hone : ∀ b' ∈ beans, "webservice" ∈ b'.protocols → b'.implementor = b.implementor) :
    x = b.implementor := by
  have hx := h.holds.invoked _ _ x hmem
  rw [h.holds.first] at hx
  rcases Option.or_eq_some_iff.mp hx with hx | ⟨-, hx⟩
  · exact hkept x hx
  · obtain ⟨b', hb', rfl, hn⟩ := h.serviceBeans x (List.mem_of_head? hx)
    exact hone b' hb' hn

/-- **The beans and then the start**, where the names of the beans serve. -/
theorem setApplicationContext_eq (isResource : Java.Class → Bool) (createRest : Option Throwable)
    (h : s.Wf) (hd : ∀ b ∈ beans, Declared b)
    (hs : ServesBeans create 0 beans) :
    ∃ os s', Through s beans os s' ∧
      setApplicationContext isResource s beans create createRest =
        ⟨s', os.map .protocol ++ (ProtocolFactory.start isResource createRest s').sent,
          (ProtocolFactory.start isResource createRest s').thrown⟩ := by
  obtain ⟨os, ht, hsent, hall⟩ := provideBeans_through h hd hs
  refine ⟨os, _, hall, ?_⟩
  unfold setApplicationContext
  rw [Reaction.andThen_returned ht, hsent, (start_spec isResource hall.wf createRest).1]

/-- What the start does is no effect of a protocol. -/
theorem effects_start (h : s'.Wf)
    (ht : (ProtocolFactory.start isResource createRest s').thrown = none) :
    effects (ProtocolFactory.start isResource createRest s').sent = [] := by
  refine List.eq_nil_iff_forall_not_mem.mpr fun o ho => ?_
  obtain ⟨-, -, hsent⟩ := start_spec isResource h createRest
  rcases (hsent ht _).mp (mem_effects.mp ho) with ho | ho | ⟨-, ho⟩
  all_goals cases ho

/-- A run that is through, with the start: what reaches whom. -/
structure Completed (isResource : Java.Class → Bool) (s : ProtocolFactory)
    (beans : List AnnotatedBean) (create : Nat → Nat → Option Throwable)
    (createRest : Option Throwable) (os : List ProtocolOutput) (s' : ProtocolFactory) : Prop where
  through : Through s beans os s'
  returned : (ProtocolFactory.start isResource createRest s').thrown = none
  eq : setApplicationContext isResource s beans create createRest =
    ⟨s', os.map .protocol ++ (ProtocolFactory.start isResource createRest s').sent, none⟩

namespace Completed

variable (h : Completed isResource s beans create createRest os s')

include h

theorem mem_protocol_iff {o : ProtocolOutput} :
    .protocol o ∈ (setApplicationContext isResource s beans create createRest).sent ↔ o ∈ os := by
  rw [h.eq, ← mem_effects, effects_append, effects_map, effects_start h.through.wf h.returned,
    List.append_nil]

theorem mem_server_iff {xs : List Bean} :
    .server "restful" xs ∈ (setApplicationContext isResource s beans create createRest).sent ↔
      (s'.objects 1).getResourceClasses isResource ≠ [] ∧
        xs = (s'.objects 1).served isResource := by
  rw [h.eq, List.mem_append, (start_spec isResource h.through.wf createRest).2.2 h.returned]
  simp

/-- Each bean is provided on its protocols. -/
theorem provided {b : AnnotatedBean} (hb : b ∈ beans) {interfaze : Java.Class}
    (hi : b.interfaces.head? = some interfaze) {name : String}
    (hname : name = "default" ∨ name ∈ b.protocols) :
    (setApplicationContext isResource s beans create createRest).self.ProvidedOn
      (effects (setApplicationContext isResource s beans create createRest).sent) name
        (b.provider interfaze) := by
  rw [h.eq, effects_append, effects_map, effects_start h.through.wf h.returned, List.append_nil]
  exact h.through.provided b hb interfaze hi name hname

/-- Each bean is reached on them, where the factories hold its object. -/
theorem reached {b : AnnotatedBean} (hb : b ∈ beans) (hn : b.protocol ≠ none)
    (hw : "webservice" ∈ b.names → (∀ x, (s.objects 0).svrFactory = some x → x = b.implementor) ∧
      ∀ b' ∈ beans, "webservice" ∈ b'.protocols → b'.implementor = b.implementor)
    (hr : "restful" ∈ b.names → isResource b.implementor.cls = true ∧
      ∀ b' ∈ beans, "restful" ∈ b'.protocols → b'.implementor.cls = b.implementor.cls →
        b'.implementor = b.implementor)
    {interfaze : Java.Class} (hi : b.interfaces.head? = some interfaze) {name : String}
    (hname : name = "default" ∨ name ∈ b.names) :
    ReachedOn (setApplicationContext isResource s beans create createRest).sent name
      (b.provider interfaze) := by
  have hsent := (h.through.provided b hb interfaze hi name (names_eq hn ▸ hname)).sent
  refine ⟨fun hd => ?_, fun he => ?_, fun he => ?_⟩
  · obtain ⟨server, hserver⟩ := hsent.1 hd
    exact ⟨server, h.mem_protocol_iff.mpr hserver⟩
  · obtain ⟨u, x, hx⟩ := hsent.2.1 he
    obtain ⟨hkept, hone⟩ := hw (he ▸ hname.resolve_left (by rw [he]; decide))
    have heq := h.through.invoked_implementor hx hkept hone
    rw [heq] at hx
    exact ⟨u, h.mem_protocol_iff.mpr hx⟩
  · obtain ⟨hres, hone⟩ := hr (he ▸ hname.resolve_left (by rw [he]; decide))
    have hprovider := h.through.resourceProvider_eq (hsent.2.2 he) hone
    have hclasses : (s'.objects 1).getResourceClasses isResource ≠ [] := by
      rw [Ne, getResourceClasses_eq_nil_iff]
      intro hno
      exact nomatch hres.symm.trans (hno _ (mem_of_resourceProvider hprovider).1)
    exact ⟨_, h.mem_server_iff.mpr ⟨hclasses, rfl⟩, mem_served.mpr ⟨hres, hprovider⟩⟩

/-- A web service that is reached has its object for the one invoked. -/
theorem svrFactory_eq {b : AnnotatedBean} {interfaze : Java.Class}
    (hreached : ReachedOn (setApplicationContext isResource s beans create createRest).sent
      "webservice" (b.provider interfaze)) :
    (s'.objects 0).svrFactory = some b.implementor := by
  obtain ⟨u, hu⟩ := hreached.2.1 rfl
  exact h.through.holds.invoked _ _ _ (h.mem_protocol_iff.mp hu)

/-- A RESTful service that is reached has its object for that of its class, a resource class. -/
theorem resourceProvider_eq {b : AnnotatedBean} {interfaze : Java.Class}
    (hreached : ReachedOn (setApplicationContext isResource s beans create createRest).sent
      "restful" (b.provider interfaze)) :
    isResource b.implementor.cls = true ∧
      (s'.objects 1).resourceProvider b.implementor.cls = some b.implementor := by
  obtain ⟨xs, hxs, hmem⟩ := hreached.2.2 rfl
  obtain ⟨-, rfl⟩ := h.mem_server_iff.mp hxs
  exact mem_served.mp hmem

end Completed

/-- It completes exactly if all names serve and the RESTful server, if there is one, is created. -/
theorem completes_iff (h : s.Wf) (hd : ∀ b ∈ beans, Declared b) :
    (setApplicationContext isResource s beans create createRest).thrown = none ↔
      ServesBeans create 0 beans ∧ ∃ os s',
        Completed isResource s beans create createRest os s' := by
  constructor
  · intro ht
    have hs : ServesBeans create 0 beans := by
      refine (provideBeans_returned_iff h hd).mp ?_
      by_contra hno
      obtain ⟨e, he⟩ := Option.ne_none_iff_exists'.mp hno
      unfold setApplicationContext at ht
      rw [Reaction.andThen_thrown he] at ht
      exact hno ht
    obtain ⟨os, s', hall, heq⟩ := setApplicationContext_eq isResource createRest h hd hs
    rw [heq] at ht
    refine ⟨hs, os, s', hall, ht, ?_⟩
    rw [heq, ht]
  · rintro ⟨-, os, s', hall⟩
    rw [hall.eq]

/-- Where the names serve and the condition on the RESTful server holds, it completes. -/
theorem exists_completed (h : s.Wf) (hd : ∀ b ∈ beans, Declared b)
    (hs : ServesBeans create 0 beans)
    (hserved : createRest = none ∨ (∀ b ∈ beans, "restful" ∉ b.protocols) ∧
      ∀ x ∈ (s.objects 1).sf, isResource x.cls = false) :
    ∃ os s', Completed isResource s beans create createRest os s' := by
  obtain ⟨os, s', hall, heq⟩ := setApplicationContext_eq isResource createRest h hd hs
  have ht : (ProtocolFactory.start isResource createRest s').thrown = none := by
    obtain ⟨-, hthrown, -⟩ := start_spec isResource hall.wf createRest
    refine hthrown.mpr (hserved.symm.imp_left fun ⟨hno, hold⟩ => ?_)
    rw [getResourceClasses_eq_nil_iff, hall.holds.resources]
    intro x hx
    rcases List.mem_append.mp hx with hx | hx
    · exact hold x hx
    · obtain ⟨b, hb, -, hn⟩ := hall.resources x hx
      exact absurd hn (hno b hb)
  refine ⟨os, s', hall, ht, ?_⟩
  rw [heq, ht]

theorem allPublished_of_publishable (h : s.Wf) (hd : ∀ b ∈ beans, Declared b)
    (hp : Publishable isResource s beans create createRest) :
    AllPublished isResource s beans create createRest := by
  have hnames : ∀ b ∈ beans, b.names = b.protocols := fun b hb => names_eq (hp.named b hb)
  have hserves : ServesBeans create 0 beans := by
    refine (servesBeans_iff hd).mpr ⟨hp.named, fun j b hj => ?_⟩
    rw [Nat.zero_add]
    exact hp.created j b hj
  have hrest : createRest = none ∨ (∀ b ∈ beans, "restful" ∉ b.protocols) ∧
      ∀ x ∈ (s.objects 1).sf, isResource x.cls = false :=
    hp.served.imp_right fun ⟨hno, hold⟩ => ⟨fun b hb => hnames b hb ▸ hno b hb, hold⟩
  obtain ⟨os, s', hall⟩ := exists_completed h hd hserves hrest
  refine ⟨(completes_iff h hd).mpr ⟨hserves, os, s', hall⟩, fun b hb interfaze hi name hname => ?_,
    fun b hb interfaze hi name hname => ?_, os, _, by rw [hall.eq],
    effects_start hall.through.wf hall.returned, fun name hname => ?_⟩
  · exact hall.provided hb hi (hnames b hb ▸ hname)
  · refine hall.reached hb (hp.named b hb) (fun hn => ?_) (fun hn => ?_) hi hname
    · obtain ⟨hkept, hone⟩ := hp.webservice b hb hn
      exact ⟨hkept, fun b' hb' hn' => hone b' hb' (hnames b' hb' ▸ hn')⟩
    · obtain ⟨hres, hone⟩ := hp.restful b hb hn
      exact ⟨hres, fun b' hb' hn' => hone b' hb' (hnames b' hb' ▸ hn')⟩
  · obtain ⟨r, hr⟩ := Option.ne_none_iff_exists'.mp hname
    rw [(start_spec isResource hall.through.wf createRest).2.2 hall.returned]
    rcases lookup_registered_iff.mp hr with ⟨rfl, -⟩ | ⟨rfl, -⟩
    · exact .inl rfl
    · exact .inr (.inl rfl)

theorem publishable_of_allPublished (h : s.Wf) (hd : ∀ b ∈ beans, Declared b)
    (ha : AllPublished isResource s beans create createRest) :
    Publishable isResource s beans create createRest := by
  obtain ⟨hserves, os, s', hall⟩ := (completes_iff h hd).mp ha.completes
  obtain ⟨hnamed, hcreated⟩ := (servesBeans_iff hd).mp hserves
  have hreached : ∀ b ∈ beans, ∀ name ∈ b.names, ∃ interfaze,
      ReachedOn (setApplicationContext isResource s beans create createRest).sent name
        (b.provider interfaze) := by
    intro b hb name hname
    cases hi : b.interfaces with
    | nil => exact absurd hi (hd b hb).1
    | cons interfaze rest =>
      exact ⟨interfaze, ha.reached b hb interfaze (by rw [hi]; rfl) name (.inr hname)⟩
  have hwebservice : ∀ b ∈ beans, "webservice" ∈ b.names →
      (s'.objects 0).svrFactory = some b.implementor := by
    intro b hb hn
    obtain ⟨interfaze, hr⟩ := hreached b hb "webservice" hn
    exact hall.svrFactory_eq hr
  have hrestful : ∀ b ∈ beans, "restful" ∈ b.names → isResource b.implementor.cls = true ∧
      (s'.objects 1).resourceProvider b.implementor.cls = some b.implementor := by
    intro b hb hn
    obtain ⟨interfaze, hr⟩ := hreached b hb "restful" hn
    exact hall.resourceProvider_eq hr
  refine ⟨hnamed, fun i b hi => ?_, ?_, fun b hb hn => ⟨fun x hx => ?_, fun b' hb' hn' => ?_⟩,
    fun b hb hn => ⟨(hrestful b hb hn).1, fun b' hb' hn' hcls => ?_⟩⟩
  · have hone := hcreated i b hi
    rwa [Nat.zero_add] at hone
  · -- a server that is not to be created has nothing to serve
    obtain ⟨-, hthrown, -⟩ := start_spec isResource hall.through.wf createRest
    refine (hthrown.mp hall.returned).symm.imp_right fun hnil => ?_
    rw [getResourceClasses_eq_nil_iff] at hnil
    refine ⟨fun b hb hn => ?_, fun x hx => hnil x ?_⟩
    · obtain ⟨hres, hprovider⟩ := hrestful b hb hn
      exact nomatch hres.symm.trans (hnil _ (mem_of_resourceProvider hprovider).1)
    · rw [hall.through.holds.resources]
      exact List.mem_append_left _ hx
  · have hkept := hall.through.holds.first
    rw [hx, hwebservice b hb hn] at hkept
    exact (Option.some.inj hkept).symm
  · exact Option.some.inj ((hwebservice b' hb' hn').symm.trans (hwebservice b hb hn))
  · have hsame := (hrestful b' hb' hn').2
    rw [hcls, (hrestful b hb hn).2] at hsame
    exact (Option.some.inj hsame).symm

end Context

/-- **Every declared provider is published exactly if** no bean leaves its `protocol` at the
    default, the web services are those of one object, the RESTful ones have one object for each
    class, a resource class, and no server fails; from every state earlier calls lead to. -/
theorem allPublished_iff (isResource : Java.Class → Bool) (host : Option String)
    (cs : List FactoryCall) {beans : List AnnotatedBean} (hd : ∀ b ∈ beans, Declared b)
    (create : Nat → Nat → Option Throwable) (createRest : Option Throwable) :
    AllPublished isResource ((ProtocolFactory.machine host).after cs) beans create createRest ↔
      Publishable isResource ((ProtocolFactory.machine host).after cs) beans create createRest := by
  have hwf := (ProtocolFactory.tells_emitted host cs).1
  exact ⟨publishable_of_allPublished hwf hd, allPublished_of_publishable hwf hd⟩

/-- The sample bean, which names both, and another. -/
def simpleService : AnnotatedBean :=
  ⟨[⟨"org.example.SimpleService", []⟩], ⟨0, ⟨"org.example.SimpleServiceImpl", []⟩⟩,
    some ["webservice", "restful"]⟩

def otherService : AnnotatedBean :=
  ⟨[⟨"org.example.OtherService", []⟩], ⟨1, ⟨"org.example.OtherServiceImpl", []⟩⟩,
    some ["webservice", "restful"]⟩

/-- A bean with an interface that names protocols there are. -/
theorem declared_of_names {b : AnnotatedBean} {names : List String} (hi : b.interfaces ≠ [])
    (hp : b.protocol = some names) (hn : ∀ name ∈ names, ¬ Unknown name) : Declared b := by
  refine ⟨hi, fun names' h name hname => ?_⟩
  cases hp.symm.trans h
  exact hn name hname

theorem declared_services : ∀ b ∈ [simpleService, otherService], Declared b := by
  have hknown : ∀ name ∈ ["webservice", "restful"], ¬ Unknown name := by decide
  exact List.forall_mem_cons.mpr ⟨declared_of_names nofun rfl hknown,
    List.forall_mem_singleton.mpr (declared_of_names nofun rfl hknown)⟩

theorem allPublished_sample :
    AllPublished (fun _ => true) ((ProtocolFactory.machine (some "h")).after []) [simpleService]
      (fun _ _ => none) none := by
  refine (allPublished_iff _ (some "h") [] (List.forall_mem_singleton.mpr
    (declared_services _ List.mem_cons_self)) _ _).mpr
    ⟨List.forall_mem_singleton.mpr nofun, fun _ _ _ _ _ => rfl, .inl rfl, ?_, ?_⟩
  · refine List.forall_mem_singleton.mpr fun _ => ⟨nofun, ?_⟩
    exact List.forall_mem_singleton.mpr fun _ => rfl
  · refine List.forall_mem_singleton.mpr fun _ => ⟨rfl, ?_⟩
    exact List.forall_mem_singleton.mpr fun _ _ => rfl

/-- The sample bean with the attribute left out; and with the other bean behind it, whose web
    service invokes the first. -/
theorem not_allPublished_beans :
    (Declared { simpleService with protocol := none } ∧
      ¬ AllPublished (fun _ => true) ((ProtocolFactory.machine (some "h")).after [])
        [{ simpleService with protocol := none }] (fun _ _ => none) none) ∧
    ((∀ b ∈ [simpleService, otherService], Declared b) ∧
      ¬ AllPublished (fun _ => true) ((ProtocolFactory.machine (some "h")).after [])
        [simpleService, otherService] (fun _ _ => none) none) := by
  have hwf := ProtocolFactory.wf_new (some "h")
  have hdefault : Declared { simpleService with protocol := none } := ⟨nofun, nofun⟩
  refine ⟨⟨hdefault, fun h => ?_⟩, declared_services, fun h => ?_⟩
  · have hp := publishable_of_allPublished hwf (List.forall_mem_singleton.mpr hdefault) h
    exact hp.named _ (List.mem_singleton_self _) rfl
  · have hp := publishable_of_allPublished hwf declared_services h
    have hone := (hp.webservice _ List.mem_cons_self (by decide)).2 _
      (List.mem_cons_of_mem _ List.mem_cons_self) (by decide)
    revert hone
    decide

end ProviderFactoryBean

end EsbCore
