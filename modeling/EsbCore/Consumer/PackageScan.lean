/-
  File:      EsbCore/Consumer/PackageScan.lean
  Subject:   THE CONSUMERS OF AN APPLICATION (`org.esb.consumer.ConsumerFactoryBean`).

  Before the application's beans are made, the packages to scan are searched for interfaces, and
  for each interface found a proxy is registered under its name. The scan catches what a class
  file throws OUTSIDE the loop over a package's files, and puts what it finds into a list.

  * `ClassPath` -- what there is to find: files, and the classes loaded from them;
  * `scanPackages`, `postProcessBeanFactory` -- the scan, and what is done with its list;
  * `ScanComplete` -- what they are for: every interface once, a proxy for each;
  * `consumeInterfaces_cases` -- the loop gets through a list whose names are all new;
  * `scanComplete_iff` -- so all is well exactly if every interface stands in front of a failing
    file somewhere, at one place only, and start-up finds its handler, its time and its names.
-/
import EsbCore.Consumer.ConsumerFactoryBean
import EsbCore.Lib.Collect
import EsbCore.Rpc.RpcBeanProxy

namespace EsbCore

open Java Lib

/-! ## 1. What there is to find -/

/-- A class file, as a search for resources finds it. `className` is what its metadata says, and
    `none` where reading it throws an `IOException`. -/
structure Resource where
  isReadable : Bool
  className : Option String
  deriving DecidableEq, Repr

/-- A class as it is loaded. -/
structure LoadedClass where
  cls : Java.Class
  isInterface : Bool
  deriving DecidableEq, Repr

/-- The class path: `getResources` of a pattern, `none` for an `IOException`, and `Class.forName`,
    `none` for a `ClassNotFoundException`. A class has the name it is loaded by. -/
structure ClassPath where
  getResources : String → Option (List Resource)
  forName : String → Option LoadedClass
  named : ∀ name loaded, forName name = some loaded → loaded.cls.name = name

/-- The settings of a `ConsumerFactoryBean`, and the host and port of its system. -/
structure ConsumerFactoryBean where
  packagesToScan : Option (List String)
  lookUpWaitTime : BitVec 32
  host : Option String
  port : Int

/-- What the method asks its bean factory for. -/
structure BeanFactory where
  containsTimeOutHandler : Bool
  getTimeOutHandler : Except Throwable TimeOutHandler

/-- What the method changes: the names of the singletons, the protocols, and how many actors were
    created. -/
structure ConsumerContext where
  singletons : List String
  protocols : ProtocolFactory
  actors : Nat

/-- What it does to the outside. -/
inductive ConsumerOutput where
  | sleep (millis : Int)
  | actorOf (router : ClusterRouterGroup)
  | registerSingleton (name : String) (proxy : RpcBeanProxy)
  | protocol (o : ProtocolOutput)

namespace ConsumerFactoryBean

/-! ## 2. The scan -/

/-- `ClassUtils.convertClassNameToResourcePath(pkg)`. -/
def convertClassNameToResourcePath (pkg : String) : String :=
  String.ofList (pkg.toList.map fun c => if c = '.' then '/' else c)

/-- The pattern of a package. -/
def pattern (pkg : String) : String :=
  "classpath*:" ++ convertClassNameToResourcePath pkg ++ "/**/*.class"

/-- One round of the inner loop: the interface a file is of, if it is of one. -/
def visit (cp : ClassPath) (resource : Resource) : Except Throwable (Option Java.Class) :=
  if resource.isReadable then
    match resource.className with
    | none => .error .io
    | some className =>
      match cp.forName className with
      | none => .error .classNotFound
      | some clz => .ok (if clz.isInterface then some clz.cls else none)
  else .ok none

/-- The body of the outer loop's `try`: what it adds, and the exception it ends with. -/
def scanPackage (cp : ClassPath) (pkg : String) : List Java.Class × Option Throwable :=
  match cp.getResources (pattern pkg) with
  | none => ([], some .io)
  | some resources => collect (visit cp) resources

/-- `scanPackages(packagesToScan)`: the two exceptions are caught after a package's files. -/
def scanPackages (cp : ClassPath) : List String → Except Throwable (List Java.Class)
  | [] => .ok []
  | pkg :: pkgs =>
    match (scanPackage cp pkg).2 with
    | none | some .io | some .classNotFound =>
      (scanPackages cp pkgs).map ((scanPackage cp pkg).1 ++ ·)
    | some e => .error e

/-! ## 3. What is done with the list -/

/-- `registerSingleton(name, proxy)`: it throws when the name is taken. -/
def registerSingleton (name : String) (proxy : RpcBeanProxy) (ctx : ConsumerContext) :
    Reaction ConsumerContext ConsumerOutput Throwable :=
  if name ∈ ctx.singletons then ⟨ctx, [.registerSingleton name proxy], some .illegalState⟩
  else ⟨{ ctx with singletons := name :: ctx.singletons }, [.registerSingleton name proxy], none⟩

/-- `getProtocolFactory().consume(new ConsumerBean(interfac))`. -/
def consume (interfac : Java.Class) (ctx : ConsumerContext) :
    Reaction ConsumerContext ConsumerOutput Throwable :=
  let r := ctx.protocols.consume ⟨interfac, none⟩
  ⟨{ ctx with protocols := r.self }, r.sent.map .protocol, r.thrown⟩

/-- One round of the loop: the router, the proxy, and the two calls. -/
def consumeInterface (self : ConsumerFactoryBean) (handler : TimeOutHandler)
    (interfac : Java.Class) (ctx : ConsumerContext) :
    Reaction ConsumerContext ConsumerOutput Throwable :=
  (Reaction.mk { ctx with actors := ctx.actors + 1 } [.actorOf (getRemoteActor interfac)]
      none).andThen fun created =>
    (registerSingleton interfac.name ⟨ctx.actors, interfac, handler, self.host, self.port⟩
        created).andThen (consume interfac)

def consumeInterfaces (self : ConsumerFactoryBean) (handler : TimeOutHandler) :
    List Java.Class → ConsumerContext → Reaction ConsumerContext ConsumerOutput Throwable
  | [], ctx => ⟨ctx, [], none⟩
  | interfac :: rest, ctx =>
    (self.consumeInterface handler interfac ctx).andThen (consumeInterfaces self handler rest)

/-- `lookUpWaitTime * 1000`. -/
def waitMillis (self : ConsumerFactoryBean) : Int := (self.lookUpWaitTime * 1000#32).toInt

/-- `Thread.sleep(lookUpWaitTime * 1000)`, not interrupted. -/
def sleep (self : ConsumerFactoryBean) (ctx : ConsumerContext) :
    Reaction ConsumerContext ConsumerOutput Throwable :=
  if self.waitMillis < 0 then ⟨ctx, [], some .illegalArgument⟩
  else ⟨ctx, [.sleep self.waitMillis], none⟩

/-- The handler for timeouts. -/
def timeOutHandler (beans : BeanFactory) : Except Throwable TimeOutHandler :=
  if beans.containsTimeOutHandler then beans.getTimeOutHandler else .ok DefaultTimeOutHandler

/-- `postProcessBeanFactory(beanFactory)`. -/
def postProcessBeanFactory (self : ConsumerFactoryBean) (cp : ClassPath) (beans : BeanFactory)
    (ctx : ConsumerContext) : Reaction ConsumerContext ConsumerOutput Throwable :=
  match timeOutHandler beans with
  | .error e => ⟨ctx, [], some e⟩
  | .ok handler =>
    match self.packagesToScan with
    | none => ⟨ctx, [], some .nullPointer⟩
    | some packages =>
      match scanPackages cp packages with
      | .error e => ⟨ctx, [], some e⟩
      | .ok interfaceClasses =>
        (self.sleep ctx).andThen (self.consumeInterfaces handler interfaceClasses)

/-! ## 4. What it is for -/

/-- A file is readable and the class in it loads, and is this interface. -/
def Offers (cp : ClassPath) (resource : Resource) (clz : Java.Class) : Prop :=
  resource.isReadable = true ∧ ∃ name loaded, resource.className = some name ∧
    cp.forName name = some loaded ∧ loaded.isInterface = true ∧ loaded.cls = clz

/-- A file is readable, and reading it or loading its class throws. -/
def Fails (cp : ClassPath) (resource : Resource) : Prop :=
  resource.isReadable = true ∧ ∀ name, resource.className = some name → cp.forName name = none

/-- An interface is readable and loadable in one of the packages. -/
def InPackages (cp : ClassPath) (packages : List String) (clz : Java.Class) : Prop :=
  ∃ pkg ∈ packages, ∃ resources, cp.getResources (pattern pkg) = some resources ∧
    ∃ resource ∈ resources, Offers cp resource clz

/-- The names registered among the effects, with the interface of the proxy. -/
def asked (os : List ConsumerOutput) : List (String × Java.Class) :=
  os.filterMap fun
    | .registerSingleton name proxy => some (name, proxy.clz)
    | _ => none

/-- The scan finds every interface of the packages once and nothing else; the method gets through,
    asks for no name twice, and registers a proxy for each interface under its name. -/
structure ScanComplete (factory : ConsumerFactoryBean) (cp : ClassPath) (beans : BeanFactory)
    (ctx : ConsumerContext) (packages : List String) : Prop where
  scan : ∃ interfaceClasses, scanPackages cp packages = .ok interfaceClasses ∧
    interfaceClasses.Nodup ∧ ∀ clz, clz ∈ interfaceClasses ↔ InPackages cp packages clz
  completes : (factory.postProcessBeanFactory cp beans ctx).thrown = none
  names : ((asked (factory.postProcessBeanFactory cp beans ctx).sent).map Prod.fst).Nodup
  registers : ∀ name clz, (name, clz) ∈ asked (factory.postProcessBeanFactory cp beans ctx).sent ↔
    InPackages cp packages clz ∧ name = clz.name

/-- An interface stands at a position of a package's files, and no file in front of it fails. -/
def PlacedAt (cp : ClassPath) (pkg : String) (j : Nat) (clz : Java.Class) : Prop :=
  ∃ resources, cp.getResources (pattern pkg) = some resources ∧
    (∃ resource, resources[j]? = some resource ∧ Offers cp resource clz) ∧
    ∀ i resource, i < j → resources[i]? = some resource → ¬ Fails cp resource

/-- The exact condition: every interface of the packages has a place in one of them, one place
    only, and in one entry of the list only; the handler is found, the time is one to wait, and no
    interface's name is taken. -/
structure Regular (factory : ConsumerFactoryBean) (cp : ClassPath) (beans : BeanFactory)
    (ctx : ConsumerContext) (packages : List String) : Prop where
  placed : ∀ clz, InPackages cp packages clz → ∃ pkg ∈ packages, ∃ j, PlacedAt cp pkg j clz
  once : ∀ pkg ∈ packages, ∀ i j clz, PlacedAt cp pkg i clz → PlacedAt cp pkg j clz → i = j
  apart : packages.Pairwise fun pkg pkg' =>
    ∀ i j clz, PlacedAt cp pkg i clz → ¬ PlacedAt cp pkg' j clz
  handler : beans.containsTimeOutHandler = true → ∃ h, beans.getTimeOutHandler = .ok h
  wait : 0 ≤ factory.waitMillis
  fresh : ∀ clz, InPackages cp packages clz → clz.name ∉ ctx.singletons

/-! ## 5. The list -/

section Scan

variable (cp : ClassPath)

theorem visit_eq_some_iff {resource : Resource} {clz : Java.Class} :
    visit cp resource = .ok (some clz) ↔ Offers cp resource clz := by
  unfold visit Offers
  cases resource.isReadable with
  | false => simp
  | true =>
    cases resource.className with
    | none => simp
    | some name =>
      cases hload : cp.forName name with
      | none => simp [hload]
      | some loaded => simp [hload]

theorem visit_eq_error_iff {resource : Resource} :
    (∃ e, visit cp resource = .error e) ↔ Fails cp resource := by
  unfold visit Fails
  cases resource.isReadable with
  | false => simp
  | true =>
    cases resource.className with
    | none => simp
    | some name =>
      cases hload : cp.forName name with
      | none => simp [hload]
      | some loaded => simp [hload]

/-- What a file throws is caught. -/
theorem visit_error {resource : Resource} {e : Throwable} (h : visit cp resource = .error e) :
    e = .io ∨ e = .classNotFound := by
  unfold visit at h
  split at h
  · split at h
    · cases h
      exact .inl rfl
    · split at h
      · cases h
        exact .inr rfl
      · cases h
  · cases h

/-- A place is a position of the loop over the files. -/
theorem placedAt_iff {pkg : String} {j : Nat} {clz : Java.Class} :
    PlacedAt cp pkg j clz ↔
      ∃ resources, cp.getResources (pattern pkg) = some resources ∧
        StandsAt (visit cp) resources j clz := by
  unfold PlacedAt StandsAt
  simp only [visit_eq_some_iff, ← visit_eq_error_iff, not_exists, ne_eq]
  exact exists_congr fun resources => and_congr_right fun _ => and_congr_right fun _ =>
    ⟨fun h i a e hi ha => h i a hi ha e, fun h i a hi ha e => h i a e hi ha⟩

theorem mem_scanPackage_iff {pkg : String} {clz : Java.Class} :
    clz ∈ (scanPackage cp pkg).1 ↔ ∃ j, PlacedAt cp pkg j clz := by
  simp only [placedAt_iff]
  unfold scanPackage
  cases cp.getResources (pattern pkg) with
  | none => simp
  | some resources => simp [mem_collect_iff]

theorem nodup_scanPackage_iff {pkg : String} :
    (scanPackage cp pkg).1.Nodup ↔
      ∀ i j clz, PlacedAt cp pkg i clz → PlacedAt cp pkg j clz → i = j := by
  simp only [placedAt_iff]
  unfold scanPackage
  cases cp.getResources (pattern pkg) with
  | none => simp
  | some resources => simp [nodup_collect_iff]

/-- **The scan never throws**, and lists what the packages add one after another. -/
theorem scanPackages_eq (packages : List String) :
    scanPackages cp packages = .ok (packages.flatMap fun pkg => (scanPackage cp pkg).1) := by
  have hcaught : ∀ pkg e, (scanPackage cp pkg).2 = some e → e = .io ∨ e = .classNotFound := by
    intro pkg e h
    unfold scanPackage at h
    cases hr : cp.getResources (pattern pkg) with
    | none =>
      rw [hr] at h
      cases h
      exact .inl rfl
    | some resources =>
      rw [hr] at h
      obtain ⟨resource, -, he⟩ := exists_of_collect_thrown h
      exact visit_error cp he
  induction packages with
  | nil => rfl
  | cons pkg packages ih =>
    rw [scanPackages, ih, List.flatMap_cons]
    cases ht : (scanPackage cp pkg).2 with
    | none => rfl
    | some e => rcases hcaught pkg e ht with rfl | rfl <;> rfl

/-- Interfaces of the packages with one name are one. -/
theorem eq_of_name_eq {packages : List String} {clz clz' : Java.Class}
    (h : InPackages cp packages clz) (h' : InPackages cp packages clz')
    (hname : clz.name = clz'.name) : clz = clz' := by
  obtain ⟨-, -, -, -, -, -, -, name, loaded, -, hload, -, rfl⟩ := h
  obtain ⟨-, -, -, -, -, -, -, name', loaded', -, hload', -, rfl⟩ := h'
  rw [cp.named name loaded hload, cp.named name' loaded' hload'] at hname
  subst hname
  rw [hload] at hload'
  exact congrArg LoadedClass.cls (Option.some.inj hload')

/-- A place is one of an interface of the package. -/
theorem PlacedAt.inPackages {pkg : String} {packages : List String} {j : Nat} {clz : Java.Class}
    (h : PlacedAt cp pkg j clz) (hpkg : pkg ∈ packages) : InPackages cp packages clz := by
  obtain ⟨resources, hr, ⟨resource, hj, ho⟩, -⟩ := h
  exact ⟨pkg, hpkg, resources, hr, resource, List.mem_of_getElem? hj, ho⟩

end Scan

/-! ## 6. The loop -/

@[simp] theorem asked_append (os os' : List ConsumerOutput) :
    asked (os ++ os') = asked os ++ asked os' := List.filterMap_append

/-- Consuming never throws, and registers nothing. -/
theorem consume_returned {ctx : ConsumerContext} (h : ctx.protocols.Wf) (interfac : Java.Class) :
    (consume interfac ctx).thrown = none ∧ (consume interfac ctx).self.protocols.Wf ∧
      (consume interfac ctx).self.singletons = ctx.singletons ∧
      asked (consume interfac ctx).sent = [] := by
  obtain ⟨hready, hlookup⟩ := ProtocolFactory.ready_getDefaultProtocol h
  have hcls := ProtocolFactory.cls_of_default hready.toWf hlookup
  refine ⟨(AbstractProtocol.consume_default hcls ⟨interfac, none⟩).2,
    (ProtocolFactory.consume_tells h _).1, rfl, ?_⟩
  show List.filterMap _ (List.map _ _) = _
  rw [List.filterMap_map]
  exact List.filterMap_eq_nil_iff.mpr fun _ _ => rfl

theorem registerSingleton_taken (ctx : ConsumerContext) (proxy : RpcBeanProxy) {name : String}
    (h : name ∈ ctx.singletons) :
    registerSingleton name proxy ctx =
      ⟨ctx, [.registerSingleton name proxy], some .illegalState⟩ := if_pos h

theorem registerSingleton_new (ctx : ConsumerContext) (proxy : RpcBeanProxy) {name : String}
    (h : name ∉ ctx.singletons) :
    registerSingleton name proxy ctx =
      ⟨{ ctx with singletons := name :: ctx.singletons }, [.registerSingleton name proxy], none⟩ :=
  if_neg h

/-- One round: it asks for the interface's name, and throws where that is taken. -/
theorem consumeInterface_cases (self : ConsumerFactoryBean) (handler : TimeOutHandler)
    {ctx : ConsumerContext} (h : ctx.protocols.Wf) (interfac : Java.Class) :
    asked (self.consumeInterface handler interfac ctx).sent = [(interfac.name, interfac)] ∧
      (interfac.name ∈ ctx.singletons →
        (self.consumeInterface handler interfac ctx).thrown = some .illegalState) ∧
      (interfac.name ∉ ctx.singletons →
        (self.consumeInterface handler interfac ctx).thrown = none ∧
          (self.consumeInterface handler interfac ctx).self.protocols.Wf ∧
          (self.consumeInterface handler interfac ctx).self.singletons =
            interfac.name :: ctx.singletons) := by
  unfold consumeInterface
  rw [Reaction.andThen_returned rfl]
  by_cases hn : interfac.name ∈ ctx.singletons
  · rw [registerSingleton_taken { ctx with actors := ctx.actors + 1 } _ hn,
      Reaction.andThen_thrown rfl]
    exact ⟨rfl, fun _ => rfl, fun hnot => absurd hn hnot⟩
  · have hregistered : (⟨interfac.name :: ctx.singletons, ctx.protocols, ctx.actors + 1⟩ :
        ConsumerContext).protocols.Wf := h
    obtain ⟨ht, hwf, hs, ha⟩ := consume_returned hregistered interfac
    rw [registerSingleton_new { ctx with actors := ctx.actors + 1 } _ hn,
      Reaction.andThen_returned rfl]
    refine ⟨?_, fun hin => absurd hin hn, fun _ => ⟨ht, hwf, hs⟩⟩
    rw [asked_append, asked_append, ha]
    rfl

/-- **The loop gets through exactly if all names are new**, and then it has asked for each. -/
theorem consumeInterfaces_cases (self : ConsumerFactoryBean) (handler : TimeOutHandler)
    {ctx : ConsumerContext} (h : ctx.protocols.Wf) (interfaceClasses : List Java.Class) :
    ((self.consumeInterfaces handler interfaceClasses ctx).thrown = none ↔
        (interfaceClasses.map Java.Class.name).Nodup ∧
          ∀ clz ∈ interfaceClasses, clz.name ∉ ctx.singletons) ∧
      ((self.consumeInterfaces handler interfaceClasses ctx).thrown = none →
        asked (self.consumeInterfaces handler interfaceClasses ctx).sent =
          interfaceClasses.map fun clz => (clz.name, clz)) := by
  induction interfaceClasses generalizing ctx with
  | nil => exact ⟨iff_of_true rfl ⟨List.nodup_nil, nofun⟩, fun _ => rfl⟩
  | cons interfac rest ih =>
    obtain ⟨ha, htaken, hnew⟩ := self.consumeInterface_cases handler h interfac
    unfold consumeInterfaces
    by_cases hn : interfac.name ∈ ctx.singletons
    · have hthrown : (self.consumeInterface handler interfac ctx).thrown ≠ none := by
        rw [htaken hn]
        exact Option.some_ne_none _
      rw [Reaction.andThen_thrown (htaken hn)]
      refine ⟨iff_of_false hthrown fun hall => ?_, fun hnone => absurd hnone hthrown⟩
      exact hall.2 interfac List.mem_cons_self hn
    · obtain ⟨ht, hwf, hs⟩ := hnew hn
      obtain ⟨hiff, hasked⟩ := ih hwf
      rw [Reaction.andThen_returned ht]
      refine ⟨?_, fun hnone => ?_⟩
      · rw [hiff, hs, List.map_cons, List.nodup_cons, List.forall_mem_cons]
        simp only [List.mem_cons, not_or, List.mem_map, not_exists, not_and]
        constructor
        · rintro ⟨hnodup, hfree⟩
          exact ⟨⟨fun clz hclz => (hfree clz hclz).1, hnodup⟩, hn, fun clz hclz =>
            (hfree clz hclz).2⟩
        · rintro ⟨⟨hhead, hnodup⟩, -, hfree⟩
          exact ⟨hnodup, fun clz hclz => ⟨hhead clz hclz, hfree clz hclz⟩⟩
      · rw [asked_append, ha, hasked hnone]
        rfl

/-! ## 7. All of it -/

/-- What comes before the loop goes through exactly if the handler is found and the time is one to
    wait; then the loop over the list decides. -/
theorem postProcessBeanFactory_cases (self : ConsumerFactoryBean) (cp : ClassPath)
    (beans : BeanFactory) (ctx : ConsumerContext) {packages : List String}
    (hpackages : self.packagesToScan = some packages) {interfaceClasses : List Java.Class}
    (hscan : scanPackages cp packages = .ok interfaceClasses) :
    ((beans.containsTimeOutHandler = true → ∃ h, beans.getTimeOutHandler = .ok h) ∧
        0 ≤ self.waitMillis ∧ ∃ handler,
          self.postProcessBeanFactory cp beans ctx =
            (Reaction.mk ctx [.sleep self.waitMillis] none).andThen
              (self.consumeInterfaces handler interfaceClasses)) ∨
      ¬ ((beans.containsTimeOutHandler = true → ∃ h, beans.getTimeOutHandler = .ok h) ∧
          0 ≤ self.waitMillis) ∧
        (self.postProcessBeanFactory cp beans ctx).thrown ≠ none := by
  have hfound : (∃ h, timeOutHandler beans = .ok h) ↔
      (beans.containsTimeOutHandler = true → ∃ h, beans.getTimeOutHandler = .ok h) := by
    unfold timeOutHandler
    cases beans.containsTimeOutHandler <;> simp
  unfold postProcessBeanFactory
  cases hh : timeOutHandler beans with
  | error e =>
    refine .inr ⟨fun hall => ?_, Option.some_ne_none e⟩
    obtain ⟨h, hok⟩ := hfound.mpr hall.1
    rw [hh] at hok
    cases hok
  | ok handler =>
    simp only [hpackages, hscan]
    unfold sleep
    by_cases hw : self.waitMillis < 0
    · rw [if_pos hw, Reaction.andThen_thrown rfl]
      exact .inr ⟨fun hall => absurd hall.2 (not_le.mpr hw), Option.some_ne_none _⟩
    · rw [if_neg hw]
      exact .inl ⟨hfound.mp ⟨handler, hh⟩, not_lt.mp hw, handler, rfl⟩

/-- What the packages add, taken together, has every interface once exactly if each stands at one
    place at most. -/
theorem nodup_scanPackages_iff (cp : ClassPath) (packages : List String) :
    (packages.flatMap fun pkg => (scanPackage cp pkg).1).Nodup ↔
      (∀ pkg ∈ packages, ∀ i j clz, PlacedAt cp pkg i clz → PlacedAt cp pkg j clz → i = j) ∧
        packages.Pairwise fun pkg pkg' =>
          ∀ i j clz, PlacedAt cp pkg i clz → ¬ PlacedAt cp pkg' j clz := by
  have hdisjoint : ∀ pkg pkg',
      List.Disjoint (scanPackage cp pkg).1 (scanPackage cp pkg').1 ↔
        ∀ i j clz, PlacedAt cp pkg i clz → ¬ PlacedAt cp pkg' j clz := by
    intro pkg pkg'
    simp only [List.disjoint_left, mem_scanPackage_iff, not_exists]
    refine ⟨fun h i j clz hi => h ⟨i, hi⟩ j, fun h clz hplaced j => ?_⟩
    obtain ⟨i, hi⟩ := hplaced
    exact h i j clz hi
  rw [List.nodup_flatMap]
  refine and_congr ?_ (List.Pairwise.iff hdisjoint)
  exact forall₂_congr fun pkg _ => nodup_scanPackage_iff cp

theorem mem_scanPackages_iff (cp : ClassPath) {packages : List String} {clz : Java.Class} :
    clz ∈ packages.flatMap (fun pkg => (scanPackage cp pkg).1) ↔
      ∃ pkg ∈ packages, ∃ j, PlacedAt cp pkg j clz := by
  simp only [List.mem_flatMap, mem_scanPackage_iff]

theorem regular_of_scanComplete {self : ConsumerFactoryBean} {cp : ClassPath}
    {beans : BeanFactory} {ctx : ConsumerContext} (hwf : ctx.protocols.Wf)
    {packages : List String} (hpackages : self.packagesToScan = some packages)
    (h : self.ScanComplete cp beans ctx packages) : self.Regular cp beans ctx packages := by
  have hscan := scanPackages_eq cp packages
  obtain ⟨interfaceClasses, hl, hnodup, hall⟩ := h.scan
  obtain rfl := Except.ok.inj (hscan.symm.trans hl)
  obtain ⟨honce, hapart⟩ := (nodup_scanPackages_iff cp packages).mp hnodup
  rcases self.postProcessBeanFactory_cases cp beans ctx hpackages hscan with
    ⟨hhandler, hwait, handler, heq⟩ | ⟨-, hthrown⟩
  · have hcompletes := h.completes
    rw [heq, Reaction.andThen_returned rfl] at hcompletes
    have hfree := ((self.consumeInterfaces_cases handler hwf _).1.mp hcompletes).2
    exact
      { placed := fun clz hclz => (mem_scanPackages_iff cp).mp ((hall clz).mpr hclz)
        once := honce
        apart := hapart
        handler := hhandler
        wait := hwait
        fresh := fun clz hclz => hfree clz ((hall clz).mpr hclz) }
  · exact absurd h.completes hthrown

theorem scanComplete_of_regular {self : ConsumerFactoryBean} {cp : ClassPath}
    {beans : BeanFactory} {ctx : ConsumerContext} (hwf : ctx.protocols.Wf)
    {packages : List String} (hpackages : self.packagesToScan = some packages)
    (h : self.Regular cp beans ctx packages) : self.ScanComplete cp beans ctx packages := by
  have hscan := scanPackages_eq cp packages
  have hall : ∀ clz, clz ∈ packages.flatMap (fun pkg => (scanPackage cp pkg).1) ↔
      InPackages cp packages clz := by
    intro clz
    rw [mem_scanPackages_iff]
    exact ⟨fun ⟨pkg, hpkg, j, hj⟩ => hj.inPackages cp hpkg, h.placed clz⟩
  have hnodup := (nodup_scanPackages_iff cp packages).mpr ⟨h.once, h.apart⟩
  -- one class has one name, so the names are new as the classes are
  have hnames : ((packages.flatMap fun pkg => (scanPackage cp pkg).1).map
      Java.Class.name).Nodup :=
    List.Nodup.map_on (fun clz hclz clz' hclz' =>
      eq_of_name_eq cp ((hall clz).mp hclz) ((hall clz').mp hclz')) hnodup
  rcases self.postProcessBeanFactory_cases cp beans ctx hpackages hscan with
    ⟨-, -, handler, heq⟩ | ⟨hnot, -⟩
  · obtain ⟨hthrown, hasked⟩ := self.consumeInterfaces_cases handler hwf
      (packages.flatMap fun pkg => (scanPackage cp pkg).1)
    have hcompletes := hthrown.mpr ⟨hnames, fun clz hclz => h.fresh clz ((hall clz).mp hclz)⟩
    have hasked : asked (self.postProcessBeanFactory cp beans ctx).sent =
        (packages.flatMap fun pkg => (scanPackage cp pkg).1).map fun clz => (clz.name, clz) := by
      rw [heq, Reaction.andThen_returned rfl]
      exact hasked hcompletes
    refine ⟨⟨_, hscan, hnodup, hall⟩, ?_, ?_, fun name clz => ?_⟩
    · rw [heq, Reaction.andThen_returned rfl]
      exact hcompletes
    · rw [hasked, List.map_map]
      exact hnames
    · rw [hasked, List.mem_map, ← hall]
      constructor
      · rintro ⟨clz', hclz', he⟩
        cases he
        exact ⟨hclz', rfl⟩
      · rintro ⟨hclz, rfl⟩
        exact ⟨clz, hclz, rfl⟩
  · exact absurd ⟨h.handler, h.wait⟩ hnot

/-- **Every interface of the packages is registered once if and only if** each has a place in
    front of the failing files of some package, no interface has two places, and start-up finds
    its handler, a time to wait and names that are free; from every state of the protocols that
    earlier calls lead to. -/
theorem scanComplete_iff {self : ConsumerFactoryBean} {packages : List String}
    (hpackages : self.packagesToScan = some packages) (cp : ClassPath) (beans : BeanFactory)
    (singletons : List String) (host : Option String) (cs : List FactoryCall) (actors : Nat) :
    self.ScanComplete cp beans ⟨singletons, (ProtocolFactory.machine host).after cs, actors⟩
        packages ↔
      self.Regular cp beans ⟨singletons, (ProtocolFactory.machine host).after cs, actors⟩
        packages := by
  have hwf := (ProtocolFactory.tells_emitted host cs).1
  exact ⟨regular_of_scanComplete hwf hpackages, scanComplete_of_regular hwf hpackages⟩

/-- A class path on which every pattern finds these files; one class of it is an interface and one
    cannot be loaded. -/
def greeterPath (resources : List Resource) : ClassPath where
  getResources _ := some resources
  forName name :=
    if name = "org.demo.Broken" then none else some ⟨⟨name, []⟩, decide (name = "org.demo.Greeter")⟩
  named name loaded h := by
    split at h
    · cases h
    · cases h
      rfl

/-- The settings with packages to scan. -/
def greeterBean (packages : List String) : ConsumerFactoryBean := ⟨some packages, 1, some "h", 0⟩

/-- A package with the interface in front of the file that fails. -/
theorem scanComplete_greeter :
    (greeterBean ["org.demo"]).ScanComplete
      (greeterPath [⟨true, some "org.demo.Greeter"⟩, ⟨true, some "org.demo.Broken"⟩])
      ⟨false, .error .illegalState⟩ ⟨[], (ProtocolFactory.machine (some "h")).after [], 0⟩
      ["org.demo"] := by
  refine (scanComplete_iff rfl _ _ [] (some "h") [] 0).mpr ?_
  obtain ⟨honce, hapart⟩ := (nodup_scanPackages_iff (greeterPath
    [⟨true, some "org.demo.Greeter"⟩, ⟨true, some "org.demo.Broken"⟩]) ["org.demo"]).mp (by decide)
  refine ⟨?_, honce, hapart, nofun, by decide, fun _ _ => List.not_mem_nil⟩
  rintro clz ⟨pkg, hpkg, resources, hr, resource, hmem, -, name, loaded, hname, hload, -, rfl⟩
  cases hr
  refine ⟨pkg, hpkg, (mem_scanPackage_iff _).mp ?_⟩
  rcases List.mem_pair.mp hmem with rfl | rfl
  · cases hname
    cases hload
    exact List.mem_singleton_self _
  · cases hname
    cases hload

/-- The interface behind that file is lost, and where the package is named twice its name is asked
    for twice. -/
theorem not_scanComplete_behind_twice :
    ¬ (greeterBean ["org.demo"]).ScanComplete
        (greeterPath [⟨true, some "org.demo.Broken"⟩, ⟨true, some "org.demo.Greeter"⟩])
        ⟨false, .error .illegalState⟩ ⟨[], (ProtocolFactory.machine (some "h")).after [], 0⟩
        ["org.demo"] ∧
      ¬ (greeterBean ["org.demo", "org.demo"]).ScanComplete
        (greeterPath [⟨true, some "org.demo.Greeter"⟩])
        ⟨false, .error .illegalState⟩ ⟨[], (ProtocolFactory.machine (some "h")).after [], 0⟩
        ["org.demo", "org.demo"] := by
  refine ⟨fun h => ?_, fun h => ?_⟩
  · obtain ⟨l, hl, -, hall⟩ := h.scan
    have hempty : scanPackages (greeterPath [⟨true, some "org.demo.Broken"⟩,
        ⟨true, some "org.demo.Greeter"⟩]) ["org.demo"] = .ok [] := rfl
    obtain rfl := Except.ok.inj (hempty.symm.trans hl)
    refine absurd ((hall ⟨"org.demo.Greeter", []⟩).mpr ?_) List.not_mem_nil
    exact ⟨"org.demo", List.mem_singleton_self _, _, rfl, ⟨true, some "org.demo.Greeter"⟩,
      by decide, rfl, "org.demo.Greeter", _, rfl, rfl, rfl, rfl⟩
  · obtain ⟨l, hl, hnodup, -⟩ := h.scan
    have htwice : scanPackages (greeterPath [⟨true, some "org.demo.Greeter"⟩])
        ["org.demo", "org.demo"] = .ok [⟨"org.demo.Greeter", []⟩, ⟨"org.demo.Greeter", []⟩] := rfl
    obtain rfl := Except.ok.inj (htwice.symm.trans hl)
    exact absurd hnodup (by decide)

end ConsumerFactoryBean

end EsbCore
