/-
  File:      EsbCore/Monitor/CallAccounts.lean
  Subject:   WHAT THE MONITORS SAY ABOUT CALLS, from the call of a method to the line in the log:
             a pool's actors count and report, the bus carries the reports, a monitor prints them.

  * `printedCalls` -- the calls of a method that lines of a monitor's log say there were;
  * `printedCalls_le` -- in a steady pool the lines never say more than there were, whatever the bus
    loses;
  * `printedCalls_iff` -- where it loses nothing, they say what there were, but for the calls still
    held, exactly when the pool is steady.
-/
import EsbCore.Monitor.MonitorBus
import EsbCore.Rpc.PoolCount

namespace EsbCore

open Java Lib

/-! ## 1. Lines about a service -/

namespace CallAccounts

/-- The text in front of a count. -/
def countText (serverName : String) : String :=
  serverName ++ " Be Called Count in 10 Seconds : \x7b\x7d=\x7b\x7d"

theorem countText_inj {s t : String} (h : countText s = countText t) : s = t := by
  have h := congrArg String.toList h
  unfold countText at h
  rw [String.toList_append, String.toList_append] at h
  exact String.toList_inj.mp (List.append_cancel_right h)

/-- The count of a method of a service in a line. -/
def countIn (s m : String) : MonitorOutput → Int
  | .info template key count => if template = countText s ∧ key = m then count.toInt else 0
  | .println _ => 0
  | .unhandled => 0

/-- The calls of a method of a service that lines say there were. -/
def printedCalls (s m : String) (os : List (List MonitorOutput)) : Int :=
  (os.map fun lines => (lines.map (countIn s m)).sum).sum

/-- The counts of a service in an event. -/
def countsOf (s : String) : MonitorEvent → Option (AtomicLongMap String)
  | .providerBeCalledCount serverName data => if serverName = s then some data else none
  | .consumerCallFailureEvent _ _ _ => none
  | .nodeSeedJionEvent _ => none
  | .nodeSeedLeaveEvent _ => none
  | .nodeSeedAllEvent _ => none

/-- One key of a map is counted once. -/
theorem sum_keys (data : AtomicLongMap String) (m : String) (keys : List String)
    (h : keys.Nodup) : (keys.map fun key => if key = m then (AtomicLongMap.get data key).toInt
      else 0).sum = if m ∈ keys then (AtomicLongMap.get data m).toInt else 0 := by
  induction keys with
  | nil => rfl
  | cons key keys ih =>
    obtain ⟨hkey, hkeys⟩ := List.nodup_cons.mp h
    rw [List.map_cons, List.sum_cons, ih hkeys]
    by_cases hm : key = m
    · subst hm
      rw [if_pos rfl, if_neg hkey, if_pos List.mem_cons_self, Int.add_zero]
    · rw [if_neg hm, Int.zero_add]
      simp [Ne.symm hm]

theorem get_of_notMem {data : AtomicLongMap String} {m : String} (h : m ∉ data.keys) :
    AtomicLongMap.get data m = 0 := by
  unfold AtomicLongMap.get
  rw [AList.lookup_eq_none.mpr h]
  rfl

/-- **The lines about an event say its counts.** -/
theorem sum_lines (seeds : SetRef → List AkkaSeed) (s m : String) (event : MonitorEvent) :
    ((MonitorBus.lines seeds event).map (countIn s m)).sum =
      ((countsOf s event).map fun data => (AtomicLongMap.get data m).toInt).getD 0 := by
  cases event with
  | consumerCallFailureEvent n c f => rfl
  | nodeSeedJionEvent seed => rfl
  | nodeSeedLeaveEvent seed => rfl
  | nodeSeedAllEvent r =>
    refine List.sum_eq_zero fun x hx => ?_
    obtain ⟨o, ho, rfl⟩ := List.mem_map.mp hx
    obtain ⟨seed, -, rfl⟩ := List.mem_map.mp ho
    rfl
  | providerBeCalledCount serverName data =>
    show ((data.keys.map fun key => MonitorOutput.info (countText serverName) key
      (AtomicLongMap.get data key)).map (countIn s m)).sum = _
    rw [List.map_map]
    by_cases hs : serverName = s
    · subst hs
      have hkeys : (countIn serverName m ∘ fun key => MonitorOutput.info (countText serverName) key
          (AtomicLongMap.get data key)) =
          fun key => if key = m then (AtomicLongMap.get data key).toInt else 0 := by
        funext key
        simp [countIn]
      have hcounts : countsOf serverName (.providerBeCalledCount serverName data) = some data :=
        if_pos rfl
      rw [hkeys, sum_keys data m data.keys (AList.keys_nodup data), hcounts, Option.map_some,
        Option.getD_some]
      split
      · rfl
      · rename_i hm
        rw [get_of_notMem hm]
        rfl
    · have hcounts : countsOf s (.providerBeCalledCount serverName data) = none := if_neg hs
      rw [hcounts]
      refine List.sum_eq_zero fun x hx => ?_
      obtain ⟨key, -, rfl⟩ := List.mem_map.mp hx
      exact if_neg fun h => hs (countText_inj h.1)

/-- What lines about events say is what the events say. -/
theorem printedCalls_lines (seeds : SetRef → List AkkaSeed) (s m : String)
    (events : List MonitorEvent) :
    printedCalls s m (events.map (MonitorBus.lines seeds)) =
      ((events.filterMap (countsOf s)).map fun data => (AtomicLongMap.get data m).toInt).sum := by
  unfold printedCalls
  induction events with
  | nil => rfl
  | cons event events ih =>
    rw [List.map_cons, List.map_cons, List.sum_cons, ih, sum_lines]
    cases hc : countsOf s event with
    | none =>
      rw [List.filterMap_cons_none hc]
      exact Int.zero_add _
    | some data =>
      rw [List.filterMap_cons_some hc, List.map_cons, List.sum_cons]
      rfl

/-! ## 2. Reports of a pool -/

variable {pools : List RpcPool}

/-- The reports of a pool's actors in a run of calls. -/
def poolReports (j : Fin pools.length) (es : List (RpcExchangeEvent pools)) :
    List (AtomicLongMap String) :=
  ((rpcExchange pools).machine.emitted es).filterMap (RpcExchange.poolReportIn j)

/-- Every actor of the pool answers what reaches it, and reports in time. -/
def PoolSteady (j : Fin pools.length) (es : List (RpcExchangeEvent pools)) : Prop :=
  ∀ r, RpcProviderActor.Steady (@providerOf pools ⟨j, r⟩).implementor
    ((rpcExchange pools).received ⟨j, r⟩ es)

/-- A report of a steady reference counts no calls less than none. -/
theorem reports_nonneg {provider : ProviderBean} {ds : List Delivery}
    (h : RpcProviderActor.Steady provider.implementor ds) {o : RpcOutput}
    {data : AtomicLongMap String} (ho : o ∈ (RpcProviderActor.machine provider).emitted ds)
    (hd : RpcProviderActor.countData o = some data) (m : String) :
    0 ≤ (AtomicLongMap.get data m).toInt := by
  obtain ⟨-, hseen⟩ := RpcProviderActor.follows provider ds
  have hbound := ((RpcProviderActor.conserved_iff_tally provider ds m).mp
    ((RpcProviderActor.forall_conserved_iff provider ds).mpr h m)).2
  have hmem : (fun m => AtomicLongMap.get data m) ∈
      ((RpcProviderActor.machine provider).emitted ds).filterMap RpcProviderActor.seen := by
    refine List.mem_filterMap.mpr ⟨o, ho, ?_⟩
    unfold RpcProviderActor.seen
    rw [hd]
    rfl
  rw [hseen] at hmem
  obtain ⟨r, hr, he⟩ := List.mem_map.mp hmem
  have hm : Int64.ofNat (r m) = AtomicLongMap.get data m := congrFun he m
  rw [← hm]
  have hlong := (RpcProviderActor.long_eq_iff (r m)).mpr (hbound r (List.mem_append_left _ hr))
  unfold RpcProviderActor.long at hlong
  omega

/-- Nor does a report of a steady pool. -/
theorem poolReports_nonneg {j : Fin pools.length} {es : List (RpcExchangeEvent pools)}
    (h : PoolSteady j es) {data : AtomicLongMap String} (hd : data ∈ poolReports j es)
    (m : String) : 0 ≤ (AtomicLongMap.get data m).toInt := by
  obtain ⟨o, ho, hdata⟩ := List.mem_filterMap.mp hd
  cases o with
  | decided i x => cases hdata
  | server k o =>
    obtain ⟨j', r⟩ := k
    by_cases hj : j' = j
    · subst hj
      have hcount : RpcProviderActor.countData o = some data := (if_pos rfl).symm.trans hdata
      have hmem : o ∈ ((rpcExchange pools).machine.emitted es).filterMap
          (ExchangeOutput.serverIn ⟨j', r⟩) := List.mem_filterMap.mpr ⟨_, ho, if_pos rfl⟩
      refine reports_nonneg (h r) ?_ hcount m
      exact ((rpcExchange pools).server_after ⟨j', r⟩ es).2 ▸ List.mem_append_right _ hmem
    · exact nomatch (if_neg hj).symm.trans hdata

/-! ## 3. What is printed -/

variable (seeds : SetRef → List AkkaSeed)

/-- The calls of a method the pool's actors hold. -/
def poolHeld (m : String) (j : Fin pools.length) (es : List (RpcExchangeEvent pools)) : Int :=
  ∑ r, RpcExchange.held m ⟨j, r⟩ es

/-- The reports a node's client took about a service, in a run of the bus. -/
def tookReports (s : String) (n : Nat) (bs : List BusEvent) : List (AtomicLongMap String) :=
  (MonitorBus.took seeds n bs).filterMap (countsOf s)

/-- **Monitors never overstate.** Where a node's client takes about a service only what the actors
    of a steady pool report, no report twice, the lines a monitor prints of that node say for no
    method more calls than the pool has handled, less those it holds; whatever is lost on the way. -/
theorem printedCalls_le (s m : String) (n k : Nat) (j : Fin pools.length)
    (es : List (RpcExchangeEvent pools)) (bs : List BusEvent) (hsteady : PoolSteady j es)
    (htook : (tookReports seeds s n bs).Subperm (poolReports j es)) :
    printedCalls s m (MonitorBus.printed seeds ⟨.mediator n, .core k⟩ bs) + poolHeld m j es ≤
      (RpcExchange.poolCalls m j es : Int) := by
  obtain ⟨events, hevents, hprinted⟩ :=
    List.sublist_map_iff.mp (MonitorBus.printed_sublist_took seeds n k bs)
  have hbalanced := (RpcExchange.forall_poolBalanced_iff j es).mpr hsteady m
  rw [hprinted, printedCalls_lines]
  unfold RpcExchange.PoolBalanced at hbalanced
  obtain ⟨reports, hperm, hsub⟩ :=
    ((hevents.filterMap (countsOf s)).subperm.trans htook)
  have hsum : ((events.filterMap (countsOf s)).map fun data => (AtomicLongMap.get data m).toInt).sum
      = (reports.map fun data => (AtomicLongMap.get data m).toInt).sum :=
    (hperm.symm.map _).sum_eq
  have hle : (reports.map fun data => (AtomicLongMap.get data m).toInt).sum ≤
      ((poolReports j es).map fun data => (AtomicLongMap.get data m).toInt).sum := by
    refine (hsub.map _).sum_le_sum fun x hx => ?_
    obtain ⟨data, hdata, rfl⟩ := List.mem_map.mp hx
    exact poolReports_nonneg hsteady hdata m
  unfold poolReports at hle
  unfold poolHeld
  omega

/-- **Monitors tell the truth exactly where the pool is steady.** Where a node's client takes about
    a service what a pool's actors report, in any order, and a monitor prints all that the client
    takes, its lines say for every method how many calls the pool has handled, less those it
    holds, if and only if every actor of the pool answers every call that reaches it and no
    stretch without a report brings it `2 ^ 63` calls of one method. -/
theorem printedCalls_iff (s : String) (n k : Nat) (j : Fin pools.length)
    (es : List (RpcExchangeEvent pools)) (bs : List BusEvent)
    (htook : (tookReports seeds s n bs).Perm (poolReports j es))
    (hprinted : MonitorBus.printed seeds ⟨.mediator n, .core k⟩ bs =
      (MonitorBus.took seeds n bs).map (MonitorBus.lines seeds)) :
    (∀ m, printedCalls s m (MonitorBus.printed seeds ⟨.mediator n, .core k⟩ bs) +
        poolHeld m j es = (RpcExchange.poolCalls m j es : Int)) ↔ PoolSteady j es := by
  rw [hprinted]
  refine (forall_congr' fun m => ?_).trans (RpcExchange.forall_poolBalanced_iff j es)
  have hsum : ((tookReports seeds s n bs).map fun data => (AtomicLongMap.get data m).toInt).sum =
      ((poolReports j es).map fun data => (AtomicLongMap.get data m).toInt).sum :=
    (htook.map _).sum_eq
  unfold tookReports at hsum
  rw [printedCalls_lines, hsum, eq_comm]
  rfl

/-- A run that is answered, and short, is steady. -/
theorem steady_of_short {target : Bean} {ds : List Delivery}
    (ha : ∀ d ∈ ds, ∀ event, d.message = .callMethod event →
      RpcProviderActor.Answered target d.invoke event)
    (hlen : ds.length < 2 ^ 63) : RpcProviderActor.Steady target ds where
  answered := ha
  bounded _ _ hw _ :=
    (List.countP_le_length.trans hw.length_le).trans_lt hlen

def catalogPool : Fin RpcExchange.catalogPools.length := ⟨0, Nat.one_pos⟩

/-- The first actor of the pool. -/
def firstRoutee : Routee RpcExchange.catalogPools := RpcExchange.catalogRoutee ⟨0, Nat.two_pos⟩

/-- A call that it answers, and a report. -/
def oneCall : List (RpcExchangeEvent RpcExchange.catalogPools) :=
  [.request RpcExchange.findCall,
    .deliver 0 firstRoutee fun _ _ => .ok (.obj "java.lang.String" 1),
    .serve firstRoutee ⟨⟨.callCount, fun _ _ => .ok .null⟩, rfl⟩]

/-- The report on its way to a monitor on another node. -/
def oneCallReport : List BusEvent :=
  [.act (.startCore 1), .deliver ⟨.core 1, .mediator 1⟩ true, .act (.gossip 0 1),
    .act (.tellClient 3 0 (some (.providerBeCalledCount RpcProviderActor.catalogProvider.getName
      (AtomicLongMap.getAndIncrement ∅ "find")))),
    .deliver ⟨.reporter 3, .client 0⟩ true, .deliver ⟨.client 0, .mediator 0⟩ true,
    .deliver ⟨.mediator 0, .core 1⟩ true]

theorem poolSteady_oneCall : PoolSteady catalogPool oneCall := by
  intro r
  match r with
  | ⟨0, _⟩ =>
    refine steady_of_short (fun d hd event he => ?_) (show 2 < 2 ^ 63 by decide)
    rcases List.mem_cons.mp hd with rfl | hd
    · cases he
      exact ⟨⟨"find", [.ref "java.lang.String"]⟩, "java.lang.String", 1, rfl, rfl⟩
    · cases List.mem_singleton.mp hd
      cases he
  | ⟨1, _⟩ =>
    exact steady_of_short (fun d hd => absurd hd List.not_mem_nil) (show 0 < 2 ^ 63 by decide)

/-- Its one line says one call, even before the reports of later calls. -/
theorem printedCalls_oneCall_le :
    printedCalls RpcProviderActor.catalogProvider.getName "find"
        (MonitorBus.printed (fun _ => []) ⟨.mediator 0, .core 1⟩ oneCallReport) = 1 ∧
      printedCalls RpcProviderActor.catalogProvider.getName "find"
          (MonitorBus.printed (fun _ => []) ⟨.mediator 0, .core 1⟩ oneCallReport) +
        poolHeld "find" catalogPool oneCall ≤
          (RpcExchange.poolCalls "find" catalogPool oneCall : Int) :=
  ⟨by decide, printedCalls_le (fun _ => []) _ "find" 0 1 catalogPool oneCall oneCallReport
    poolSteady_oneCall (List.Perm.refl _).subperm⟩

/-- It is what there was, of every method. -/
theorem printedCalls_oneCall :
    PoolSteady catalogPool oneCall ∧ ∀ m,
      printedCalls RpcProviderActor.catalogProvider.getName m
          (MonitorBus.printed (fun _ => []) ⟨.mediator 0, .core 1⟩ oneCallReport) +
        poolHeld m catalogPool oneCall = (RpcExchange.poolCalls m catalogPool oneCall : Int) :=
  ⟨poolSteady_oneCall, (printedCalls_iff (fun _ => []) _ 0 1 catalogPool oneCall oneCallReport
    (List.Perm.refl _) rfl).mpr poolSteady_oneCall⟩

end CallAccounts

end EsbCore
