/-
The collector of resource metrics.  A scrape samples every container, and turns
cumulative CPU counters into rates by a cache of the previous samples; the cache
is pruned on every scrape before it is read.
-/
import MacVz.Footprint
import MacVz.GoPackages
import MacVz.PodModel

namespace MacVz

namespace Metrics

open Footprint

/-- `runtime.ResourceStats`, as far as the collector reads it. -/
structure ResourceStats where
  timestamp : Int
  cpuUsageCoreNanoSeconds : UInt64
  memoryUsageBytes : UInt64
  memoryLimitBytes : UInt64
deriving Repr, DecidableEq

/-- `runtime.FilesystemUsage`. -/
structure FilesystemUsage where
  timestamp : Int
  totalBytes : UInt64
  usedBytes : UInt64
  availableBytes : UInt64
  totalInodes : UInt64
  usedInodes : UInt64
deriving Repr, DecidableEq

/-- `runtime.ImageCacheUsage`. -/
structure ImageCacheUsage where
  timestamp : Int
  totalBytes : UInt64
deriving Repr, DecidableEq

/-- `DiskSample`: each part is there if its flag is set. -/
structure DiskSample where
  nodeFS : Option FilesystemUsage
  images : Option ImageCacheUsage
deriving Repr, DecidableEq

/-- `ContainerInput`. -/
structure ContainerInput where
  name : String
  workloadID : String
  startTime : Int
deriving Repr, DecidableEq

/-- `PodInput`. -/
structure PodInput where
  ns : String
  name : String
  uid : String
  startTime : Int
  containers : List ContainerInput
deriving Repr, DecidableEq

structure PodReference where
  ns : String
  name : String
  uid : String
deriving Repr, DecidableEq

/-- `statsv1alpha1.CPUStats`. -/
structure CPUStats where
  time : Int
  usageCoreNanoSeconds : UInt64
  usageNanoCores : Option UInt64
deriving Repr, DecidableEq

/-- `statsv1alpha1.MemoryStats`. -/
structure MemoryStats where
  time : Int
  availableBytes : Option UInt64
  usageBytes : UInt64
  workingSetBytes : UInt64
deriving Repr, DecidableEq

/-- `statsv1alpha1.FsStats`. -/
structure FsStats where
  time : Int
  capacityBytes : Option UInt64
  usedBytes : UInt64
  availableBytes : Option UInt64
  inodes : Option UInt64
  inodesUsed : Option UInt64
  inodesFree : Option UInt64
deriving Repr, DecidableEq

/-- `statsv1alpha1.ContainerStats`. -/
structure ContainerStats where
  name : String
  startTime : Int
  cpu : Option CPUStats
  memory : Option MemoryStats
deriving Repr, DecidableEq

/-- `statsv1alpha1.PodStats`. -/
structure PodStats where
  podRef : PodReference
  startTime : Int
  cpu : CPUStats
  memory : MemoryStats
  containers : List ContainerStats
deriving Repr, DecidableEq

/-- `statsv1alpha1.NodeStats`. -/
structure NodeStats where
  nodeName : String
  startTime : Int
  cpu : CPUStats
  memory : Option MemoryStats
  fs : Option FsStats
  imageFs : Option FsStats
deriving Repr, DecidableEq

/-- `statsv1alpha1.Summary`. -/
structure Summary where
  node : NodeStats
  pods : List PodStats
deriving Repr, DecidableEq

/-- What a call of the collector meets: the clock, the tracked Pods, what the runtime
says about the container at each place, the memory of the host and its disk. -/
structure Scrape where
  now : Int
  pods : List PodInput
  statsFn : Nat → Nat → String → Option ResourceStats
  hostMemory : Option (UInt64 × UInt64)
  disk : DiskSample

structure ContainerSnapshot where
  name : String
  start : Int
  stats : Option ResourceStats
deriving Repr, DecidableEq

/-- `podSnapshot`. -/
structure PodSnapshot where
  ref : PodReference
  start : Int
  containers : List ContainerSnapshot
deriving Repr, DecidableEq

def PodSnapshot.total (ps : PodSnapshot) (counter : ResourceStats → UInt64) : UInt64 :=
  ps.containers.foldl (fun sum cs => sum + (cs.stats.map counter).getD 0) 0

def PodSnapshot.cpuNs (ps : PodSnapshot) : UInt64 := ps.total ResourceStats.cpuUsageCoreNanoSeconds

def PodSnapshot.memWS (ps : PodSnapshot) : UInt64 := ps.total ResourceStats.memoryUsageBytes

def PodInput.ref (p : PodInput) : PodReference := ⟨p.ns, p.name, p.uid⟩

/-- The part of `gather` for the Pod at a place. -/
def Scrape.gatherPod (scrape : Scrape) (i : Nat) (p : PodInput) : PodSnapshot where
  ref := p.ref
  start := p.startTime
  containers := p.containers.mapIdx fun j cn =>
    ⟨cn.name, cn.startTime, scrape.statsFn i j cn.workloadID⟩

/-- `gather`, for the Pods. -/
def Scrape.gather (scrape : Scrape) : List PodSnapshot :=
  scrape.pods.mapIdx scrape.gatherPod

/-- The workload IDs `Summary` takes for live. -/
def Scrape.workloadIDs (scrape : Scrape) : List String :=
  scrape.pods.flatMap fun p => p.containers.map ContainerInput.workloadID

structure CPUSample where
  at_ : Int
  coreNanoSeconds : UInt64
deriving Repr, DecidableEq

/-- `Collector.prev`: the last sample of each key. -/
abbrev RateCache := String → Option CPUSample

/-- `nodeCPUKey`. -/
def nodeCPUKey : String := "\x00node"

/-- `cpuKey`: the key of the Pod's aggregate. -/
def cpuKey (ref : PodReference) : String := ref.ns ++ "/" ++ ref.name

def containerKey (ref : PodReference) (name : String) : String := cpuKey ref ++ "/" ++ name

/-- `forget`. -/
def forget (live : List String) : StateM RateCache PUnit :=
  modify fun cache key => if key = nodeCPUKey ∨ key ∈ live then cache key else none

section Rates

-- the value of a rate: the increase divided by the seconds of the duration
variable (perSecond : UInt64 → Int → UInt64)

/-- The rate against the previous sample.  The seconds of a duration are positive just
when it is. -/
def rateFrom (now : Int) (coreNanoSeconds : UInt64) : Option CPUSample → Option UInt64
  | none => none
  | some prev =>
    if coreNanoSeconds < prev.coreNanoSeconds then none
    else
      let elapsed := GoTime.sub now prev.at_
      if elapsed ≤ 0 then none
      else some (perSecond (coreNanoSeconds - prev.coreNanoSeconds) elapsed)

/-- `rate`. -/
def rate (key : String) (now : Int) (coreNanoSeconds : UInt64) :
    StateM RateCache (Option UInt64) := do
  let cache ← get
  set (Function.update cache key (some ⟨now, coreNanoSeconds⟩))
  return rateFrom perSecond now coreNanoSeconds (cache key)

/-- `cpuStats`. -/
def cpuStats (key : String) (time : Int) (coreNanoSeconds : UInt64) :
    StateM RateCache CPUStats := do
  let nanoCores ← rate perSecond key time coreNanoSeconds
  return ⟨time, coreNanoSeconds, nanoCores⟩

/-- `memoryStats`. -/
def memoryStats (rs : ResourceStats) : MemoryStats where
  time := rs.timestamp
  availableBytes :=
    if 0 < rs.memoryLimitBytes then
      some (if rs.memoryUsageBytes < rs.memoryLimitBytes
        then rs.memoryLimitBytes - rs.memoryUsageBytes else 0)
    else none
  usageBytes := rs.memoryUsageBytes
  workingSetBytes := rs.memoryUsageBytes

/-- `workingSetMemory`. -/
def workingSetMemory (time : Int) (bytes : UInt64) : MemoryStats := ⟨time, none, bytes, bytes⟩

/-- `containerStats`: a container that was not sampled is reported bare. -/
def containerStats (ref : PodReference) (cs : ContainerSnapshot) :
    StateM RateCache ContainerStats :=
  match cs.stats with
  | none => return ⟨cs.name, cs.start, none, none⟩
  | some rs => do
      let cpu ← cpuStats perSecond (containerKey ref cs.name) rs.timestamp
        rs.cpuUsageCoreNanoSeconds
      return ⟨cs.name, cs.start, some cpu, some (memoryStats rs)⟩

/-- `podStats`. -/
def podStats (now : Int) (ps : PodSnapshot) : StateM RateCache PodStats := do
  let cpu ← cpuStats perSecond (cpuKey ps.ref) now ps.cpuNs
  let containers ← ps.containers.mapM (containerStats perSecond ps.ref)
  return ⟨ps.ref, ps.start, cpu, workingSetMemory now ps.memWS, containers⟩

/-- A sample without a time of its own is from the time of the scrape. -/
def sampledAt (timestamp fallback : Int) : Int :=
  if timestamp = GoTime.zeroTime then fallback else timestamp

/-- `fsStats`. -/
def fsStats (fu : FilesystemUsage) (fallback : Int) : FsStats where
  time := sampledAt fu.timestamp fallback
  capacityBytes := some fu.totalBytes
  usedBytes := fu.usedBytes
  availableBytes := some fu.availableBytes
  inodes := if 0 < fu.totalInodes then some fu.totalInodes else none
  inodesUsed := if 0 < fu.totalInodes then some fu.usedInodes else none
  inodesFree :=
    if 0 < fu.totalInodes then
      some (if fu.usedInodes < fu.totalInodes then fu.totalInodes - fu.usedInodes else 0)
    else none

/-- `imageFsStats`. -/
def imageFsStats (disk : DiskSample) (images : ImageCacheUsage) (fallback : Int) : FsStats :=
  let time := sampledAt images.timestamp fallback
  match disk.nodeFS with
  | some fu => { fsStats fu fallback with time := time, usedBytes := images.totalBytes }
  | none => ⟨time, none, images.totalBytes, none, none, none, none⟩

/-- `nodeStats`. -/
def nodeStats (nodeName : String) (scrape : Scrape) : StateM RateCache NodeStats := do
  let cpu ← cpuStats perSecond nodeCPUKey scrape.now
    (scrape.gather.foldl (fun sum ps => sum + ps.cpuNs) 0)
  return {
    nodeName := nodeName
    startTime := scrape.now
    cpu := cpu
    memory := scrape.hostMemory.map fun (total, used) =>
      ⟨scrape.now, some (if used < total then total - used else 0), used, used⟩
    fs := scrape.disk.nodeFS.map fun fu => fsStats fu scrape.now
    imageFs := scrape.disk.images.map fun images => imageFsStats scrape.disk images scrape.now }

/-- `Summary`. -/
def summary (nodeName : String) (scrape : Scrape) : StateM RateCache Summary := do
  forget scrape.workloadIDs
  let node ← nodeStats perSecond nodeName scrape
  let pods ← scrape.gather.mapM (podStats perSecond scrape.now)
  return ⟨node, pods⟩

end Rates

section Frames

variable (perSecond : UInt64 → Int → UInt64)

/-- A rate is reported exactly where an earlier sample with no larger counter is cached. -/
theorem rateFrom_isSome_iff {now : Int} {cpu : UInt64} {prev : Option CPUSample} :
    (rateFrom perSecond now cpu prev).isSome = true ↔
      ∃ sample, prev = some sample ∧ sample.coreNanoSeconds ≤ cpu ∧ sample.at_ < now := by
  cases prev with
  | none => simp [rateFrom]
  | some sample =>
    have hpos := GoTime.sub_pos_iff (t := now) (u := sample.at_)
    simp only [rateFrom, Option.some.injEq, exists_eq_left']
    split
    · rename_i hless
      simp [UInt64.not_le.mpr hless]
    · rename_i hless
      split
      · have hnot : ¬ sample.at_ < now := fun hlt => by
          omega
        simp [hnot]
      · have hlt : sample.at_ < now := hpos.mp (by omega)
        simp [hlt, UInt64.not_lt.mp hless]

theorem cpuStats_touches (key : String) (time : Int) (cpu : UInt64) :
    Touches {key} (cpuStats perSecond key time cpu) where
  frame := by
    intro s k hk
    exact Function.update_of_ne (fun heq => hk heq) _ _
  result := by
    intro s s' heq
    change CPUStats.mk time cpu (rateFrom perSecond time cpu (s key)) =
      CPUStats.mk time cpu (rateFrom perSecond time cpu (s' key))
    rw [heq rfl]
  effect := by
    intro s s' heq k hk
    obtain rfl : k = key := hk
    exact (Function.update_self k _ s).trans (Function.update_self k _ s').symm

theorem containerStats_touches (ref : PodReference) (cs : ContainerSnapshot) :
    Touches {containerKey ref cs.name} (containerStats perSecond ref cs) := by
  unfold containerStats
  split
  · exact Touches.pure _
  · exact (cpuStats_touches perSecond _ _ _).bind fun cpu => Touches.pure _

/-- The keys a Pod has in the cache. -/
def PodSnapshot.keys (ps : PodSnapshot) : Set String :=
  {k | k = cpuKey ps.ref ∨ ∃ cs ∈ ps.containers, k = containerKey ps.ref cs.name}

theorem podStats_touches (now : Int) (ps : PodSnapshot) :
    Touches ps.keys (podStats perSecond now ps) := by
  refine Touches.bind ((cpuStats_touches perSecond _ _ _).mono ?_) fun cpu => ?_
  · rintro k rfl
    exact Or.inl rfl
  · refine Touches.bind (Touches.mapM fun cs hcs => ?_) fun containers => Touches.pure _
    refine (containerStats_touches perSecond ps.ref cs).mono ?_
    rintro k rfl
    exact Or.inr ⟨cs, hcs, rfl⟩

theorem nodeStats_touches (nodeName : String) (scrape : Scrape) :
    Touches {nodeCPUKey} (nodeStats perSecond nodeName scrape) :=
  (cpuStats_touches perSecond _ _ _).bind fun _ => Touches.pure _

end Frames

end Metrics

end MacVz
