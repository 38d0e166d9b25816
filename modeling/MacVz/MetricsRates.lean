/-
The CPU rates of two scrapes in a row.  Samples are cached under the names of Pods
and containers and pruned by workload IDs, so a sample lives on to the next scrape
only when a name is also the workload ID of a container.
-/
import MacVz.MetricsCollector
import MacVz.StepConditions

namespace MacVz

namespace Metrics

open Footprint

variable {key : String} {ps : PodSnapshot} {i : Nat} {p : PodInput} {name tail : List Char}
  {j : Nat}

/-- The names before the first slash and between the first and the second. -/
def owner (key : String) : List Char × List Char :=
  (key.toList.takeWhile (· ≠ '/'),
    (key.toList.dropWhile (· ≠ '/')).tail.takeWhile (· ≠ '/'))

/-- Names as the API server accepts them, without a slash. -/
def PodReference.Plain (ref : PodReference) : Prop := '/' ∉ ref.ns.toList ∧ '/' ∉ ref.name.toList

theorem ne_slash (hname : '/' ∉ name) : ∀ c ∈ name, decide (c ≠ '/') = true := by
  intro c hc
  exact decide_eq_true fun heq => hname (heq ▸ hc)

theorem takeWhile_no_slash (hname : '/' ∉ name) (htail : ∀ c ∈ tail.head?, c = '/') :
    (name ++ tail).takeWhile (· ≠ '/') = name := by
  rw [List.takeWhile_append_of_pos (ne_slash hname)]
  cases tail with
  | nil => simp
  | cons c rest => simp [htail c rfl]

theorem owner_eq {ref : PodReference} (hplain : ref.Plain) (htail : ∀ c ∈ tail.head?, c = '/')
    (hkey : key.toList = ref.ns.toList ++ '/' :: (ref.name.toList ++ tail)) :
    owner key = (ref.ns.toList, ref.name.toList) := by
  unfold owner
  rw [hkey, takeWhile_no_slash hplain.1 (by simp),
    List.dropWhile_append_of_pos (ne_slash hplain.1), List.dropWhile_cons_of_neg (by simp),
    List.tail_cons, takeWhile_no_slash hplain.2 htail]

theorem cpuKey_toList (ref : PodReference) :
    (cpuKey ref).toList = ref.ns.toList ++ '/' :: (ref.name.toList ++ []) := by
  simp [cpuKey]

theorem containerKey_toList (ref : PodReference) (name : String) : (containerKey ref name).toList =
      ref.ns.toList ++ '/' :: (ref.name.toList ++ '/' :: name.toList) := by
  simp [containerKey, cpuKey]

theorem containerKey_ne_cpuKey (ref : PodReference) (name : String) :
    containerKey ref name ≠ cpuKey ref := by
  intro heq
  have hlists := congrArg String.toList heq
  rw [containerKey_toList, cpuKey_toList] at hlists
  simp at hlists

theorem containerKey_injective (ref : PodReference) : Function.Injective (containerKey ref) := by
  intro name name' heq
  have hlists := congrArg String.toList heq
  rw [containerKey_toList, containerKey_toList] at hlists
  exact String.toList_injective (by simpa using hlists)

theorem PodSnapshot.owner_of_mem_keys (hplain : ps.ref.Plain) (hkey : key ∈ ps.keys) :
    owner key = (ps.ref.ns.toList, ps.ref.name.toList) := by
  rcases hkey with rfl | ⟨cs, -, rfl⟩
  · exact owner_eq hplain (by simp) (cpuKey_toList ps.ref)
  · exact owner_eq hplain (by simp) (containerKey_toList ps.ref cs.name)

theorem PodSnapshot.ne_nodeCPUKey (hkey : key ∈ ps.keys) : key ≠ nodeCPUKey := by
  have hslash : '/' ∈ key.toList := by
    rcases hkey with rfl | ⟨cs, -, rfl⟩
    · simp [cpuKey_toList]
    · simp [containerKey_toList]
  rintro rfl
  exact absurd hslash (by decide)

/-- No two Pods, and no two containers of one, share a name. -/
structure Scrape.WellNamed (scrape : Scrape) : Prop where
  plain : ∀ p ∈ scrape.pods, p.ref.Plain
  pods : (scrape.pods.map fun p => (p.ns, p.name)).Nodup
  containers : ∀ p ∈ scrape.pods, (p.containers.map ContainerInput.name).Nodup

variable (perSecond : UInt64 → Int → UInt64) {scrape : Scrape}

theorem gather_getElem? (hp : scrape.pods[i]? = some p) :
    scrape.gather[i]? = some (scrape.gatherPod i p) := by
  simp [Scrape.gather, hp]

theorem gatherPod_getElem? (scrape : Scrape) (i : Nat) {cn : ContainerInput}
    (hcn : p.containers[j]? = some cn) : (scrape.gatherPod i p).containers[j]? =
      some ⟨cn.name, cn.startTime, scrape.statsFn i j cn.workloadID⟩ := by
  simp [Scrape.gatherPod, hcn]

theorem mem_gather (hps : ps ∈ scrape.gather) :
    ∃ i, ∃ p ∈ scrape.pods, ps = scrape.gatherPod i p := by
  obtain ⟨i, hi, rfl⟩ := List.mem_mapIdx.mp hps
  exact ⟨i, _, List.getElem_mem hi, rfl⟩

theorem Scrape.WellNamed.ref_plain (h : scrape.WellNamed) (hps : ps ∈ scrape.gather) :
    ps.ref.Plain := by
  obtain ⟨i, p, hp, rfl⟩ := mem_gather hps
  exact h.plain p hp

theorem Scrape.WellNamed.container_names (h : scrape.WellNamed) (hps : ps ∈ scrape.gather) :
    (ps.containers.map ContainerSnapshot.name).Nodup := by
  obtain ⟨i, p, hp, rfl⟩ := mem_gather hps
  have hnames : (scrape.gatherPod i p).containers.map ContainerSnapshot.name =
      p.containers.map ContainerInput.name := by
    apply List.ext_getElem?
    intro j
    cases hcn : p.containers[j]? <;> simp [Scrape.gatherPod, hcn]
  rw [hnames]
  exact h.containers p hp

/-- Two Pods of a scrape share no cache key. -/
theorem Scrape.WellNamed.keys_apart (h : scrape.WellNamed) :
    scrape.gather.Pairwise fun ps ps' => Apart ps.keys ps'.keys := by
  have hnames : scrape.gather.map (fun ps => (ps.ref.ns, ps.ref.name)) =
      scrape.pods.map fun p => (p.ns, p.name) := by
    apply List.ext_getElem?
    intro i
    cases hp : scrape.pods[i]? <;> simp [Scrape.gather, Scrape.gatherPod, PodInput.ref, hp]
  have hnodup := h.pods
  rw [← hnames] at hnodup
  refine (List.pairwise_map.mp hnodup).imp_of_mem fun {ps ps'} hps hps' hne => ?_
  intro key hkey hkey'
  apply hne
  have howner := (ps.owner_of_mem_keys (h.ref_plain hps) hkey).symm.trans
    (ps'.owner_of_mem_keys (h.ref_plain hps') hkey')
  obtain ⟨hns, hname⟩ := Prod.mk.inj howner
  rw [String.toList_injective hns, String.toList_injective hname]

def Scrape.pruned (scrape : Scrape) (cache : RateCache) : RateCache :=
  ((forget scrape.workloadIDs).run cache).2

theorem pruned_eq (scrape : Scrape) (cache : RateCache) (hkey : key ≠ nodeCPUKey) :
    scrape.pruned cache key = if key ∈ scrape.workloadIDs then cache key else none := by
  change (if key = nodeCPUKey ∨ key ∈ scrape.workloadIDs then cache key else none) = _
  simp [hkey]

/-- A Pod of the summary is its own statistics over the cache the scrape started from. -/
theorem summary_pod (nodeName : String) (h : scrape.WellNamed) (cache : RateCache)
    (hps : scrape.gather[i]? = some ps) :
    ((summary perSecond nodeName scrape).run cache).1.pods[i]? =
        some ((podStats perSecond scrape.now ps).run (scrape.pruned cache)).1 ∧
      Set.EqOn ((summary perSecond nodeName scrape).run cache).2
        ((podStats perSecond scrape.now ps).run (scrape.pruned cache)).2 ps.keys := by
  have hnode : Set.EqOn ((nodeStats perSecond nodeName scrape).run (scrape.pruned cache)).2
      (scrape.pruned cache) ps.keys := by
    refine (nodeStats_touches perSecond nodeName scrape).eqOn ?_ _
    rintro key rfl hkey
    exact ps.ne_nodeCPUKey hkey rfl
  have htouches := podStats_touches perSecond scrape.now
  obtain ⟨hresult, heffect⟩ := run_mapM_of_apart (fun ps _ => htouches ps) h.keys_apart
    ((nodeStats perSecond nodeName scrape).run (scrape.pruned cache)).2 hps
  refine ⟨?_, ?_⟩
  · rw [← (htouches ps).result _ _ hnode]
    exact hresult
  · exact heffect.trans ((htouches ps).effect _ _ hnode)

/-- A Pod's rate is from its cached sample, which the present one then replaces. -/
theorem podStats_cpu (now : Int) (ps : PodSnapshot) (cache : RateCache) :
    ((podStats perSecond now ps).run cache).1.cpu.usageNanoCores =
        rateFrom perSecond now ps.cpuNs (cache (cpuKey ps.ref)) ∧
      ((podStats perSecond now ps).run cache).2 (cpuKey ps.ref) = some ⟨now, ps.cpuNs⟩ := by
  refine ⟨rfl, ?_⟩
  have hcontainers : Touches {k | ∃ cs ∈ ps.containers, k = containerKey ps.ref cs.name}
      (ps.containers.mapM (containerStats perSecond ps.ref)) := by
    refine Touches.mapM fun cs hcs => (containerStats_touches perSecond ps.ref cs).mono ?_
    rintro k rfl
    exact ⟨cs, hcs, rfl⟩
  have hframe := hcontainers.frame ((cpuStats perSecond (cpuKey ps.ref) now ps.cpuNs).run cache).2
    (cpuKey ps.ref) (by
      rintro ⟨cs, -, heq⟩
      exact containerKey_ne_cpuKey ps.ref cs.name heq.symm)
  exact hframe.trans (Function.update_self _ _ cache)

/-- A container's rate is from its cached sample, which the present one then replaces. -/
theorem podStats_container (now : Int) (hnames : (ps.containers.map ContainerSnapshot.name).Nodup)
    (cache : RateCache) {cs : ContainerSnapshot} (hcs : ps.containers[j]? = some cs)
    {rs : ResourceStats} (hrs : cs.stats = some rs) :
    (∃ shown cpu, ((podStats perSecond now ps).run cache).1.containers[j]? = some shown ∧
        shown.name = cs.name ∧ shown.cpu = some cpu ∧ cpu.usageNanoCores =
          rateFrom perSecond rs.timestamp rs.cpuUsageCoreNanoSeconds
            (cache (containerKey ps.ref cs.name))) ∧
      ((podStats perSecond now ps).run cache).2 (containerKey ps.ref cs.name) =
        some ⟨rs.timestamp, rs.cpuUsageCoreNanoSeconds⟩ := by
  have hapart : ps.containers.Pairwise fun cs cs' =>
      Apart ({containerKey ps.ref cs.name} : Set String) {containerKey ps.ref cs'.name} := by
    refine (List.pairwise_map.mp hnames).imp fun hne => ?_
    rintro k rfl heq
    exact hne (containerKey_injective ps.ref heq)
  obtain ⟨hresult, heffect⟩ := run_mapM_of_apart
    (fun cs _ => containerStats_touches perSecond ps.ref cs) hapart
    ((cpuStats perSecond (cpuKey ps.ref) now ps.cpuNs).run cache).2 hcs
  -- the Pod's own sample is under another key
  have hother : ((cpuStats perSecond (cpuKey ps.ref) now ps.cpuNs).run cache).2
      (containerKey ps.ref cs.name) = cache (containerKey ps.ref cs.name) :=
    (cpuStats_touches perSecond _ _ _).frame cache _ (containerKey_ne_cpuKey ps.ref cs.name)
  simp only [containerStats, hrs] at hresult heffect
  refine ⟨⟨_, _, hresult, rfl, rfl, ?_⟩, ?_⟩
  · rw [← hother]
  · exact (heffect rfl).trans (Function.update_self _ _ _)

/-- What a summary says about a Pod: every rate is taken against what the cache had
under its key, if that key is also a workload ID. -/
theorem summary_report (nodeName : String) (h : scrape.WellNamed) (cache : RateCache)
    (hp : scrape.pods[i]? = some p) :
    ∃ out, ((summary perSecond nodeName scrape).run cache).1.pods[i]? = some out ∧
      out.podRef = p.ref ∧
      out.cpu.usageNanoCores = rateFrom perSecond scrape.now (scrape.gatherPod i p).cpuNs
        (if cpuKey p.ref ∈ scrape.workloadIDs then cache (cpuKey p.ref) else none) ∧
      ∀ j c r, p.containers[j]? = some c → scrape.statsFn i j c.workloadID = some r →
        ∃ shown cpu, out.containers[j]? = some shown ∧ shown.name = c.name ∧
          shown.cpu = some cpu ∧ cpu.usageNanoCores =
            rateFrom perSecond r.timestamp r.cpuUsageCoreNanoSeconds
              (if containerKey p.ref c.name ∈ scrape.workloadIDs
                then cache (containerKey p.ref c.name) else none) := by
  have hps := gather_getElem? hp
  obtain ⟨hreport, -⟩ := summary_pod perSecond nodeName h cache hps
  refine ⟨_, hreport, rfl, ?_, ?_⟩
  · have hown : cpuKey p.ref ∈ (scrape.gatherPod i p).keys := Or.inl rfl
    rw [← pruned_eq scrape cache (PodSnapshot.ne_nodeCPUKey hown)]
    exact (podStats_cpu perSecond scrape.now (scrape.gatherPod i p) _).1
  · intro j c r hc hr
    have hcs := gatherPod_getElem? scrape i hc
    have hnames := h.container_names (List.mem_of_getElem? hps)
    have hown : containerKey p.ref c.name ∈ (scrape.gatherPod i p).keys :=
      Or.inr ⟨_, List.mem_of_getElem? hcs, rfl⟩
    rw [← pruned_eq scrape cache (PodSnapshot.ne_nodeCPUKey hown)]
    exact (podStats_container perSecond scrape.now hnames _ hcs hr).1

/-- After a scrape the cache has the present sample of each Pod and container. -/
theorem summary_samples (nodeName : String) (h : scrape.WellNamed) (cache : RateCache)
    (hp : scrape.pods[i]? = some p) :
    ((summary perSecond nodeName scrape).run cache).2 (cpuKey p.ref) =
        some ⟨scrape.now, (scrape.gatherPod i p).cpuNs⟩ ∧
      ∀ j c r, p.containers[j]? = some c → scrape.statsFn i j c.workloadID = some r →
        ((summary perSecond nodeName scrape).run cache).2 (containerKey p.ref c.name) =
          some ⟨r.timestamp, r.cpuUsageCoreNanoSeconds⟩ := by
  have hps := gather_getElem? hp
  obtain ⟨-, hafter⟩ := summary_pod perSecond nodeName h cache hps
  refine ⟨?_, ?_⟩
  · exact (hafter (Or.inl rfl)).trans (podStats_cpu perSecond scrape.now (scrape.gatherPod i p) _).2
  · intro j c r hc hr
    have hcs := gatherPod_getElem? scrape i hc
    have hnames := h.container_names (List.mem_of_getElem? hps)
    exact (hafter (Or.inr ⟨_, List.mem_of_getElem? hcs, rfl⟩)).trans
      (podStats_container perSecond scrape.now hnames _ hcs hr).2

/-- A counter that did not fall since an earlier sample has a rate if the sample was
kept. -/
theorem rateFrom_kept_iff {now : Int} {cpu : UInt64} {prev : CPUSample} {kept : Prop}
    [Decidable kept] (htime : prev.at_ < now) (hcpu : prev.coreNanoSeconds ≤ cpu) :
    (rateFrom perSecond now cpu (if kept then some prev else none)).isSome = true ↔ kept := by
  rw [rateFrom_isSome_iff]
  constructor
  · rintro ⟨sample, hsample, -⟩
    exact (Option.ite_none_right_eq_some.mp hsample).1
  · intro hkept
    exact ⟨prev, if_pos hkept, hcpu, htime⟩

/-- Every container runs under a workload ID as the provider gives it. -/
def Scrape.ProviderIDs (scrape : Scrape) : Prop :=
  ∀ id ∈ scrape.workloadIDs, ∃ t : ContainerIdentity, id = t.workloadID

theorem Scrape.ProviderIDs.not_mem {scrape : Scrape} (h : scrape.ProviderIDs)
    (hslash : '/' ∈ key.toList) : key ∉ scrape.workloadIDs := by
  intro hkey
  obtain ⟨t, rfl⟩ := h key hkey
  have hlabel := t.mem_workloadID hslash
  revert hlabel
  decide

/-- On a node whose workloads are named by the provider, no summary has a rate for a Pod
or a container, whatever was sampled before. -/
theorem no_rates_of_providerIDs (nodeName : String) (h : scrape.WellNamed)
    (hids : scrape.ProviderIDs) (cache : RateCache) (hp : scrape.pods[i]? = some p) :
    ∃ out, ((summary perSecond nodeName scrape).run cache).1.pods[i]? = some out ∧
      out.cpu.usageNanoCores = none ∧
      ∀ j c r, p.containers[j]? = some c → scrape.statsFn i j c.workloadID = some r →
        ∃ shown cpu, out.containers[j]? = some shown ∧ shown.cpu = some cpu ∧
          cpu.usageNanoCores = none := by
  obtain ⟨out, hout, -, hrate, hrates⟩ := summary_report perSecond nodeName h cache hp
  refine ⟨out, hout, ?_, ?_⟩
  · have hpod : cpuKey p.ref ∉ scrape.workloadIDs := hids.not_mem (by simp [cpuKey_toList])
    rw [hrate, if_neg hpod]
    rfl
  · intro j c r hc hr
    obtain ⟨shown, cpu, hshown, -, hcpu, hcontainer⟩ := hrates j c r hc hr
    have hkey : containerKey p.ref c.name ∉ scrape.workloadIDs :=
      hids.not_mem (by simp [containerKey_toList])
    refine ⟨shown, cpu, hshown, hcpu, ?_⟩
    rw [hcontainer, if_neg hkey]
    rfl

/-- Two scrapes in a row from any cache, and a Pod in both.  Its aggregate, if the clock
went on and the counter did not fall, has a rate in the later summary exactly when the
name of the Pod is one of the workload IDs of the later scrape; and the same for a
container that is sampled in both. -/
theorem rates_set_iff (perSecond : UInt64 → Int → UInt64) (nodeName : String) (cache : RateCache)
    {first second : Scrape} (hfirst : first.WellNamed) (hsecond : second.WellNamed)
    {i₁ i₂ : Nat} {p₁ p₂ : PodInput} (hp₁ : first.pods[i₁]? = some p₁)
    (hp₂ : second.pods[i₂]? = some p₂) (hns : p₂.ns = p₁.ns) (hname : p₂.name = p₁.name) :
    ∃ out, ((summary perSecond nodeName second).run
          ((summary perSecond nodeName first).run cache).2).1.pods[i₂]? = some out ∧
      out.podRef = p₂.ref ∧
      (first.now < second.now → (first.gatherPod i₁ p₁).cpuNs ≤ (second.gatherPod i₂ p₂).cpuNs →
        (out.cpu.usageNanoCores.isSome = true ↔ cpuKey p₂.ref ∈ second.workloadIDs)) ∧
      ∀ j₁ j₂ c₁ c₂ r₁ r₂, p₁.containers[j₁]? = some c₁ → p₂.containers[j₂]? = some c₂ →
        c₂.name = c₁.name → first.statsFn i₁ j₁ c₁.workloadID = some r₁ →
        second.statsFn i₂ j₂ c₂.workloadID = some r₂ → r₁.timestamp < r₂.timestamp →
        r₁.cpuUsageCoreNanoSeconds ≤ r₂.cpuUsageCoreNanoSeconds →
        ∃ shown cpu, out.containers[j₂]? = some shown ∧ shown.name = c₂.name ∧
          shown.cpu = some cpu ∧ (cpu.usageNanoCores.isSome = true ↔
            containerKey p₂.ref c₂.name ∈ second.workloadIDs) := by
  have hpod : cpuKey p₂.ref = cpuKey p₁.ref := by simp [cpuKey, PodInput.ref, hns, hname]
  obtain ⟨hsample, hsamples⟩ := summary_samples perSecond nodeName hfirst cache hp₁
  obtain ⟨out, hout, href, hrate, hrates⟩ := summary_report perSecond nodeName hsecond
    ((summary perSecond nodeName first).run cache).2 hp₂
  refine ⟨out, hout, href, ?_, ?_⟩
  · intro htime hcpu
    rw [hrate, hpod, hsample]
    exact rateFrom_kept_iff perSecond htime hcpu
  · intro j₁ j₂ c₁ c₂ r₁ r₂ hc₁ hc₂ hsame hr₁ hr₂ htime hcpu
    obtain ⟨shown, cpu, hshown, hcalled, hcpuStats, hrate⟩ := hrates j₂ c₂ r₂ hc₂ hr₂
    have hcontainer : containerKey p₂.ref c₂.name = containerKey p₁.ref c₁.name := by
      rw [containerKey, containerKey, hpod, hsame]
    refine ⟨shown, cpu, hshown, hcalled, hcpuStats, ?_⟩
    rw [hrate, hcontainer, hsamples j₁ c₁ r₁ hc₁ hr₁]
    exact rateFrom_kept_iff perSecond htime hcpu

namespace RatesWitness

/-- A scrape of the Pod default/web, whose containers run as these workloads and have
used as many seconds of CPU as the clock shows. -/
def scrapeAt (second : Nat) (containers : List (String × String)) : Scrape where
  now := second * 1000000000
  pods := [⟨"default", "web", "8f4b", 0, containers.map fun (name, id) => ⟨name, id, 0⟩⟩]
  statsFn := fun _ _ _ => some ⟨second * 1000000000, UInt64.ofNat (second * 1000000000), 0, 0⟩
  hostMemory := none
  disk := ⟨none, none⟩

theorem scrapeAt_wellNamed (containers : List (String × String))
    (h : (containers.map Prod.fst).Nodup) (second : Nat) :
    (scrapeAt second containers).WellNamed where
  plain := by
    intro p hp
    obtain rfl := List.mem_singleton.mp hp
    have hplain : (⟨"default", "web", "8f4b"⟩ : PodReference).Plain :=
      ⟨by decide, by decide⟩
    exact hplain
  pods := List.nodup_singleton _
  containers := by
    intro p hp
    obtain rfl := List.mem_singleton.mp hp
    rw [List.map_map]
    exact h

def wholeNanoCores (increase : UInt64) (elapsed : Int) : UInt64 :=
  UInt64.ofNat (increase.toNat * 1000000000 / elapsed.toNat)

def secondSummary (containers : List (String × String)) : Summary :=
  ((summary wholeNanoCores "mac-1" (scrapeAt 20 containers)).run
    ((summary wholeNanoCores "mac-1" (scrapeAt 10 containers)).run fun _ => none).2).1

end RatesWitness

open RatesWitness in
/-- With workloads that are called like the container and like the Pod. -/
theorem rates_set_with_matching_ids : ∃ out,
    (secondSummary [("app", "default/web/app"), ("log", "default/web")]).pods[0]? = some out ∧
      out.cpu.usageNanoCores.isSome = true ∧ ∃ shown cpu, out.containers[0]? = some shown ∧
        shown.cpu = some cpu ∧ cpu.usageNanoCores.isSome = true := by
  have hnames := scrapeAt_wellNamed [("app", "default/web/app"), ("log", "default/web")]
    (by decide)
  have hfirst : (scrapeAt 10 [("app", "default/web/app"), ("log", "default/web")]).pods[0]? =
    some _ := rfl
  have hsecond : (scrapeAt 20 [("app", "default/web/app"), ("log", "default/web")]).pods[0]? =
    some _ := rfl
  obtain ⟨out, hout, -, hpod, hcontainers⟩ := rates_set_iff wholeNanoCores "mac-1" (fun _ => none)
    (hnames 10) (hnames 20) hfirst hsecond rfl rfl
  obtain ⟨shown, cpu, hshown, -, hcpu, hrate⟩ :=
    hcontainers 0 0 _ _ _ _ rfl rfl rfl rfl rfl (by decide) (by decide)
  refine ⟨out, hout, (hpod (by decide) (by decide)).mpr ?_, shown, cpu, hshown, hcpu,
    hrate.mpr ?_⟩
  · decide
  · decide

open RatesWitness in
/-- With the workload ID of the provider neither the Pod nor its container has a rate in
the second summary, though clock and counters went on. -/
theorem no_rates_with_provider_id : (scrapeAt 10 [("app", Sample.webID)]).WellNamed ∧
      (scrapeAt 20 [("app", Sample.webID)]).WellNamed ∧
      (secondSummary [("app", Sample.webID)]).pods.map
        (fun out => (out.cpu, out.containers.map ContainerStats.cpu)) =
      [(⟨20000000000, 20000000000, none⟩, [some ⟨20000000000, 20000000000, none⟩])] :=
  ⟨scrapeAt_wellNamed _ (by decide) 10, scrapeAt_wellNamed _ (by decide) 20,
    by decide⟩

end Metrics

end MacVz
