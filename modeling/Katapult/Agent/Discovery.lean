/-
  Katapult.Agent.Discovery

  What an agent finds on its node.

  The program walks through the configured namespaces, asks for the claims of
  each and for the volume of each claim.  What it returns is a function of the
  cluster (`wp_discover`); that this is the inventory of the node is a matter of
  the namespaces, and of the one value that is kept of a node affinity
  (`discoversExactly_iff`).
-/

import Katapult.Domain.Agent
import Katapult.Domain.Format
import Katapult.Effect.Prog
import Katapult.Keyed.Collect
import Katapult.Store.Environment

namespace Katapult

open Effect Effect.Prog Keyed

/-! ## The cluster -/

inductive NodeSelectorOperator where
  | opIn | opNotIn | opExists | opDoesNotExist | opGt | opLt
  deriving DecidableEq, Repr

structure NodeSelectorRequirement where
  key : String
  operator : NodeSelectorOperator
  values : List String

structure NodeSelectorTerm where
  matchExpressions : List NodeSelectorRequirement

structure NodeSelector where
  nodeSelectorTerms : List NodeSelectorTerm

structure VolumeNodeAffinity where
  required : Option NodeSelector

/-- The part of a volume that the agent reads. -/
structure PersistentVolume where
  name : String
  /-- The quantity of each resource, by its value in bytes. -/
  capacity : List (String × Int)
  storageClassName : String
  nodeAffinity : Option VolumeNodeAffinity

inductive ClaimPhase where
  | pending | bound | lost
  deriving DecidableEq, Repr

/-- The part of a claim that the agent reads. -/
structure PersistentVolumeClaim where
  name : String
  namespace_ : String
  labels : List (String × String)
  volumeName : String
  phase : ClaimPhase

/-- The name of a claim in the inventory. -/
def PersistentVolumeClaim.pvcName (pvc : PersistentVolumeClaim) : String :=
  pvc.namespace_ ++ "/" ++ pvc.name

/-- The content of a cluster.  The API server accepts no second object of a name, no name without
    characters, and no slash in the name of a namespace. -/
structure Cluster where
  claims : List PersistentVolumeClaim
  volumes : List PersistentVolume
  nodup : (claims.map fun pvc => (pvc.namespace_, pvc.name)).Nodup
  slashless : ∀ pvc ∈ claims, '/' ∉ pvc.namespace_.toList
  named : ∀ pv ∈ volumes, pv.name ≠ ""

/-- `metav1.NamespaceAll`. -/
def namespaceAll : String := ""

/-- The claims of a namespace. -/
def PersistentVolumeClaim.inNamespace (pvc : PersistentVolumeClaim) (ns : String) : Bool :=
  ns = namespaceAll || ns = pvc.namespace_

def Cluster.volume? (c : Cluster) (name : String) : Option PersistentVolume :=
  c.volumes.find? fun pv => pv.name = name

/-! ## The interface -/

/-- What the agent calls: the API server, and the timer. -/
inductive KubeCall where
  | listClaims (ns labelSelector : String)
  | getVolume (name : String)
  /-- Wait, unless the context is done. -/
  | after (delay : Duration)
  deriving DecidableEq

def KubeCall.Ans : KubeCall → Type
  | .listClaims .. => Except Err (List PersistentVolumeClaim)
  | .getVolume _ => Except Err PersistentVolume
  | .after _ => Except Err Unit

/-- Code of the agent that asks the API server. -/
abbrev Discovery (α : Type) : Type := Prog KubeCall KubeCall.Ans α

section

-- Label selectors are matched by the API server.
variable (matchesSelector : String → List (String × String) → Bool)

/-- A claim is selected; an empty selector selects all. -/
def PersistentVolumeClaim.selected (pvc : PersistentVolumeClaim) (labelSelector : String) : Bool :=
  labelSelector = "" || matchesSelector labelSelector pvc.labels

/-- The API server on a cluster that does not change. -/
def execCluster : Machine KubeCall KubeCall.Ans Cluster Env
  | env, .listClaims ns labelSelector, c =>
      (env.answer (c.claims.filter fun pvc =>
        pvc.inNamespace ns && pvc.selected matchesSelector labelSelector), c)
  | env, .getVolume name, c =>
      match env.fail, c.volume? name with
      | some err, _ => (.error err, c)
      | none, none => (.error ("persistentvolumes " ++ quote name ++ " not found"), c)
      | none, some pv => (.ok pv, c)
  | env, .after _, c => (env.answer (), c)

end

/-- The API server does not fail; that a volume is not there is no failure. -/
def Serving (env : Env) (op : KubeCall) (_c : Cluster) : Prop :=
  (∀ delay, op ≠ .after delay) → env.fail = none

/-! ## The program -/

structure DiscoveryConfig where
  namespaces : List String
  labelSelector : String
  nodeName : String
  maxRetries : Int
  retryBaseDelay : Duration

/-- The discoverer; there is at least one attempt. -/
structure PVCDiscoverer where
  namespaces : List String
  labelSelector : String
  nodeName : String
  maxRetries : Nat
  retryBaseDelay : Duration
  attempts : 0 < maxRetries

def newPVCDiscoverer (config : DiscoveryConfig) : PVCDiscoverer where
  namespaces := config.namespaces
  labelSelector := config.labelSelector
  nodeName := config.nodeName
  maxRetries := if config.maxRetries ≤ 0 then 3 else config.maxRetries.toNat
  retryBaseDelay := if config.retryBaseDelay ≤ 0 then second else config.retryBaseDelay
  attempts := by
    split
    · decide
    · omega

/-- The first value of an expression on the host name. -/
def extractNodeAffinity (pv : PersistentVolume) : String :=
  match pv.nodeAffinity.bind VolumeNodeAffinity.required with
  | none => ""
  | some selector =>
    let exprs := selector.nodeSelectorTerms.flatMap NodeSelectorTerm.matchExpressions
    match exprs.find? fun expr =>
      expr.key = "kubernetes.io/hostname" && expr.operator = .opIn && expr.values ≠ [] with
    | none => ""
    | some expr => expr.values.headD ""

namespace PVCDiscoverer

variable (d : PVCDiscoverer)

/-- The delay after an attempt. -/
def delay (attempt : Nat) : Duration := wrapInt64 (d.retryBaseDelay * wrapInt64 (2 ^ attempt))

/-- Try `call` until it succeeds, at most `left` more times; `lastly` says whether there is a wait
    after the last time, too. -/
def withRetry {α : Type} (call : Discovery (Except Err α)) (lastly : Bool) (attempt : Nat)
    (lastErr : Err) :
    Nat → Discovery (Except Err α)
  | 0 => return .error lastErr
  | left + 1 => do
    match ← call with
    | .ok a => return .ok a
    | .error err =>
      if lastly || left ≠ 0 then
        match ← .perform (KubeCall.after (d.delay attempt)) with
        | .error done => return .error done
        | .ok () => withRetry call lastly (attempt + 1) err left
      else withRetry call lastly (attempt + 1) err left

def listPVCsWithRetry (ns : String) : Discovery (Except Err (List PersistentVolumeClaim)) :=
  d.withRetry (.perform (KubeCall.listClaims ns d.labelSelector)) true 0 "" d.maxRetries

def getPVWithRetry (name : String) : Discovery (Except Err PersistentVolume) :=
  d.withRetry (.perform (KubeCall.getVolume name)) false 0 "" d.maxRetries

/-- The entry of a claim with this volume, unless it belongs to another node. -/
def entryOf (pvc : PersistentVolumeClaim) (pv : PersistentVolume) : Option PVCInfo :=
  let nodeAffinity := extractNodeAffinity pv
  if nodeAffinity ≠ "" ∧ nodeAffinity ≠ d.nodeName then none
  else some
    { pvcName := pvc.pvcName
      sizeBytes := (pv.capacity.lookup "storage").getD 0
      storageClass := pv.storageClassName
      nodeAffinity }

/-- The loop over the claims of a namespace. -/
def scanClaims (inventory : List PVCInfo) : List PersistentVolumeClaim → Discovery (List PVCInfo)
  | [] => return inventory
  | pvc :: pvcs => do
    if pvc.phase ≠ .bound then
      scanClaims inventory pvcs
    else if pvc.volumeName = "" then
      scanClaims inventory pvcs
    else
    match ← d.getPVWithRetry pvc.volumeName with
    | .error _ => scanClaims inventory pvcs
    | .ok pv =>
    match d.entryOf pvc pv with
    | none => scanClaims inventory pvcs
    | some info => scanClaims (inventory ++ [info]) pvcs

/-- The loop over the namespaces. -/
def scanNamespaces (inventory : List PVCInfo) : List String → Discovery (Except Err (List PVCInfo))
  | [] => return .ok inventory
  | ns :: rest => do
    match ← d.listPVCsWithRetry ns with
    | .error err => return .error ("PVC discovery failed: Kubernetes API unavailable: " ++ err)
    | .ok pvcs =>
    let inventory ← d.scanClaims inventory pvcs
    scanNamespaces inventory rest

/-- The namespaces to list. -/
def listed : List String := if d.namespaces = [] then [namespaceAll] else d.namespaces

/-- Query the API server for the claims of this node. -/
def discover : Discovery (Except Err (List PVCInfo)) := d.scanNamespaces [] d.listed

/-! ## What the program returns -/

/-- What a claim gives on a cluster. -/
def entryFrom (c : Cluster) (pvc : PersistentVolumeClaim) : Option PVCInfo :=
  if pvc.phase = .bound ∧ pvc.volumeName ≠ "" then
    (c.volume? pvc.volumeName).bind (d.entryOf pvc)
  else none

variable (matchesSelector : String → List (String × String) → Bool)

/-- What a request for a namespace shows. -/
def shows (ns : String) (pvc : PersistentVolumeClaim) : Bool :=
  pvc.inNamespace ns && pvc.selected matchesSelector d.labelSelector

variable {d matchesSelector} {c : Cluster} {h : List (Ev KubeCall KubeCall.Ans)}

/-- A call that succeeds is not repeated. -/
theorem wp_withRetry_of_ok {α : Type} {call : Discovery (Except Err α)} {a : α} {lastly : Bool}
    {attempt left : Nat} {lastErr : Err} (hleft : 0 < left)
    (hcall : wp (execCluster matchesSelector) Serving call (fun r _ c' => r = .ok a ∧ c' = c) h c) :
    wp (execCluster matchesSelector) Serving (d.withRetry call lastly attempt lastErr left)
      (fun r _ c' => r = .ok a ∧ c' = c) h c := by
  obtain ⟨n, rfl⟩ := Nat.exists_eq_add_of_lt hleft
  rw [Nat.zero_add, withRetry, wp_bind]
  apply wp_mono hcall
  rintro _ _ _ ⟨rfl, rfl⟩
  exact ⟨rfl, rfl⟩

/-- A call that always fails fails after the last attempt, or when the context is done. -/
theorem wp_withRetry_of_error {α : Type} {call : Discovery (Except Err α)} {lastly : Bool}
    (hcall : ∀ h, wp (execCluster matchesSelector) Serving call
      (fun r _ c' => (∃ err, r = .error err) ∧ c' = c) h c) (left attempt : Nat) (lastErr : Err) :
    wp (execCluster matchesSelector) Serving (d.withRetry call lastly attempt lastErr left)
      (fun r _ c' => (∃ err, r = .error err) ∧ c' = c) h c := by
  induction left generalizing attempt lastErr h with
  | zero => exact ⟨⟨lastErr, rfl⟩, rfl⟩
  | succ left ih =>
    rw [withRetry, wp_bind]
    apply wp_mono (hcall h)
    rintro _ h' _ ⟨⟨err, rfl⟩, rfl⟩
    dsimp only
    split
    · -- waiting ends with the delay or with the context
      apply wp_perform
      intro env _
      dsimp only [execCluster]
      cases env.answer () with
      | error done => exact ⟨⟨done, rfl⟩, rfl⟩
      | ok _ => exact ih (attempt + 1) err
    · exact ih (attempt + 1) err

theorem wp_listPVCsWithRetry (ns : String) :
    wp (execCluster matchesSelector) Serving (d.listPVCsWithRetry ns)
      (fun r _ c' => r = .ok (c.claims.filter (d.shows matchesSelector ns)) ∧ c' = c) h c := by
  apply wp_withRetry_of_ok d.attempts
  intro env henv
  have hfail : env.fail = none := henv fun _ => KubeCall.noConfusion
  exact ⟨Env.answer_of_ok hfail _, rfl⟩

theorem wp_getPVWithRetry (name : String) :
    wp (execCluster matchesSelector) Serving (d.getPVWithRetry name)
      (fun r _ c' => r.toOption = c.volume? name ∧ c' = c) h c := by
  have hget {env : Env} (henv : Serving env (.getVolume name) c) : env.fail = none :=
    henv fun _ => KubeCall.noConfusion
  cases hpv : c.volume? name with
  | some pv =>
    -- a volume that is there is found in the first attempt
    apply wp_mono (wp_withRetry_of_ok (a := pv) d.attempts _)
    · rintro _ _ _ ⟨rfl, rfl⟩
      exact ⟨rfl, rfl⟩
    · intro env henv
      simp only [execCluster, hget henv, hpv]
      exact ⟨rfl, rfl⟩
  | none =>
    apply wp_mono (wp_withRetry_of_error _ d.maxRetries 0 "")
    · rintro _ _ _ ⟨⟨err, rfl⟩, rfl⟩
      exact ⟨rfl, rfl⟩
    · intro h' env henv
      simp only [execCluster, hget henv, hpv]
      exact ⟨⟨_, rfl⟩, rfl⟩

theorem wp_scanClaims (inventory : List PVCInfo) (pvcs : List PersistentVolumeClaim) :
    wp (execCluster matchesSelector) Serving (d.scanClaims inventory pvcs)
      (fun r _ c' => r = inventory ++ pvcs.filterMap (d.entryFrom c) ∧ c' = c) h c := by
  induction pvcs generalizing inventory h with
  | nil => exact ⟨by simp, rfl⟩
  | cons pvc pvcs ih =>
    rw [scanClaims]
    by_cases hbound : pvc.phase = .bound
    swap
    · have hnone : d.entryFrom c pvc = none := if_neg fun hpvc => hbound hpvc.1
      rw [if_pos hbound, List.filterMap_cons_none hnone]
      exact ih inventory
    by_cases hname : pvc.volumeName = ""
    · have hnone : d.entryFrom c pvc = none := if_neg fun hpvc => hpvc.2 hname
      rw [if_neg (not_not_intro hbound), if_pos hname, List.filterMap_cons_none hnone]
      exact ih inventory
    · have hentry : d.entryFrom c pvc = (c.volume? pvc.volumeName).bind (d.entryOf pvc) :=
        if_pos ⟨hbound, hname⟩
      rw [if_neg (not_not_intro hbound), if_neg hname, wp_bind]
      apply wp_mono (wp_getPVWithRetry pvc.volumeName)
      rintro r h' _ ⟨hr, rfl⟩
      rw [← hr] at hentry
      cases r with
      | error err =>
        -- a claim whose volume cannot be read is left out
        rw [List.filterMap_cons_none hentry]
        exact ih inventory
      | ok pv =>
        cases hinfo : d.entryOf pvc pv with
        | none =>
          rw [List.filterMap_cons_none (hentry.trans hinfo)]
          simp only [hinfo]
          exact ih inventory
        | some info =>
          rw [List.filterMap_cons_some (hentry.trans hinfo), List.append_cons]
          simp only [hinfo]
          exact ih (inventory ++ [info])

theorem wp_scanNamespaces (inventory : List PVCInfo) (nss : List String) :
    wp (execCluster matchesSelector) Serving (d.scanNamespaces inventory nss)
      (fun r _ _ =>
        r = .ok (inventory ++ collect (d.shows matchesSelector) (d.entryFrom c) c.claims nss))
      h c := by
  induction nss generalizing inventory h with
  | nil => exact congrArg Except.ok (List.append_nil inventory).symm
  | cons ns nss ih =>
    rw [scanNamespaces, wp_bind]
    apply wp_mono (wp_listPVCsWithRetry ns)
    rintro _ h' _ ⟨rfl, rfl⟩
    apply (wp_bind _ _).mpr
    apply wp_mono (wp_scanClaims inventory _)
    rintro _ h'' _ ⟨rfl, rfl⟩
    apply wp_mono (ih _)
    rintro _ _ _ rfl
    rw [List.append_assoc]
    rfl

/-- What the agent of a cluster returns is what its claims give, namespace by namespace. -/
theorem wp_discover :
    wp (execCluster matchesSelector) Serving d.discover
      (fun r _ _ => r = .ok (collect (d.shows matchesSelector) (d.entryFrom c) c.claims d.listed))
      h c :=
  wp_scanNamespaces [] d.listed

end PVCDiscoverer

/-! ## The inventory of a node -/

namespace PersistentVolume

/-- The selector of the nodes that a volume requires, if it requires some. -/
def required? (pv : PersistentVolume) : Option NodeSelector :=
  pv.nodeAffinity.bind VolumeNodeAffinity.required

/-- What the volume requires of a node is a host name out of a list. -/
def ByHostname (pv : PersistentVolume) : Prop :=
  ∀ selector ∈ pv.required?, ∀ term ∈ selector.nodeSelectorTerms, ∀ expr ∈ term.matchExpressions,
    expr.key = "kubernetes.io/hostname" ∧ expr.operator = .opIn

/-- Node `n` has the volume: one term of the selector is met, with all its expressions. -/
def LocalTo (pv : PersistentVolume) (n : String) : Prop :=
  ∀ selector ∈ pv.required?, ∃ term ∈ selector.nodeSelectorTerms,
    ∀ expr ∈ term.matchExpressions, n ∈ expr.values

/-- The values of all expressions, in the order of the selector. -/
def hostNames (pv : PersistentVolume) : List String :=
  match pv.required? with
  | none => []
  | some selector =>
      (selector.nodeSelectorTerms.flatMap NodeSelectorTerm.matchExpressions).flatMap
        NodeSelectorRequirement.values

end PersistentVolume

section

variable (matchesSelector : String → List (String × String) → Bool)

/-- A claim that the configuration asks for, bound to the volume `pv`. -/
structure AskedFor (config : DiscoveryConfig) (c : Cluster) (pvc : PersistentVolumeClaim)
    (pv : PersistentVolume) : Prop where
  bound : pvc.phase = .bound
  volume : c.volume? pvc.volumeName = some pv
  /-- `NamespaceAll` is all namespaces, and so is no namespace at all. -/
  covered : config.namespaces = [] ∨ ∃ ns ∈ config.namespaces, pvc.inNamespace ns
  selected : pvc.selected matchesSelector config.labelSelector

/-- A list of entries is the inventory of the node of a configuration. -/
structure Exactly (config : DiscoveryConfig) (c : Cluster) (inventory : List PVCInfo) : Prop where
  complete : ∀ pvc ∈ c.claims, ∀ pv, AskedFor matchesSelector config c pvc pv →
    pv.LocalTo config.nodeName → inventory.countP (fun info => info.pvcName = pvc.pvcName) = 1
  sound : ∀ info ∈ inventory, ∃ pvc ∈ c.claims, ∃ pv,
    AskedFor matchesSelector config c pvc pv ∧ pv.LocalTo config.nodeName ∧
      info.pvcName = pvc.pvcName ∧ info.sizeBytes = (pv.capacity.lookup "storage").getD 0 ∧
      info.storageClass = pv.storageClassName
  nodup : (inventory.map PVCInfo.pvcName).Nodup

/-- Whatever the retries, discovery returns the inventory of the node. -/
def DiscoversExactly (config : DiscoveryConfig) (c : Cluster) : Prop :=
  ∀ tr r c', Exec (execCluster matchesSelector) Serving (newPVCDiscoverer config).discover c tr r c' →
    ∃ inventory, r = .ok inventory ∧ Exactly matchesSelector config c inventory

/-- Of each claim that is asked for, the first host name tells whether the node has its volume, and
    one namespace of the configuration at most covers it if the node has. -/
def PlainlyPlaced (config : DiscoveryConfig) (c : Cluster) : Prop :=
  ∀ pvc ∈ c.claims, ∀ pv, AskedFor matchesSelector config c pvc pv →
    (pv.hostNames.headD "" ∈ ["", config.nodeName] ↔ pv.LocalTo config.nodeName) ∧
      (pv.LocalTo config.nodeName → config.namespaces.countP pvc.inNamespace ≤ 1)

end

/-! ## Names and host names -/

/-- The part before the first separator. -/
theorem append_cons_inj_of_notMem_left {α : Type} {sep : α} {x y z w : List α} (hx : sep ∉ x)
    (hy : sep ∉ y) (h : x ++ sep :: z = y ++ sep :: w) : x = y ∧ z = w := by
  induction x generalizing y with
  | nil =>
    cases y with
    | nil => exact ⟨rfl, (List.cons.inj h).2⟩
    | cons b y => exact absurd ((List.cons.inj h).1 ▸ List.mem_cons_self) hy
  | cons a x ih =>
    cases y with
    | nil => exact absurd ((List.cons.inj h).1 ▸ List.mem_cons_self) hx
    | cons b y =>
      obtain ⟨rfl, htail⟩ := List.cons.inj h
      obtain ⟨rfl, hzw⟩ := ih (List.not_mem_of_not_mem_cons hx) (List.not_mem_of_not_mem_cons hy) htail
      exact ⟨rfl, hzw⟩

/-- Two claims of a cluster have two names in the inventory. -/
theorem Cluster.pvcName_nodup (c : Cluster) : (c.claims.map PersistentVolumeClaim.pvcName).Nodup := by
  apply List.Nodup.map_on _ (List.Nodup.of_map _ c.nodup)
  intro pvc hpvc pvc' hpvc' hname
  have hchars := congrArg String.toList hname
  simp only [PersistentVolumeClaim.pvcName, String.toList_append, List.append_assoc] at hchars
  obtain ⟨hns, hrest⟩ :=
    append_cons_inj_of_notMem_left (c.slashless pvc hpvc) (c.slashless pvc' hpvc') hchars
  apply List.inj_on_of_nodup_map c.nodup hpvc hpvc'
  exact Prod.ext (String.toList_injective hns) (String.toList_injective hrest)

/-- The first value of the first expression that has one is the first value of all. -/
theorem extractNodeAffinity_eq {pv : PersistentVolume} (hpv : pv.ByHostname) :
    extractNodeAffinity pv = pv.hostNames.headD "" := by
  simp only [extractNodeAffinity, PersistentVolume.hostNames]
  rw [show pv.nodeAffinity.bind VolumeNodeAffinity.required = pv.required? from rfl]
  cases hrequired : pv.required? with
  | none => rfl
  | some selector =>
    have hexprs : ∀ expr ∈ selector.nodeSelectorTerms.flatMap NodeSelectorTerm.matchExpressions,
        expr.key = "kubernetes.io/hostname" ∧ expr.operator = .opIn := by
      intro expr hexpr
      obtain ⟨term, hterm, hexpr⟩ := List.mem_flatMap.mp hexpr
      exact hpv selector hrequired term hterm expr hexpr
    dsimp only
    -- from here on it is about a list of expressions on the host name
    generalize selector.nodeSelectorTerms.flatMap NodeSelectorTerm.matchExpressions = exprs at hexprs
    induction exprs with
    | nil => rfl
    | cons expr exprs ih =>
      obtain ⟨hexpr, hrest⟩ := List.forall_mem_cons.mp hexprs
      rw [List.find?_cons, List.flatMap_cons]
      -- an expression without a value is passed over by both
      cases hvalues : expr.values with
      | nil => simpa [hvalues] using ih hrest
      | cons value values => simp [hexpr, hvalues]

/-! ## Exact discovery -/

@[simp] theorem newPVCDiscoverer_listed (config : DiscoveryConfig) :
    (newPVCDiscoverer config).listed =
      if config.namespaces = [] then [namespaceAll] else config.namespaces := rfl

@[simp] theorem newPVCDiscoverer_nodeName (config : DiscoveryConfig) :
    (newPVCDiscoverer config).nodeName = config.nodeName := rfl

@[simp] theorem newPVCDiscoverer_labelSelector (config : DiscoveryConfig) :
    (newPVCDiscoverer config).labelSelector = config.labelSelector := rfl

section

variable {matchesSelector : String → List (String × String) → Bool} {config : DiscoveryConfig}
variable {c : Cluster} {pvc : PersistentVolumeClaim} {pv : PersistentVolume} {info : PVCInfo}

theorem Cluster.mem_of_volume? {name : String} (h : c.volume? name = some pv) :
    pv ∈ c.volumes ∧ pv.name = name :=
  ⟨List.mem_of_find?_eq_some h, by simpa using List.find?_some h⟩

/-- The claims that are asked for are those that a request shows and that have a volume. -/
theorem askedFor_iff :
    AskedFor matchesSelector config c pvc pv ↔
      (pvc.phase = .bound ∧ c.volume? pvc.volumeName = some pv) ∧
        ∃ ns ∈ (newPVCDiscoverer config).listed,
          (newPVCDiscoverer config).shows matchesSelector ns pvc := by
  simp only [PVCDiscoverer.shows, Bool.and_eq_true, newPVCDiscoverer_labelSelector]
  constructor
  · rintro ⟨hbound, hvolume, hcovered, hselected⟩
    refine ⟨⟨hbound, hvolume⟩, ?_⟩
    by_cases hempty : config.namespaces = []
    · exact ⟨namespaceAll, by simp [hempty], by simp [PersistentVolumeClaim.inNamespace], hselected⟩
    · obtain ⟨ns, hns, hin⟩ := hcovered.resolve_left hempty
      exact ⟨ns, by simpa [hempty] using hns, hin, hselected⟩
  · rintro ⟨⟨hbound, hvolume⟩, ns, hns, hin, hselected⟩
    refine ⟨hbound, hvolume, ?_, hselected⟩
    by_cases hempty : config.namespaces = []
    · exact .inl hempty
    · exact .inr ⟨ns, by simpa [hempty] using hns, hin⟩

/-- A claim with a volume gives an entry, unless the first host name is another node's. -/
theorem entryFrom_eq {d : PVCDiscoverer} (hpv : pv.ByHostname) (hbound : pvc.phase = .bound)
    (hvolume : c.volume? pvc.volumeName = some pv) :
    d.entryFrom c pvc =
      if pv.hostNames.headD "" ∈ ["", d.nodeName] then
        some
          { pvcName := pvc.pvcName
            sizeBytes := (pv.capacity.lookup "storage").getD 0
            storageClass := pv.storageClassName
            nodeAffinity := pv.hostNames.headD "" }
      else none := by
  have hmem := Cluster.mem_of_volume? hvolume
  -- no volume has an empty name
  have hname : pvc.volumeName ≠ "" := hmem.2 ▸ c.named pv hmem.1
  rw [PVCDiscoverer.entryFrom, if_pos ⟨hbound, hname⟩, hvolume, Option.bind_some, PVCDiscoverer.entryOf,
    extractNodeAffinity_eq hpv]
  by_cases hlocal : pv.hostNames.headD "" ∈ ["", d.nodeName]
  · rw [if_pos hlocal, if_neg]
    simp only [List.mem_cons, List.not_mem_nil, or_false] at hlocal
    tauto
  · rw [if_neg hlocal, if_pos]
    simpa using hlocal

/-- What gives an entry is bound to a volume; the entry has its name. -/
theorem of_entryFrom_eq_some {d : PVCDiscoverer} (h : d.entryFrom c pvc = some info) :
    info.pvcName = pvc.pvcName ∧ pvc.phase = .bound ∧ ∃ pv, c.volume? pvc.volumeName = some pv := by
  rw [PVCDiscoverer.entryFrom, Option.ite_none_right_eq_some, Option.bind_eq_some_iff] at h
  obtain ⟨⟨hbound, -⟩, pv, hvolume, hinfo⟩ := h
  rw [PVCDiscoverer.entryOf, Option.ite_none_left_eq_some] at hinfo
  obtain ⟨-, hinfo⟩ := hinfo
  cases hinfo
  exact ⟨rfl, hbound, pv, hvolume⟩

/-- How often a request shows a claim that is asked for. -/
theorem countP_listed (hasked : AskedFor matchesSelector config c pvc pv) :
    (newPVCDiscoverer config).listed.countP
        (fun ns => (newPVCDiscoverer config).shows matchesSelector ns pvc) =
      max 1 (config.namespaces.countP pvc.inNamespace) := by
  simp only [PVCDiscoverer.shows, newPVCDiscoverer_labelSelector, hasked.selected, Bool.and_true]
  by_cases hempty : config.namespaces = []
  · simp [hempty, PersistentVolumeClaim.inNamespace]
  · have hpos : 0 < config.namespaces.countP pvc.inNamespace :=
      List.countP_pos_iff.mpr (hasked.covered.resolve_left hempty)
    rw [newPVCDiscoverer_listed, if_neg hempty]
    exact (max_eq_right hpos).symm

/-- What the requests of a discovery show, one after the other. -/
def inventoryOf (matchesSelector : String → List (String × String) → Bool) (config : DiscoveryConfig)
    (c : Cluster) : List PVCInfo :=
  collect ((newPVCDiscoverer config).shows matchesSelector) ((newPVCDiscoverer config).entryFrom c)
    c.claims (newPVCDiscoverer config).listed

/-- A claim that is asked for is taken once for each namespace that covers it, or left out. -/
theorem countP_inventoryOf (hpv : pv.ByHostname) (hpvc : pvc ∈ c.claims)
    (hasked : AskedFor matchesSelector config c pvc pv) :
    (inventoryOf matchesSelector config c).countP (fun info => info.pvcName = pvc.pvcName) =
      if pv.hostNames.headD "" ∈ ["", config.nodeName] then
        max 1 (config.namespaces.countP pvc.inNamespace)
      else 0 := by
  have hname (pvc info) (hinfo : (newPVCDiscoverer config).entryFrom c pvc = some info) :
      info.pvcName = pvc.pvcName := (of_entryFrom_eq_some hinfo).1
  rw [inventoryOf, countP_collect c.pvcName_nodup hname hpvc,
    entryFrom_eq hpv hasked.bound hasked.volume, newPVCDiscoverer_nodeName, countP_listed hasked]
  by_cases hlocal : pv.hostNames.headD "" ∈ ["", config.nodeName]
  · simp only [if_pos hlocal, Option.isSome_some, if_true]
  · simp only [if_neg hlocal, Option.isSome_none, Bool.false_eq_true, if_false]

/-- Every entry is of a claim that is asked for, and says what its volume says. -/
theorem of_mem_inventoryOf (hhost : ∀ pv ∈ c.volumes, pv.ByHostname)
    (hinfo : info ∈ inventoryOf matchesSelector config c) :
    ∃ pvc ∈ c.claims, ∃ pv, AskedFor matchesSelector config c pvc pv ∧
      pv.hostNames.headD "" ∈ ["", config.nodeName] ∧ info.pvcName = pvc.pvcName ∧
        info.sizeBytes = (pv.capacity.lookup "storage").getD 0 ∧
          info.storageClass = pv.storageClassName := by
  obtain ⟨pvc, hpvc, hentry, hshown⟩ := mem_collect.mp hinfo
  obtain ⟨-, hbound, pv, hvolume⟩ := of_entryFrom_eq_some hentry
  rw [entryFrom_eq (hhost pv (Cluster.mem_of_volume? hvolume).1) hbound hvolume,
    Option.ite_none_right_eq_some] at hentry
  obtain ⟨hlocal, hentry⟩ := hentry
  cases hentry
  exact ⟨pvc, hpvc, pv, askedFor_iff.mpr ⟨⟨hbound, hvolume⟩, hshown⟩, hlocal, rfl, rfl, rfl⟩

/-- The claim that an entry is of, by its name. -/
theorem Cluster.eq_of_pvcName {pvc pvc' : PersistentVolumeClaim} (hpvc : pvc ∈ c.claims)
    (hpvc' : pvc' ∈ c.claims) (hname : pvc.pvcName = pvc'.pvcName) : pvc = pvc' :=
  List.inj_on_of_nodup_map c.pvcName_nodup hpvc hpvc' hname

theorem exactly_of_plainlyPlaced (hhost : ∀ pv ∈ c.volumes, pv.ByHostname)
    (hplaced : PlainlyPlaced matchesSelector config c) :
    Exactly matchesSelector config c (inventoryOf matchesSelector config c) := by
  have hcount {pvc pv} (hpvc : pvc ∈ c.claims) (hasked : AskedFor matchesSelector config c pvc pv)
      (hlocal : pv.LocalTo config.nodeName) :
      (inventoryOf matchesSelector config c).countP (fun info => info.pvcName = pvc.pvcName) = 1 := by
    obtain ⟨hfirst, honce⟩ := hplaced pvc hpvc pv hasked
    rw [countP_inventoryOf (hhost pv (Cluster.mem_of_volume? hasked.volume).1) hpvc hasked,
      if_pos (hfirst.mpr hlocal), max_eq_left (honce hlocal)]
  refine ⟨fun pvc hpvc pv hasked hlocal => hcount hpvc hasked hlocal, ?_, ?_⟩
  · intro info hinfo
    obtain ⟨pvc, hpvc, pv, hasked, hfirst, hentry⟩ := of_mem_inventoryOf hhost hinfo
    exact ⟨pvc, hpvc, pv, hasked, (hplaced pvc hpvc pv hasked).1.mp hfirst, hentry⟩
  · -- a name that occurs is that of a claim, and occurs once
    rw [List.nodup_iff_count_eq_one]
    intro name hname
    obtain ⟨info, hinfo, rfl⟩ := List.mem_map.mp hname
    obtain ⟨pvc, hpvc, pv, hasked, hfirst, hpvcName, -⟩ := of_mem_inventoryOf hhost hinfo
    have hlocal := (hplaced pvc hpvc pv hasked).1.mp hfirst
    rw [hpvcName, List.count, List.countP_map, ← hcount hpvc hasked hlocal]
    apply List.countP_congr
    intro info _
    simp

theorem plainlyPlaced_of_exactly (hhost : ∀ pv ∈ c.volumes, pv.ByHostname)
    (hexactly : Exactly matchesSelector config c (inventoryOf matchesSelector config c)) :
    PlainlyPlaced matchesSelector config c := by
  intro pvc hpvc pv hasked
  have hcount := countP_inventoryOf (hhost pv (Cluster.mem_of_volume? hasked.volume).1) hpvc hasked
  refine ⟨⟨fun hfirst => ?_, fun hlocal => ?_⟩, fun hlocal => ?_⟩
  · -- the entry is there, so it is the entry of a claim whose volume the node has
    rw [if_pos hfirst] at hcount
    have hpos : 0 < (inventoryOf matchesSelector config c).countP
        (fun info => info.pvcName = pvc.pvcName) := by omega
    obtain ⟨info, hinfo, hname⟩ := List.countP_pos_iff.mp hpos
    obtain ⟨pvc', hpvc', pv', hasked', hlocal, hname', -⟩ := hexactly.sound info hinfo
    have hpvcName : pvc'.pvcName = pvc.pvcName := hname'.symm.trans (by simpa using hname)
    obtain rfl := Cluster.eq_of_pvcName hpvc' hpvc hpvcName
    have hpv : pv' = pv := Option.some.inj (hasked'.volume.symm.trans hasked.volume)
    exact hpv ▸ hlocal
  · -- without the entry the inventory would not be complete
    have hone := hexactly.complete pvc hpvc pv hasked hlocal
    by_contra hfirst
    rw [hcount, if_neg hfirst] at hone
    omega
  · have hone := hexactly.complete pvc hpvc pv hasked hlocal
    rw [hcount] at hone
    split at hone <;> omega

/-- All runs of a discovery return the same. -/
theorem discoversExactly_iff_exactly :
    DiscoversExactly matchesSelector config c ↔
      Exactly matchesSelector config c (inventoryOf matchesSelector config c) := by
  have hruns {tr r c'} (hrun : Exec (execCluster matchesSelector) Serving
      (newPVCDiscoverer config).discover c tr r c') :
      r = .ok (inventoryOf matchesSelector config c) :=
    wp_sound (PVCDiscoverer.wp_discover (h := [])) hrun
  constructor
  · intro hdiscovers
    have hserving : ∀ op c', ∃ env, Serving env op c' := fun _ _ => ⟨{}, fun _ => rfl⟩
    obtain ⟨tr, r, c', hrun⟩ := exists_exec hserving (newPVCDiscoverer config).discover c
    obtain ⟨inventory, hr, hexactly⟩ := hdiscovers tr r c' hrun
    obtain rfl := Except.ok.inj (hr.symm.trans (hruns hrun))
    exact hexactly
  · intro hexactly tr r c' hrun
    exact ⟨_, hruns hrun, hexactly⟩

/-- With volumes that ask for host names only, discovery returns the inventory of the node exactly
    when the first host name of each volume tells where it is, and no two namespaces of the
    configuration cover one claim. -/
theorem discoversExactly_iff (matchesSelector : String → List (String × String) → Bool)
    (config : DiscoveryConfig) (c : Cluster) (hhost : ∀ pv ∈ c.volumes, pv.ByHostname) :
    DiscoversExactly matchesSelector config c ↔ PlainlyPlaced matchesSelector config c := by
  rw [discoversExactly_iff_exactly]
  exact ⟨plainlyPlaced_of_exactly hhost, exactly_of_plainlyPlaced hhost⟩

end

/-- A selector of one label by its value. -/
def matchesLabel (labelSelector : String) (labels : List (String × String)) : Bool :=
  labels.any fun (key, value) => key ++ "=" ++ value = labelSelector

def databaseClaim : PersistentVolumeClaim where
  name := "data-pvc"
  namespace_ := "default"
  labels := [("app", "db")]
  volumeName := "pv-1"
  phase := .bound

/-- A volume that can be mounted on the nodes of a list. -/
def databaseVolume (nodes : List String) : PersistentVolume where
  name := "pv-1"
  capacity := [("storage", 107374182400)]
  storageClassName := "local-path"
  nodeAffinity := some
    { required := some
        { nodeSelectorTerms :=
            [{ matchExpressions :=
                 [{ key := "kubernetes.io/hostname", operator := .opIn, values := nodes }] }] } }

def databaseCluster (nodes : List String) : Cluster where
  claims := [databaseClaim]
  volumes := [databaseVolume nodes]
  nodup := List.nodup_singleton _
  slashless := by simp [databaseClaim]
  named := by simp [databaseVolume]

theorem databaseCluster_byHostname (nodes : List String) :
    ∀ pv ∈ (databaseCluster nodes).volumes, pv.ByHostname := by
  simp [databaseCluster, databaseVolume, PersistentVolume.ByHostname, PersistentVolume.required?]

def databaseConfig (nodeName : String) : DiscoveryConfig where
  namespaces := ["default", "staging"]
  labelSelector := "app=db"
  nodeName := nodeName
  maxRetries := 0
  retryBaseDelay := 0

/-- The first of the nodes finds the volume. -/
theorem discoversExactly_firstNode :
    DiscoversExactly matchesLabel (databaseConfig "worker-1")
      (databaseCluster ["worker-1", "worker-2"]) := by
  apply (discoversExactly_iff matchesLabel _ _ (databaseCluster_byHostname _)).mpr
  intro pvc hpvc pv hasked
  obtain rfl := List.mem_singleton.mp hpvc
  obtain rfl := List.mem_singleton.mp (Cluster.mem_of_volume? hasked.volume).1
  constructor
  · simp [databaseVolume, PersistentVolume.hostNames, PersistentVolume.LocalTo,
      PersistentVolume.required?, databaseConfig]
  · intro _
    decide

/-- The second does not. -/
theorem not_discoversExactly_secondNode :
    (∀ pv ∈ (databaseCluster ["worker-1", "worker-2"]).volumes, pv.ByHostname) ∧
      ¬ DiscoversExactly matchesLabel (databaseConfig "worker-2")
        (databaseCluster ["worker-1", "worker-2"]) := by
  refine ⟨databaseCluster_byHostname _, fun hdiscovers => ?_⟩
  have hexactly := discoversExactly_iff_exactly.mp hdiscovers
  have hempty : inventoryOf matchesLabel (databaseConfig "worker-2")
      (databaseCluster ["worker-1", "worker-2"]) = [] := by decide
  have hasked : AskedFor matchesLabel (databaseConfig "worker-2")
      (databaseCluster ["worker-1", "worker-2"]) databaseClaim
        (databaseVolume ["worker-1", "worker-2"]) :=
    { bound := rfl, volume := by rfl, covered := .inr ⟨"default", by decide⟩, selected := by decide }
  have hlocal : (databaseVolume ["worker-1", "worker-2"]).LocalTo "worker-2" := by
    simp [databaseVolume, PersistentVolume.LocalTo, PersistentVolume.required?]
  have hone := hexactly.complete databaseClaim List.mem_cons_self _ hasked hlocal
  rw [hempty] at hone
  exact absurd hone (by decide)

end Katapult
