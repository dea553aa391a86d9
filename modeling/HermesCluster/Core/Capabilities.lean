import HermesCluster.Lib.Run
import HermesCluster.Core.NodeManager
import Mathlib.Data.String.Basic
import Mathlib.Data.List.Sort

/-!
# The capability cache of `NodeManager`

`NodeManager` keeps the capabilities it last saw of each node in `_cap_cache`, and
`update_capabilities` returns at once when the new list is the cached one reordered.
`NodeRegistry` is the store with this cache, and `CapOp` every call that touches either.

A re-join and a direct `store.update_capabilities` write the store and not the cache; `leave`
drops the cached list and keeps the node.  `Coherent` says that the cache agrees with the
store.  `cache_hides_no_update` says that an update that returns `True` always leaves the node
with the capabilities asked for exactly as long as each operation is `KeepsCoherent`, whether
equal means equal up to order or just the same set.

The `cap_changed` event, which no listener acts on, is left out.
-/

namespace HermesCluster

open Run

/-- An entry of `_cap_cache`. -/
structure CapEntry where
  nodeId : NodeId
  capabilities : List Capability
deriving DecidableEq, Repr

instance : Keyed CapEntry NodeId := ⟨CapEntry.nodeId⟩

@[simp] theorem key_capEntry (e : CapEntry) : Keyed.key e = e.nodeId := rfl

/-- The store and the cache of its `NodeManager`. -/
structure NodeRegistry where
  state : ClusterState := {}
  capCache : Table CapEntry := Table.empty
deriving DecidableEq

inductive CapOp
  /-- `NodeManager.join` -/
  | join (nodeId : NodeId) (name : String) (capabilities : List Capability) (load : Load)
  /-- `NodeManager.leave` -/
  | leave (nodeId : NodeId)
  /-- `NodeManager.update_capabilities` -/
  | update (nodeId : NodeId) (capabilities : List Capability)
  /-- `store.update_capabilities`, as `PATCH /nodes/{node_id}/capabilities` calls it -/
  | direct (nodeId : NodeId) (capabilities : List Capability)

namespace NodeRegistry

/-- `self._cap_cache.get(node_id, [])` -/
def cached (r : NodeRegistry) (nodeId : NodeId) : List Capability :=
  ((r.capCache.get? nodeId).map CapEntry.capabilities).getD []

/-- `join`: only the first one writes the cache. -/
def join (r : NodeRegistry) (now : Time) (nodeId : NodeId) (name : String)
    (capabilities : List Capability) (load : Load) : NodeRegistry :=
  match NodeManager.join r.state now nodeId name capabilities load with
  | .error _ => r
  | .ok (_, _, state) =>
    match r.state.getNode nodeId with
    | some _ => { r with state := state }
    | none => { state := state, capCache := r.capCache.put ⟨nodeId, capabilities⟩ }

/-- `leave` -/
def leave (r : NodeRegistry) (nodeId : NodeId) : NodeRegistry :=
  match r.state.getNode nodeId with
  | none => r
  | some _ =>
    { state := (NodeManager.leave r.state nodeId).2.2, capCache := r.capCache.erase nodeId }

/-- `sorted(capabilities)` -/
def sorted (capabilities : List Capability) : List Capability :=
  capabilities.insertionSort (· ≤ ·)

/-- `update_capabilities`: what it returns, and the registry after. -/
def updateCapabilities (r : NodeRegistry) (nodeId : NodeId) (capabilities : List Capability) :
    Bool × NodeRegistry :=
  match r.state.getNode nodeId with
  | none => (false, r)
  | some _ =>
    let newCaps := sorted capabilities
    if sorted (r.cached nodeId) = newCaps then (true, r)
    else (true, { state := r.state.updateCapabilities nodeId newCaps
                  capCache := r.capCache.put ⟨nodeId, newCaps⟩ })

/-- `get_capabilities` -/
def getCapabilities (r : NodeRegistry) (nodeId : NodeId) : List Capability :=
  match r.state.getNode nodeId with
  | none => []
  | some node => node.capabilities

def apply (r : NodeRegistry) (now : Time) : CapOp → NodeRegistry
  | .join nodeId name capabilities load => r.join now nodeId name capabilities load
  | .leave nodeId => r.leave nodeId
  | .update nodeId capabilities => (r.updateCapabilities nodeId capabilities).2
  | .direct nodeId capabilities =>
    { r with state := r.state.updateCapabilities nodeId capabilities }

/-- One operation, with the clock reading it is done at. -/
def step (r : NodeRegistry) (op : Time × CapOp) : NodeRegistry := r.apply op.1 op.2

/-- A sense in which two lists have the same elements: reordering does not matter. -/
structure SameElements (E : List Capability → List Capability → Prop) : Prop where
  equivalence : Equivalence E
  of_perm : ∀ {a b : List Capability}, a.Perm b → E a b

theorem sameElements_perm : SameElements List.Perm := ⟨⟨.refl, .symm, .trans⟩, fun h => h⟩

theorem sameElements_mem : SameElements fun a b => ∀ c, c ∈ a ↔ c ∈ b :=
  ⟨⟨fun _ _ => Iff.rfl, fun h c => (h c).symm, fun h h' c => (h c).trans (h' c)⟩,
    fun h _ => h.mem_iff⟩

variable (E : List Capability → List Capability → Prop)

/-- An update that returns `True` leaves the node with the capabilities asked for. -/
def HidesNothing (r : NodeRegistry) : Prop :=
  ∀ nodeId capabilities, (r.updateCapabilities nodeId capabilities).1 = true →
    E ((r.updateCapabilities nodeId capabilities).2.getCapabilities nodeId) capabilities

/-- The cache agrees with the store about every node. -/
def Coherent (r : NodeRegistry) : Prop :=
  ∀ nodeId node, r.state.nodes.get? nodeId = some node → E node.capabilities (r.cached nodeId)

/-- What an operation has to meet to keep the cache in agreement: a re-join gives no
capabilities or the cached ones, a node leaves without capabilities, a direct update gives the
cached ones. -/
def KeepsCoherent (r : NodeRegistry) (op : Time × CapOp) : Prop :=
  match op.2 with
  | .join nodeId _ capabilities _ => nodeId ≠ "" → (r.state.nodes.get? nodeId).isSome →
      capabilities ≠ [] → E capabilities (r.cached nodeId)
  | .leave nodeId => ∀ node, r.state.nodes.get? nodeId = some node → E node.capabilities []
  | .update _ _ => True
  | .direct nodeId capabilities => (r.state.nodes.get? nodeId).isSome →
      E capabilities (r.cached nodeId)

variable {E} {r : NodeRegistry} {now : Time} {n : NodeId}

theorem sorted_perm (capabilities : List Capability) :
    (sorted capabilities).Perm capabilities := List.perm_insertionSort _ _

/-- `sorted(a) == sorted(b)` -/
theorem sorted_eq_iff {a b : List Capability} : sorted a = sorted b ↔ a.Perm b := by
  refine ⟨?_, ?_⟩
  · intro h
    exact ((sorted_perm a).symm.trans (List.Perm.of_eq h)).trans (sorted_perm b)
  · intro h
    have hperm : (sorted a).Perm (sorted b) := ((sorted_perm a).trans h).trans (sorted_perm b).symm
    exact hperm.eq_of_pairwise (fun _ _ _ _ => le_antisymm)
      (List.pairwise_insertionSort _ a) (List.pairwise_insertionSort _ b)

theorem cached_put (state : ClusterState) (cache : Table CapEntry) (e : CapEntry) (k : NodeId) :
    cached { state := state, capCache := cache.put e } k =
      if k = e.nodeId then e.capabilities
      else cached { state := state, capCache := cache } k := by
  rw [cached, Table.get?_put, key_capEntry]
  split <;> rfl

theorem cached_erase (state : ClusterState) (cache : Table CapEntry) (k : NodeId) :
    cached { state := state, capCache := cache.erase n } k =
      if k = n then [] else cached { state := state, capCache := cache } k := by
  rw [cached, Table.get?_erase]
  split <;> rfl

/-- The cached list is the one an update is compared with, so the shortcut is sound exactly
when the cache agrees with the store. -/
theorem hidesNothing_iff (hE : SameElements E) : HidesNothing E r ↔ r.Coherent E := by
  refine ⟨?_, ?_⟩
  · intro h n node hn
    have hup : r.updateCapabilities n (r.cached n) = (true, r) := by
      simp only [updateCapabilities, ClusterState.getNode, hn, if_true]
    have hgot := h n (r.cached n) (by rw [hup])
    rwa [hup, getCapabilities, ClusterState.getNode, hn] at hgot
  · intro h n caps htrue
    cases hn : r.state.nodes.get? n with
    | none =>
      simp only [updateCapabilities, ClusterState.getNode, hn] at htrue
      cases htrue
    | some node =>
      by_cases hs : sorted (r.cached n) = sorted caps
      · simp only [updateCapabilities, ClusterState.getNode, hn, if_pos hs, getCapabilities]
        exact hE.equivalence.trans (h n node hn) (hE.of_perm (sorted_eq_iff.mp hs))
      · have hafter : (r.state.updateCapabilities n (sorted caps)).nodes.get? n =
            some { node with capabilities := sorted caps } := by
          rw [NodeManager.get?_updateCapabilities, if_pos rfl, hn]
          rfl
        simp only [updateCapabilities, ClusterState.getNode, hn, if_neg hs, getCapabilities, hafter]
        exact hE.of_perm (sorted_perm caps)

/-- An operation on one node keeps the agreement if it keeps it at that node. -/
theorem coherent_iff_of_others {r' : NodeRegistry} (h : r.Coherent E)
    (hnodes : ∀ k, k ≠ n → (r'.state.nodes.get? k).map Node.capabilities =
      (r.state.nodes.get? k).map Node.capabilities)
    (hcache : ∀ k, k ≠ n → r'.cached k = r.cached k) :
    r'.Coherent E ↔ ∀ node, r'.state.nodes.get? n = some node →
      E node.capabilities (r'.cached n) := by
  refine ⟨fun h' => h' n, fun h' k node hk => ?_⟩
  by_cases hkn : k = n
  · rw [hkn] at hk ⊢
    exact h' node hk
  · have hcaps := hnodes k hkn
    rw [hk] at hcaps
    obtain ⟨node', hn', heq⟩ := Option.map_eq_some_iff.mp hcaps.symm
    rw [hcache k hkn, ← heq]
    exact h k node' hn'

/-! ### One operation -/

theorem coherent_direct (h : r.Coherent E) (caps : List Capability) :
    (r.step (now, .direct n caps)).Coherent E ↔ KeepsCoherent E r (now, .direct n caps) := by
  have hget : ∀ k, (r.step (now, .direct n caps)).state.nodes.get? k =
      if k = n then (r.state.nodes.get? k).map (fun node => { node with capabilities := caps })
      else r.state.nodes.get? k := fun k => NodeManager.get?_updateCapabilities caps k
  refine (coherent_iff_of_others h (n := n) ?_ ?_).trans ?_
  · intro k hk
    rw [hget, if_neg hk]
  · intro k hk
    rfl
  rw [hget, if_pos rfl]
  cases hn : r.state.nodes.get? n with
  | none => simp [KeepsCoherent, hn]
  | some node =>
    simp only [KeepsCoherent, hn, Option.map_some, Option.some.injEq, forall_eq',
      Option.isSome_some, true_imp_iff]
    exact Iff.rfl

theorem coherent_leave (h : r.Coherent E) :
    (r.step (now, .leave n)).Coherent E ↔ KeepsCoherent E r (now, .leave n) := by
  cases hn : r.state.nodes.get? n with
  | none =>
    have hsame : r.step (now, .leave n) = r := by
      show r.leave n = r
      rw [leave, ClusterState.getNode, hn]
    rw [hsame]
    refine ⟨fun _ node hnode => ?_, fun _ => h⟩
    rw [hn] at hnode
    cases hnode
  | some node =>
    have hleft : r.step (now, .leave n) =
        { state := r.state.setNodeStatus n .offline, capCache := r.capCache.erase n } := by
      show r.leave n = _
      simp only [leave, NodeManager.leave, ClusterState.getNode, hn]
    rw [hleft, coherent_iff_of_others h (n := n)]
    · rw [NodeManager.get?_setNodeStatus, if_pos rfl, hn, cached_erase, if_pos rfl]
      refine ⟨fun hafter node' hnode' => ?_, fun hc node' hnode' => ?_⟩
      · rw [hn] at hnode'
        cases hnode'
        exact hafter { node with status := .offline } rfl
      · cases hnode'
        exact hc node hn
    · intro k hk
      rw [NodeManager.get?_setNodeStatus, if_neg hk]
    · intro k hk
      rw [cached_erase, if_neg hk]
      rfl

theorem coherent_update (hE : SameElements E) (h : r.Coherent E) (caps : List Capability) :
    (r.updateCapabilities n caps).2.Coherent E := by
  cases hn : r.state.nodes.get? n with
  | none =>
    simp only [updateCapabilities, ClusterState.getNode, hn]
    exact h
  | some node =>
    simp only [updateCapabilities, ClusterState.getNode, hn]
    split
    · exact h
    · refine (coherent_iff_of_others h (n := n) (fun k hk => ?_) (fun k hk => ?_)).mpr ?_
      · rw [NodeManager.get?_updateCapabilities, if_neg hk]
      · rw [cached_put, if_neg hk]
        rfl
      · intro node' hnode'
        rw [NodeManager.get?_updateCapabilities, if_pos rfl, hn] at hnode'
        cases hnode'
        rw [cached_put, if_pos rfl]
        exact hE.equivalence.refl _

/-- A first join caches what it registers. -/
theorem coherent_join_first (hE : SameElements E) (h : r.Coherent E) (hne : n ≠ "")
    (hn : r.state.nodes.get? n = none) (name : String) (caps : List Capability) (load : Load) :
    (r.join now n name caps load).Coherent E := by
  simp only [join, NodeManager.join, if_neg hne, ClusterState.getNode, hn]
  refine (coherent_iff_of_others h (n := n) (fun k hk => ?_) (fun k hk => ?_)).mpr ?_
  · rw [NodeManager.get?_registerNode, if_neg hk]
  · rw [cached_put, if_neg hk]
    rfl
  · intro node' hnode'
    rw [NodeManager.get?_registerNode, if_pos rfl] at hnode'
    cases hnode'
    rw [cached_put, if_pos rfl]
    exact hE.equivalence.refl _

/-- A re-join leaves the cache as it was. -/
theorem coherent_join_again (h : r.Coherent E) (hne : n ≠ "") {node : Node}
    (hn : r.state.nodes.get? n = some node) (name : String) (caps : List Capability) (load : Load) :
    (r.join now n name caps load).Coherent E ↔ (caps ≠ [] → E caps (r.cached n)) := by
  simp only [join, NodeManager.join, if_neg hne, ClusterState.getNode, hn]
  by_cases hnil : caps = []
  · simp only [hnil, ne_eq, not_true, if_false, false_imp_iff, iff_true]
    refine (coherent_iff_of_others h (n := n) ?_ ?_).mpr ?_
    · intro k hk
      rw [NodeManager.get?_updateHeartbeat, if_neg hk]
    · intro k hk
      rfl
    · intro node' hnode'
      rw [NodeManager.get?_updateHeartbeat, if_pos rfl, hn] at hnode'
      cases hnode'
      exact h n node hn
  · simp only [ne_eq, hnil, not_false_eq_true, if_true, true_imp_iff]
    rw [coherent_iff_of_others h (n := n)]
    · rw [NodeManager.get?_updateCapabilities, if_pos rfl, NodeManager.get?_updateHeartbeat,
        if_pos rfl, hn]
      simp only [Option.map_some, Option.some.injEq, forall_eq']
      exact Iff.rfl
    · intro k hk
      rw [NodeManager.get?_updateCapabilities, if_neg hk, NodeManager.get?_updateHeartbeat,
        if_neg hk]
    · intro k hk
      rfl

theorem coherent_join (hE : SameElements E) (h : r.Coherent E) (name : String)
    (caps : List Capability) (load : Load) :
    (r.step (now, .join n name caps load)).Coherent E ↔
      KeepsCoherent E r (now, .join n name caps load) := by
  show (r.join now n name caps load).Coherent E ↔ (n ≠ "" → _ → _)
  by_cases hne : n = ""
  · have hsame : r.join now n name caps load = r := by
      simp only [join, NodeManager.join, if_pos hne]
    rw [hsame]
    exact ⟨fun _ hn => absurd hne hn, fun _ => h⟩
  · cases hn : r.state.nodes.get? n with
    | none =>
      refine ⟨fun _ _ hs => ?_, fun _ => coherent_join_first hE h hne hn name caps load⟩
      cases hs
    | some node =>
      rw [coherent_join_again h hne hn name caps load]
      exact ⟨fun hc _ _ => hc, fun hc => hc hne rfl⟩

/-- **Step lemma.** -/
theorem coherent_step (hE : SameElements E) (h : r.Coherent E) (op : Time × CapOp) :
    (r.step op).Coherent E ↔ KeepsCoherent E r op := by
  obtain ⟨now, op⟩ := op
  cases op with
  | join n name caps load => exact coherent_join hE h name caps load
  | leave n => exact coherent_leave h
  | update n caps => exact ⟨fun _ => trivial, fun _ => coherent_update hE h caps⟩
  | direct n caps => exact coherent_direct h caps

/-! ### Runs -/

theorem hidesNothing_run (hE : SameElements E) (h : r.Coherent E) (run : List (Time × CapOp)) :
    Always step (HidesNothing E) r run ↔ EachStep step (KeepsCoherent E) r run :=
  always_iff_eachStep (I := Coherent E) (A := fun _ _ => True)
    (fun _ h => (hidesNothing_iff hE).mpr h)
    (fun _ op h _ => (hidesNothing_iff hE).trans (coherent_step hE h op))
    (fun _ _ _ _ hp => (hidesNothing_iff hE).mp hp) run r h (fun _ _ _ => trivial)

/-- **The cache hides no update**: from an empty store, in every state of a run, an update that
returns `True` leaves the node with the capabilities asked for, exactly as long as each re-join
and each direct update gives the cached capabilities and nodes leave without any.  It is so for
the same elements up to order, and for the same set of elements. -/
theorem cache_hides_no_update (run : List (Time × CapOp)) :
    (Always step (HidesNothing List.Perm) {} run ↔
      EachStep step (KeepsCoherent List.Perm) {} run) ∧
    (Always step (HidesNothing fun a b => ∀ c, c ∈ a ↔ c ∈ b) {} run ↔
      EachStep step (KeepsCoherent fun a b => ∀ c, c ∈ a ↔ c ∈ b) {} run) := by
  refine ⟨hidesNothing_run sameElements_perm ?_ run, hidesNothing_run sameElements_mem ?_ run⟩
  · intro n node hn
    cases hn
  · intro n node hn
    cases hn

/-- A node joins with `gpu`, `PATCH` makes it `cpu`, and asking for `gpu` again returns `True`
and leaves it `cpu`. -/
theorem update_hidden :
    ¬ Always step (HidesNothing fun a b => ∀ c, c ∈ a ↔ c ∈ b) {}
      [(0, .join "n1" "" ["gpu"] (.num 0)), (1, .direct "n1" ["cpu"])] := by
  intro h
  have hgot := h _ (List.prefix_refl _) "n1" ["gpu"] (by decide) "gpu"
  revert hgot; decide

end NodeRegistry

end HermesCluster
