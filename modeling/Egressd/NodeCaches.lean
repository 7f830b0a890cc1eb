import Egressd.KubeObjects

set_option autoImplicit false

namespace Egressd.Kube

/-- The store of the nodes' informer, an indexer of `client-go`. It holds one node per name, and
    an index lists the nodes that have a key in some order. -/
structure NodeStore where
  nodes : List Node
  byIndex : (Node → List String) → String → List Node
  named : ∀ node ∈ nodes, ∀ node' ∈ nodes, node.name = node'.name → node = node'
  mem_byIndex : ∀ idx key node, node ∈ byIndex idx key ↔ node ∈ nodes ∧ key ∈ idx node
  nodup_byIndex : ∀ idx key, (byIndex idx key).Nodup

def nodeNameIdx (node : Node) : List String := [node.name]

def nodeIPIdx (node : Node) : List String :=
  match node.addresses.find? (fun addr => addr.type = .internalIP) with
  | some addr => [addr.address]
  | none => []

def singleNode (kind key : String) : List Node → Except KubeError Node
  | [] => .error .notFound
  | [node] => .ok node
  | nodes => .error (.other ("expected single node for " ++ kind ++ " " ++ key ++ ", got " ++
      toString nodes.length))

/-- `NodeByNameCache.Get`. -/
def NodeStore.getNodeByName (s : NodeStore) (nodeName : String) : Except KubeError Node :=
  singleNode "name" nodeName (s.byIndex nodeNameIdx nodeName)

/-- `NodeByIPCache.Get`. -/
def NodeStore.getNodeByIP (s : NodeStore) (nodeIP : String) : Except KubeError Node :=
  singleNode "ip" nodeIP (s.byIndex nodeIPIdx nodeIP)

def Settled (found : Except KubeError Node) : Prop :=
  found = .error .notFound ∨ ∃ node, found = .ok node

theorem settled_singleNode_iff {kind key : String} {nodes : List Node} :
    Settled (singleNode kind key nodes) ↔ nodes.length ≤ 1 := by
  match nodes with
  | [] => exact iff_of_true (.inl rfl) (by simp)
  | [node] => exact iff_of_true (.inr ⟨node, rfl⟩) (by simp)
  | a :: b :: rest =>
    refine iff_of_false ?_ (by simp)
    rintro (h | ⟨node, h⟩) <;> simp [singleNode] at h

theorem settled_getNodeByName (s : NodeStore) (nodeName : String) :
    Settled (s.getNodeByName nodeName) := by
  refine settled_singleNode_iff.mpr ?_
  have nodup := s.nodup_byIndex nodeNameIdx nodeName
  have found : ∀ node ∈ s.byIndex nodeNameIdx nodeName, node ∈ s.nodes ∧ node.name = nodeName := by
    intro node mem
    obtain ⟨here, key⟩ := (s.mem_byIndex _ _ _).mp mem
    exact ⟨here, (List.mem_singleton.mp key).symm⟩
  generalize s.byIndex nodeNameIdx nodeName = list at nodup found
  match list with
  | [] => exact Nat.zero_le 1
  | [node] => exact Nat.le_refl 1
  | node :: node' :: rest =>
    obtain ⟨here, name⟩ := found node List.mem_cons_self
    obtain ⟨here', name'⟩ := found node' (List.mem_cons_of_mem _ List.mem_cons_self)
    have same := s.named node here node' here' (name.trans name'.symm)
    rw [same] at nodup
    exact absurd List.mem_cons_self (List.nodup_cons.mp nodup).1

def NodeStore.listed (nodes : List Node) (named : (nodes.map (·.name)).Nodup) : NodeStore where
  nodes := nodes
  byIndex idx key := nodes.filter (fun node => key ∈ idx node)
  named _ mem _ mem' same := List.inj_on_of_nodup_map named mem mem' same
  mem_byIndex idx key node := by
    rw [List.mem_filter, decide_eq_true_iff]
  nodup_byIndex idx key := (List.Nodup.of_map _ named).filter _

end Egressd.Kube
