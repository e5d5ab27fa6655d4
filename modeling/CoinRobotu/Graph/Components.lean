import Mathlib.Data.List.Nodup
import Mathlib.Logic.Relation

/-!
# The components of a finite graph

A walk takes nodes from a stack and pushes the neighbours that it has not visited.
-/

namespace Graph

universe u

/-- Nodes, and the neighbours of each. -/
structure Network (Node : Type u) where
  nodes : List Node
  next : Node → List Node
  inside : ∀ node, next node ⊆ nodes
  outside : ∀ node ∉ nodes, next node = []

variable {Node : Type u} [DecidableEq Node] (graph : Network Node)

def pushed (current : Node) (component : List Node) : List Node :=
  ((graph.next current).filter (· ∉ component)).reverse

def unvisited (component : List Node) : ℕ := (graph.nodes.filter (· ∉ component)).length

theorem unvisited_cons_le (current : Node) (component : List Node) :
    unvisited graph (current :: component) ≤ unvisited graph component := by
  refine (List.monotone_filter_right _ fun node fresh => ?_).length_le
  simp only [List.mem_cons, not_or, decide_eq_true_eq] at fresh ⊢
  exact fresh.2

theorem unvisited_cons_lt {current : Node} {component : List Node} (listed : current ∈ graph.nodes)
    (fresh : current ∉ component) :
    unvisited graph (current :: component) < unvisited graph component := by
  have part : graph.nodes.filter (· ∉ current :: component) =
      (graph.nodes.filter (· ∉ component)).filter (· ≠ current) := by
    rw [List.filter_filter]
    refine List.filter_congr fun node _ => ?_
    simp only [List.mem_cons, not_or, Bool.decide_and]
  rw [unvisited, unvisited, part]
  refine List.length_filter_lt_length_iff_exists.mpr ⟨current, ?_, by simp⟩
  exact List.mem_filter.mpr ⟨listed, decide_eq_true fresh⟩

/-- The visited nodes after the walk. -/
def visit : List Node → List Node → List Node
  | [], component => component
  | current :: stack, component =>
      if current ∈ component then visit stack component
      else visit (pushed graph current (current :: component) ++ stack) (current :: component)
  termination_by stack component => (unvisited graph component, stack.length)
  decreasing_by
  · exact Prod.Lex.right _ (Nat.lt_succ_self _)
  · rename_i fresh
    by_cases listed : current ∈ graph.nodes
    · exact Prod.Lex.left _ _ (unvisited_cons_lt graph listed fresh)
    · rw [pushed, graph.outside current listed]
      rcases Nat.lt_or_eq_of_le (unvisited_cons_le graph current component) with fewer | equal
      · exact Prod.Lex.left _ _ fewer
      · rw [equal]
        exact Prod.Lex.right _ (Nat.lt_succ_self _)

def componentsFrom (sorted : List Node → List Node) : List Node → List Node → List (List Node)
  | [], _ => []
  | node :: nodes, visited =>
      if node ∈ visited then componentsFrom sorted nodes visited
      else
        sorted (visit graph [node] []) ::
          componentsFrom sorted nodes (visited ++ sorted (visit graph [node] []))

def Next (node other : Node) : Prop := other ∈ graph.next node

abbrev Reaches : Node → Node → Prop := Relation.ReflTransGen (Next graph)

section Walk

variable {graph} {stack component : List Node} {node : Node}

theorem reached_of_visit (visited : node ∈ visit graph stack component) :
    node ∈ component ∨ ∃ seed ∈ stack, Reaches graph seed node := by
  induction stack, component using visit.induct graph with
  | case1 component => exact .inl (by simpa [visit] using visited)
  | case2 current stack component old ih =>
    rw [visit, if_pos old] at visited
    exact (ih visited).imp_right fun ⟨seed, inside, reached⟩ =>
      ⟨seed, List.mem_cons_of_mem _ inside, reached⟩
  | case3 current stack component fresh ih =>
    rw [visit, if_neg fresh] at visited
    rcases ih visited with known | ⟨seed, inside, reached⟩
    · rcases List.mem_cons.mp known with rfl | old
      · exact .inr ⟨_, List.mem_cons_self, .refl⟩
      · exact .inl old
    · rcases List.mem_append.mp inside with new | waiting
      · have neighbour : Next graph current seed :=
          List.mem_of_mem_filter (List.mem_reverse.mp new)
        exact .inr ⟨current, List.mem_cons_self, .head neighbour reached⟩
      · exact .inr ⟨seed, List.mem_cons_of_mem _ waiting, reached⟩

/-- Each neighbour of a visited node is visited or on the stack. -/
def Pending (graph : Network Node) (stack component : List Node) : Prop :=
  ∀ node ∈ component, ∀ other ∈ graph.next node, other ∈ component ∨ other ∈ stack

theorem visit_closed (pending : Pending graph stack component) :
    stack ⊆ visit graph stack component ∧ component ⊆ visit graph stack component ∧
      Pending graph [] (visit graph stack component) := by
  induction stack, component using visit.induct graph with
  | case1 component =>
    rw [visit]
    exact ⟨List.nil_subset _, List.Subset.refl _, pending⟩
  | case2 current stack component old ih =>
    rw [visit, if_pos old]
    have next : Pending graph stack component := fun node inside other neighbour =>
      (pending node inside other neighbour).elim .inl fun among =>
        (List.mem_cons.mp among).imp_left fun same : other = current => same ▸ old
    obtain ⟨left, kept, closed⟩ := ih next
    exact ⟨List.cons_subset.mpr ⟨kept old, left⟩, kept, closed⟩
  | case3 current stack component fresh ih =>
    rw [visit, if_neg fresh]
    have next : Pending graph (pushed graph current (current :: component) ++ stack)
        (current :: component) := by
      intro node inside other neighbour
      by_cases known : other ∈ current :: component
      · exact .inl known
      rcases List.mem_cons.mp inside with rfl | old
      · exact .inr (List.mem_append_left _ (List.mem_reverse.mpr
          (List.mem_filter.mpr ⟨neighbour, decide_eq_true known⟩)))
      · rcases pending node old other neighbour with already | waiting
        · exact .inl (List.mem_cons_of_mem _ already)
        · rcases List.mem_cons.mp waiting with rfl | later
          · exact .inl List.mem_cons_self
          · exact .inr (List.mem_append_right _ later)
    obtain ⟨left, kept, closed⟩ := ih next
    obtain ⟨visited, earlier⟩ := List.cons_subset.mp kept
    exact ⟨List.cons_subset.mpr ⟨visited, (List.append_subset.mp left).2⟩, earlier, closed⟩

theorem mem_visit {seed : Node} : node ∈ visit graph [seed] [] ↔ Reaches graph seed node := by
  constructor
  · intro visited
    simpa using reached_of_visit visited
  · intro reached
    have pending : Pending graph [seed] [] := fun _ none => by simp at none
    obtain ⟨begun, -, closed⟩ := visit_closed pending
    induction reached with
    | refl => exact begun List.mem_cons_self
    | tail _ step ih => simpa using closed _ ih _ step

theorem nodup_visit (distinct : component.Nodup) : (visit graph stack component).Nodup := by
  induction stack, component using visit.induct graph with
  | case1 component => simpa [visit] using distinct
  | case2 current stack component old ih =>
    rw [visit, if_pos old]
    exact ih distinct
  | case3 current stack component fresh ih =>
    rw [visit, if_neg fresh]
    exact ih (List.nodup_cons.mpr ⟨fresh, distinct⟩)

end Walk

section Classes

variable {graph} {sorted : List Node → List Node} (same : ∀ items, (sorted items).Perm items)
  (symmetric : ∀ node other, Next graph node other → Next graph other node)

omit [DecidableEq Node] in
include symmetric in
theorem reaches_symm {node other : Node} (reached : Reaches graph node other) :
    Reaches graph other node :=
  (@Relation.ReflTransGen.stdSymm _ _ ⟨symmetric⟩).symm _ _ reached

include same

theorem mem_component {seed node : Node} :
    node ∈ sorted (visit graph [seed] []) ↔ Reaches graph seed node :=
  (same _).mem_iff.trans mem_visit

theorem component_class {nodes visited component : List Node}
    (inside : component ∈ componentsFrom graph sorted nodes visited) :
    ∃ seed ∈ nodes, ∀ node, node ∈ component ↔ Reaches graph seed node := by
  induction nodes generalizing visited with
  | nil => simp [componentsFrom] at inside
  | cons node nodes ih =>
    rw [componentsFrom] at inside
    split at inside
    case isTrue => exact (ih inside).imp fun _ => And.imp_left (List.mem_cons_of_mem _)
    case isFalse =>
      rcases List.mem_cons.mp inside with rfl | later
      · exact ⟨node, List.mem_cons_self, fun _ => mem_component same⟩
      · exact (ih later).imp fun _ => And.imp_left (List.mem_cons_of_mem _)

theorem mem_components {nodes visited : List Node} {node : Node} (inside : node ∈ nodes) :
    node ∈ visited ∨ ∃ component ∈ componentsFrom graph sorted nodes visited, node ∈ component := by
  induction nodes generalizing visited with
  | nil => cases inside
  | cons first nodes ih =>
    rw [componentsFrom]
    split
    case isTrue known =>
      rcases List.mem_cons.mp inside with rfl | later
      · exact .inl known
      · exact ih later
    case isFalse =>
      have here : first ∈ sorted (visit graph [first] []) := (mem_component same).mpr .refl
      rcases List.mem_cons.mp inside with rfl | later
      · exact .inr ⟨_, List.mem_cons_self, here⟩
      · rcases ih later with known | ⟨component, among, held⟩
        · rcases List.mem_append.mp known with old | new
          · exact .inl old
          · exact .inr ⟨_, List.mem_cons_self, new⟩
        · exact .inr ⟨component, List.mem_cons_of_mem _ among, held⟩

include symmetric

/-- Nothing is in two components, by induction on the nodes; what has been visited is a union of
classes. -/
theorem nodup_components {nodes visited : List Node}
    (closed : ∀ node ∈ visited, ∀ other, Reaches graph node other → other ∈ visited) :
    (componentsFrom graph sorted nodes visited).flatten.Nodup ∧
      ∀ node ∈ (componentsFrom graph sorted nodes visited).flatten, node ∉ visited := by
  induction nodes generalizing visited with
  | nil => simp [componentsFrom]
  | cons first nodes ih =>
    rw [componentsFrom]
    split
    case isTrue => exact ih closed
    case isFalse fresh =>
      have reached := fun node => @mem_component _ _ graph sorted same first node
      have apart : ∀ node ∈ sorted (visit graph [first] []), node ∉ visited := fun node new old =>
        fresh (closed node old first (reaches_symm symmetric ((reached node).mp new)))
      have closed' : ∀ node ∈ visited ++ sorted (visit graph [first] []), ∀ other,
          Reaches graph node other → other ∈ visited ++ sorted (visit graph [first] []) := by
        intro node known other path
        rcases List.mem_append.mp known with old | new
        · exact List.mem_append_left _ (closed node old other path)
        · exact List.mem_append_right _ ((reached other).mpr (((reached node).mp new).trans path))
      obtain ⟨distinct, later⟩ := ih closed'
      rw [List.flatten_cons]
      constructor
      · refine List.nodup_append.mpr ⟨(same _).nodup_iff.mpr (nodup_visit List.nodup_nil), distinct,
          fun node new other among equal => ?_⟩
        exact later other among (List.mem_append_right _ (equal ▸ new))
      · intro node among
        rcases List.mem_append.mp among with new | other
        · exact apart node new
        · exact fun old => later node other (List.mem_append_left _ old)

end Classes

end Graph
