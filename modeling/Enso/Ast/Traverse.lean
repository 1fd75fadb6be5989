import Enso.Ast.Types

/-!
# `traverse`: the work-stack loop

`Ast::traverse` is `iterate_subtree(self)`, a generator over any `T: IntoIterator<Item = T>`:

```text
let mut nodes = vec![ast];
while !nodes.is_empty() {
    let ast = nodes.pop().unwrap();
    for child in ast.into_iter() { nodes.push(child) }
    yield ast;
}
```

**Model.** `ChildOrder α` is what the loop uses of `T`: the children `into_iter` yields, in
order, and a measure each child is below, which is what makes a tree finite. The stack is a
list with its top at the head, so pushing the children one after another puts them on the
stack in reverse. `loop` runs at most `fuel` turns and is `none` if the stack is not empty
by then.

**Theorems.**

- `ChildOrder.iterateSubtree_eq`: with one turn per node the loop ends, and it yields
  `rpre x`: the node, then its children's subtrees from the *last* child to the first. The
  children are pushed in order, so the last one is popped first.
- `ChildOrder.rpre_perm_pre`: this is a permutation of the pre-order `pre x`, so every node
  of the subtree is yielded exactly once, and each node comes before its descendants.
- `Ast.traverse_prefixApp`: for `a b` the loop yields the application, then `b`, then `a`;
  the pre-order is the application, `a`, `b`.
-/

namespace Enso

/-- What `iterate_subtree` needs of a node type: the children its `into_iter` yields, in
order, and that following children always ends (some measure drops at every child). -/
structure ChildOrder (α : Type) where
  children : α → List α
  finite : ∃ m : α → Nat, ∀ x, ∀ c ∈ children x, m c < m x

namespace ChildOrder

variable {α : Type} (o : ChildOrder α)

/-- Depth-first pre-order: a node, then its children's subtrees from left to right. -/
def pre (x : α) : List α := x :: (o.children x).attach.flatMap fun c => pre c.1
termination_by Classical.choose o.finite x
decreasing_by exact Classical.choose_spec o.finite x c.1 c.2

theorem pre_eq (x : α) : o.pre x = x :: (o.children x).flatMap o.pre := by
  rw [pre]; simp

/-- The same children in the opposite order. -/
def mirror : ChildOrder α := ⟨fun x => (o.children x).reverse,
  o.finite.imp fun _ h x c hc => h x c (List.mem_reverse.1 hc)⟩

/-- Mirror pre-order: a node, then its children's subtrees from right to left. -/
def rpre (x : α) : List α := o.mirror.pre x

theorem rpre_eq (x : α) : o.rpre x = x :: (o.children x).reverse.flatMap o.rpre :=
  o.mirror.pre_eq x

/-- The loop of `iterate_subtree`, for at most `fuel` turns: pop the top node, push its
children in order, yield the node. -/
def loop (fuel : Nat) : List α → Option (List α)
  | [] => some []
  | x :: rest => match fuel with
    | 0 => none
    | n + 1 => (loop n ((o.children x).reverse ++ rest)).map (x :: ·)

/-- `iterate_subtree(x)`: the loop from the stack `[x]`. -/
def iterateSubtree (fuel : Nat) (x : α) : Option (List α) := o.loop fuel [x]

/-- One turn: the top node is yielded, and its children take its place on the stack. -/
theorem flatMap_rpre_cons (x : α) (rest : List α) :
    (x :: rest).flatMap o.rpre = x :: ((o.children x).reverse ++ rest).flatMap o.rpre := by
  rw [List.flatMap_cons, o.rpre_eq x, List.flatMap_append, List.cons_append]

/-- A stack yields, from the top down, the mirror pre-order of each of its nodes. -/
theorem loop_eq : ∀ (fuel : Nat) (stack : List α), (stack.flatMap o.rpre).length ≤ fuel →
    o.loop fuel stack = some (stack.flatMap o.rpre)
  | _, [], _ => by simp [loop]
  | 0, x :: rest, h => by simp [o.rpre_eq x] at h
  | n + 1, x :: rest, h => by
    rw [o.flatMap_rpre_cons, List.length_cons] at h
    rw [loop, loop_eq n _ (by omega), Option.map_some', o.flatMap_rpre_cons]

/-- With fewer turns than the stack's nodes the loop has not finished. -/
theorem loop_eq_none : ∀ (fuel : Nat) (stack : List α), fuel < (stack.flatMap o.rpre).length →
    o.loop fuel stack = none
  | _, [], h => by simp at h
  | 0, _ :: _, _ => rfl
  | n + 1, x :: rest, h => by
    rw [o.flatMap_rpre_cons, List.length_cons] at h
    rw [loop, loop_eq_none n _ (by omega), Option.map_none']

/-- **The loop ends after one turn per node, having yielded the mirror pre-order.** -/
theorem iterateSubtree_eq (x : α) (fuel : Nat) (h : (o.rpre x).length ≤ fuel) :
    o.iterateSubtree fuel x = some (o.rpre x) := by
  simpa [iterateSubtree] using o.loop_eq fuel [x] (by simpa using h)

/-- **Every node of the subtree is yielded exactly once**: the mirror pre-order is a
permutation of the pre-order. -/
theorem rpre_perm_pre (x : α) : List.Perm (o.rpre x) (o.pre x) := by
  rw [o.rpre_eq, o.pre_eq]
  -- the children in reverse, then each child's subtree permuted
  exact .cons x (((List.reverse_perm _).flatMap_right _).trans
    (List.Perm.flatMap_left _ fun c hc => rpre_perm_pre c))
termination_by Classical.choose o.finite x
decreasing_by exact Classical.choose_spec o.finite x c hc

/-- **The loop takes exactly one turn per node**: it has finished after `fuel` turns exactly
when the subtree has at most `fuel` nodes. -/
theorem iterateSubtree_isSome_iff (x : α) (fuel : Nat) :
    (o.iterateSubtree fuel x).isSome ↔ (o.pre x).length ≤ fuel := by
  rw [← (o.rpre_perm_pre x).length_eq]
  by_cases h : (o.rpre x).length ≤ fuel
  · simp [o.iterateSubtree_eq x fuel h, h]
  · simp [iterateSubtree, o.loop_eq_none fuel [x] (by simpa using h), h]

end ChildOrder

/-! ## The syntax tree

`(&ast).into_iter()` is `self.shape().into_iter()`, the iterator `#[ast]` derives (through
the `shapely` crate) for `Shape<T>`, at `T = Ast`. It is modelled as `Shape.children`: the
positions of `T`, in field order. Each is smaller than its parent. -/

theorem Asts.sizeOf_lt_of_mem {c : Ast} : ∀ {n : Nat} {as : Asts n}, c ∈ as.toList →
    sizeOf c < sizeOf as
  | _, .cons a as, h => by
    rcases List.mem_cons.1 h with rfl | h
    · simp; omega
    · have := Asts.sizeOf_lt_of_mem h; simp; omega

theorem SegmentFmt.sizeOf_lt_of_mem_children {c : Ast} {s : SegmentFmt}
    (h : c ∈ s.children) : sizeOf c < sizeOf s := by
  rcases s with _ | _ | (_ | a) | _ <;> simp [SegmentFmt.children] at h
  subst h; simp; omega

theorem sizeOf_lt_of_mem_flatMap {β : Type} [SizeOf β] {c : Ast} {f : β → List Ast}
    {l : List β} (hf : ∀ b, c ∈ f b → sizeOf c < sizeOf b) (h : c ∈ l.flatMap f) :
    sizeOf c < sizeOf l := by
  obtain ⟨b, hb, hc⟩ := List.mem_flatMap.1 h
  exact Nat.lt_trans (hf b hc) (List.sizeOf_lt_of_mem hb)

theorem sizeOf_lt_of_mem_lines {c : Ast} {lines : List (BlockLine (Option Ast))}
    (h : c ∈ lines.filterMap (·.elem)) : sizeOf c < sizeOf lines := by
  obtain ⟨⟨_, _⟩, hl, rfl⟩ := List.mem_filterMap.1 h
  have := List.sizeOf_lt_of_mem hl
  simp at this; omega

theorem TextLine.sizeOf_lt_of_mem_children {c : Ast} {l : TextLine} (h : c ∈ l.children) :
    sizeOf c < sizeOf l := by
  rcases l with _ | t
  · cases h
  · have := sizeOf_lt_of_mem_flatMap (fun _ => SegmentFmt.sizeOf_lt_of_mem_children) h
    simp; omega

theorem Shape.sizeOf_lt_of_mem_children {c : Ast} {s : Shape} (h : c ∈ s.children) :
    sizeOf c < sizeOf s := by
  cases s <;> simp only [children, List.mem_cons, List.mem_singleton, List.not_mem_nil, or_false,
    List.mem_append, Option.mem_toList, Option.mem_def] at h <;> simp
  case invalidSuffix | sectionSides => subst h; omega
  case prefixApp | sectionLeft | sectionRight => rcases h with rfl | rfl <;> omega
  case infixApp => rcases h with rfl | rfl | rfl <;> omega
  case textLineFmt =>
    have := sizeOf_lt_of_mem_flatMap (fun _ => SegmentFmt.sizeOf_lt_of_mem_children) h; omega
  case textBlockFmt =>
    have := sizeOf_lt_of_mem_flatMap (fun l hc => by
      obtain ⟨_, text⟩ := l
      have := sizeOf_lt_of_mem_flatMap (fun _ => SegmentFmt.sizeOf_lt_of_mem_children) hc
      simp at this ⊢; omega) h
    omega
  case textUnclosed => have := TextLine.sizeOf_lt_of_mem_children h; omega
  case module => have := sizeOf_lt_of_mem_lines h; omega
  case block first _ _ =>
    rcases h with rfl | h
    · cases first; simp; omega
    · have := sizeOf_lt_of_mem_lines h; omega
  case «match» s as =>
    have hc : c ∈ as.toList := by
      simpa [Match.asts_fill, List.takeD_eq_take _ (by simp : s.asts.length ≤ as.toList.length),
        List.take_of_length_le] using Match.mem_asts_of_mem_elems h
    have := Asts.sizeOf_lt_of_mem hc; omega
  case «import» => have := List.sizeOf_lt_of_mem h; omega
  case mixfix => rcases h with h | h <;> have := List.sizeOf_lt_of_mem h <;> omega
  case group => subst h; simp; omega
  case «def» =>
    rcases h with (rfl | h) | rfl
    · omega
    · have := List.sizeOf_lt_of_mem h; omega
    · simp; omega

namespace Ast

/-- `(&ast).into_iter()`: the children of the node's shape. -/
def children (x : Ast) : List Ast := x.shape.children

theorem sizeOf_lt_of_mem_children {c x : Ast} (h : c ∈ x.children) : sizeOf c < sizeOf x := by
  obtain ⟨s, _, _⟩ := x
  have := Shape.sizeOf_lt_of_mem_children (s := s) h
  simp; omega

/-- The syntax tree as `iterate_subtree` walks it. -/
def childOrder : ChildOrder Ast :=
  ⟨children, ⟨sizeOf, fun _ _ => sizeOf_lt_of_mem_children⟩⟩

/-- `Ast::traverse`, for at most `fuel` turns of the loop. -/
def traverse (fuel : Nat) (x : Ast) : Option (List Ast) := childOrder.iterateSubtree fuel x

/-- **`traverse` ends, and lists every node of the subtree once, each before its
descendants**: given one turn per node it yields the mirror pre-order, a permutation of the
pre-order. -/
theorem traverse_eq_rpre (x : Ast) (fuel : Nat) (h : (childOrder.rpre x).length ≤ fuel) :
    x.traverse fuel = some (childOrder.rpre x) ∧
      List.Perm (childOrder.rpre x) (childOrder.pre x) :=
  ⟨childOrder.iterateSubtree_eq x fuel h, childOrder.rpre_perm_pre x⟩

/-- The application `a b` of two variables. -/
def appAB : Ast := newWithSpan (.prefixApp (newWithSpan (.var "a") none 1) 1
  (newWithSpan (.var "b") none 1)) none 3

theorem traverse_eq_rpre_appAB : (childOrder.rpre appAB).length ≤ 3 ∧
    (appAB.traverse 3 = some (childOrder.rpre appAB) ∧
      List.Perm (childOrder.rpre appAB) (childOrder.pre appAB)) :=
  have h : (childOrder.rpre appAB).length ≤ 3 := by
    simp [ChildOrder.rpre_eq, appAB, childOrder, children, Shape.children]
  ⟨h, traverse_eq_rpre appAB 3 h⟩

/-- **`traverse` takes exactly one turn of its loop per node of the subtree.** -/
theorem traverse_isSome_iff (x : Ast) (fuel : Nat) :
    (x.traverse fuel).isSome ↔ (childOrder.pre x).length ≤ fuel :=
  childOrder.iterateSubtree_isSome_iff x fuel

/-- **The children come out last to first**: on `a b`, `traverse` yields the application,
then `b`, then `a`; the pre-order is the application, `a`, `b`. -/
theorem traverse_prefixApp :
    appAB.traverse 3 = some [appAB, newWithSpan (.var "b") none 1, newWithSpan (.var "a") none 1] ∧
      childOrder.pre appAB = [appAB, newWithSpan (.var "a") none 1, newWithSpan (.var "b") none 1] :=
  ⟨by simp [traverse, ChildOrder.iterateSubtree, ChildOrder.loop, appAB, childOrder, children,
      newWithSpan, Shape.children],
    by simp [ChildOrder.pre_eq, appAB, childOrder, children, Shape.children]⟩

end Ast

end Enso
