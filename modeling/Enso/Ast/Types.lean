import Enso.Uuid
import Enso.Ast.Macro

/-!
# The syntax tree

The data model of the `ast` crate. An `Ast` is a shared, immutable node: a `Shape` with an
optional id and a stored span (`Rc<WithID<WithSpan<Shape<Ast>>>>`). A `Shape` is one of the
node kinds; its children are `Ast`s again, directly or inside text segments, block lines,
and the payloads of the two macro shapes.

**Representation.**

- `Shape<T>` is only ever used at `T = Ast`, so it is defined at `Ast`, and so are
  `SegmentFmt<T>` and `TextLine<T>`. The structs that `#[ast(flat)]` extracts from each
  variant (`Var`, `Prefix`, …) are the constructors' fields, in the order the source
  declares them.
- `Rc` is transparent, and the `WithID` and `WithSpan` layers are the two last fields of
  `Ast.mk`: equality of `Ast`s is equality of their contents, as `Rc`'s `PartialEq` is.
- A `Match` or `Ambiguous` node stores its payload as a *skeleton* (the payload with its Ast
  positions left open, `Match Unit`) and the Asts of those positions in field order, in an
  `Asts n` that has exactly as many as the skeleton has positions. `Shape.ofMatch` builds
  such a node from a `Match Ast`, and the two views are in bijection
  (`Shape.match_eq_ofMatch`, `Shape.ofMatch_injective`): every `Match<Ast>` value is one
  node and every node is one value.
-/

namespace Enso

/-! ## Leaves -/

/-- A small expression tree of literal text and spacing. -/
inductive Builder where
  | empty
  | letter (char : Char)
  | space (span : Usize)
  | text (str : String)
  | seq (first second : Builder)

/-- The escapes of raw text. -/
inductive RawEscape where
  | unfinished
  | invalid (str : Char)
  | slash
  | quote
  | rawQuote

/-- The escapes of formatted text. -/
inductive Escape where
  | character (c : Char)
  | control (name : String) (code : U8)
  | number (digits : String)
  | unicode16 (digits : String)
  | unicode21 (digits : String)
  | unicode32 (digits : String)

/-- A segment of raw text. -/
inductive SegmentRaw where
  | segmentPlain (value : String)
  | segmentRawEscape (code : RawEscape)

/-- Whether a block's lines are continuous. -/
inductive BlockType where
  | continuous
  | discontinuous

/-- A line of a block, with its trailing offset. -/
structure BlockLine (T : Type) where
  elem : T
  off : Usize

/-- A line of a text block, with the empty lines before it. -/
structure TextBlockLine (T : Type) where
  emptyLines : List Usize
  text : List T

/-! ## The tree -/

mutual
/-- A node: its shape, optional id and the span stored at construction. -/
inductive Ast where
  | mk (shape : Shape) (id : Option Uuid) (span : Usize)

/-- The kinds of node (`Shape<Ast>`). -/
inductive Shape where
  | unrecognized (str : String)
  | invalidQuote (quote : Builder)
  | inlineBlock (quote : Builder)
  | blank
  | var (name : String)
  | cons (name : String)
  | opr (name : String)
  | mod (name : String)
  | invalidSuffix (elem : Ast) (suffix : String)
  | number (base : Option String) (int : String)
  | danglingBase (base : String)
  | textLineRaw (text : List SegmentRaw)
  | textLineFmt (text : List SegmentFmt)
  | textBlockRaw (text : List (TextBlockLine SegmentRaw)) (spaces offset : Usize)
  | textBlockFmt (text : List (TextBlockLine SegmentFmt)) (spaces offset : Usize)
  | textUnclosed (line : TextLine)
  | prefixApp (func : Ast) (off : Usize) (arg : Ast)
  | infixApp (larg : Ast) (loff : Usize) (opr : Ast) (roff : Usize) (rarg : Ast)
  | sectionLeft (arg : Ast) (off : Usize) (opr : Ast)
  | sectionRight (opr : Ast) (off : Usize) (arg : Ast)
  | sectionSides (opr : Ast)
  | module (lines : List (BlockLine (Option Ast)))
  | block (ty : BlockType) (indent : Usize) (emptyLines : List Usize) (firstLine : BlockLine Ast)
      (lines : List (BlockLine (Option Ast))) (isOrphan : Bool)
  | «match» (skeleton : Match Unit) (asts : Asts skeleton.asts.length)
  | ambiguous (skeleton : Ambiguous Unit) (asts : Asts skeleton.asts.length)
  | comment (lines : List String)
  | «import» (path : List Ast)
  | mixfix (name args : List Ast)
  | group (body : Option Ast)
  | «def» (name : Ast) (args : List Ast) (body : Option Ast)
  | foreign (indent : Usize) (lang : String) (code : List String)

/-- A segment of formatted text (`SegmentFmt<Ast>`). -/
inductive SegmentFmt where
  | segmentPlain (value : String)
  | segmentRawEscape (code : RawEscape)
  | segmentExpr (value : Option Ast)
  | segmentEscape (code : Escape)

/-- A line of text (`TextLine<Ast>`). -/
inductive TextLine where
  | textLineRaw (text : List SegmentRaw)
  | textLineFmt (text : List SegmentFmt)

/-- The Asts at the open positions of a macro node's skeleton, `n` of them. -/
inductive Asts : Nat → Type where
  | nil : Asts 0
  | cons {n : Nat} (head : Ast) (tail : Asts n) : Asts (n + 1)
end

instance : Inhabited Ast := ⟨.mk .blank none 0⟩

namespace Ast

/-- `Ast::shape`. -/
def shape : Ast → Shape
  | mk s _ _ => s

/-- The id of the `WithID` layer. -/
def id : Ast → Option Uuid
  | mk _ i _ => i

/-- The span stored in the `WithSpan` layer. -/
def span : Ast → Usize
  | mk _ _ n => n

/-- `Ast::new_with_span`: wraps a shape with the span the caller gives. -/
def newWithSpan (shape : Shape) (id : Option Uuid) (span : Usize) : Ast := mk shape id span

@[simp] theorem shape_newWithSpan (s : Shape) (i : Option Uuid) (n : Usize) :
    (newWithSpan s i n).shape = s := rfl
@[simp] theorem id_newWithSpan (s : Shape) (i : Option Uuid) (n : Usize) :
    (newWithSpan s i n).id = i := rfl
@[simp] theorem span_newWithSpan (s : Shape) (i : Option Uuid) (n : Usize) :
    (newWithSpan s i n).span = n := rfl

end Ast

/-! ## Children -/

/-- The Ast of an embedded-expression segment, if it has one. -/
def SegmentFmt.children : SegmentFmt → List Ast
  | .segmentExpr (some a) => [a]
  | _ => []

/-- The Asts of a text line's segments. -/
def TextLine.children : TextLine → List Ast
  | .textLineRaw _ => []
  | .textLineFmt t => t.flatMap SegmentFmt.children

/-! ## The Asts of a macro node -/

namespace Asts

/-- The Asts, in order. -/
def toList : {n : Nat} → Asts n → List Ast
  | _, nil => []
  | _, cons a as => a :: as.toList

/-- A list of `n` Asts. -/
def ofList : (l : List Ast) → (n : Nat) → l.length = n → Asts n
  | [], 0, _ => nil
  | a :: l, n + 1, h => cons a (ofList l n (Nat.succ.inj h))

@[simp] theorem length_toList : ∀ {n : Nat} (as : Asts n), as.toList.length = n
  | _, nil => rfl
  | _, cons _ as => by simp [toList, length_toList as]

@[simp] theorem toList_ofList : ∀ (l : List Ast) (n : Nat) (h : l.length = n),
    (ofList l n h).toList = l
  | [], 0, _ => rfl
  | a :: l, n + 1, h => by simp [ofList, toList, toList_ofList l n]

@[simp] theorem ofList_toList : ∀ {n : Nat} (as : Asts n) (h : as.toList.length = n),
    ofList as.toList n h = as
  | _, nil, _ => rfl
  | _, cons a as, h => by simp [ofList, toList, ofList_toList as]

theorem toList_injective {n : Nat} {as bs : Asts n} (h : as.toList = bs.toList) : as = bs := by
  rw [← ofList_toList as (length_toList as), ← ofList_toList bs (length_toList bs)]
  simp only [h]

theorem toList_eq_of_heq {n n' : Nat} (hn : n = n') {as : Asts n} {bs : Asts n'} (h : HEq as bs) :
    as.toList = bs.toList := by
  subst hn; cases h; rfl

end Asts

/-! ## Macro nodes and their payloads -/

namespace Shape

/-- The `Match` node of a payload. -/
def ofMatch (m : Match Ast) : Shape :=
  .match (m.map fun _ => ()) (.ofList m.asts _ (by simp [Match.asts_map]))

/-- The `Ambiguous` node of a payload. -/
def ofAmbiguous (a : Ambiguous Ast) : Shape :=
  .ambiguous (a.map fun _ => ()) (.ofList a.asts _ (by simp [Ambiguous.asts_map]))

theorem ofMatch_eq {m : Match Ast} {s : Match Unit} {as : Asts s.asts.length}
    (hs : m.map (fun _ => ()) = s) (has : m.asts = as.toList) : ofMatch m = .match s as := by
  subst hs
  simp only [ofMatch, Shape.match.injEq, heq_eq_eq, true_and]
  exact Asts.toList_injective (by simp [has])

theorem ofAmbiguous_eq {a : Ambiguous Ast} {s : Ambiguous Unit} {as : Asts s.asts.length}
    (hs : a.map (fun _ => ()) = s) (has : a.asts = as.toList) : ofAmbiguous a = .ambiguous s as := by
  subst hs
  simp only [ofAmbiguous, Shape.ambiguous.injEq, heq_eq_eq, true_and]
  exact Asts.toList_injective (by simp [has])

/-- **Every `Match` node is the node of one payload**: its skeleton filled with its Asts. -/
theorem match_eq_ofMatch (s : Match Unit) (as : Asts s.asts.length) :
    Shape.match s as = ofMatch (s.fill as.toList) :=
  (ofMatch_eq (Match.erase_fill s _)
    (by rw [Match.asts_fill, List.takeD_eq_take _ (by simp), List.take_of_length_le (by simp)])).symm

/-- Every `Ambiguous` node is the node of one payload. -/
theorem ambiguous_eq_ofAmbiguous (s : Ambiguous Unit) (as : Asts s.asts.length) :
    Shape.ambiguous s as = ofAmbiguous (s.fill as.toList) :=
  (ofAmbiguous_eq (Ambiguous.erase_fill s _)
    (by rw [Ambiguous.asts_fill, List.takeD_eq_take _ (by simp),
      List.take_of_length_le (by simp)])).symm

/-- **Different payloads are different nodes.** -/
theorem ofMatch_injective : Function.Injective ofMatch := by
  intro m m' h
  simp only [ofMatch, Shape.match.injEq] at h
  obtain ⟨hs, has⟩ := h
  have hl : m.asts = m'.asts := by simpa using Asts.toList_eq_of_heq (by rw [hs]) has
  rw [← Match.fill_erase_asts m [], ← Match.fill_erase_asts m' [], hs, hl]

/-- Different payloads are different `Ambiguous` nodes. -/
theorem ofAmbiguous_injective : Function.Injective ofAmbiguous := by
  intro a a' h
  simp only [ofAmbiguous, Shape.ambiguous.injEq] at h
  obtain ⟨hs, has⟩ := h
  have hl : a.asts = a'.asts := by simpa using Asts.toList_eq_of_heq (by rw [hs]) has
  rw [← Ambiguous.fill_erase_asts a [], ← Ambiguous.fill_erase_asts a' [], hs, hl]

/-- The child Asts of a shape, in the order of its fields (and of the elements of a
field that is a sequence): its positions of the type parameter `T` of `Shape<T>`. `Match` has
them only in its segments' matches (its prefix, heads and `resolved` are `Ast`), and
`Ambiguous` has none. -/
def children : Shape → List Ast
  | invalidSuffix e _ | sectionSides e => [e]
  | textLineFmt t => t.flatMap SegmentFmt.children
  | textBlockFmt t _ _ => t.flatMap fun l => l.text.flatMap SegmentFmt.children
  | textUnclosed line => line.children
  | prefixApp a _ b | sectionLeft a _ b | sectionRight a _ b => [a, b]
  | infixApp a _ b _ c => [a, b, c]
  | module lines => lines.filterMap (·.elem)
  | block _ _ _ first lines _ => first.elem :: lines.filterMap (·.elem)
  | «match» s as => (s.fill as.toList).elems
  | ambiguous _ _ => []
  | «import» path => path
  | mixfix name args => name ++ args
  | group body => body.toList
  | «def» name args body => name :: args ++ body.toList
  | _ => []

end Shape

end Enso
