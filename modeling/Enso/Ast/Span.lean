import Enso.Ast.Traverse

/-!
# Spans, and what `HasSpan for Ast` computes

`HasSpan::span` gives a node's length in code points. Every node type has its own rule, and
`Ast::new` stores the span of the shape it wraps in the `WithSpan` layer.

**Arithmetic.** Spans are `usize`s added as a debug build adds them: an addition past
`usize::MAX` panics. A span is `Except Panic Usize`, computed in the order the source
evaluates its operands, so a node reports the first panic of its evaluation: a child's, an
overflow, the `assert!` of `Module`, or the `panic!("not implemented")` that `Shape::span`
reaches for the macro and spaceless shapes.

**What `Ast` asks for.** `HasSpan for WithSpan<T>` is commented out in the source. So
`HasSpan for Ast` (through `Rc` and `WithID`, which forward to what they wrap) reaches the
`Shape<Ast>` under `WithSpan` by dereference and *recomputes* the span from the shape, through
the whole subtree: `Ast.span?` below never reads the stored `span`.

**Theorems.**

- `Ast.span?_ne_stored`: for a node built with `new_with_span`, `span()` is the recomputed
  span, not the stored one.
- `Ast.new_prefixApp_match`: `Ast::new` of a `Prefix` whose function is a `Match` node
  panics, whatever span that node stores.
- `Ast.span?_new`: on a node built by `Ast::new`, `span()` does give the stored span.
- `Ast.BuiltByNew.span?_eq_span`: on a tree built by `Ast::new` all the way down, `span()`
  gives the stored span.
-/

namespace Enso

/-- Why a span computation panics. -/
inductive Panic where
  /-- `panic!("not implemented {}")` in `HasSpan for Shape`. -/
  | notImplemented
  /-- `assert!(self.lines.len() > 0)` in `HasSpan for Module`. -/
  | assertionFailed
  /-- An arithmetic overflow, which a debug build checks. -/
  | overflow
deriving DecidableEq, Repr

namespace Span

/-! ## `usize` arithmetic -/

/-- `a + b` on `usize`. -/
def add (a b : Usize) : Except Panic Usize :=
  if h : a.val + b.val < 2 ^ 64 then .ok ⟨a.val + b.val, h⟩ else .error .overflow

/-- `a - b` on `usize`. -/
def sub (a b : Usize) : Except Panic Usize :=
  if h : b.val ≤ a.val then .ok ⟨a.val - b.val, by omega⟩ else .error .overflow

/-- `a * b` on `usize`. -/
def mul (a b : Usize) : Except Panic Usize :=
  if h : a.val * b.val < 2 ^ 64 then .ok ⟨a.val * b.val, h⟩ else .error .overflow

/-- A count (`len()`, `chars().count()`) as a `usize`. -/
def count (n : Nat) : Except Panic Usize :=
  if h : n < 2 ^ 64 then .ok ⟨n, h⟩ else .error .overflow

/-- `Iterator::sum` of spans computed one after another. -/
def sumBy {α : Type} (f : α → Except Panic Usize) (xs : List α) : Except Panic Usize :=
  xs.foldlM (fun acc x => do add acc (← f x)) 0

/-- `HasSpan for char`: a `char` is one code point. -/
def char : Usize := 1

/-- `HasSpan for String` and `&str`: the number of code points. -/
def str (s : String) : Except Panic Usize := count s.length

theorem add_eq_ok {a b : Usize} (h : a.val + b.val < 2 ^ 64) : add a b = .ok ⟨_, h⟩ :=
  dif_pos h

end Span

open Span

/-! ## Leaves -/

/-- `HasSpan for Builder`. -/
def Builder.span? : Builder → Except Panic Usize
  | empty => .ok 0
  | letter _ => .ok char
  | space n => .ok n
  | text s => str s
  | seq a b => do add (← a.span?) (← b.span?)

/-- `HasSpan for RawEscape`. -/
def RawEscape.span : RawEscape → Usize
  | unfinished => 0
  | invalid _ => char
  | slash | quote | rawQuote => 1

/-- `HasSpan for SegmentRaw`: a plain segment's text, or `\` and the escape. -/
def SegmentRaw.span? : SegmentRaw → Except Panic Usize
  | segmentPlain v => str v
  | segmentRawEscape c => add c.span char

/-- `HasSpan for Escape`: the introducer and the digits. -/
def Escape.span? : Escape → Except Panic Usize
  | character _ => .ok char
  | control name _ => str name
  | number d => str d
  | unicode16 d => do add char (← str d)
  | unicode21 d => do add (← add (← str "u\x7b") (← str d)) (← str "\x7d")
  | unicode32 d => do add char (← str d)

/-- `TextLineRaw`'s span: two quotes and the segments. -/
def textLineRawSpan (text : List SegmentRaw) : Except Panic Usize := do
  add (← mul 2 char) (← sumBy SegmentRaw.span? text)

/-- `TextBlockLine::span` around segments of span `textSpan`, inside a block at `offset`:
the empty lines, one newline per line, the offset. -/
def textBlockLineSpan (emptyLines : List Usize) (offset : Usize) (textSpan : Except Panic Usize) :
    Except Panic Usize := do
  let lineCount ← add (← count emptyLines.length) 1
  let emptyLinesSpace ← sumBy .ok emptyLines
  let lineBreaks ← mul lineCount char
  add (← add (← add emptyLinesSpace lineBreaks) offset) (← textSpan)

/-- `Block`'s span of its empty lines: each one and its newline. -/
def emptyLinesSpan (emptyLines : List Usize) : Except Panic Usize := sumBy (add · 1) emptyLines

/-! ## The tree -/

mutual
/-- `HasSpan for Ast`: the span of the shape, recomputed. -/
def Ast.span? : Ast → Except Panic Usize
  | .mk s _ _ => s.span?

/-- `HasSpan for Shape<Ast>`. -/
def Shape.span? : Shape → Except Panic Usize
  | .unrecognized s => str s
  | .invalidQuote q | .inlineBlock q => q.span?
  | .blank => .ok char
  | .var n | .cons n | .opr n => str n
  | .mod n => do add (← str n) 1
  | .invalidSuffix e s => do add (← e.span?) (← str s)
  | .number base int => do
    let baseSpan ← match base with
      | some b => do add (← str b) char
      | none => .ok 0
    add baseSpan (← str int)
  | .danglingBase b => do add (← str b) char
  | .textLineRaw t => textLineRawSpan t
  | .textLineFmt t => do add (← mul 2 char) (← SegmentFmt.spanList 0 t)
  | .textBlockRaw t spaces offset => do
    let lines ← sumBy (fun l => textBlockLineSpan l.emptyLines offset (sumBy SegmentRaw.span? l.text)) t
    add (← add (← str "\"\"\"") spaces) lines
  | .textBlockFmt t spaces offset => do
    let lines ← TextLine.spanBlockLines offset 0 t
    add (← add (← str "'''") spaces) lines
  | .textUnclosed line => do sub (← line.span?) 1
  | .prefixApp f off a => do
    let func ← f.span?
    let arg ← a.span?
    add (← add func off) arg
  | .infixApp l loff o roff r => do
    add (← add (← add (← add (← l.span?) loff) (← o.span?)) roff) (← r.span?)
  | .sectionLeft a off o => do add (← add (← a.span?) off) (← o.span?)
  | .sectionRight o off a => do add (← add (← o.span?) off) (← a.span?)
  | .sectionSides o => o.span?
  | .module lines =>
    if lines.length > 0 then do
      let breakCount ← sub (← count lines.length) 1
      let breaksSpan ← mul breakCount char
      let linesSpan ← Ast.spanLines 0 lines
      add linesSpan breaksSpan
    else .error .assertionFailed
  | .block _ indent emptyLines firstLine lines isOrphan => do
    let headSpan : Usize := if isOrphan then 0 else 1
    let emptyLinesSpace ← emptyLinesSpan emptyLines
    let firstLineSpan ← add indent (← add (← firstLine.elem.span?) firstLine.off)
    let linesSpan ← Ast.spanBlockLines indent 0 lines
    add (← add (← add headSpan emptyLinesSpace) firstLineSpan) linesSpan
  | .match _ _ | .ambiguous _ _ | .comment _ | .import _ | .mixfix _ _ | .group _ | .def _ _ _
  | .foreign _ _ _ => .error .notImplemented

/-- `HasSpan for SegmentFmt<Ast>`. -/
def SegmentFmt.span? : SegmentFmt → Except Panic Usize
  | .segmentPlain v => str v
  | .segmentRawEscape c => add c.span char
  | .segmentExpr none => do add 0 (← mul 2 char)
  | .segmentExpr (some a) => do add (← a.span?) (← mul 2 char)
  | .segmentEscape c => do add char (← c.span?)

/-- `HasSpan for TextLine<Ast>`. -/
def TextLine.span? : TextLine → Except Panic Usize
  | .textLineRaw t => textLineRawSpan t
  | .textLineFmt t => do add (← mul 2 char) (← SegmentFmt.spanList 0 t)

/-- `HasSpan for Vec<SegmentFmt<Ast>>`, summed onto `acc`. -/
def SegmentFmt.spanList (acc : Usize) : List SegmentFmt → Except Panic Usize
  | [] => .ok acc
  | s :: ss => do SegmentFmt.spanList (← add acc (← s.span?)) ss

/-- `TextBlockFmt`'s lines, each spanned at the block's `offset`, summed onto `acc`. -/
def TextLine.spanBlockLines (offset acc : Usize) : List (TextBlockLine SegmentFmt) → Except Panic Usize
  | [] => .ok acc
  | ⟨emptyLines, text⟩ :: ls => do
    let line ← textBlockLineSpan emptyLines offset (SegmentFmt.spanList 0 text)
    TextLine.spanBlockLines offset (← add acc line) ls

/-- `HasSpan for Vec<BlockLine<Option<Ast>>>`, summed onto `acc`. -/
def Ast.spanLines (acc : Usize) : List (BlockLine (Option Ast)) → Except Panic Usize
  | [] => .ok acc
  | ⟨none, off⟩ :: ls => do Ast.spanLines (← add acc (← add 0 off)) ls
  | ⟨some a, off⟩ :: ls => do Ast.spanLines (← add acc (← add (← a.span?) off)) ls

/-- `Block`'s lines after the first: a newline, the indent if the line is not empty, the
line; summed onto `acc`. -/
def Ast.spanBlockLines (indent acc : Usize) : List (BlockLine (Option Ast)) → Except Panic Usize
  | [] => .ok acc
  | ⟨none, off⟩ :: ls => do
    let line ← add (← add char 0) (← add 0 off)
    Ast.spanBlockLines indent (← add acc line) ls
  | ⟨some a, off⟩ :: ls => do
    let line ← add (← add char indent) (← add (← a.span?) off)
    Ast.spanBlockLines indent (← add acc line) ls
end

/-! ## Building nodes -/

namespace Ast

/-- `Ast::new`: the span of the shape is computed and stored. -/
def new (shape : Shape) (id : Option Uuid) : Except Panic Ast := do
  pure (newWithSpan shape id (← shape.span?))

/-- `From<Shape> for Ast`: no id. -/
def «from» (shape : Shape) : Except Panic Ast := new shape none

/-- **`span()` is recomputed**: it is the span of the shape, whatever span the node stores. -/
theorem span?_eq (s : Shape) (i : Option Uuid) (n : Usize) : (mk s i n).span? = s.span? := rfl

/-- **`span()` ignores the stored span.** A node that stores 7 for `foo` answers 3. -/
theorem span?_ne_stored : (newWithSpan (.var "foo") none 7).span? = .ok 3 := rfl

/-- A `Match` node (as decoding builds one) over two variables, storing span 4. -/
def matchNode : Ast :=
  mk (.match ⟨none, ⟨⟨(), .nothing⟩, []⟩, ()⟩ (.cons (mk (.var "a") none 1) (.cons (mk (.var "b") none 1) .nil)))
    none 4

/-- **`Ast::new` panics on a supported shape with a `Match` child**, although the child stores
its span. -/
theorem new_prefixApp_match :
    new (.prefixApp matchNode 1 (newWithSpan (.var "x") none 1)) none = .error .notImplemented := rfl

/-- What `Ast::new` builds: the shape, the id, and the span of the shape. -/
theorem new_eq_ok {s : Shape} {i : Option Uuid} {x : Ast} :
    new s i = .ok x ↔ ∃ n, s.span? = .ok n ∧ newWithSpan s i n = x := by
  unfold new
  cases s.span? <;> simp

/-- **On a node built by `Ast::new`, `span()` is the stored span.** -/
theorem span?_new {s : Shape} {i : Option Uuid} {x : Ast} (h : new s i = .ok x) :
    x.span? = .ok x.span := by
  obtain ⟨n, hs, rfl⟩ := new_eq_ok.1 h
  exact hs

/-! ## Trees built by `Ast::new` -/

/-- A tree built bottom-up with `Ast::new`: the node is `Ast::new` of a shape whose children
were all built so. -/
inductive BuiltByNew : Ast → Prop
  | new {s : Shape} {i : Option Uuid} {x : Ast} :
      Ast.new s i = .ok x → (∀ c ∈ s.children, BuiltByNew c) → BuiltByNew x

/-- **In a tree built by `Ast::new`, every node answers `span()` with the span it stores**,
although `span()` never reads it. -/
theorem BuiltByNew.span?_eq_span {x : Ast} (h : BuiltByNew x) :
    ∀ c ∈ childOrder.pre x, c.span? = .ok c.span := by
  induction h with
  | new hx _ ih =>
    obtain ⟨n, -, rfl⟩ := new_eq_ok.1 hx
    intro c hc
    rw [childOrder.pre_eq, List.mem_cons, List.mem_flatMap] at hc
    rcases hc with rfl | ⟨d, hd, hc⟩
    · exact span?_new hx
    · exact ih d hd c hc

/-- `foo`, built by `Ast::new`. -/
theorem BuiltByNew.span?_eq_span_var :
    BuiltByNew (newWithSpan (.var "foo") none 3) ∧
      ∀ c ∈ childOrder.pre (newWithSpan (.var "foo") none 3), c.span? = .ok c.span :=
  have h : BuiltByNew (newWithSpan (.var "foo") none 3) :=
    @BuiltByNew.new (.var "foo") none _ rfl fun _ hc => by simp [Shape.children] at hc
  ⟨h, BuiltByNew.span?_eq_span h⟩

end Ast

end Enso
