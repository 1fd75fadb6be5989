import Enso.Ast.Span

/-!
# What `span()` computes: the length of the node's text

`HasSpan` computes a node's length in code points with `usize` arithmetic that panics on
overflow, adding lists up onto accumulators. This file says what it computes, as unbounded
sums by the rules of each node type, and proves that the code computes exactly that.

* `Shape.length` — the code points of a shape's text, in `Nat`; `none` for the shapes
  `HasSpan for Shape` has no rule for (the macro and spaceless shapes) and for a module
  without lines.
* `Computes b e o` — the code `e` computes the length `o`: where it returns, it returns `o`,
  and where `o` is below `2 ^ 64 - b` it does return.
* `Shape.computes` — `Shape::span` computes `Shape.length`, with one code point to spare: no
  sum overflows on the way to a length below `usize::MAX`, and the accumulator loops add up
  what the sums say.
* `Ast.span?_eq_length` — the same for `HasSpan for Ast`; and `Ast.new_eq_ok_length`:
  `Ast::new` stores the length of every shape that has one below `usize::MAX`, and whatever it
  stores is that length, so it panics on every shape that has none.
-/

namespace Enso

open Span

/-! ## The length of a node's text -/

/-- The code points of a builder's text. -/
def Builder.length : Builder → Nat
  | .empty => 0
  | .letter _ => 1
  | .space n => n.val
  | .text s => s.length
  | .seq a b => a.length + b.length

/-- A raw segment: its text, or the escape and its `\`. -/
def SegmentRaw.length : SegmentRaw → Nat
  | .segmentPlain v => v.length
  | .segmentRawEscape c => c.span.val + 1

/-- An escape: the introducer and the digits. -/
def Escape.length : Escape → Nat
  | .character _ => 1
  | .control name _ => name.length
  | .number d => d.length
  | .unicode16 d | .unicode32 d => 1 + d.length
  | .unicode21 d => 2 + d.length + 1

/-- A line of a text block at `offset`: its empty lines, a newline for each of them and one
for itself, the offset, and its text. -/
def textBlockLineLength (emptyLines : List Usize) (offset text : Nat) : Nat :=
  (emptyLines.map Fin.val).sum + (emptyLines.length + 1) + offset + text

mutual
/-- The code points of a node's text. -/
def Ast.length : Ast → Option Nat
  | .mk s _ _ => s.length

/-- The code points of a shape's text, by the rule of its variant. -/
def Shape.length : Shape → Option Nat
  | .unrecognized s => some s.length
  | .invalidQuote q | .inlineBlock q => some q.length
  | .blank => some 1
  | .var n | .cons n | .opr n => some n.length
  | .mod n => some (n.length + 1)
  | .invalidSuffix e s => do pure ((← e.length) + s.length)
  | .number base int => some (base.elim 0 (·.length + 1) + int.length)
  | .danglingBase b => some (b.length + 1)
  | .textLineRaw t => some (2 + (t.map SegmentRaw.length).sum)
  | .textLineFmt t => do pure (2 + (← SegmentFmt.lengthList t))
  | .textBlockRaw t spaces offset => some (3 + spaces.val +
      (t.map fun l => textBlockLineLength l.emptyLines offset.val (l.text.map SegmentRaw.length).sum).sum)
  | .textBlockFmt t spaces offset => do pure (3 + spaces.val + (← TextLine.lengthBlockLines offset.val t))
  | .textUnclosed line => do pure ((← line.length) - 1)
  | .prefixApp f off a => do pure ((← f.length) + off.val + (← a.length))
  | .infixApp l loff o roff r => do
    pure ((← l.length) + loff.val + (← o.length) + roff.val + (← r.length))
  | .sectionLeft a off o => do pure ((← a.length) + off.val + (← o.length))
  | .sectionRight o off a => do pure ((← o.length) + off.val + (← a.length))
  | .sectionSides o => o.length
  | .module lines => if lines.isEmpty then none else do
    pure ((← Ast.lengthLines lines) + (lines.length - 1))
  | .block _ indent emptyLines firstLine lines isOrphan => do
    pure ((if isOrphan then 0 else 1) + (emptyLines.map (·.val + 1)).sum +
      (indent.val + ((← firstLine.elem.length) + firstLine.off.val)) +
      (← Ast.lengthBlockLines indent.val lines))
  | .match _ _ | .ambiguous _ _ | .comment _ | .import _ | .mixfix _ _ | .group _ | .def _ _ _
  | .foreign _ _ _ => none

/-- A segment of formatted text: its text, an escape and its `\`, or an expression between
its two backticks. -/
def SegmentFmt.length : SegmentFmt → Option Nat
  | .segmentPlain v => some v.length
  | .segmentRawEscape c => some (c.span.val + 1)
  | .segmentExpr none => some 2
  | .segmentExpr (some a) => do pure ((← a.length) + 2)
  | .segmentEscape c => some (1 + c.length)

/-- A line of text: its segments between two quotes. -/
def TextLine.length : TextLine → Option Nat
  | .textLineRaw t => some (2 + (t.map SegmentRaw.length).sum)
  | .textLineFmt t => do pure (2 + (← SegmentFmt.lengthList t))

/-- The segments of a line of formatted text. -/
def SegmentFmt.lengthList : List SegmentFmt → Option Nat
  | [] => some 0
  | s :: ss => do pure ((← s.length) + (← SegmentFmt.lengthList ss))

/-- The lines of a formatted text block at `offset`. -/
def TextLine.lengthBlockLines (offset : Nat) : List (TextBlockLine SegmentFmt) → Option Nat
  | [] => some 0
  | ⟨emptyLines, text⟩ :: ls => do
    pure (textBlockLineLength emptyLines offset (← SegmentFmt.lengthList text) +
      (← TextLine.lengthBlockLines offset ls))

/-- The lines of a module, each with its offset. -/
def Ast.lengthLines : List (BlockLine (Option Ast)) → Option Nat
  | [] => some 0
  | ⟨none, off⟩ :: ls => do pure (off.val + (← Ast.lengthLines ls))
  | ⟨some a, off⟩ :: ls => do pure ((← a.length) + off.val + (← Ast.lengthLines ls))

/-- A block's lines after the first: a newline each, the indent before a line that is not
empty, the line and its offset. -/
def Ast.lengthBlockLines (indent : Nat) : List (BlockLine (Option Ast)) → Option Nat
  | [] => some 0
  | ⟨none, off⟩ :: ls => do pure (1 + off.val + (← Ast.lengthBlockLines indent ls))
  | ⟨some a, off⟩ :: ls => do
    pure (1 + indent + ((← a.length) + off.val) + (← Ast.lengthBlockLines indent ls))
end

/-! ## Computing a length in `usize` -/

attribute [local simp] Option.bind_eq_some

/-- `e` computes the length `o` in `usize` arithmetic, with `b` to spare: where it returns, it
returns `o`; and where `o` is some `m` with `m + b < 2 ^ 64`, it returns `m`. -/
structure Computes (b : Nat) (e : Except Panic Usize) (o : Option Nat) : Prop where
  sound : ∀ n, e = .ok n → o = some n.val
  complete : ∀ m, o = some m → m + b < 2 ^ 64 → ∃ n, e = .ok n ∧ n.val = m

/-- A step of a length computation that only adds to what it is given. -/
@[simp] def Grows (g : Nat → Option Nat) : Prop := ∀ x m, g x = some m → x ≤ m

@[simp] theorem usize_zero_val : (0 : Usize).val = 0 := rfl
@[simp] theorem usize_one_val : (1 : Usize).val = 1 := rfl
@[simp] theorem char_val : char.val = 1 := rfl

section Computes

variable {b : Nat} {e : Except Panic Usize} {o o' : Option Nat}

theorem Computes.ok (n : Usize) : Computes b (.ok n) (some n.val) :=
  ⟨fun _ h => by cases h; rfl, fun _ h _ => ⟨n, rfl, Option.some.inj h⟩⟩

/-- A checked `usize` result: the value where it fits, an overflow panic where it does not. -/
theorem Computes.checked (v : Nat) :
    Computes b (if h : v < 2 ^ 64 then .ok ⟨v, h⟩ else .error .overflow) (some v) :=
  ⟨fun _ h => by split at h <;> cases h; rfl, fun _ h _ => by cases h; exact ⟨_, dif_pos (by omega), rfl⟩⟩

theorem Computes.count (n : Nat) : Computes b (Span.count n) (some n) := Computes.checked n

theorem Computes.str (s : String) : Computes b (Span.str s) (some s.length) := Computes.count _

theorem Computes.add (x y : Usize) : Computes b (Span.add x y) (some (x.val + y.val)) := Computes.checked _

theorem Computes.mul (x y : Usize) : Computes b (Span.mul x y) (some (x.val * y.val)) := Computes.checked _

/-- `a - c` on `usize` computes the difference where `c ≤ a`. -/
theorem Computes.sub (x y : Usize) (h : y.val ≤ x.val) :
    Computes b (Span.sub x y) (some (x.val - y.val)) :=
  ⟨fun k hk => by unfold Span.sub at hk; rw [dif_pos h] at hk; cases hk; rfl,
    fun _ hm _ => ⟨_, dif_pos h, Option.some.inj hm⟩⟩

/-- **Sequencing.** A step that only adds keeps the computation within the bound. -/
theorem Computes.bind {f : Usize → Except Panic Usize} {g : Nat → Option Nat}
    (he : Computes b e o) (hf : ∀ (n : Usize) (x : Nat), n.val = x → Computes b (f n) (g x))
    (hg : Grows g) : Computes b (e >>= f) (o >>= g) := by
  refine ⟨fun n h => ?_, fun m h hb => ?_⟩
  · cases hx : e with
    | error _ => rw [hx] at h; cases h
    | ok a =>
      rw [hx, Except.ok_bind_eq] at h
      rw [he.sound a hx]
      exact (hf a _ rfl).sound n h
  · obtain ⟨x, hx, hgx⟩ := Option.bind_eq_some.1 h
    obtain ⟨a, ha, rfl⟩ := he.complete x hx (by have := hg x m hgx; omega)
    obtain ⟨n, hn, rfl⟩ := (hf a _ rfl).complete m hgx hb
    exact ⟨n, by rw [ha, Except.ok_bind_eq]; exact hn, rfl⟩

/-- Sequencing after a step of known value `v`, which needs `v + b' < 2 ^ 64` to return. -/
theorem Computes.bind_some {b' v : Nat} {f : Usize → Except Panic Usize} (he : Computes b' e (some v))
    (hf : ∀ n : Usize, n.val = v → Computes b (f n) o)
    (hv : ∀ m, o = some m → m + b < 2 ^ 64 → v + b' < 2 ^ 64) : Computes b (e >>= f) o := by
  refine ⟨fun n h => ?_, fun m h hb => ?_⟩
  · cases hx : e with
    | error _ => rw [hx] at h; cases h
    | ok a =>
      rw [hx, Except.ok_bind_eq] at h
      exact (hf a (Option.some.inj (he.sound a hx)).symm).sound n h
  · obtain ⟨a, ha, rfl⟩ := he.complete v rfl (hv m h hb)
    obtain ⟨n, hn, rfl⟩ := (hf a rfl).complete m h hb
    exact ⟨n, by rw [ha, Except.ok_bind_eq]; exact hn, rfl⟩

theorem Computes.mul_of_val {x y : Usize} {u v : Nat} (hx : x.val = u) (hy : y.val = v) :
    Computes b (Span.mul x y) (some (u * v)) :=
  hx ▸ hy ▸ Computes.mul x y

theorem Computes.add_of_val {x y : Usize} {u v : Nat} (hx : x.val = u) (hy : y.val = v) :
    Computes b (Span.add x y) (some (u + v)) :=
  hx ▸ hy ▸ Computes.add x y

theorem Computes.sub_of_val {x y : Usize} {u v : Nat} (hx : x.val = u) (hy : y.val = v) (h : v ≤ u) :
    Computes b (Span.sub x y) (some (u - v)) :=
  hx ▸ hy ▸ Computes.sub x y (hx ▸ hy ▸ h)

theorem Computes.str_eq {s : String} {n : Nat} (h : s.length = n) : Computes b (Span.str s) (some n) :=
  h ▸ Computes.str s

theorem Computes.error (p : Panic) : Computes b (.error p) none :=
  ⟨fun _ h => (by cases h), fun _ h _ => (by cases h)⟩

theorem Computes.congr (h : Computes b e o) (ho : o = o') : Computes b e o' := ho ▸ h

theorem Computes.weaken {b' : Nat} (h : Computes b e o) (hb : b ≤ b') : Computes b' e o :=
  ⟨h.sound, fun m hm hm' => h.complete m hm (by omega)⟩

/-- **Sums.** `Iterator::sum` of lengths computed one after another, onto `acc`. -/
theorem Computes.foldlM {α : Type} {f : α → Except Panic Usize} {g : α → Nat}
    (hf : ∀ x, Computes b (f x) (some (g x))) : ∀ (xs : List α) (acc : Usize),
    Computes b (xs.foldlM (fun acc x => do Span.add acc (← f x)) acc) (some (acc.val + (xs.map g).sum))
  | [], acc => by simpa using Computes.ok acc
  | x :: xs, acc => by
    rw [List.foldlM_cons]
    refine (Computes.bind (.bind (hf x) (fun n y hy => .add_of_val rfl hy) (by simp; try omega))
      (fun a z hz => (Computes.foldlM hf xs a).congr (by rw [hz])) (by simp; try omega)).congr ?_
    simp [Nat.add_assoc]

theorem Computes.sumBy {α : Type} {f : α → Except Panic Usize} {g : α → Nat}
    (hf : ∀ x, Computes b (f x) (some (g x))) (xs : List α) :
    Computes b (sumBy f xs) (some (xs.map g).sum) :=
  (Computes.foldlM hf xs 0).congr (by simp)

/-- **Quotes.** Two quotes around a text computed with one code point more to spare. -/
theorem Computes.quoted (h : Computes (b + 1) e o) :
    Computes b (do Span.add (← Span.mul 2 char) (← e)) (do pure (2 + (← o))) := by
  refine ⟨fun n hn => ?_, fun m hm hb => ?_⟩
  · cases hx : e with
    | error _ => rw [hx] at hn; cases hn
    | ok a =>
      rw [hx] at hn
      rw [h.sound a hx]
      exact (Computes.add (b := b) 2 a).sound n hn
  · obtain ⟨x, hx, rfl⟩ : ∃ x, o = some x ∧ 2 + x = m := by simpa using hm
    obtain ⟨a, ha, rfl⟩ := h.complete x hx (by omega)
    obtain ⟨n, hn, hnv⟩ := (Computes.add (b := b) 2 a).complete _ rfl (by simpa using hb)
    exact ⟨n, by rw [ha]; exact hn, by simpa using hnv⟩

/-- **One less.** The length of a text line less one, which `TextUnclosed` takes: the line is
computed with nothing to spare, and is never empty. -/
theorem Computes.pred (h : Computes 0 e o) (h1 : ∀ m, o = some m → 1 ≤ m) :
    Computes 1 (do Span.sub (← e) 1) (do pure ((← o) - 1)) := by
  refine ⟨fun n hn => ?_, fun m hm hb => ?_⟩
  · cases hx : e with
    | error _ => rw [hx] at hn; cases hn
    | ok a =>
      rw [hx, Except.ok_bind_eq] at hn
      have ha := h.sound a hx
      rw [ha]
      exact (Computes.sub (b := 0) a 1 (by simpa using h1 _ ha)).sound n hn
  · obtain ⟨x, hx, rfl⟩ : ∃ x, o = some x ∧ x - 1 = m := by simpa using hm
    have := h1 x hx
    obtain ⟨a, ha, rfl⟩ := h.complete x hx (by omega)
    obtain ⟨n, hn, hnv⟩ := (Computes.sub (b := 1) a 1 (by simpa using this)).complete _ rfl (by simpa using hb)
    exact ⟨n, by rw [ha, Except.ok_bind_eq]; exact hn, by simpa using hnv⟩

end Computes


/-! ## The leaves -/

section Leaves

variable {b : Nat}

theorem Builder.computes : ∀ q : Builder, Computes b q.span? (some q.length)
  | .empty => .ok 0
  | .letter _ => .ok char
  | .space n => .ok n
  | .text s => .str s
  | .seq q r => .bind (Builder.computes q)
      (fun _ x hx => .bind (Builder.computes r) (fun _ y hy => .add_of_val hx hy)
        (by simp; try omega))
      (by simp; try omega)

theorem SegmentRaw.computes : ∀ s : SegmentRaw, Computes b s.span? (some s.length)
  | .segmentPlain v => .str v
  | .segmentRawEscape c => .add c.span char

theorem Escape.computes : ∀ c : Escape, Computes b c.span? (some c.length)
  | .character _ => .ok char
  | .control name _ => .str name
  | .number d => .str d
  | .unicode16 d | .unicode32 d => .bind (.str d) (fun _ x hx => .add_of_val rfl hx) (by simp; try omega)
  | .unicode21 d => .bind (.str "u\x7b") (fun _ x hx => .bind (.str d) (fun _ y hy =>
      .bind (.add_of_val hx hy) (fun _ z hz => .bind (.str "\x7d") (fun _ w hw => .add_of_val hz hw)
        (by simp; try omega)) (by simp; try omega))
      (by simp; try omega)) (by simp; try omega)

theorem textLineRawSpan_computes (t : List SegmentRaw) :
    Computes b (textLineRawSpan t) (some (2 + (t.map SegmentRaw.length).sum)) :=
  .bind (.mul 2 char) (fun _ x hx => .bind (.sumBy SegmentRaw.computes t)
    (fun _ y hy => .add_of_val hx hy) (by simp; try omega)) (by simp; try omega)

theorem emptyLinesSpan_computes (emptyLines : List Usize) :
    Computes b (emptyLinesSpan emptyLines) (some (emptyLines.map (·.val + 1)).sum) :=
  .sumBy (fun x => .add x 1) emptyLines

theorem textBlockLineSpan_computes {emptyLines : List Usize} {offset : Usize}
    {e : Except Panic Usize} {o : Option Nat} (h : Computes b e o) :
    Computes b (textBlockLineSpan emptyLines offset e)
      (do pure (textBlockLineLength emptyLines offset.val (← o))) :=
  (Computes.bind (.count _) (fun _ c hc => .bind (.add_of_val hc usize_one_val) (fun _ lc hlc =>
    .bind (.sumBy Computes.ok emptyLines) (fun _ es hes => .bind (.mul_of_val hlc char_val) (fun _ lb hlb =>
      .bind (.add_of_val hes hlb) (fun _ s₁ hs₁ => .bind (.add_of_val hs₁ rfl) (fun _ s₂ hs₂ =>
        .bind h (fun _ t ht => .add_of_val hs₂ ht) (by simp; try omega))
        (by simp; try omega))
      (by simp; try omega)) (by simp; try omega))
      (by simp; try omega)) (by simp; try omega))
    (by simp; try omega)).congr (by cases o <;> simp [textBlockLineLength])

/-- A line of a raw text block. -/
theorem textBlockLineSpan_raw_computes (l : TextBlockLine SegmentRaw) (offset : Usize) :
    Computes b (textBlockLineSpan l.emptyLines offset (sumBy SegmentRaw.span? l.text))
      (some (textBlockLineLength l.emptyLines offset.val (l.text.map SegmentRaw.length).sum)) :=
  textBlockLineSpan_computes (.sumBy SegmentRaw.computes l.text)

end Leaves

/-! ## The tree -/

theorem TextLine.one_le_length : ∀ (l : TextLine) (m : Nat), l.length = some m → 1 ≤ m
  | .textLineRaw _, m, h => by simp [TextLine.length] at h; omega
  | .textLineFmt _, m, h => by simp [TextLine.length] at h; omega

mutual
theorem Ast.computes : ∀ x : Ast, Computes 1 x.span? x.length
  | .mk s _ _ => Shape.computes s

/-- **`Shape::span` computes `Shape.length`**, case by case as the source adds it up. -/
theorem Shape.computes : ∀ s : Shape, Computes 1 s.span? s.length
  | .unrecognized s => .str s
  | .invalidQuote q | .inlineBlock q => Builder.computes q
  | .blank => .ok char
  | .var n | .cons n | .opr n => .str n
  | .mod n => .bind (.str n) (fun _ _ hx => .add_of_val hx usize_one_val) (by simp; try omega)
  | .invalidSuffix e s => .bind (Ast.computes e) (fun _ _ hx => .bind (.str s)
      (fun _ _ hy => .add_of_val hx hy) (by simp; try omega)) (by simp; try omega)
  | .number (some b) int => (Computes.bind (.str b) (fun _ _ hx => .bind (.add_of_val hx char_val)
      (fun _ _ hy => .bind (.str int) (fun _ _ hz => .add_of_val hy hz) (by simp; try omega))
      (by simp; try omega)) (by simp; try omega)).congr rfl
  | .number none int => .bind (.ok 0) (fun _ _ hy => .bind (.str int) (fun _ _ hz => .add_of_val hy hz)
      (by simp; try omega)) (by simp; try omega)
  | .danglingBase b => .bind (.str b) (fun _ _ hx => .add_of_val hx char_val) (by simp; try omega)
  | .textLineRaw t => textLineRawSpan_computes t
  | .textLineFmt t => (Computes.quoted ((SegmentFmt.computes_spanList t 0 0 rfl).weaken (by omega))).congr
      (by cases h : SegmentFmt.lengthList t <;> simp [Shape.length, h])
  | .textBlockRaw t spaces offset => .bind (.sumBy (fun l => textBlockLineSpan_raw_computes l offset) t)
      (fun _ _ hx => .bind (.str_eq (s := "\"\"\"") (n := 3) rfl) (fun _ _ hq => .bind (.add_of_val hq rfl)
        (fun _ _ hy => .add_of_val hy hx) (by simp; try omega)) (by simp; try omega)) (by simp; try omega)
  | .textBlockFmt t spaces offset => (Computes.bind (TextLine.computes_spanBlockLines offset t 0 0 rfl)
      (fun _ _ hx => .bind (.str_eq (s := "'''") (n := 3) rfl) (fun _ _ hq => .bind (.add_of_val hq rfl)
        (fun _ _ hy => .add_of_val hy hx) (by simp; try omega)) (by simp; try omega)) (by simp; try omega)).congr
      (by cases h : TextLine.lengthBlockLines offset.val t <;> simp [Shape.length, h, Nat.add_comm])
  | .textUnclosed line => .pred (TextLine.computes line) (TextLine.one_le_length line)
  | .prefixApp f off a => .bind (Ast.computes f) (fun _ _ hx => .bind (Ast.computes a) (fun _ _ hy =>
      .bind (.add_of_val hx rfl) (fun _ _ hz => .add_of_val hz hy) (by simp; try omega)) (by simp; try omega))
      (by simp; try omega)
  | .infixApp l loff o roff r => (Computes.bind (Ast.computes l) (fun _ _ ha => .bind (.add_of_val ha rfl)
      (fun _ _ hb => .bind (Ast.computes o) (fun _ _ hc => .bind (.add_of_val hb hc) (fun _ _ hd =>
        .bind (.add_of_val hd rfl) (fun _ _ he => .bind (Ast.computes r) (fun _ _ hf => .add_of_val he hf)
          (by simp; try omega)) (by simp; try omega)) (by simp; try omega)) (by simp; try omega))
      (by simp; try omega)) (by simp; try omega)).congr (by simp [Shape.length])
  | .sectionLeft a off o | .sectionRight a off o => (Computes.bind (Ast.computes a) (fun _ _ hx =>
      .bind (.add_of_val hx rfl) (fun _ _ hy => .bind (Ast.computes o) (fun _ _ hz => .add_of_val hy hz)
        (by simp; try omega)) (by simp; try omega)) (by simp; try omega)).congr (by simp [Shape.length])
  | .sectionSides o => Ast.computes o
  | .module [] => .error _
  | .module (l :: ls) => by
    rw [Shape.span?, if_pos (show (l :: ls).length > 0 by simp)]
    exact (Computes.bind_some (Computes.count (b := 0) _) (fun _ hc =>
      .bind_some (Computes.sub_of_val (b := 0) hc usize_one_val (by simp)) (fun _ hd =>
        .bind_some (Computes.mul_of_val (b := 0) hd char_val) (fun _ he =>
          .bind (Ast.computes_spanLines (l :: ls) 0 0 rfl) (fun _ _ hw => .add_of_val hw he) (by simp; try omega))
        (by simp; try omega)) (by simp; try omega)) (by simp; try omega)).congr
      (by cases h : Ast.lengthLines (l :: ls) <;> simp [Shape.length, h])
  | .block _ indent emptyLines firstLine lines isOrphan => (Computes.bind (emptyLinesSpan_computes emptyLines)
      (fun _ _ hes => .bind (Ast.computes firstLine.elem) (fun _ _ hfe => .bind (.add_of_val hfe rfl)
        (fun _ _ hfo => .bind (.add_of_val rfl hfo) (fun _ _ hfl =>
          .bind (Ast.computes_spanBlockLines indent lines 0 0 rfl) (fun _ _ hbl =>
            .bind (.add_of_val (u := if isOrphan then 0 else 1) (by cases isOrphan <;> rfl) hes) (fun _ _ h₁ =>
              .bind (.add_of_val h₁ hfl) (fun _ _ h₂ => .add_of_val h₂ hbl) (by simp; try omega))
            (by simp; try omega)) (by simp; try omega)) (by simp; try omega)) (by simp; try omega))
        (by simp; try omega)) (by simp; try omega)).congr
      (by cases h : Ast.length firstLine.elem <;> cases h' : Ast.lengthBlockLines indent.val lines <;>
        simp [Shape.length, h, h'])
  | .match _ _ | .ambiguous _ _ | .comment _ | .import _ | .mixfix _ _ | .group _ | .def _ _ _
  | .foreign _ _ _ => .error _

theorem SegmentFmt.computes : ∀ s : SegmentFmt, Computes 1 s.span? s.length
  | .segmentPlain v => .str v
  | .segmentRawEscape c => .add c.span char
  | .segmentExpr none => (Computes.bind (.mul 2 char) (fun _ _ hy => .add_of_val usize_zero_val hy)
      (by simp; try omega)).congr rfl
  | .segmentExpr (some a) => .bind (Ast.computes a) (fun _ _ hx => .bind (.mul 2 char)
      (fun _ _ hy => .add_of_val hx hy) (by simp; try omega)) (by simp; try omega)
  | .segmentEscape c => .bind (Escape.computes c) (fun _ _ hy => .add_of_val char_val hy) (by simp; try omega)

/-- A line of text is computed with nothing to spare: its two quotes leave room. -/
theorem TextLine.computes : ∀ l : TextLine, Computes 0 l.span? l.length
  | .textLineRaw t => textLineRawSpan_computes t
  | .textLineFmt t => (Computes.quoted (SegmentFmt.computes_spanList t 0 0 rfl)).congr
      (by cases h : SegmentFmt.lengthList t <;> simp [TextLine.length, h])

theorem SegmentFmt.computes_spanList : ∀ (t : List SegmentFmt) (acc : Usize) (u : Nat), acc.val = u →
    Computes 1 (SegmentFmt.spanList acc t) (do pure (u + (← SegmentFmt.lengthList t)))
  | [], acc, _, hu => hu ▸ .ok acc
  | s :: ss, acc, _, hu => (Computes.bind (SegmentFmt.computes s) (fun _ _ hx => .bind (.add_of_val hu hx)
      (fun a _ hy => SegmentFmt.computes_spanList ss a _ hy) (by simp; try omega)) (by simp; try omega)).congr
      (by cases h : SegmentFmt.length s <;> cases h' : SegmentFmt.lengthList ss <;>
        simp [SegmentFmt.lengthList, h, h', Nat.add_assoc])

theorem TextLine.computes_spanBlockLines (offset : Usize) :
    ∀ (t : List (TextBlockLine SegmentFmt)) (acc : Usize) (u : Nat), acc.val = u →
      Computes 1 (TextLine.spanBlockLines offset acc t) (do pure (u + (← TextLine.lengthBlockLines offset.val t)))
  | [], acc, _, hu => hu ▸ .ok acc
  | ⟨emptyLines, text⟩ :: ls, acc, _, hu => (Computes.bind
      (textBlockLineSpan_computes (SegmentFmt.computes_spanList text 0 0 rfl))
      (fun _ _ hx => .bind (.add_of_val hu hx) (fun a _ hy => TextLine.computes_spanBlockLines offset ls a _ hy)
        (by simp; try omega)) (by simp; try omega)).congr
      (by cases h : SegmentFmt.lengthList text <;> cases h' : TextLine.lengthBlockLines offset.val ls <;>
        simp [TextLine.lengthBlockLines, h, h', Nat.add_assoc])

theorem Ast.computes_spanLines : ∀ (ls : List (BlockLine (Option Ast))) (acc : Usize) (u : Nat), acc.val = u →
    Computes 1 (Ast.spanLines acc ls) (do pure (u + (← Ast.lengthLines ls)))
  | [], acc, _, hu => hu ▸ .ok acc
  | ⟨none, off⟩ :: ls, acc, _, hu => (Computes.bind (.add_of_val usize_zero_val rfl) (fun _ _ hx =>
      .bind (.add_of_val hu hx) (fun a _ hy => Ast.computes_spanLines ls a _ hy) (by simp; try omega))
      (by simp; try omega)).congr (by cases h : Ast.lengthLines ls <;> simp [Ast.lengthLines, h, Nat.add_assoc])
  | ⟨some a, off⟩ :: ls, acc, _, hu => (Computes.bind (Ast.computes a) (fun _ _ hx =>
      .bind (.add_of_val hx rfl) (fun _ _ hy => .bind (.add_of_val hu hy)
        (fun b _ hz => Ast.computes_spanLines ls b _ hz) (by simp; try omega)) (by simp; try omega))
      (by simp; try omega)).congr (by cases h : Ast.length a <;> cases h' : Ast.lengthLines ls <;>
        simp [Ast.lengthLines, h, h', Nat.add_assoc])

theorem Ast.computes_spanBlockLines (indent : Usize) :
    ∀ (ls : List (BlockLine (Option Ast))) (acc : Usize) (u : Nat), acc.val = u →
      Computes 1 (Ast.spanBlockLines indent acc ls) (do pure (u + (← Ast.lengthBlockLines indent.val ls)))
  | [], acc, _, hu => hu ▸ .ok acc
  | ⟨none, off⟩ :: ls, acc, _, hu => (Computes.bind (.add_of_val char_val usize_zero_val) (fun _ _ hp =>
      .bind (.add_of_val usize_zero_val rfl) (fun _ _ hq => .bind (.add_of_val hp hq) (fun _ _ hl =>
        .bind (.add_of_val hu hl) (fun a _ hy => Ast.computes_spanBlockLines indent ls a _ hy)
          (by simp; try omega)) (by simp; try omega)) (by simp; try omega)) (by simp; try omega)).congr
      (by cases h : Ast.lengthBlockLines indent.val ls <;> simp [Ast.lengthBlockLines, h, Nat.add_assoc])
  | ⟨some a, off⟩ :: ls, acc, _, hu => (Computes.bind (.add_of_val char_val rfl) (fun _ _ hp =>
      .bind (Ast.computes a) (fun _ _ hx => .bind (.add_of_val hx rfl) (fun _ _ hq => .bind (.add_of_val hp hq)
        (fun _ _ hl => .bind (.add_of_val hu hl) (fun b _ hy => Ast.computes_spanBlockLines indent ls b _ hy)
          (by simp; try omega)) (by simp; try omega)) (by simp; try omega)) (by simp; try omega))
      (by simp; try omega)).congr (by cases h : Ast.length a <;> cases h' : Ast.lengthBlockLines indent.val ls <;>
        simp [Ast.lengthBlockLines, h, h', Nat.add_assoc])
end

/-- **`span()` is the length of the node's text.** Where `HasSpan for Ast` returns, it returns
the length; and it returns wherever the length is below `usize::MAX`. Both parts are about
builds that check overflow (`Span.add`, `Span.sub`, `Span.mul` panic past `usize`): a release
build wraps instead, and a length past `usize::MAX` then comes back reduced. -/
theorem Ast.span?_eq_length (x : Ast) :
    (∀ n : Usize, x.span? = .ok n → x.length = some n.val) ∧
      ∀ m, x.length = some m → m + 1 < 2 ^ 64 → ∃ n : Usize, x.span? = .ok n ∧ n.val = m :=
  ⟨(Ast.computes x).sound, (Ast.computes x).complete⟩

theorem Ast.span?_eq_length_prefixApp :
    ∃ n : Usize, (newWithSpan (.prefixApp (newWithSpan (.var "f") none 1) 1
      (newWithSpan (.var "x") none 1)) none 3).span? = .ok n ∧ n.val = 3 :=
  (Ast.span?_eq_length _).2 3 rfl (by decide)

/-- **`Ast::new` stores the length.** What it builds carries the length of its shape's text,
and it builds the node for every shape whose length is below `usize::MAX`; as for
`Ast.span?_eq_length`, in a build that checks overflow. -/
theorem Ast.new_eq_ok_length (s : Shape) (i : Option Uuid) :
    (∀ x, Ast.new s i = .ok x → s.length = some x.span.val) ∧
      ∀ m (h : m + 1 < 2 ^ 64), s.length = some m →
        Ast.new s i = .ok (newWithSpan s i ⟨m, (by omega : m < 2 ^ 64)⟩) := by
  refine ⟨fun x hx => ?_, fun m h hm => ?_⟩
  · obtain ⟨n, hn, rfl⟩ := Ast.new_eq_ok.1 hx
    exact (Shape.computes s).sound n hn
  · obtain ⟨n, hn, rfl⟩ := (Shape.computes s).complete m hm h
    exact Ast.new_eq_ok.2 ⟨n, hn, rfl⟩

theorem Ast.new_eq_ok_length_mod :
    Ast.new (.mod "foo") none = .ok (newWithSpan (.mod "foo") none ⟨4, by decide⟩) :=
  (Ast.new_eq_ok_length (.mod "foo") none).2 4 (by decide) rfl

end Enso
