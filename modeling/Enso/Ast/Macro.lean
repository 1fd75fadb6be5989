import Enso.Json

/-!
# Macro payloads, and their Ast positions

The two macro shapes of the syntax tree, `Match` and `Ambiguous`, carry the richest data of
the crate: pattern grammars (`MacroPatternRaw`), the matches of those patterns
(`MacroPatternMatchRaw`), segments, and a tree of ambiguous continuations (`Tree`). Every one
of them holds `Ast`s at some of its positions.

**Generic in the position.** Each type here takes the type of its Ast positions as a
parameter `A`. At `A = Ast` it is the Rust type; at `A = Unit` it is a *skeleton*, the same
value with its Ast positions left open. A skeleton together with the list of its Asts, in
field order, is how the tree stores a macro node (`Enso.Ast.Types`), and this module gives
the three operations that move between the two views:

- `map f` replaces every position, and `erase` forgets them (`map fun _ => ()`);
- `asts` lists the positions in field order (the order serde writes them in);
- `fill s cs` puts `cs` into the open positions of `s`, in order.

**Theorems.** For every payload type: `asts_map`, `map_map`, and that filling is inverse to
taking apart: `erase_fill` (filling keeps the skeleton), `asts_fill` (the positions are the
list, padded with a default if it is short) and `fill_erase_asts` (a value is its skeleton
filled with its positions).

**Representation.**

- `MacroPatternMatchRaw<T>` is only used at `T = Shifted<Ast>`, so its element positions are
  `Shifted A`. Each variant carries the fields of the `MacroPatternRaw…` struct of the
  pattern it matched, then what it captured.
- The nine token patterns that carry only `spaced` are one constructor `token`, told apart by
  a `TokenKind`; `tok` (which also holds an Ast) and `opr` (which also holds `max_prec`)
  keep their own.
- `Rc` is transparent; Rust's `Unit {}` is Lean's `Unit`.
-/

namespace Enso

/-! ## Generic containers -/

/-- A tree whose nodes may hold a `V`, with branches marked by a `K` (keys need not be
unique). It describes an ambiguous macro match. -/
inductive Tree (K V : Type) where
  | mk (value : Option V) (branches : List (K × Tree K V))

/-- A value with the offset that precedes it. -/
structure Shifted (T : Type) where
  wrapped : T
  off : Usize

/-- A non-empty sequence of `T`s interspersed by offsets. -/
structure ShiftedVec1 (T : Type) where
  head : T
  tail : List (Shifted T)

/-- `Either<L,R>`; `Switch<T>` is `Either T T`. -/
inductive Either (L R : Type) where
  | left (value : L)
  | right (value : R)

namespace Shifted

variable {A B : Type}

/-- Replace the wrapped position. -/
def map (f : A → B) (s : Shifted A) : Shifted B := ⟨f s.wrapped, s.off⟩

/-- Put the first of `cs` into the open position. -/
def fill [Inhabited B] (s : Shifted Unit) (cs : List B) : Shifted B := ⟨cs.headD default, s.off⟩

@[simp] theorem map_wrapped (f : A → B) (s : Shifted A) : (s.map f).wrapped = f s.wrapped := rfl
@[simp] theorem map_off (f : A → B) (s : Shifted A) : (s.map f).off = s.off := rfl
@[simp] theorem fill_wrapped [Inhabited B] (s : Shifted Unit) (cs : List B) :
    (s.fill cs).wrapped = cs.headD default := rfl
@[simp] theorem fill_off [Inhabited B] (s : Shifted Unit) (cs : List B) :
    (s.fill cs).off = s.off := rfl

end Shifted

/-! ## Patterns and matches -/

/-- The class a `Cls` pattern restricts to. -/
inductive PatternClass where
  | normal
  | pattern

/-- The token patterns whose only field is `spaced`. -/
inductive TokenKind where
  | blank
  | var
  | cons
  | mod
  | num
  | text
  | block
  | macroTok
  | invalid

/-- The macro pattern grammar (`MacroPatternRaw`), with its Asts at `A`. -/
inductive MacroPatternRaw (A : Type) where
  | begin
  | «end»
  | nothing
  | seq (pat1 pat2 : MacroPatternRaw A)
  | or (pat1 pat2 : MacroPatternRaw A)
  | many (pat : MacroPatternRaw A)
  | except (not pat : MacroPatternRaw A)
  | build (pat : MacroPatternRaw A)
  | err (msg : String) (pat : MacroPatternRaw A)
  | tag (tag : String) (pat : MacroPatternRaw A)
  | cls (cls : PatternClass) (pat : MacroPatternRaw A)
  | tok (spaced : Option Bool) (ast : A)
  | opr (spaced : Option Bool) (maxPrec : Option Usize)
  | token (kind : TokenKind) (spaced : Option Bool)

/-- A match of a pattern (`MacroPatternMatchRaw<Shifted<Ast>>`): the fields of the matched
pattern's struct, then what was captured. -/
inductive MacroPatternMatchRaw (A : Type) where
  | begin
  | «end»
  | nothing
  | seq (pat1 pat2 : MacroPatternRaw A) (elem : MacroPatternMatchRaw A × MacroPatternMatchRaw A)
  | or (pat1 pat2 : MacroPatternRaw A)
      (elem : Either (MacroPatternMatchRaw A) (MacroPatternMatchRaw A))
  | many (pat : MacroPatternRaw A) (elem : List (MacroPatternMatchRaw A))
  | except (not pat : MacroPatternRaw A) (elem : MacroPatternMatchRaw A)
  | build (pat : MacroPatternRaw A) (elem : Shifted A)
  | err (msg : String) (pat : MacroPatternRaw A) (elem : Shifted A)
  | tag (tag : String) (pat : MacroPatternRaw A) (elem : MacroPatternMatchRaw A)
  | cls (cls : PatternClass) (pat : MacroPatternRaw A) (elem : MacroPatternMatchRaw A)
  | tok (spaced : Option Bool) (ast : A) (elem : Shifted A)
  | opr (spaced : Option Bool) (maxPrec : Option Usize) (elem : Shifted A)
  | token (kind : TokenKind) (spaced : Option Bool) (elem : Shifted A)

/-- A resolved macro segment (`MacroMatchSegment<Ast>`). -/
structure MacroMatchSegment (A : Type) where
  head : A
  body : MacroPatternMatchRaw A

/-- An unresolved macro segment (`MacroAmbiguousSegment`). -/
structure MacroAmbiguousSegment (A : Type) where
  head : A
  body : Option (Shifted A)

/-- The fields of `Shape::Match`. -/
structure Match (A : Type) where
  pfx : Option (MacroPatternMatchRaw A)
  segs : ShiftedVec1 (MacroMatchSegment A)
  resolved : A

/-- The fields of `Shape::Ambiguous`. -/
structure Ambiguous (A : Type) where
  segs : ShiftedVec1 (MacroAmbiguousSegment A)
  paths : Tree A Unit

/-- `takeD` splits at a sum as `take` does. -/
theorem List.takeD_add {α : Type} (m n : Nat) (l : List α) (a : α) :
    l.takeD (m + n) a = l.takeD m a ++ (l.drop m).takeD n a := by
  induction m generalizing l with
  | zero => simp
  | succ m ih =>
    cases l with
    | nil => simp [Nat.add_right_comm m 1 n, List.replicate_succ]
    | cons x l => simp [Nat.add_right_comm m 1 n, ih]

theorem List.takeD_one {α : Type} (l : List α) (a : α) : l.takeD 1 a = [l.headD a] := by simp

/-! ## Lists of things with positions

A list's positions are its elements' positions, one element after the other
(`List.flatMap`). `fillList` fills a list of skeletons the same way: an element takes its
positions from the front, the next element from what is left after the first one's count. -/

section Lists

variable {α β B : Type}
variable (astsU : α → List Unit) (asts : β → List B) (fill : α → List B → β) (erase : β → α)

/-- Fill a list of skeletons, element after element. -/
def fillList : List α → List B → List β
  | [], _ => []
  | x :: xs, cs => fill x cs :: fillList xs (cs.drop (astsU x).length)

variable {astsU asts fill erase}

theorem map_fillList (h : ∀ x cs, erase (fill x cs) = x) :
    ∀ (xs : List α) (cs : List B), (fillList astsU fill xs cs).map erase = xs
  | [], _ => rfl
  | x :: xs, cs => by simp [fillList, h, map_fillList h xs]

theorem flatMap_fillList [Inhabited B] (h : ∀ x cs, asts (fill x cs) = cs.takeD (astsU x).length default) :
    ∀ (xs : List α) (cs : List B),
      (fillList astsU fill xs cs).flatMap asts = cs.takeD (xs.flatMap astsU).length default
  | [], _ => rfl
  | x :: xs, cs => by simp [fillList, h, flatMap_fillList h xs, List.takeD_add]

theorem fillList_map (hl : ∀ y, (astsU (erase y)).length = (asts y).length)
    (h : ∀ y rest, fill (erase y) (asts y ++ rest) = y) :
    ∀ (ys : List β) (rest : List B), fillList astsU fill (ys.map erase) (ys.flatMap asts ++ rest) = ys
  | [], _ => rfl
  | y :: ys, rest => by simp [fillList, hl, h, List.drop_left', fillList_map hl h ys]

end Lists

/-! ## Patterns -/

namespace MacroPatternRaw

variable {A B C : Type}

/-- Replace every Ast position. -/
def map (f : A → B) : MacroPatternRaw A → MacroPatternRaw B
  | begin => begin
  | «end» => «end»
  | nothing => nothing
  | seq p q => seq (p.map f) (q.map f)
  | or p q => or (p.map f) (q.map f)
  | many p => many (p.map f)
  | except n p => except (n.map f) (p.map f)
  | build p => build (p.map f)
  | err m p => err m (p.map f)
  | tag t p => tag t (p.map f)
  | cls c p => cls c (p.map f)
  | tok s a => tok s (f a)
  | opr s m => opr s m
  | token k s => token k s

/-- The Ast positions, in field order. -/
def asts : MacroPatternRaw A → List A
  | seq p q | or p q | except p q => p.asts ++ q.asts
  | many p | build p | err _ p | tag _ p | cls _ p => p.asts
  | tok _ a => [a]
  | _ => []

/-- Put `cs` into the open positions, in order. -/
def fill [Inhabited B] : MacroPatternRaw Unit → List B → MacroPatternRaw B
  | begin, _ => begin
  | «end», _ => «end»
  | nothing, _ => nothing
  | seq p q, cs => seq (p.fill cs) (q.fill (cs.drop p.asts.length))
  | or p q, cs => or (p.fill cs) (q.fill (cs.drop p.asts.length))
  | many p, cs => many (p.fill cs)
  | except n p, cs => except (n.fill cs) (p.fill (cs.drop n.asts.length))
  | build p, cs => build (p.fill cs)
  | err m p, cs => err m (p.fill cs)
  | tag t p, cs => tag t (p.fill cs)
  | cls c p, cs => cls c (p.fill cs)
  | tok s _, cs => tok s (cs.headD default)
  | opr s m, _ => opr s m
  | token k s, _ => token k s

theorem asts_map (f : A → B) (p : MacroPatternRaw A) : (p.map f).asts = p.asts.map f := by
  induction p <;> simp [map, asts, *]

theorem map_map (f : A → B) (g : B → C) (p : MacroPatternRaw A) :
    (p.map f).map g = p.map (g ∘ f) := by
  induction p <;> simp [map, *]

theorem erase_fill [Inhabited B] (s : MacroPatternRaw Unit) (cs : List B) :
    (s.fill cs).map (fun _ => ()) = s := by
  induction s generalizing cs <;> simp [map, fill, *]

theorem asts_fill [Inhabited B] (s : MacroPatternRaw Unit) (cs : List B) :
    (s.fill cs).asts = cs.takeD s.asts.length default := by
  induction s generalizing cs <;> simp [fill, asts, List.takeD_add, *]

theorem fill_erase_asts [Inhabited B] (p : MacroPatternRaw B) (rest : List B) :
    (p.map fun _ => ()).fill (p.asts ++ rest) = p := by
  induction p generalizing rest <;> simp [map, fill, asts, asts_map, List.drop_left', *]

end MacroPatternRaw

/-! ## Matches -/

namespace MacroPatternMatchRaw

variable {A B C : Type}

mutual
/-- Replace every Ast position. -/
def map (f : A → B) : MacroPatternMatchRaw A → MacroPatternMatchRaw B
  | begin => begin
  | «end» => «end»
  | nothing => nothing
  | seq p q (a, b) => seq (p.map f) (q.map f) (a.map f, b.map f)
  | or p q (.left a) => or (p.map f) (q.map f) (.left (a.map f))
  | or p q (.right a) => or (p.map f) (q.map f) (.right (a.map f))
  | many p es => many (p.map f) (mapList f es)
  | except n p e => except (n.map f) (p.map f) (e.map f)
  | build p e => build (p.map f) (e.map f)
  | err m p e => err m (p.map f) (e.map f)
  | tag t p e => tag t (p.map f) (e.map f)
  | cls c p e => cls c (p.map f) (e.map f)
  | tok s a e => tok s (f a) (e.map f)
  | opr s m e => opr s m (e.map f)
  | token k s e => token k s (e.map f)
/-- `map` on the matches of a `Many`. -/
def mapList (f : A → B) : List (MacroPatternMatchRaw A) → List (MacroPatternMatchRaw B)
  | [] => []
  | e :: es => e.map f :: mapList f es
end

mutual
/-- The Ast positions, in field order. -/
def asts : MacroPatternMatchRaw A → List A
  | begin | «end» | nothing => []
  | seq p q (a, b) => p.asts ++ q.asts ++ a.asts ++ b.asts
  | or p q (.left a) | or p q (.right a) => p.asts ++ q.asts ++ a.asts
  | many p es => p.asts ++ astsList es
  | except n p e => n.asts ++ p.asts ++ e.asts
  | build p e | err _ p e => p.asts ++ [e.wrapped]
  | tag _ p e | cls _ p e => p.asts ++ e.asts
  | tok _ a e => [a, e.wrapped]
  | opr _ _ e | token _ _ e => [e.wrapped]
/-- The positions of the matches of a `Many`. -/
def astsList : List (MacroPatternMatchRaw A) → List A
  | [] => []
  | e :: es => e.asts ++ astsList es
end

mutual
/-- Put `cs` into the open positions, in order. -/
def fill [Inhabited B] : MacroPatternMatchRaw Unit → List B → MacroPatternMatchRaw B
  | begin, _ => begin
  | «end», _ => «end»
  | nothing, _ => nothing
  | seq p q (a, b), cs =>
    seq (p.fill cs) (q.fill (cs.drop p.asts.length))
      (a.fill ((cs.drop p.asts.length).drop q.asts.length),
       b.fill (((cs.drop p.asts.length).drop q.asts.length).drop a.asts.length))
  | or p q (.left a), cs =>
    or (p.fill cs) (q.fill (cs.drop p.asts.length))
      (.left (a.fill ((cs.drop p.asts.length).drop q.asts.length)))
  | or p q (.right a), cs =>
    or (p.fill cs) (q.fill (cs.drop p.asts.length))
      (.right (a.fill ((cs.drop p.asts.length).drop q.asts.length)))
  | many p es, cs => many (p.fill cs) (fillList es (cs.drop p.asts.length))
  | except n p e, cs =>
    except (n.fill cs) (p.fill (cs.drop n.asts.length))
      (e.fill ((cs.drop n.asts.length).drop p.asts.length))
  | build p e, cs => build (p.fill cs) (e.fill (cs.drop p.asts.length))
  | err m p e, cs => err m (p.fill cs) (e.fill (cs.drop p.asts.length))
  | tag t p e, cs => tag t (p.fill cs) (e.fill (cs.drop p.asts.length))
  | cls c p e, cs => cls c (p.fill cs) (e.fill (cs.drop p.asts.length))
  | tok s _ e, cs => tok s (cs.headD default) (e.fill cs.tail)
  | opr s m e, cs => opr s m (e.fill cs)
  | token k s e, cs => token k s (e.fill cs)
/-- `fill` on the matches of a `Many`, one after another. -/
def fillList [Inhabited B] : List (MacroPatternMatchRaw Unit) → List B → List (MacroPatternMatchRaw B)
  | [], _ => []
  | e :: es, cs => e.fill cs :: fillList es (cs.drop e.asts.length)
end

mutual
theorem asts_map (f : A → B) : ∀ m : MacroPatternMatchRaw A, (m.map f).asts = m.asts.map f
  | begin | «end» | nothing => rfl
  | seq p q (a, b) => by simp [map, asts, MacroPatternRaw.asts_map, asts_map f a, asts_map f b]
  | or p q (.left a) | or p q (.right a) => by
    simp [map, asts, MacroPatternRaw.asts_map, asts_map f a]
  | many p es => by simp [map, asts, MacroPatternRaw.asts_map, astsList_map f es]
  | except n p e | tag _ p e | cls _ p e => by
    simp [map, asts, MacroPatternRaw.asts_map, asts_map f e]
  | build p e | err _ p e => by simp [map, asts, MacroPatternRaw.asts_map]
  | tok _ a e | opr _ _ e | token _ _ e => rfl
theorem astsList_map (f : A → B) :
    ∀ es : List (MacroPatternMatchRaw A), astsList (mapList f es) = (astsList es).map f
  | [] => rfl
  | e :: es => by simp [mapList, astsList, asts_map f e, astsList_map f es]
end

mutual
theorem map_map (f : A → B) (g : B → C) :
    ∀ m : MacroPatternMatchRaw A, (m.map f).map g = m.map (g ∘ f)
  | begin | «end» | nothing => rfl
  | seq p q (a, b) => by simp [map, MacroPatternRaw.map_map, map_map f g a, map_map f g b]
  | or p q (.left a) | or p q (.right a) => by
    simp [map, MacroPatternRaw.map_map, map_map f g a]
  | many p es => by simp [map, MacroPatternRaw.map_map, mapList_map f g es]
  | except n p e | tag _ p e | cls _ p e => by simp [map, MacroPatternRaw.map_map, map_map f g e]
  | build p e | err _ p e => by simp [map, MacroPatternRaw.map_map, Shifted.map]
  | tok _ a e | opr _ _ e | token _ _ e => rfl
theorem mapList_map (f : A → B) (g : B → C) :
    ∀ es : List (MacroPatternMatchRaw A), mapList g (mapList f es) = mapList (g ∘ f) es
  | [] => rfl
  | e :: es => by simp [mapList, map_map f g e, mapList_map f g es]
end

mutual
theorem erase_fill [Inhabited B] :
    ∀ (s : MacroPatternMatchRaw Unit) (cs : List B), (s.fill cs).map (fun _ => ()) = s
  | begin, _ | «end», _ | nothing, _ => rfl
  | seq p q (a, b), cs => by
    simp [fill, map, MacroPatternRaw.erase_fill, erase_fill a, erase_fill b]
  | or p q (.left a), cs | or p q (.right a), cs => by
    simp [fill, map, MacroPatternRaw.erase_fill, erase_fill a]
  | many p es, cs => by simp [fill, map, MacroPatternRaw.erase_fill, eraseList_fillList es]
  | except n p e, cs | tag _ p e, cs | cls _ p e, cs => by
    simp [fill, map, MacroPatternRaw.erase_fill, erase_fill e]
  | build p e, cs | err _ p e, cs => by simp [fill, map, MacroPatternRaw.erase_fill, Shifted.map]
  | tok _ a e, cs | opr _ _ e, cs | token _ _ e, cs => by simp [fill, map, Shifted.map]
theorem eraseList_fillList [Inhabited B] :
    ∀ (es : List (MacroPatternMatchRaw Unit)) (cs : List B),
      mapList (fun _ => ()) (fillList es cs) = es
  | [], _ => rfl
  | e :: es, cs => by simp [fillList, mapList, erase_fill e, eraseList_fillList es]
end

mutual
theorem asts_fill [Inhabited B] :
    ∀ (s : MacroPatternMatchRaw Unit) (cs : List B),
      (s.fill cs).asts = cs.takeD s.asts.length default
  | begin, _ | «end», _ | nothing, _ => rfl
  | seq p q (a, b), cs => by
    simp [fill, asts, MacroPatternRaw.asts_fill, asts_fill a, asts_fill b, List.takeD_add]
  | or p q (.left a), cs | or p q (.right a), cs => by
    simp [fill, asts, MacroPatternRaw.asts_fill, asts_fill a, List.takeD_add]
  | many p es, cs => by
    simp [fill, asts, MacroPatternRaw.asts_fill, astsList_fillList es, List.takeD_add]
  | except n p e, cs | tag _ p e, cs | cls _ p e, cs => by
    simp [fill, asts, MacroPatternRaw.asts_fill, asts_fill e, List.takeD_add]
  | build p e, cs | err _ p e, cs => by
    simp [fill, asts, MacroPatternRaw.asts_fill, List.takeD_add, List.takeD_one,
      -List.takeD_succ]
  | tok _ a e, cs | opr _ _ e, cs | token _ _ e, cs => by simp [fill, asts]
theorem astsList_fillList [Inhabited B] :
    ∀ (es : List (MacroPatternMatchRaw Unit)) (cs : List B),
      astsList (fillList es cs) = cs.takeD (astsList es).length default
  | [], _ => rfl
  | e :: es, cs => by
    simp [fillList, astsList, asts_fill e, astsList_fillList es, List.takeD_add]
end

mutual
theorem fill_erase_asts [Inhabited B] :
    ∀ (m : MacroPatternMatchRaw B) (rest : List B), (m.map fun _ => ()).fill (m.asts ++ rest) = m
  | begin, _ | «end», _ | nothing, _ => rfl
  | seq p q (a, b), rest => by
    simp [fill, map, asts, MacroPatternRaw.fill_erase_asts, MacroPatternRaw.asts_map, asts_map,
      List.drop_left', fill_erase_asts a, fill_erase_asts b]
  | or p q (.left a), rest | or p q (.right a), rest => by
    simp [fill, map, asts, MacroPatternRaw.fill_erase_asts, MacroPatternRaw.asts_map, asts_map,
      List.drop_left', fill_erase_asts a]
  | many p es, rest => by
    simp [fill, map, asts, MacroPatternRaw.fill_erase_asts, MacroPatternRaw.asts_map,
      List.drop_left', fillList_eraseList es]
  | except n p e, rest | tag _ p e, rest | cls _ p e, rest => by
    simp [fill, map, asts, MacroPatternRaw.fill_erase_asts, MacroPatternRaw.asts_map, asts_map,
      List.drop_left', fill_erase_asts e]
  | build p e, rest | err _ p e, rest => by
    simp [fill, map, asts, MacroPatternRaw.fill_erase_asts, MacroPatternRaw.asts_map,
      List.drop_left', Shifted.map, Shifted.fill]
  | tok _ a e, rest | opr _ _ e, rest | token _ _ e, rest => by
    simp [fill, map, asts, Shifted.map, Shifted.fill]
theorem fillList_eraseList [Inhabited B] :
    ∀ (es : List (MacroPatternMatchRaw B)) (rest : List B),
      fillList (mapList (fun _ => ()) es) (astsList es ++ rest) = es
  | [], _ => rfl
  | e :: es, rest => by
    simp [fillList, mapList, astsList, asts_map, List.drop_left', fill_erase_asts e,
      fillList_eraseList es]
end

mutual
/-- The matched elements: the positions of the type parameter of `MacroPatternMatchRaw<T>`,
without the Asts of the patterns. -/
def elems : MacroPatternMatchRaw A → List A
  | begin | «end» | nothing => []
  | seq _ _ (a, b) => a.elems ++ b.elems
  | or _ _ (.left a) | or _ _ (.right a) => a.elems
  | many _ es => elemsList es
  | except _ _ e | tag _ _ e | cls _ _ e => e.elems
  | build _ e | err _ _ e | tok _ _ e | opr _ _ e | token _ _ e => [e.wrapped]
/-- The matched elements of the matches of a `Many`. -/
def elemsList : List (MacroPatternMatchRaw A) → List A
  | [] => []
  | e :: es => e.elems ++ elemsList es
end

mutual
theorem mem_asts_of_mem_elems {c : A} : ∀ {m : MacroPatternMatchRaw A}, c ∈ m.elems → c ∈ m.asts
  | begin, h | «end», h | nothing, h => h
  | seq _ _ (a, b), h => by
    rcases List.mem_append.1 h with h | h <;> simp [asts, mem_asts_of_mem_elems h]
  | or _ _ (.left a), h | or _ _ (.right a), h => by simp [asts, mem_asts_of_mem_elems (m := a) h]
  | many _ es, h => by simp [asts, mem_astsList_of_mem_elemsList h]
  | except _ _ e, h | tag _ _ e, h | cls _ _ e, h => by simp [asts, mem_asts_of_mem_elems (m := e) h]
  | build _ e, h | err _ _ e, h | tok _ _ e, h | opr _ _ e, h | token _ _ e, h => by
    simp only [elems, List.mem_singleton] at h
    simp [asts, h]
theorem mem_astsList_of_mem_elemsList {c : A} :
    ∀ {es : List (MacroPatternMatchRaw A)}, c ∈ elemsList es → c ∈ astsList es
  | [], h => h
  | e :: es, h => by
    rcases List.mem_append.1 h with h | h
    · simp [astsList, mem_asts_of_mem_elems h]
    · simp [astsList, mem_astsList_of_mem_elemsList h]
end

end MacroPatternMatchRaw

/-! ## Segments -/

namespace MacroMatchSegment

variable {A B C : Type}

/-- Replace every Ast position. -/
def map (f : A → B) (s : MacroMatchSegment A) : MacroMatchSegment B := ⟨f s.head, s.body.map f⟩

/-- The Ast positions: the head, then the body's. -/
def asts (s : MacroMatchSegment A) : List A := s.head :: s.body.asts

/-- Put `cs` into the open positions, in order. -/
def fill [Inhabited B] (s : MacroMatchSegment Unit) (cs : List B) : MacroMatchSegment B :=
  ⟨cs.headD default, s.body.fill cs.tail⟩

theorem asts_map (f : A → B) (s : MacroMatchSegment A) : (s.map f).asts = s.asts.map f := by
  simp [map, asts, MacroPatternMatchRaw.asts_map]

theorem map_map (f : A → B) (g : B → C) (s : MacroMatchSegment A) :
    (s.map f).map g = s.map (g ∘ f) := by
  simp [map, MacroPatternMatchRaw.map_map]

theorem erase_fill [Inhabited B] (s : MacroMatchSegment Unit) (cs : List B) :
    (s.fill cs).map (fun _ => ()) = s := by
  simp [map, fill, MacroPatternMatchRaw.erase_fill]

theorem asts_fill [Inhabited B] (s : MacroMatchSegment Unit) (cs : List B) :
    (s.fill cs).asts = cs.takeD s.asts.length default := by
  simp [fill, asts, MacroPatternMatchRaw.asts_fill]

theorem fill_erase_asts [Inhabited B] (s : MacroMatchSegment B) (rest : List B) :
    (s.map fun _ => ()).fill (s.asts ++ rest) = s := by
  simp [map, fill, asts, MacroPatternMatchRaw.fill_erase_asts]

end MacroMatchSegment

namespace MacroAmbiguousSegment

variable {A B C : Type}

/-- Replace every Ast position. -/
def map (f : A → B) (s : MacroAmbiguousSegment A) : MacroAmbiguousSegment B :=
  ⟨f s.head, s.body.map (Shifted.map f)⟩

/-- The Ast positions: the head, then the body's if there is one. -/
def asts (s : MacroAmbiguousSegment A) : List A := s.head :: s.body.toList.map Shifted.wrapped

/-- Put `cs` into the open positions, in order. -/
def fill [Inhabited B] (s : MacroAmbiguousSegment Unit) (cs : List B) : MacroAmbiguousSegment B :=
  ⟨cs.headD default, s.body.map (Shifted.fill · cs.tail)⟩

theorem asts_map (f : A → B) (s : MacroAmbiguousSegment A) : (s.map f).asts = s.asts.map f := by
  cases h : s.body <;> simp [map, asts, h]

theorem map_map (f : A → B) (g : B → C) (s : MacroAmbiguousSegment A) :
    (s.map f).map g = s.map (g ∘ f) := by
  cases h : s.body <;> simp [map, h, Shifted.map]

theorem erase_fill [Inhabited B] (s : MacroAmbiguousSegment Unit) (cs : List B) :
    (s.fill cs).map (fun _ => ()) = s := by
  obtain ⟨_, _ | _⟩ := s <;> simp [map, fill, Shifted.map, Shifted.fill]

theorem asts_fill [Inhabited B] (s : MacroAmbiguousSegment Unit) (cs : List B) :
    (s.fill cs).asts = cs.takeD s.asts.length default := by
  cases h : s.body <;> simp [fill, asts, h]

theorem fill_erase_asts [Inhabited B] (s : MacroAmbiguousSegment B) (rest : List B) :
    (s.map fun _ => ()).fill (s.asts ++ rest) = s := by
  obtain ⟨_, _ | _⟩ := s <;> simp [map, fill, asts, Shifted.map, Shifted.fill]

end MacroAmbiguousSegment

/-! ## Non-empty sequences -/

namespace ShiftedVec1

variable {α β γ B : Type}

/-- Map every element. -/
def map (f : α → β) (v : ShiftedVec1 α) : ShiftedVec1 β :=
  ⟨f v.head, v.tail.map fun s => ⟨f s.wrapped, s.off⟩⟩

/-- The positions of the elements, in order. -/
def asts (asts : α → List B) (v : ShiftedVec1 α) : List B :=
  asts v.head ++ v.tail.flatMap (asts ·.wrapped)

theorem mem_asts_of_forall {f g : α → List B} (hfg : ∀ x, ∀ c ∈ f x, c ∈ g x)
    {v : ShiftedVec1 α} {c : B} (h : c ∈ v.asts f) : c ∈ v.asts g := by
  simp only [asts, List.mem_append, List.mem_flatMap] at h ⊢
  exact h.imp (hfg _ c) fun ⟨s, hs, hc⟩ => ⟨s, hs, hfg _ c hc⟩

/-- Fill the elements one after another. -/
def fill (astsX : α → List Unit) (fillX : α → List B → β) (v : ShiftedVec1 α) (cs : List B) :
    ShiftedVec1 β :=
  ⟨fillX v.head cs, fillList (astsX ·.wrapped) (fun s cs => ⟨fillX s.wrapped cs, s.off⟩) v.tail
    (cs.drop (astsX v.head).length)⟩

theorem map_map (f : α → β) (g : β → γ) (v : ShiftedVec1 α) :
    (v.map f).map g = v.map (g ∘ f) := by
  simp [map, Function.comp_def]

theorem asts_map (f : α → β) (astsB : β → List B) (v : ShiftedVec1 α) :
    (v.map f).asts astsB = v.asts (astsB ∘ f) := by
  simp [map, asts, List.flatMap_map, Function.comp_def]

theorem length_asts {C : Type} {f : α → List B} {g : α → List C}
    (h : ∀ x, (f x).length = (g x).length) (v : ShiftedVec1 α) :
    (v.asts f).length = (v.asts g).length := by
  obtain ⟨hd, tl⟩ := v
  simp only [asts, List.length_append, h, Nat.add_left_cancel_iff]
  induction tl <;> simp [*]

section Laws

variable {astsX : α → List Unit} {fillX : α → List B → β} {erase : β → α}

theorem map_fill (h : ∀ x cs, erase (fillX x cs) = x) (v : ShiftedVec1 α) (cs : List B) :
    (v.fill astsX fillX cs).map erase = v := by
  obtain ⟨hd, tl⟩ := v
  simp only [map, fill, h, mk.injEq, true_and]
  exact map_fillList (fun s cs => by simp [h]) tl _

theorem asts_fill [Inhabited B] {astsY : β → List B}
    (h : ∀ x cs, astsY (fillX x cs) = cs.takeD (astsX x).length default)
    (v : ShiftedVec1 α) (cs : List B) :
    (v.fill astsX fillX cs).asts astsY = cs.takeD (v.asts astsX).length default := by
  have := @flatMap_fillList (Shifted α) (Shifted β) B (astsX ·.wrapped) (astsY ·.wrapped)
    (fun s cs => ⟨fillX s.wrapped cs, s.off⟩) _ (fun s cs => h _ _)
  simp [fill, asts, h, this, List.takeD_add]

theorem fill_map {astsY : β → List B} (hl : ∀ y, (astsX (erase y)).length = (astsY y).length)
    (h : ∀ y rest, fillX (erase y) (astsY y ++ rest) = y) (v : ShiftedVec1 β) (rest : List B) :
    (v.map erase).fill astsX fillX (v.asts astsY ++ rest) = v := by
  have := @fillList_map (Shifted α) (Shifted β) B (astsX ·.wrapped) (astsY ·.wrapped)
    (fun s cs => ⟨fillX s.wrapped cs, s.off⟩) (fun s => ⟨erase s.wrapped, s.off⟩) (fun y => hl _)
    (fun y rest => by simp [h])
  simp [map, fill, asts, h, hl, List.drop_left', this]

end Laws

end ShiftedVec1

/-! ## Ambiguity trees

The positions of a `Tree` are its keys, each before the subtree it marks. -/

namespace Tree

variable {K K' K'' V B : Type}

mutual
/-- Replace every key. -/
def map (f : K → K') : Tree K V → Tree K' V
  | mk v bs => mk v (mapBranches f bs)
/-- `map` on a node's branches. -/
def mapBranches (f : K → K') : List (K × Tree K V) → List (K' × Tree K' V)
  | [] => []
  | (k, t) :: bs => (f k, t.map f) :: mapBranches f bs
end

mutual
/-- The keys, in the order serde writes them. -/
def asts : Tree K V → List K
  | mk _ bs => astsBranches bs
/-- The keys of a node's branches. -/
def astsBranches : List (K × Tree K V) → List K
  | [] => []
  | (k, t) :: bs => k :: (t.asts ++ astsBranches bs)
end

mutual
/-- Put `cs` into the open keys, in order. -/
def fill [Inhabited B] : Tree Unit V → List B → Tree B V
  | mk v bs, cs => mk v (fillBranches bs cs)
/-- `fill` on a node's branches. -/
def fillBranches [Inhabited B] : List (Unit × Tree Unit V) → List B → List (B × Tree B V)
  | [], _ => []
  | (_, t) :: bs, cs => (cs.headD default, t.fill cs.tail) :: fillBranches bs (cs.tail.drop t.asts.length)
end

mutual
theorem asts_map (f : K → K') : ∀ t : Tree K V, (t.map f).asts = t.asts.map f
  | mk _ bs => by simp [map, asts, astsBranches_map f bs]
theorem astsBranches_map (f : K → K') :
    ∀ bs : List (K × Tree K V), astsBranches (mapBranches f bs) = (astsBranches bs).map f
  | [] => rfl
  | (k, t) :: bs => by simp [mapBranches, astsBranches, asts_map f t, astsBranches_map f bs]
end

mutual
theorem map_map (f : K → K') (g : K' → K'') : ∀ t : Tree K V, (t.map f).map g = t.map (g ∘ f)
  | mk _ bs => by simp [map, mapBranches_map f g bs]
theorem mapBranches_map (f : K → K') (g : K' → K'') :
    ∀ bs : List (K × Tree K V), mapBranches g (mapBranches f bs) = mapBranches (g ∘ f) bs
  | [] => rfl
  | (k, t) :: bs => by simp [mapBranches, map_map f g t, mapBranches_map f g bs]
end

mutual
theorem erase_fill [Inhabited B] : ∀ (t : Tree Unit V) (cs : List B), (t.fill cs).map (fun _ => ()) = t
  | mk _ bs, cs => by simp [fill, map, eraseBranches_fillBranches bs]
theorem eraseBranches_fillBranches [Inhabited B] :
    ∀ (bs : List (Unit × Tree Unit V)) (cs : List B),
      mapBranches (fun _ => ()) (fillBranches bs cs) = bs
  | [], _ => rfl
  | (_, t) :: bs, cs => by
    simp [fillBranches, mapBranches, erase_fill t, eraseBranches_fillBranches bs]
end

mutual
theorem asts_fill [Inhabited B] :
    ∀ (t : Tree Unit V) (cs : List B), (t.fill cs).asts = cs.takeD t.asts.length default
  | mk _ bs, cs => by simp [fill, asts, astsBranches_fillBranches bs]
theorem astsBranches_fillBranches [Inhabited B] :
    ∀ (bs : List (Unit × Tree Unit V)) (cs : List B),
      astsBranches (fillBranches bs cs) = cs.takeD (astsBranches bs).length default
  | [], _ => rfl
  | (_, t) :: bs, cs => by
    simp [fillBranches, astsBranches, asts_fill t, astsBranches_fillBranches bs, List.takeD_add]
end

mutual
theorem fill_erase_asts [Inhabited B] :
    ∀ (t : Tree B V) (rest : List B), (t.map fun _ => ()).fill (t.asts ++ rest) = t
  | mk _ bs, rest => by simp [fill, map, asts, fillBranches_eraseBranches bs]
theorem fillBranches_eraseBranches [Inhabited B] :
    ∀ (bs : List (B × Tree B V)) (rest : List B),
      fillBranches (mapBranches (fun _ => ()) bs) (astsBranches bs ++ rest) = bs
  | [], _ => rfl
  | (k, t) :: bs, rest => by
    simp [fillBranches, mapBranches, astsBranches, asts_map, List.drop_left', fill_erase_asts t,
      fillBranches_eraseBranches bs]
end

end Tree

/-! ## The payloads of the two macro shapes -/

namespace Match

variable {A B C : Type}

/-- Replace every Ast position. -/
def map (f : A → B) (m : Match A) : Match B :=
  ⟨m.pfx.map (·.map f), m.segs.map (·.map f), f m.resolved⟩

/-- The Ast positions, in field order: the prefix match's, the segments', `resolved`. -/
def asts (m : Match A) : List A :=
  m.pfx.elim [] (·.asts) ++ m.segs.asts (·.asts) ++ [m.resolved]

/-- The matched elements of the segments: the positions of `T` in `Shape::Match`, which has
none in its prefix match, its segments' heads or `resolved`. -/
def elems (m : Match A) : List A := m.segs.asts (·.body.elems)

theorem mem_asts_of_mem_elems {m : Match A} {c : A} (h : c ∈ m.elems) : c ∈ m.asts := by
  simp only [asts, List.mem_append]
  exact .inl (.inr (ShiftedVec1.mem_asts_of_forall
    (fun s c hc => List.mem_cons_of_mem _ (MacroPatternMatchRaw.mem_asts_of_mem_elems hc)) h))

/-- Put `cs` into the open positions, in order. -/
def fill [Inhabited B] (s : Match Unit) (cs : List B) : Match B :=
  let cs₁ := cs.drop (s.pfx.elim [] (·.asts)).length
  let cs₂ := cs₁.drop (s.segs.asts (·.asts)).length
  ⟨s.pfx.map (·.fill cs), s.segs.fill (·.asts) (·.fill ·) cs₁, cs₂.headD default⟩

theorem asts_map (f : A → B) (m : Match A) : (m.map f).asts = m.asts.map f := by
  obtain ⟨_ | _, ⟨_, _⟩, _⟩ := m <;>
    simp [map, asts, ShiftedVec1.map, ShiftedVec1.asts, MacroPatternMatchRaw.asts_map,
      MacroMatchSegment.asts_map, List.flatMap_map, Function.comp_def, List.map_flatMap]

theorem map_map (f : A → B) (g : B → C) (m : Match A) : (m.map f).map g = m.map (g ∘ f) := by
  obtain ⟨_ | _, _, _⟩ := m <;>
    simp [map, ShiftedVec1.map_map, MacroPatternMatchRaw.map_map, MacroMatchSegment.map_map,
      Function.comp_def]

theorem erase_fill [Inhabited B] (s : Match Unit) (cs : List B) : (s.fill cs).map (fun _ => ()) = s := by
  obtain ⟨_ | _, _, _⟩ := s <;>
    simp [map, fill, MacroPatternMatchRaw.erase_fill,
      ShiftedVec1.map_fill MacroMatchSegment.erase_fill]

theorem asts_fill [Inhabited B] (s : Match Unit) (cs : List B) :
    (s.fill cs).asts = cs.takeD s.asts.length default := by
  obtain ⟨_ | _, _, _⟩ := s <;>
    simp [fill, asts, MacroPatternMatchRaw.asts_fill,
      ShiftedVec1.asts_fill MacroMatchSegment.asts_fill, List.takeD_add, List.takeD_one,
      -List.takeD_succ]

theorem fill_erase_asts [Inhabited B] (m : Match B) (rest : List B) :
    (m.map fun _ => ()).fill (m.asts ++ rest) = m := by
  obtain ⟨pfx, segs, r⟩ := m
  have hsegs : (segs.map (·.map fun _ => ())).fill (·.asts) (·.fill ·)
      (segs.asts (·.asts) ++ r :: rest) = segs :=
    ShiftedVec1.fill_map (fun y => by simp [MacroMatchSegment.asts_map])
      MacroMatchSegment.fill_erase_asts segs _
  have hlen : ((segs.map (·.map fun _ => ())).asts (·.asts)).length = (segs.asts (·.asts)).length := by
    rw [ShiftedVec1.asts_map]
    exact ShiftedVec1.length_asts (fun x => by simp [MacroMatchSegment.asts_map]) segs
  cases pfx <;>
    simp [map, fill, asts, hsegs, hlen, MacroPatternMatchRaw.fill_erase_asts,
      MacroPatternMatchRaw.asts_map, List.drop_left']

/-- Filling commutes with replacing the positions, when there are enough of them. -/
theorem fill_map [Inhabited B] [Inhabited C] (f : B → C) (s : Match Unit) {cs : List B}
    (h : s.asts.length ≤ cs.length) : s.fill (cs.map f) = (s.fill cs).map f := by
  have key := fill_erase_asts ((s.fill cs).map f) ((cs.drop s.asts.length).map f)
  rwa [map_map, erase_fill, asts_map, asts_fill, List.takeD_eq_take _ h, ← List.map_append,
    List.take_append_drop] at key

end Match

namespace Ambiguous

variable {A B C : Type}

/-- Replace every Ast position. -/
def map (f : A → B) (a : Ambiguous A) : Ambiguous B := ⟨a.segs.map (·.map f), a.paths.map f⟩

/-- The Ast positions, in field order: the segments', then the tree's keys. -/
def asts (a : Ambiguous A) : List A := a.segs.asts (·.asts) ++ a.paths.asts

/-- Put `cs` into the open positions, in order. -/
def fill [Inhabited B] (s : Ambiguous Unit) (cs : List B) : Ambiguous B :=
  ⟨s.segs.fill (·.asts) (·.fill ·) cs, s.paths.fill (cs.drop (s.segs.asts (·.asts)).length)⟩

theorem asts_map (f : A → B) (a : Ambiguous A) : (a.map f).asts = a.asts.map f := by
  simp [map, asts, ShiftedVec1.asts_map, Tree.asts_map, ShiftedVec1.asts, Function.comp_def,
    MacroAmbiguousSegment.asts_map, List.map_flatMap, ShiftedVec1.map, List.flatMap_map]

theorem map_map (f : A → B) (g : B → C) (a : Ambiguous A) : (a.map f).map g = a.map (g ∘ f) := by
  simp [map, ShiftedVec1.map_map, Tree.map_map, MacroAmbiguousSegment.map_map, Function.comp_def]

theorem erase_fill [Inhabited B] (s : Ambiguous Unit) (cs : List B) :
    (s.fill cs).map (fun _ => ()) = s := by
  simp [map, fill, Tree.erase_fill, ShiftedVec1.map_fill MacroAmbiguousSegment.erase_fill]

theorem asts_fill [Inhabited B] (s : Ambiguous Unit) (cs : List B) :
    (s.fill cs).asts = cs.takeD s.asts.length default := by
  simp [fill, asts, Tree.asts_fill, ShiftedVec1.asts_fill MacroAmbiguousSegment.asts_fill,
    List.takeD_add]

theorem fill_erase_asts [Inhabited B] (a : Ambiguous B) (rest : List B) :
    (a.map fun _ => ()).fill (a.asts ++ rest) = a := by
  obtain ⟨segs, paths⟩ := a
  have hsegs : (segs.map (·.map fun _ => ())).fill (·.asts) (·.fill ·)
      (segs.asts (·.asts) ++ (paths.asts ++ rest)) = segs :=
    ShiftedVec1.fill_map (fun y => by simp [MacroAmbiguousSegment.asts_map])
      MacroAmbiguousSegment.fill_erase_asts segs _
  have hlen : ((segs.map (·.map fun _ => ())).asts (·.asts)).length = (segs.asts (·.asts)).length := by
    rw [ShiftedVec1.asts_map]
    exact ShiftedVec1.length_asts (fun x => by simp [MacroAmbiguousSegment.asts_map]) segs
  simp [map, fill, asts, hsegs, hlen, Tree.fill_erase_asts, List.drop_left']

/-- Filling commutes with replacing the positions, when there are enough of them. -/
theorem fill_map [Inhabited B] [Inhabited C] (f : B → C) (s : Ambiguous Unit) {cs : List B}
    (h : s.asts.length ≤ cs.length) : s.fill (cs.map f) = (s.fill cs).map f := by
  have key := fill_erase_asts ((s.fill cs).map f) ((cs.drop s.asts.length).map f)
  rwa [map_map, erase_fill, asts_map, asts_fill, List.takeD_eq_take _ h, ← List.map_append,
    List.take_append_drop] at key

end Ambiguous

end Enso
