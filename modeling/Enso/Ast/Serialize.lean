import Enso.Ast.Types

/-!
# Writing the tree: `Serialize`

What `serde_json::to_string` writes for an `Ast`, as a document. Every type of the tree but
`Ast` derives `Serialize`:

- a struct is an object of its fields, in declaration order, under their Rust names;
- an enum is externally tagged, `{"Variant": payload}`. The `#[ast]` enums turn each variant
  into a struct of its own (`Var { name }` becomes `Var(Var)`), so the payload is that
  struct's object; a variant with no fields becomes a unit struct, written `null`, unless it
  is written with braces (`Blank { }`), which is an empty struct, written `{}`;
- `Option` is `null` or the value, `Vec` and tuples are arrays, `Rc` is transparent.

`impl Serialize for Ast` writes `shape`, then `id` only when the node has one, then `span`.

**Positions.** The generic payload types (`Shifted`, the macro patterns and matches, `Tree`,
…) are written from their values at `Json`: each Ast position already holds its child's
document. `Ast.serialize` fills a macro node's skeleton with its children's documents and
writes that.
-/

namespace Enso

open Json

/-! ## Leaves -/

/-- `Builder` (`#[ast(flat)]`; `Empty` is a unit struct). -/
def Builder.serialize : Builder → Json
  | .empty => variant "Empty" .null
  | .letter c => variant "Letter" (.obj [("char", ofChar c)])
  | .space n => variant "Space" (.obj [("span", ofFin n)])
  | .text s => variant "Text" (.obj [("str", .str s)])
  | .seq a b => variant "Seq" (.obj [("first", a.serialize), ("second", b.serialize)])

/-- `RawEscape` (`#[ast(flat)]`). -/
def RawEscape.serialize : RawEscape → Json
  | .unfinished => variant "Unfinished" (.obj [])
  | .invalid c => variant "Invalid" (.obj [("str", ofChar c)])
  | .slash => variant "Slash" (.obj [])
  | .quote => variant "Quote" (.obj [])
  | .rawQuote => variant "RawQuote" (.obj [])

/-- `Escape` (struct variants). -/
def Escape.serialize : Escape → Json
  | .character c => variant "Character" (.obj [("c", ofChar c)])
  | .control name code => variant "Control" (.obj [("name", .str name), ("code", ofFin code)])
  | .number d => variant "Number" (.obj [("digits", .str d)])
  | .unicode16 d => variant "Unicode16" (.obj [("digits", .str d)])
  | .unicode21 d => variant "Unicode21" (.obj [("digits", .str d)])
  | .unicode32 d => variant "Unicode32" (.obj [("digits", .str d)])

/-- `SegmentRaw`. -/
def SegmentRaw.serialize : SegmentRaw → Json
  | .segmentPlain v => variant "SegmentPlain" (.obj [("value", .str v)])
  | .segmentRawEscape c => variant "SegmentRawEscape" (.obj [("code", c.serialize)])

/-- `BlockType` (struct variants with no fields). -/
def BlockType.serialize : BlockType → Json
  | .continuous => variant "Continuous" (.obj [])
  | .discontinuous => variant "Discontinuous" (.obj [])

/-- `PatternClass` (`#[ast]`; its variants become unit structs). -/
def PatternClass.serialize : PatternClass → Json
  | .normal => variant "Normal" .null
  | .pattern => variant "Pattern" .null

/-- The variant name of a token pattern. -/
def TokenKind.name : TokenKind → String
  | .blank => "Blank"
  | .var => "Var"
  | .cons => "Cons"
  | .mod => "Mod"
  | .num => "Num"
  | .text => "Text"
  | .block => "Block"
  | .macroTok => "Macro"
  | .invalid => "Invalid"

/-! ## Generic containers, at `Json` -/

/-- Replace a line's element. -/
def BlockLine.map {T U : Type} (f : T → U) (l : BlockLine T) : BlockLine U := ⟨f l.elem, l.off⟩

/-- Replace a text line's segments. -/
def TextBlockLine.map {T U : Type} (f : T → U) (l : TextBlockLine T) : TextBlockLine U :=
  ⟨l.emptyLines, l.text.map f⟩

/-- `BlockLine<T>`. -/
def BlockLine.serialize (l : BlockLine Json) : Json := .obj [("elem", l.elem), ("off", ofFin l.off)]

/-- `TextBlockLine<T>`. -/
def TextBlockLine.serialize (l : TextBlockLine Json) : Json :=
  .obj [("empty_lines", .arr (l.emptyLines.map ofFin)), ("text", .arr l.text)]

/-- `Shifted<T>`. -/
def Shifted.serialize (s : Shifted Json) : Json := .obj [("wrapped", s.wrapped), ("off", ofFin s.off)]

/-- `ShiftedVec1<T>`. -/
def ShiftedVec1.serialize (v : ShiftedVec1 Json) : Json :=
  .obj [("head", v.head), ("tail", .arr (v.tail.map Shifted.serialize))]

/-- `Either<L,R>` (struct variants). -/
def Either.serialize : Either Json Json → Json
  | .left a => variant "Left" (.obj [("value", a)])
  | .right a => variant "Right" (.obj [("value", a)])

/-! ## Macro payloads, at `Json` -/

namespace MacroPatternRaw

/-- The variant of a pattern. -/
def name {A : Type} : MacroPatternRaw A → String
  | begin => "Begin"
  | «end» => "End"
  | nothing => "Nothing"
  | seq .. => "Seq"
  | or .. => "Or"
  | many _ => "Many"
  | except .. => "Except"
  | build _ => "Build"
  | err .. => "Err"
  | tag .. => "Tag"
  | cls .. => "Cls"
  | tok .. => "Tok"
  | opr .. => "Opr"
  | token k _ => k.name

/-- The struct `MacroPatternRaw<Variant>` of a pattern: the object of its fields. -/
def fields : MacroPatternRaw Json → Json
  | begin | «end» | nothing => .obj []
  | seq p q | or p q => .obj [("pat1", variant p.name p.fields), ("pat2", variant q.name q.fields)]
  | many p | build p => .obj [("pat", variant p.name p.fields)]
  | except n p => .obj [("not", variant n.name n.fields), ("pat", variant p.name p.fields)]
  | err m p => .obj [("msg", .str m), ("pat", variant p.name p.fields)]
  | tag t p => .obj [("tag", .str t), ("pat", variant p.name p.fields)]
  | cls c p => .obj [("cls", c.serialize), ("pat", variant p.name p.fields)]
  | tok s a => .obj [("spaced", ofOption .bool s), ("ast", a)]
  | opr s m => .obj [("spaced", ofOption .bool s), ("max_prec", ofOption ofFin m)]
  | token _ s => .obj [("spaced", ofOption .bool s)]

/-- `MacroPatternRaw` (`#[ast]`): its variant, holding its struct. -/
def serialize (p : MacroPatternRaw Json) : Json := variant p.name p.fields

end MacroPatternRaw

namespace MacroPatternMatchRaw

mutual
/-- `MacroPatternMatchRaw<Shifted<T>>`: the variant, holding the pattern's struct as `pat` and
what it matched as `elem`. -/
def serialize : MacroPatternMatchRaw Json → Json
  | begin => variant "Begin" (.obj [("pat", .obj [])])
  | «end» => variant "End" (.obj [("pat", .obj [])])
  | nothing => variant "Nothing" (.obj [("pat", .obj [])])
  | seq p q (a, b) => variant "Seq"
    (.obj [("pat", (MacroPatternRaw.seq p q).fields), ("elem", .arr [a.serialize, b.serialize])])
  | or p q (.left a) => variant "Or"
    (.obj [("pat", (MacroPatternRaw.or p q).fields), ("elem", Either.serialize (.left a.serialize))])
  | or p q (.right a) => variant "Or"
    (.obj [("pat", (MacroPatternRaw.or p q).fields), ("elem", Either.serialize (.right a.serialize))])
  | many p es => variant "Many"
    (.obj [("pat", (MacroPatternRaw.many p).fields), ("elem", .arr (serializeList es))])
  | except n p e => variant "Except"
    (.obj [("pat", (MacroPatternRaw.except n p).fields), ("elem", e.serialize)])
  | build p e => variant "Build"
    (.obj [("pat", (MacroPatternRaw.build p).fields), ("elem", e.serialize)])
  | err m p e => variant "Err"
    (.obj [("pat", (MacroPatternRaw.err m p).fields), ("elem", e.serialize)])
  | tag t p e => variant "Tag"
    (.obj [("pat", (MacroPatternRaw.tag t p).fields), ("elem", e.serialize)])
  | cls c p e => variant "Cls"
    (.obj [("pat", (MacroPatternRaw.cls c p).fields), ("elem", e.serialize)])
  | tok s a e => variant "Tok"
    (.obj [("pat", (MacroPatternRaw.tok s a).fields), ("elem", e.serialize)])
  | opr s m e => variant "Opr"
    (.obj [("pat", (MacroPatternRaw.opr s m).fields), ("elem", e.serialize)])
  | token k s e => variant k.name
    (.obj [("pat", (MacroPatternRaw.token k s).fields), ("elem", e.serialize)])
/-- The matches of a `Many`. -/
def serializeList : List (MacroPatternMatchRaw Json) → List Json
  | [] => []
  | e :: es => e.serialize :: serializeList es
end

theorem serializeList_eq : ∀ es : List (MacroPatternMatchRaw Json), serializeList es = es.map serialize
  | [] => rfl
  | e :: es => by simp [serializeList, serializeList_eq es]

end MacroPatternMatchRaw

/-- `MacroMatchSegment<T>`. -/
def MacroMatchSegment.serialize (s : MacroMatchSegment Json) : Json :=
  .obj [("head", s.head), ("body", s.body.serialize)]

/-- `MacroAmbiguousSegment`. -/
def MacroAmbiguousSegment.serialize (s : MacroAmbiguousSegment Json) : Json :=
  .obj [("head", s.head), ("body", ofOption Shifted.serialize s.body)]

namespace Tree

mutual
/-- `Tree<K,V>` at `V = Unit`: `Unit {}` is written `{}`. -/
def serialize : Tree Json Unit → Json
  | mk v bs => .obj [("value", ofOption (fun _ => .obj []) v), ("branches", .arr (serializeBranches bs))]
/-- A node's branches, each a pair `[key, subtree]`. -/
def serializeBranches : List (Json × Tree Json Unit) → List Json
  | [] => []
  | (k, t) :: bs => .arr [k, t.serialize] :: serializeBranches bs
end

end Tree

/-- The fields of `Shape::Match`. -/
def Match.serialize (m : Match Json) : Json :=
  .obj [("pfx", ofOption MacroPatternMatchRaw.serialize m.pfx),
    ("segs", (m.segs.map MacroMatchSegment.serialize).serialize), ("resolved", m.resolved)]

/-- The fields of `Shape::Ambiguous`. -/
def Ambiguous.serialize (a : Ambiguous Json) : Json :=
  .obj [("segs", (a.segs.map MacroAmbiguousSegment.serialize).serialize),
    ("paths", a.paths.serialize)]

/-- A UUID, as serde writes one to a human-readable format: its hyphenated form. -/
def Uuid.serialize (u : Uuid) : Json := .str u.toHyphenated

/-! ## The tree -/

mutual
/-- `impl Serialize for Ast`: `shape`, then `id` when there is one, then `span`. -/
def Ast.serialize : Ast → Json
  | .mk s id span =>
    .obj ([("shape", s.serialize)] ++ (id.map fun u => ("id", u.serialize)).toList ++
      [("span", ofFin span)])

/-- `Shape<Ast>` (`#[ast(flat)]`). -/
def Shape.serialize : Shape → Json
  | .unrecognized s => variant "Unrecognized" (.obj [("str", .str s)])
  | .invalidQuote q => variant "InvalidQuote" (.obj [("quote", q.serialize)])
  | .inlineBlock q => variant "InlineBlock" (.obj [("quote", q.serialize)])
  | .blank => variant "Blank" (.obj [])
  | .var n => variant "Var" (.obj [("name", .str n)])
  | .cons n => variant "Cons" (.obj [("name", .str n)])
  | .opr n => variant "Opr" (.obj [("name", .str n)])
  | .mod n => variant "Mod" (.obj [("name", .str n)])
  | .invalidSuffix e s => variant "InvalidSuffix" (.obj [("elem", e.serialize), ("suffix", .str s)])
  | .number b i => variant "Number" (.obj [("base", ofOption .str b), ("int", .str i)])
  | .danglingBase b => variant "DanglingBase" (.obj [("base", .str b)])
  | .textLineRaw t => variant "TextLineRaw" (.obj [("text", .arr (t.map SegmentRaw.serialize))])
  | .textLineFmt t => variant "TextLineFmt" (.obj [("text", .arr (SegmentFmt.serializeList t))])
  | .textBlockRaw t s o => variant "TextBlockRaw"
    (.obj [("text", .arr (t.map (·.map SegmentRaw.serialize |>.serialize))), ("spaces", ofFin s),
      ("offset", ofFin o)])
  | .textBlockFmt t s o => variant "TextBlockFmt"
    (.obj [("text", .arr (SegmentFmt.serializeBlockLines t)), ("spaces", ofFin s),
      ("offset", ofFin o)])
  | .textUnclosed l => variant "TextUnclosed" (.obj [("line", l.serialize)])
  | .prefixApp f o a => variant "Prefix"
    (.obj [("func", f.serialize), ("off", ofFin o), ("arg", a.serialize)])
  | .infixApp l lo o ro r => variant "Infix"
    (.obj [("larg", l.serialize), ("loff", ofFin lo), ("opr", o.serialize), ("roff", ofFin ro),
      ("rarg", r.serialize)])
  | .sectionLeft a o op => variant "SectionLeft"
    (.obj [("arg", a.serialize), ("off", ofFin o), ("opr", op.serialize)])
  | .sectionRight op o a => variant "SectionRight"
    (.obj [("opr", op.serialize), ("off", ofFin o), ("arg", a.serialize)])
  | .sectionSides op => variant "SectionSides" (.obj [("opr", op.serialize)])
  | .module ls => variant "Module" (.obj [("lines", .arr (Ast.serializeLines ls))])
  | .block ty i es f ls o => variant "Block"
    (.obj [("ty", ty.serialize), ("indent", ofFin i), ("empty_lines", .arr (es.map ofFin)),
      ("first_line", BlockLine.serialize ⟨f.elem.serialize, f.off⟩),
      ("lines", .arr (Ast.serializeLines ls)), ("is_orphan", .bool o)])
  | .match s as => variant "Match" (s.fill as.serialize).serialize
  | .ambiguous s as => variant "Ambiguous" (s.fill as.serialize).serialize
  | .comment ls => variant "Comment" (.obj [("lines", .arr (ls.map .str))])
  | .import p => variant "Import" (.obj [("path", .arr (Ast.serializeList p))])
  | .mixfix n a => variant "Mixfix"
    (.obj [("name", .arr (Ast.serializeList n)), ("args", .arr (Ast.serializeList a))])
  | .group b => variant "Group" (.obj [("body", Ast.serializeOption b)])
  | .def n a b => variant "Def"
    (.obj [("name", n.serialize), ("args", .arr (Ast.serializeList a)),
      ("body", Ast.serializeOption b)])
  | .foreign i l c => variant "Foreign"
    (.obj [("indent", ofFin i), ("lang", .str l), ("code", .arr (c.map .str))])

/-- `SegmentFmt<Ast>`. -/
def SegmentFmt.serialize : SegmentFmt → Json
  | .segmentPlain v => variant "SegmentPlain" (.obj [("value", .str v)])
  | .segmentRawEscape c => variant "SegmentRawEscape" (.obj [("code", c.serialize)])
  | .segmentExpr v => variant "SegmentExpr" (.obj [("value", Ast.serializeOption v)])
  | .segmentEscape c => variant "SegmentEscape" (.obj [("code", c.serialize)])

/-- `TextLine<Ast>`. -/
def TextLine.serialize : TextLine → Json
  | .textLineRaw t => variant "TextLineRaw" (.obj [("text", .arr (t.map SegmentRaw.serialize))])
  | .textLineFmt t => variant "TextLineFmt" (.obj [("text", .arr (SegmentFmt.serializeList t))])

/-- An `Option<Ast>`. -/
def Ast.serializeOption : Option Ast → Json
  | none => .null
  | some a => a.serialize

/-- A `Vec<Ast>`'s elements. -/
def Ast.serializeList : List Ast → List Json
  | [] => []
  | a :: as => a.serialize :: Ast.serializeList as

/-- A `Vec<BlockLine<Option<Ast>>>`'s elements. -/
def Ast.serializeLines : List (BlockLine (Option Ast)) → List Json
  | [] => []
  | ⟨e, o⟩ :: ls => BlockLine.serialize ⟨Ast.serializeOption e, o⟩ :: Ast.serializeLines ls

/-- A `Vec<SegmentFmt<Ast>>`'s elements. -/
def SegmentFmt.serializeList : List SegmentFmt → List Json
  | [] => []
  | s :: ss => s.serialize :: SegmentFmt.serializeList ss

/-- A `Vec<TextBlockLine<SegmentFmt<Ast>>>`'s elements. -/
def SegmentFmt.serializeBlockLines : List (TextBlockLine SegmentFmt) → List Json
  | [] => []
  | ⟨es, t⟩ :: ls =>
    TextBlockLine.serialize ⟨es, SegmentFmt.serializeList t⟩ :: SegmentFmt.serializeBlockLines ls

/-- The documents of a macro node's Asts. -/
def Asts.serialize : {n : Nat} → Asts n → List Json
  | _, .nil => []
  | _, .cons a as => a.serialize :: as.serialize
end

/-! ## The helpers are maps -/

theorem Ast.serializeOption_eq (o : Option Ast) : Ast.serializeOption o = ofOption Ast.serialize o := by
  cases o <;> rfl

theorem Ast.serializeList_eq : ∀ l : List Ast, Ast.serializeList l = l.map Ast.serialize
  | [] => rfl
  | a :: l => by simp [Ast.serializeList, Ast.serializeList_eq l]

theorem Ast.serializeLines_eq : ∀ ls : List (BlockLine (Option Ast)),
    Ast.serializeLines ls = ls.map fun l => (l.map (ofOption Ast.serialize)).serialize
  | [] => rfl
  | ⟨e, o⟩ :: ls => by
    simp [Ast.serializeLines, Ast.serializeLines_eq ls, Ast.serializeOption_eq, BlockLine.map]

theorem SegmentFmt.serializeList_eq : ∀ l : List SegmentFmt,
    SegmentFmt.serializeList l = l.map SegmentFmt.serialize
  | [] => rfl
  | s :: l => by simp [SegmentFmt.serializeList, SegmentFmt.serializeList_eq l]

theorem SegmentFmt.serializeBlockLines_eq : ∀ ls : List (TextBlockLine SegmentFmt),
    SegmentFmt.serializeBlockLines ls = ls.map fun l => (l.map SegmentFmt.serialize).serialize
  | [] => rfl
  | ⟨es, t⟩ :: ls => by
    simp [SegmentFmt.serializeBlockLines, SegmentFmt.serializeBlockLines_eq ls,
      SegmentFmt.serializeList_eq, TextBlockLine.map]

theorem Asts.serialize_eq : ∀ {n : Nat} (as : Asts n), as.serialize = as.toList.map Ast.serialize
  | _, .nil => rfl
  | _, .cons a as => by simp [Asts.serialize, Asts.toList, Asts.serialize_eq as]

theorem ofOption_map {α β : Type} (f : β → Json) (g : α → β) (o : Option α) :
    ofOption f (o.map g) = ofOption (fun a => f (g a)) o := by
  cases o <;> rfl

theorem MacroPatternMatchRaw.serializeList_mapList {T : Type} (f : T → Json) :
    ∀ es : List (MacroPatternMatchRaw T),
      serializeList (mapList f es) = es.map fun e => (e.map f).serialize
  | [] => rfl
  | e :: es => by simp [mapList, serializeList, serializeList_mapList f es]

theorem Tree.serializeBranches_mapBranches {T : Type} (f : T → Json) :
    ∀ bs : List (T × Tree T Unit),
      Tree.serializeBranches (Tree.mapBranches f bs) = bs.map fun b => .arr [f b.1, (b.2.map f).serialize]
  | [] => rfl
  | (k, t) :: bs => by
    simp [Tree.mapBranches, Tree.serializeBranches, serializeBranches_mapBranches f bs]

theorem Tree.serializeBranches_eq : ∀ bs : List (Json × Tree Json Unit),
    serializeBranches bs = bs.map fun b => .arr [b.1, b.2.serialize]
  | [] => rfl
  | (k, t) :: bs => by simp [serializeBranches, serializeBranches_eq bs]

end Enso
