import Enso.Ast.Types

/-!
# Reading the tree: `Deserialize`

What `serde_json::from_str::<Ast>` reads from a document. Every reader takes the levels left
(see `Enso.Json`) and spends one on each array or object it enters.

**Derived readers.** A struct is read by `Fields.deserialize` (members in document order,
then the fields). An externally tagged enum reads an object of one member: the variant's name,
which has to be known (`unknown_variant`), then its payload, then the end of the object.

**Generic readers.** A generic type's reader takes the readers of its type parameters, as the
monomorphised Rust impl calls theirs. The readers of the payload types take `deA`, the reader
of their Ast positions, at every level; a recursive type (`Builder`, the macro patterns and
matches, `Tree`) reads itself one level down.

**The Ast visitor** (`AstDeserializationVisitor::visit_map`) reads `shape`, `id` and `span`
in document order; a later occurrence of a key replaces an earlier one. Any other key is
matched by `_ => {}`, which does not read its value: serde_json then finds the value where a
`,` or `}` should come, and fails with `ExpectedObjectCommaOrEnd`. After the members, a
missing `shape` or `span` is `missing_field`, and a missing `id` is `None`. The visitor asks
for each key as a borrowed `&str`: `from_str` lends a key written without escapes
(`Ast.Key.lends`) and refuses any other, and `from_value`, which owns its keys, refuses them all.

**Knotting the tree.** `Ast.deserializeUpTo lends b` is the Ast reader at every level up to
`b`, by structural recursion on `b`: a node at level `b + 1` hands its shape's reader the Ast
reader at all lower levels. `Ast.deserialize n` is the reader of `from_str` at `n` levels,
`Ast.fromStr` at the 127 that a document read from text has, and `Ast.fromValue` the reader of
`from_value`.
-/

namespace Enso

open Json Fields

/-! ## Leaves -/

/-- A unit struct (`struct Empty;`): `null`. -/
def deUnitStruct : Json → Except DeError Unit
  | .null => .ok ()
  | _ => .error (.invalidType "unit struct")

/-- A struct with no fields (`Blank { }`): any object, its members skipped. -/
def deEmptyStruct {α : Type} (name : String) (a : α) : Nat → Json → Except DeError α :=
  Fields.deserialize name fun _ => pure a

/-- `Builder`. -/
def Builder.deserialize : Nat → Json → Except DeError Builder
  | k + 1, .obj ((key, p) :: rest) => endVariant rest <|
    match key with
      | "Empty" => (fun _ => .empty) <$> deUnitStruct p
      | "Letter" => Fields.deserialize "Letter" (fun _ => .letter <$> req "char" deChar) k p
      | "Space" => Fields.deserialize "Space" (fun _ => .space <$> req "span" deUsize) k p
      | "Text" => Fields.deserialize "Text" (fun _ => .text <$> req "str" deString) k p
      | "Seq" => match k, p with
        | k + 1, .obj ms =>
          (.seq <$> req "first" (Builder.deserialize k) <*> req "second" (Builder.deserialize k)).read ms
        | k, p => refuseStruct "struct Seq" k p
      | t => .error (.unknownVariant t)
  | n, j => refuseEnum ["Empty", "Letter", "Space", "Text", "Seq"] n j

/-- `RawEscape`. -/
def RawEscape.deserialize : Nat → Json → Except DeError RawEscape
  | k + 1, .obj ((key, p) :: rest) => endVariant rest <|
    match key with
      | "Unfinished" => deEmptyStruct "Unfinished" .unfinished k p
      | "Invalid" => Fields.deserialize "Invalid" (fun _ => .invalid <$> req "str" deChar) k p
      | "Slash" => deEmptyStruct "Slash" .slash k p
      | "Quote" => deEmptyStruct "Quote" .quote k p
      | "RawQuote" => deEmptyStruct "RawQuote" .rawQuote k p
      | t => .error (.unknownVariant t)
  | n, j => refuseEnum ["Unfinished", "Invalid", "Slash", "Quote", "RawQuote"] n j

/-- `Escape`. -/
def Escape.deserialize : Nat → Json → Except DeError Escape
  | k + 1, .obj ((key, p) :: rest) => endVariant rest <|
    match key with
      | "Character" => Fields.deserialize "Character" (fun _ => .character <$> req "c" deChar) k p
      | "Control" => Fields.deserialize "Control"
        (fun _ => .control <$> req "name" deString <*> req "code" deU8) k p
      | "Number" => Fields.deserialize "Number" (fun _ => .number <$> req "digits" deString) k p
      | "Unicode16" =>
        Fields.deserialize "Unicode16" (fun _ => .unicode16 <$> req "digits" deString) k p
      | "Unicode21" =>
        Fields.deserialize "Unicode21" (fun _ => .unicode21 <$> req "digits" deString) k p
      | "Unicode32" =>
        Fields.deserialize "Unicode32" (fun _ => .unicode32 <$> req "digits" deString) k p
      | t => .error (.unknownVariant t)
  | n, j => refuseEnum ["Character", "Control", "Number", "Unicode16", "Unicode21", "Unicode32"] n j

/-- `SegmentRaw`. -/
def SegmentRaw.deserialize : Nat → Json → Except DeError SegmentRaw
  | k + 1, .obj ((key, p) :: rest) => endVariant rest <|
    match key with
      | "SegmentPlain" =>
        Fields.deserialize "SegmentPlain" (fun _ => .segmentPlain <$> req "value" deString) k p
      | "SegmentRawEscape" => Fields.deserialize "SegmentRawEscape"
        (fun k => .segmentRawEscape <$> req "code" (RawEscape.deserialize k)) k p
      | t => .error (.unknownVariant t)
  | n, j => refuseEnum ["SegmentPlain", "SegmentRawEscape"] n j

/-- `BlockType`. -/
def BlockType.deserialize : Nat → Json → Except DeError BlockType
  | k + 1, .obj ((key, p) :: rest) => endVariant rest <|
    match key with
      | "Continuous" => deEmptyStruct "Continuous" .continuous k p
      | "Discontinuous" => deEmptyStruct "Discontinuous" .discontinuous k p
      | t => .error (.unknownVariant t)
  | n, j => refuseEnum ["Continuous", "Discontinuous"] n j

/-- `PatternClass`. -/
def PatternClass.deserialize : Nat → Json → Except DeError PatternClass
  | _ + 1, .obj ((key, p) :: rest) => endVariant rest <|
    match key with
      | "Normal" => (fun _ => .normal) <$> deUnitStruct p
      | "Pattern" => (fun _ => .pattern) <$> deUnitStruct p
      | t => .error (.unknownVariant t)
  | n, j => refuseEnum ["Normal", "Pattern"] n j

/-- A UUID: `Uuid::parse_str` of a string. -/
def Uuid.deserialize : Json → Except DeError Uuid
  | .str s => match Uuid.parseStr s with
    | some u => .ok u
    | none => .error (.invalidValue "a UUID")
  | _ => .error (.invalidType "a string")

/-! ## Generic containers -/

section Containers

variable {T : Type}

/-- `BlockLine<T>`; `missing` is what a missing `elem` is (`None` when `T` is an `Option`). -/
def BlockLine.deserialize (de : Nat → Json → Except DeError T) (missing : Except DeError T) :
    Nat → Json → Except DeError (BlockLine T) :=
  Fields.deserialize "BlockLine" fun k => BlockLine.mk <$> reqOr "elem" (de k) missing <*> req "off" deUsize

/-- `TextBlockLine<T>`. -/
def TextBlockLine.deserialize (de : Nat → Json → Except DeError T) :
    Nat → Json → Except DeError (TextBlockLine T) :=
  Fields.deserialize "TextBlockLine" fun k =>
    TextBlockLine.mk <$> req "empty_lines" (deVec (fun _ => deUsize) k) <*> req "text" (deVec de k)

/-- `Shifted<T>`. -/
def Shifted.deserialize (de : Nat → Json → Except DeError T) :
    Nat → Json → Except DeError (Shifted T) :=
  Fields.deserialize "Shifted" fun k => Shifted.mk <$> req "wrapped" (de k) <*> req "off" deUsize

/-- `ShiftedVec1<T>`. -/
def ShiftedVec1.deserialize (de : Nat → Json → Except DeError T) :
    Nat → Json → Except DeError (ShiftedVec1 T) :=
  Fields.deserialize "ShiftedVec1" fun k =>
    ShiftedVec1.mk <$> req "head" (de k) <*> req "tail" (deVec (Shifted.deserialize de) k)

end Containers

/-! ## Macro patterns -/

/-- The variant of a token pattern, by name. -/
def TokenKind.ofName : String → Option TokenKind
  | "Blank" => some .blank
  | "Var" => some .var
  | "Cons" => some .cons
  | "Mod" => some .mod
  | "Num" => some .num
  | "Text" => some .text
  | "Block" => some .block
  | "Macro" => some .macroTok
  | "Invalid" => some .invalid
  | _ => none

namespace MacroPatternRaw

/-- The variants of `MacroPatternRaw` (and of `MacroPatternMatchRaw`). -/
def variants : List String :=
  ["Begin", "End", "Nothing", "Seq", "Or", "Many", "Except", "Build", "Err", "Tag", "Cls", "Tok",
    "Blank", "Var", "Cons", "Opr", "Mod", "Num", "Text", "Block", "Macro", "Invalid"]

/-- The struct of `Tok`: `spaced` and `ast`. -/
def deserializeTok {A : Type} (deA : Nat → Json → Except DeError A) :
    Nat → Json → Except DeError (Option Bool × A) :=
  Fields.deserialize "MacroPatternRawTok" fun k =>
    Prod.mk <$> opt "spaced" deBool <*> req "ast" (deA k)

/-- The struct of `Opr`: `spaced` and `max_prec`. -/
def deserializeOpr : Nat → Json → Except DeError (Option Bool × Option Usize) :=
  Fields.deserialize "MacroPatternRawOpr" fun _ =>
    Prod.mk <$> opt "spaced" deBool <*> opt "max_prec" deUsize

/-- The struct of a token pattern: `spaced`. -/
def deserializeSpaced : Nat → Json → Except DeError (Option Bool) :=
  Fields.deserialize "MacroPatternRawToken" fun _ => opt "spaced" deBool

mutual
/-- `MacroPatternRaw`, its Ast positions read with `deA`. -/
def deserialize {A : Type} (deA : Nat → Json → Except DeError A) :
    Nat → Json → Except DeError (MacroPatternRaw A)
  | k + 1, .obj ((key, p) :: rest) => endVariant rest <|
    match key with
    | "Begin" => deEmptyStruct "MacroPatternRawBegin" begin k p
    | "End" => deEmptyStruct "MacroPatternRawEnd" «end» k p
    | "Nothing" => deEmptyStruct "MacroPatternRawNothing" nothing k p
    | "Seq" => (fun (a, b) => seq a b) <$> deserializePair deA "pat1" "pat2" k p
    | "Or" => (fun (a, b) => or a b) <$> deserializePair deA "pat1" "pat2" k p
    | "Many" => many <$> deserializeOne deA k p
    | "Except" => (fun (a, b) => except a b) <$> deserializePair deA "not" "pat" k p
    | "Build" => build <$> deserializeOne deA k p
    | "Err" => (fun (m, a) => err m a) <$> deserializeNamed deA "msg" k p
    | "Tag" => (fun (t, a) => tag t a) <$> deserializeNamed deA "tag" k p
    | "Cls" => (fun (c, a) => cls c a) <$> deserializeCls deA k p
    | "Tok" => (fun (s, a) => tok s a) <$> deserializeTok deA k p
    | "Opr" => (fun (s, m) => opr s m) <$> deserializeOpr k p
    | t => match TokenKind.ofName t with
      | some kind => token kind <$> deserializeSpaced k p
      | none => .error (.unknownVariant t)
  | n, j => refuseEnum variants n j

/-- The struct of `Seq`, `Or` (`pat1`, `pat2`) or `Except` (`not`, `pat`). -/
def deserializePair {A : Type} (deA : Nat → Json → Except DeError A) (name₁ name₂ : String) :
    Nat → Json → Except DeError (MacroPatternRaw A × MacroPatternRaw A)
  | k + 1, .obj ms =>
    (Prod.mk <$> req name₁ (deserialize deA k) <*> req name₂ (deserialize deA k)).read ms
  | n, j => refuseStruct "struct MacroPatternRaw" n j

/-- The struct of `Many` or `Build`: `pat`. -/
def deserializeOne {A : Type} (deA : Nat → Json → Except DeError A) :
    Nat → Json → Except DeError (MacroPatternRaw A)
  | k + 1, .obj ms => (req "pat" (deserialize deA k)).read ms
  | n, j => refuseStruct "struct MacroPatternRaw" n j

/-- The struct of `Err` (`msg`, `pat`) or `Tag` (`tag`, `pat`). -/
def deserializeNamed {A : Type} (deA : Nat → Json → Except DeError A) (name : String) :
    Nat → Json → Except DeError (String × MacroPatternRaw A)
  | k + 1, .obj ms => (Prod.mk <$> req name deString <*> req "pat" (deserialize deA k)).read ms
  | n, j => refuseStruct "struct MacroPatternRaw" n j

/-- The struct of `Cls`: `cls`, `pat`. -/
def deserializeCls {A : Type} (deA : Nat → Json → Except DeError A) :
    Nat → Json → Except DeError (PatternClass × MacroPatternRaw A)
  | k + 1, .obj ms =>
    (Prod.mk <$> req "cls" (PatternClass.deserialize k) <*> req "pat" (deserialize deA k)).read ms
  | n, j => refuseStruct "struct MacroPatternRawCls" n j
end

end MacroPatternRaw

namespace MacroPatternMatchRaw

open MacroPatternRaw (deserializeTok deserializeOpr deserializeSpaced deserializePair
  deserializeOne deserializeNamed deserializeCls)

mutual
/-- `MacroPatternMatchRaw<Shifted<T>>`, its Ast positions read with `deA`. -/
def deserialize {A : Type} (deA : Nat → Json → Except DeError A) :
    Nat → Json → Except DeError (MacroPatternMatchRaw A)
  | k + 1, .obj ((key, p) :: rest) => endVariant rest (deserializeFields deA key k p)
  | n, j => refuseEnum MacroPatternRaw.variants n j

/-- The struct of the variant `key`: the pattern's struct as `pat`, and `elem`. -/
def deserializeFields {A : Type} (deA : Nat → Json → Except DeError A) (key : String) :
    Nat → Json → Except DeError (MacroPatternMatchRaw A)
  | k + 1, .obj ms =>
    let pat := req "pat" (deEmptyStruct "" () k)
    let elem := req "elem" (Shifted.deserialize deA k)
    let inner := req "elem" (deserialize deA k)
    match key with
    | "Begin" => ((fun _ => begin) <$> pat).read ms
    | "End" => ((fun _ => «end») <$> pat).read ms
    | "Nothing" => ((fun _ => nothing) <$> pat).read ms
    | "Seq" => ((fun ab e => seq ab.1 ab.2 e) <$> req "pat" (deserializePair deA "pat1" "pat2" k) <*>
        req "elem" (deserializePairOf deA k)).read ms
    | "Or" => ((fun ab e => or ab.1 ab.2 e) <$> req "pat" (deserializePair deA "pat1" "pat2" k) <*>
        req "elem" (deserializeEither deA k)).read ms
    | "Many" =>
      (many <$> req "pat" (deserializeOne deA k) <*> req "elem" (deserializeList deA k)).read ms
    | "Except" =>
      ((fun ab e => except ab.1 ab.2 e) <$> req "pat" (deserializePair deA "not" "pat" k) <*>
        inner).read ms
    | "Build" => (build <$> req "pat" (deserializeOne deA k) <*> elem).read ms
    | "Err" =>
      ((fun ma e => err ma.1 ma.2 e) <$> req "pat" (deserializeNamed deA "msg" k) <*> elem).read ms
    | "Tag" =>
      ((fun ta e => tag ta.1 ta.2 e) <$> req "pat" (deserializeNamed deA "tag" k) <*> inner).read ms
    | "Cls" => ((fun ca e => cls ca.1 ca.2 e) <$> req "pat" (deserializeCls deA k) <*> inner).read ms
    | "Tok" => ((fun sa e => tok sa.1 sa.2 e) <$> req "pat" (deserializeTok deA k) <*> elem).read ms
    | "Opr" => ((fun sm e => opr sm.1 sm.2 e) <$> req "pat" (deserializeOpr k) <*> elem).read ms
    | t => match TokenKind.ofName t with
      | some kind => (token kind <$> req "pat" (deserializeSpaced k) <*> elem).read ms
      | none => .error (.unknownVariant t)
  | n, j => if key ∈ MacroPatternRaw.variants then refuseStruct "struct MacroPatternMatchRaw" n j
      else .error (.unknownVariant key)

/-- The `elem` of `Seq`: a pair of matches. -/
def deserializePairOf {A : Type} (deA : Nat → Json → Except DeError A) :
    Nat → Json → Except DeError (MacroPatternMatchRaw A × MacroPatternMatchRaw A)
  | k + 1, .arr js => match js with
    | [] => .error (.invalidLength 0)
    | [a] => do let _ ← deserialize deA k a; .error (.invalidLength 1)
    | a :: b :: more => do
      let x ← deserialize deA k a
      let y ← deserialize deA k b
      if more.isEmpty then pure (x, y) else .error .trailingCharacters
  | n, j => refuseSeq n j

/-- The `elem` of `Or`: `Switch<MacroPatternMatch<T>>`. -/
def deserializeEither {A : Type} (deA : Nat → Json → Except DeError A) :
    Nat → Json → Except DeError (Either (MacroPatternMatchRaw A) (MacroPatternMatchRaw A))
  | k + 1, .obj ((key, p) :: rest) => endVariant rest <|
    match key, k, p with
    | "Left", k + 1, .obj ms => (Either.left <$> req "value" (deserialize deA k)).read ms
    | "Right", k + 1, .obj ms => (Either.right <$> req "value" (deserialize deA k)).read ms
    | "Left", k, p | "Right", k, p => refuseStruct "struct variant" k p
    | t, _, _ => .error (.unknownVariant t)
  | n, j => refuseEnum ["Left", "Right"] n j

/-- The `elem` of `Many`: a `Vec` of matches. -/
def deserializeList {A : Type} (deA : Nat → Json → Except DeError A) :
    Nat → Json → Except DeError (List (MacroPatternMatchRaw A))
  | k + 1, .arr js => js.mapM (deserialize deA k)
  | n, j => refuseSeq n j
end

end MacroPatternMatchRaw

/-- `MacroMatchSegment<T>`. -/
def MacroMatchSegment.deserialize {A : Type} (deA : Nat → Json → Except DeError A) :
    Nat → Json → Except DeError (MacroMatchSegment A) :=
  Fields.deserialize "MacroMatchSegment" fun k =>
    MacroMatchSegment.mk <$> req "head" (deA k) <*>
      req "body" (MacroPatternMatchRaw.deserialize deA k)

/-- `MacroAmbiguousSegment`. -/
def MacroAmbiguousSegment.deserialize {A : Type} (deA : Nat → Json → Except DeError A) :
    Nat → Json → Except DeError (MacroAmbiguousSegment A) :=
  Fields.deserialize "MacroAmbiguousSegment" fun k =>
    MacroAmbiguousSegment.mk <$> req "head" (deA k) <*> opt "body" (Shifted.deserialize deA k)

namespace Tree

mutual
/-- `Tree<K,V>` at `V = Unit`. -/
def deserialize {K : Type} (deK : Nat → Json → Except DeError K) :
    Nat → Json → Except DeError (Tree K Unit)
  | k + 1, .obj ms =>
    (Tree.mk <$> opt "value" (deEmptyStruct "Unit" () k) <*>
      req "branches" (deserializeBranches deK k)).read ms
  | n, j => refuseStruct "struct Tree" n j

/-- A node's branches. -/
def deserializeBranches {K : Type} (deK : Nat → Json → Except DeError K) :
    Nat → Json → Except DeError (List (K × Tree K Unit))
  | k + 1, .arr js => js.mapM (deserializeBranch deK k)
  | n, j => refuseSeq n j

/-- A branch: the pair `[key, subtree]`. -/
def deserializeBranch {K : Type} (deK : Nat → Json → Except DeError K) :
    Nat → Json → Except DeError (K × Tree K Unit)
  | k + 1, .arr js => match js with
    | [] => .error (.invalidLength 0)
    | [a] => do let _ ← deK k a; .error (.invalidLength 1)
    | a :: b :: more => do
      let x ← deK k a
      let y ← deserialize deK k b
      if more.isEmpty then pure (x, y) else .error .trailingCharacters
  | n, j => refuseSeq n j
end

end Tree

/-- The fields of `Shape::Match`. -/
def Match.deserialize {A : Type} (deA : Nat → Json → Except DeError A) :
    Nat → Json → Except DeError (Match A) :=
  Fields.deserialize "Match" fun k =>
    Match.mk <$> opt "pfx" (MacroPatternMatchRaw.deserialize deA k) <*>
      req "segs" (ShiftedVec1.deserialize (MacroMatchSegment.deserialize deA) k) <*>
      req "resolved" (deA k)

/-- The fields of `Shape::Ambiguous`. -/
def Ambiguous.deserialize {A : Type} (deA : Nat → Json → Except DeError A) :
    Nat → Json → Except DeError (Ambiguous A) :=
  Fields.deserialize "Ambiguous" fun k =>
    Ambiguous.mk <$> req "segs" (ShiftedVec1.deserialize (MacroAmbiguousSegment.deserialize deA) k) <*>
      req "paths" (Tree.deserialize deA k)

/-! ## Shapes -/

section Shapes

variable (deA : Nat → Json → Except DeError Ast)

/-- `SegmentFmt<Ast>`. -/
def SegmentFmt.deserialize : Nat → Json → Except DeError SegmentFmt
  | k + 1, .obj ((key, p) :: rest) => endVariant rest <|
    match key with
      | "SegmentPlain" =>
        Fields.deserialize "SegmentPlain" (fun _ => .segmentPlain <$> req "value" deString) k p
      | "SegmentRawEscape" => Fields.deserialize "SegmentRawEscape"
        (fun k => .segmentRawEscape <$> req "code" (RawEscape.deserialize k)) k p
      | "SegmentExpr" =>
        Fields.deserialize "SegmentExpr" (fun k => .segmentExpr <$> opt "value" (deA k)) k p
      | "SegmentEscape" => Fields.deserialize "SegmentEscape"
        (fun k => .segmentEscape <$> req "code" (Escape.deserialize k)) k p
      | t => .error (.unknownVariant t)
  | n, j => refuseEnum ["SegmentPlain", "SegmentRawEscape", "SegmentExpr", "SegmentEscape"] n j

/-- `TextLine<Ast>`. -/
def TextLine.deserialize : Nat → Json → Except DeError TextLine
  | k + 1, .obj ((key, p) :: rest) => endVariant rest <|
    match key with
      | "TextLineRaw" => Fields.deserialize "TextLineRaw"
        (fun k => .textLineRaw <$> req "text" (deVec SegmentRaw.deserialize k)) k p
      | "TextLineFmt" => Fields.deserialize "TextLineFmt"
        (fun k => .textLineFmt <$> req "text" (deVec (SegmentFmt.deserialize deA) k)) k p
      | t => .error (.unknownVariant t)
  | n, j => refuseEnum ["TextLineRaw", "TextLineFmt"] n j

/-- The variants of `Shape`. -/
def Shape.variants : List String :=
  ["Unrecognized", "InvalidQuote", "InlineBlock", "Blank", "Var", "Cons", "Opr", "Mod",
    "InvalidSuffix", "Number", "DanglingBase", "TextLineRaw", "TextLineFmt", "TextBlockRaw",
    "TextBlockFmt", "TextUnclosed", "Prefix", "Infix", "SectionLeft", "SectionRight",
    "SectionSides", "Module", "Block", "Match", "Ambiguous", "Comment", "Import", "Mixfix",
    "Group", "Def", "Foreign"]

/-- `Shape<Ast>`, its child Asts read with `deA`. -/
def Shape.deserialize : Nat → Json → Except DeError Shape
  | k + 1, .obj ((key, p) :: rest) => endVariant rest <|
    match key with
      | "Unrecognized" =>
        Fields.deserialize key (fun _ => .unrecognized <$> req "str" deString) k p
      | "InvalidQuote" =>
        Fields.deserialize key (fun k => .invalidQuote <$> req "quote" (Builder.deserialize k)) k p
      | "InlineBlock" =>
        Fields.deserialize key (fun k => .inlineBlock <$> req "quote" (Builder.deserialize k)) k p
      | "Blank" => deEmptyStruct key .blank k p
      | "Var" => Fields.deserialize key (fun _ => .var <$> req "name" deString) k p
      | "Cons" => Fields.deserialize key (fun _ => .cons <$> req "name" deString) k p
      | "Opr" => Fields.deserialize key (fun _ => .opr <$> req "name" deString) k p
      | "Mod" => Fields.deserialize key (fun _ => .mod <$> req "name" deString) k p
      | "InvalidSuffix" => Fields.deserialize key
        (fun k => .invalidSuffix <$> req "elem" (deA k) <*> req "suffix" deString) k p
      | "Number" => Fields.deserialize key
        (fun _ => .number <$> opt "base" deString <*> req "int" deString) k p
      | "DanglingBase" => Fields.deserialize key (fun _ => .danglingBase <$> req "base" deString) k p
      | "TextLineRaw" => Fields.deserialize key
        (fun k => .textLineRaw <$> req "text" (deVec SegmentRaw.deserialize k)) k p
      | "TextLineFmt" => Fields.deserialize key
        (fun k => .textLineFmt <$> req "text" (deVec (SegmentFmt.deserialize deA) k)) k p
      | "TextBlockRaw" => Fields.deserialize key
        (fun k => .textBlockRaw <$> req "text" (deVec (TextBlockLine.deserialize SegmentRaw.deserialize) k) <*>
          req "spaces" deUsize <*> req "offset" deUsize) k p
      | "TextBlockFmt" => Fields.deserialize key
        (fun k => .textBlockFmt <$>
          req "text" (deVec (TextBlockLine.deserialize (SegmentFmt.deserialize deA)) k) <*>
          req "spaces" deUsize <*> req "offset" deUsize) k p
      | "TextUnclosed" =>
        Fields.deserialize key (fun k => .textUnclosed <$> req "line" (TextLine.deserialize deA k)) k p
      | "Prefix" => Fields.deserialize key
        (fun k => .prefixApp <$> req "func" (deA k) <*> req "off" deUsize <*> req "arg" (deA k)) k p
      | "Infix" => Fields.deserialize key
        (fun k => .infixApp <$> req "larg" (deA k) <*> req "loff" deUsize <*> req "opr" (deA k) <*>
          req "roff" deUsize <*> req "rarg" (deA k)) k p
      | "SectionLeft" => Fields.deserialize key
        (fun k => .sectionLeft <$> req "arg" (deA k) <*> req "off" deUsize <*> req "opr" (deA k)) k p
      | "SectionRight" => Fields.deserialize key
        (fun k => .sectionRight <$> req "opr" (deA k) <*> req "off" deUsize <*> req "arg" (deA k)) k p
      | "SectionSides" => Fields.deserialize key (fun k => .sectionSides <$> req "opr" (deA k)) k p
      | "Module" => Fields.deserialize key
        (fun k => .module <$> req "lines" (deVec (BlockLine.deserialize (fun k => deOption (deA k)) (.ok none)) k)) k p
      | "Block" => Fields.deserialize key
        (fun k => .block <$> req "ty" (BlockType.deserialize k) <*> req "indent" deUsize <*>
          req "empty_lines" (deVec (fun _ => deUsize) k) <*>
          req "first_line" (BlockLine.deserialize deA (.error (.missingField "elem")) k) <*>
          req "lines" (deVec (BlockLine.deserialize (fun k => deOption (deA k)) (.ok none)) k) <*>
          req "is_orphan" deBool) k p
      | "Match" => Shape.ofMatch <$> Match.deserialize deA k p
      | "Ambiguous" => Shape.ofAmbiguous <$> Ambiguous.deserialize deA k p
      | "Comment" => Fields.deserialize key
        (fun k => .comment <$> req "lines" (deVec (fun _ => deString) k)) k p
      | "Import" => Fields.deserialize key (fun k => .import <$> req "path" (deVec deA k)) k p
      | "Mixfix" => Fields.deserialize key
        (fun k => .mixfix <$> req "name" (deVec deA k) <*> req "args" (deVec deA k)) k p
      | "Group" => Fields.deserialize key (fun k => .group <$> opt "body" (deA k)) k p
      | "Def" => Fields.deserialize key
        (fun k => (fun name args body => .def name args body) <$> req "name" (deA k) <*>
          req "args" (deVec deA k) <*> opt "body" (deA k)) k p
      | "Foreign" => Fields.deserialize key
        (fun k => .foreign <$> req "indent" deUsize <*> req "lang" deString <*>
          req "code" (deVec (fun _ => deString) k)) k p
      | t => .error (.unknownVariant t)
  | n, j => refuseEnum Shape.variants n j

end Shapes

/-! ## The tree -/

namespace Ast

/-- Whether `serde_json::from_str` lends a key out of the text, as the visitor's
`next_key::<&str>` needs: it does for a key written without escapes, and copies any other out,
which a borrowed `&str` cannot take. The document stands for the text serde_json writes for it,
which escapes a quote, a backslash and the control characters. -/
def Key.lends (key : String) : Bool :=
  key.toList.all fun c => c.toNat != 34 && c.toNat != 92 && 32 ≤ c.toNat

@[simp] theorem Key.lends_shape : Key.lends "shape" = true := rfl
@[simp] theorem Key.lends_id : Key.lends "id" = true := rfl
@[simp] theorem Key.lends_span : Key.lends "span" = true := rfl

/-- `AstDeserializationVisitor::visit_map`: the members in document order, with what was read
of `shape`, `id` and `span` so far. `lends` says which keys the deserializer can lend as the
`&str` that `next_key` asks for. -/
def visitMap (lends : String → Bool) (deShape : Json → Except DeError Shape) :
    List (String × Json) → Option Shape → Option (Option Uuid) → Option Usize → Except DeError Ast
  | [], shape, id, span => do
    let shape ← shape.elim (.error (.missingField "shape")) .ok
    let span ← span.elim (.error (.missingField "span")) .ok
    pure (newWithSpan shape (id.getD none) span)
  | (key, v) :: ms, shape, id, span =>
    if !lends key then .error (.invalidType "a borrowed string")
    else if key = "shape" then do visitMap lends deShape ms (some (← deShape v)) id span
    else if key = "id" then do visitMap lends deShape ms shape (some (← deOption Uuid.deserialize v)) span
    else if key = "span" then do visitMap lends deShape ms shape id (some (← deUsize v))
    else .error .expectedObjectCommaOrEnd

/-- `impl Deserialize for Ast` at every level up to `b`: `deserializeUpTo lends b m` reads at
`min b m` levels. -/
def deserializeUpTo (lends : String → Bool) : Nat → Nat → Json → Except DeError Ast
  | 0, _, j => refuseStruct "an object with shape and span fields" 0 j
  | b + 1, m, j => if m ≤ b then deserializeUpTo lends b m j else
    match j with
    | .obj ms => visitMap lends (Shape.deserialize (deserializeUpTo lends b) b) ms none none none
    | j => refuseStruct "an object with shape and span fields" (b + 1) j

/-- `impl Deserialize for Ast` under `serde_json::from_str`, with `n` levels left. -/
def deserialize (n : Nat) (j : Json) : Except DeError Ast := deserializeUpTo Key.lends n n j

/-- `serde_json::from_str::<Ast>`, on the document the text parses to: 127 levels. -/
def fromStr (j : Json) : Except DeError Ast := deserialize 127 j

end Ast

end Enso
