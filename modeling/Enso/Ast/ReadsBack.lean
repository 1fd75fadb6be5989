import Enso.Ast.Serialize
import Enso.Ast.Deserialize

/-!
# Reading back what was written

The derived readers of `serde_json` take a level: the arrays and objects they may still open
before the recursion limit. A writer and a reader of one type fit together when every value
whose document nests at most `m` deep is read back at level `m`.

* `ReadsBack ser de k` — that fit, at every level up to `k`; `ReadsBack.mono` lowers `k`.
* The leaves (`Builder`, `Escape`, `SegmentRaw`, `BlockType`, `PatternClass`, `Uuid`) read back
  what they write at every level.
* The containers (`Vec`, `Option`, `ShiftedVec1`, `BlockLine`, `TextBlockLine`, the macro
  patterns and their matches, `Match`, `Ambiguous`) read back, each one level above the type
  it holds, so that `Ast` can be assembled from them by induction on the level.
-/

namespace Enso

open Json Fields

attribute [simp] Fields.read Fields.feed Fields.finish Fields.req Fields.opt Fields.reqOr

/-- `de` reads back everything `ser` writes, at every level up to `k` that the document fits
in. -/
def ReadsBack {α : Type} (ser : α → Json) (de : Nat → Json → Except DeError α) (k : Nat) : Prop :=
  ∀ m ≤ k, ∀ x, (ser x).depth ≤ m → de m (ser x) = .ok x

theorem ReadsBack.eq {α : Type} {ser : α → Json} {de : Nat → Json → Except DeError α} {k m : Nat}
    {x : α} (h : ReadsBack ser de k) (hm : m ≤ k) (hd : (ser x).depth ≤ m) : de m (ser x) = .ok x :=
  h m hm x hd

theorem ReadsBack.mono {α : Type} {ser : α → Json} {de : Nat → Json → Except DeError α}
    {j k : Nat} (h : ReadsBack ser de k) (hjk : j ≤ k) : ReadsBack ser de j :=
  fun m hm => h m (Nat.le_trans hm hjk)

/-- A struct variant's fields are two levels below it. -/
theorem depth_variant_obj_le {name : String} {ms : List (String × Json)} {m : Nat}
    (h : (variant name (.obj ms)).depth ≤ m) : ∃ m', m = m' + 2 ∧ ∀ p ∈ ms, p.2.depth ≤ m' := by
  obtain ⟨m, rfl, h1⟩ := depth_variant_le h
  obtain ⟨m, rfl, h2⟩ := depth_obj_le h1
  exact ⟨m, rfl, h2⟩

@[simp] theorem deOption_deBool (s : Option Bool) : deOption deBool (ofOption .bool s) = .ok s := by
  cases s <;> rfl

@[simp] theorem deOption_deString (s : Option String) :
    deOption deString (ofOption .str s) = .ok s := by
  cases s <;> rfl

@[simp] theorem deOption_deUsize (s : Option Usize) :
    deOption deUsize (ofOption ofFin s) = .ok s :=
  deOption_ofOption _ _ (fun _ h => by cases h) fun a _ => deUsize_ofFin a

/-! ## Leaves -/

theorem Builder.deserialize_serialize : ∀ (b : Builder) (m : Nat), b.serialize.depth ≤ m →
    Builder.deserialize m b.serialize = .ok b
  | .empty, m, h => by
    obtain ⟨m, rfl, -⟩ := depth_variant_le h; rfl
  | .letter c, m, h => by
    obtain ⟨m, rfl, h1⟩ := depth_variant_le h
    obtain ⟨m, rfl, -⟩ := depth_obj_le h1
    simp [Builder.serialize, Builder.deserialize, variant]
  | .space n, m, h => by
    obtain ⟨m, rfl, h1⟩ := depth_variant_le h
    obtain ⟨m, rfl, -⟩ := depth_obj_le h1
    simp [Builder.serialize, Builder.deserialize, variant]
  | .text s, m, h => by
    obtain ⟨m, rfl, h1⟩ := depth_variant_le h
    obtain ⟨m, rfl, -⟩ := depth_obj_le h1
    simp [Builder.serialize, Builder.deserialize, variant]
  | .seq a b, m, h => by
    obtain ⟨m, rfl, h1⟩ := depth_variant_le h
    obtain ⟨m, rfl, h2⟩ := depth_obj_le h1
    simp only [List.mem_cons, List.mem_singleton, forall_eq_or_imp, forall_eq, List.not_mem_nil,
      or_false] at h2
    simp [Builder.serialize, Builder.deserialize, variant, deserialize_serialize a m h2.1,
      deserialize_serialize b m h2.2]

theorem RawEscape.deserialize_serialize (e : RawEscape) (m : Nat) (h : e.serialize.depth ≤ m) :
    RawEscape.deserialize m e.serialize = .ok e := by
  cases e <;> obtain ⟨m, rfl, h1⟩ := depth_variant_le h <;> obtain ⟨m, rfl, -⟩ := depth_obj_le h1 <;>
    simp [RawEscape.serialize, RawEscape.deserialize, variant, deEmptyStruct]

theorem Escape.deserialize_serialize (e : Escape) (m : Nat) (h : e.serialize.depth ≤ m) :
    Escape.deserialize m e.serialize = .ok e := by
  cases e <;> obtain ⟨m, rfl, h1⟩ := depth_variant_le h <;> obtain ⟨m, rfl, -⟩ := depth_obj_le h1 <;>
    simp [Escape.serialize, Escape.deserialize, variant]

theorem SegmentRaw.deserialize_serialize (s : SegmentRaw) (m : Nat) (h : s.serialize.depth ≤ m) :
    SegmentRaw.deserialize m s.serialize = .ok s := by
  cases s with
  | segmentPlain v =>
    obtain ⟨m, rfl, h1⟩ := depth_variant_le h
    obtain ⟨m, rfl, -⟩ := depth_obj_le h1
    simp [SegmentRaw.serialize, SegmentRaw.deserialize, variant]
  | segmentRawEscape c =>
    obtain ⟨m, rfl, h1⟩ := depth_variant_le h
    obtain ⟨m, rfl, h2⟩ := depth_obj_le h1
    simp [SegmentRaw.serialize, SegmentRaw.deserialize, variant,
      RawEscape.deserialize_serialize c m (h2 _ (List.mem_singleton_self _))]

theorem BlockType.deserialize_serialize (t : BlockType) (m : Nat) (h : t.serialize.depth ≤ m) :
    BlockType.deserialize m t.serialize = .ok t := by
  cases t <;> obtain ⟨m, rfl, h1⟩ := depth_variant_le h <;> obtain ⟨m, rfl, -⟩ := depth_obj_le h1 <;>
    simp [BlockType.serialize, BlockType.deserialize, variant, deEmptyStruct]

theorem PatternClass.deserialize_serialize (c : PatternClass) (m : Nat)
    (h : c.serialize.depth ≤ m) : PatternClass.deserialize m c.serialize = .ok c := by
  cases c <;> obtain ⟨m, rfl, -⟩ := depth_variant_le h <;> rfl

theorem Uuid.deserialize_serialize (u : Uuid) : Uuid.deserialize u.serialize = .ok u := by
  simp [Uuid.serialize, Uuid.deserialize, Uuid.parseStr_toHyphenated]

theorem TokenKind.ofName_name (k : TokenKind) : TokenKind.ofName k.name = some k := by
  cases k <;> rfl

/-! ## Generic containers -/

section Containers

variable {T : Type} {ser : T → Json} {de : Nat → Json → Except DeError T} {k : Nat}

theorem mapM_map_eq_ok {f : Json → Except DeError T} :
    ∀ {l : List T}, (∀ x ∈ l, f (ser x) = .ok x) → (l.map ser).mapM f = .ok l
  | [], _ => rfl
  | x :: l, h => by
    rw [List.map_cons, List.mapM_cons, h x (List.mem_cons_self _ _),
      mapM_map_eq_ok fun y hy => h y (List.mem_cons_of_mem _ hy)]
    rfl

theorem deVec_readsBack (h : ReadsBack ser de k) :
    ReadsBack (fun l => .arr (l.map ser)) (deVec de) (k + 1) := by
  intro m hm l hd
  obtain ⟨m, rfl, hl⟩ := depth_arr_le hd
  exact mapM_map_eq_ok fun x hx => h m (by omega) x (hl _ (List.mem_map_of_mem _ hx))

theorem Shifted.readsBack (h : ReadsBack ser de k) :
    ReadsBack (fun s => (s.map ser).serialize) (Shifted.deserialize de) (k + 1) := by
  intro m hm s hd
  obtain ⟨m, rfl, hs⟩ := depth_obj_le hd
  simp [Shifted.deserialize, Shifted.serialize,
    h m (by omega) s.wrapped (hs _ (List.mem_cons_self _ _))]

theorem option_readsBack (h : ReadsBack ser de k) (hnn : ∀ x, ser x ≠ .null) :
    ReadsBack (ofOption ser) (fun m => deOption (de m)) k := by
  intro m hm o hd
  refine deOption_ofOption ser (de m) hnn fun x hx => ?_
  cases hx
  exact h m hm x hd

/-- `deVec_readsBack` as a rewrite rule, its depth bound as `simp` writes it. -/
theorem ReadsBack.deVec_eq (h : ReadsBack ser de k) {m : Nat} {l : List T} (hm : m ≤ k + 1)
    (hd : depthList (l.map ser) + 1 ≤ m) : deVec de m (.arr (l.map ser)) = .ok l :=
  deVec_readsBack h m hm l (by simpa using hd)

theorem ReadsBack.deOption_eq (h : ReadsBack ser de k) (hnn : ∀ x, ser x ≠ .null) {m : Nat}
    {o : Option T} (hm : m ≤ k) (hd : (ofOption ser o).depth ≤ m) :
    deOption (de m) (ofOption ser o) = .ok o :=
  option_readsBack h hnn m hm o hd

theorem ShiftedVec1.readsBack (h : ReadsBack ser de k) :
    ReadsBack (fun v => (v.map ser).serialize) (ShiftedVec1.deserialize de) (k + 1) := by
  intro m hm v hd
  have htail : (v.map ser).tail.map Shifted.serialize = v.tail.map fun s => (s.map ser).serialize := by
    simp [ShiftedVec1.map, Shifted.map]
  simp only [ShiftedVec1.serialize, htail] at hd ⊢
  obtain ⟨m, rfl, hv⟩ := depth_obj_le hd
  simp only [List.mem_cons, List.mem_singleton, forall_eq_or_imp, forall_eq, List.not_mem_nil,
    or_false] at hv
  simp [ShiftedVec1.deserialize, ShiftedVec1.map, h m (by omega) _ hv.1,
    deVec_readsBack (Shifted.readsBack h) m (by omega) _ hv.2]

theorem BlockLine.readsBack (h : ReadsBack ser de k) (missing : Except DeError T) :
    ReadsBack (fun l => (l.map ser).serialize) (BlockLine.deserialize de missing) (k + 1) := by
  intro m hm l hd
  obtain ⟨m, rfl, hl⟩ := depth_obj_le hd
  simp [BlockLine.deserialize, BlockLine.serialize, BlockLine.map,
    h m (by omega) l.elem (hl _ (List.mem_cons_self _ _))]

theorem TextBlockLine.readsBack (h : ReadsBack ser de k) :
    ReadsBack (fun l => (l.map ser).serialize) (TextBlockLine.deserialize de) (k + 1) := by
  intro m hm l hd
  obtain ⟨m, rfl, hl⟩ := depth_obj_le hd
  simp only [TextBlockLine.serialize, TextBlockLine.map, List.mem_cons, List.mem_singleton,
    forall_eq_or_imp, forall_eq, List.not_mem_nil, or_false] at hl
  have hes : deVec (fun _ => deUsize) m (.arr (l.emptyLines.map ofFin)) = .ok l.emptyLines :=
    deVec_readsBack (k := m) (fun _ _ x _ => deUsize_ofFin x) m (by omega) _ hl.1
  simp [TextBlockLine.deserialize, TextBlockLine.serialize, TextBlockLine.map, hes,
    deVec_readsBack h m (by omega) _ hl.2]

end Containers

/-! ## Macro patterns and matches -/

section Macros

variable {T : Type} {ser : T → Json} {de : Nat → Json → Except DeError T} {k : Nat}

theorem MacroPatternRaw.readsBack (h : ReadsBack ser de k) :
    ReadsBack (fun p => (p.map ser).serialize) (MacroPatternRaw.deserialize de) (k + 1) := by
  intro m hm p
  induction p generalizing m with
  | begin | «end» | nothing =>
    intro hd
    obtain ⟨m, rfl, -⟩ := depth_variant_obj_le hd
    simp [MacroPatternRaw.deserialize, MacroPatternRaw.map, MacroPatternRaw.serialize,
      MacroPatternRaw.name, MacroPatternRaw.fields, variant, deEmptyStruct]
  | seq p q ihp ihq | or p q ihp ihq | except p q ihp ihq =>
    intro hd
    obtain ⟨m, rfl, hs⟩ := depth_variant_obj_le hd
    simp only [MacroPatternRaw.serialize, MacroPatternRaw.name, variant] at ihp ihq
    simp [MacroPatternRaw.deserialize, MacroPatternRaw.deserializePair, MacroPatternRaw.map,
      MacroPatternRaw.serialize, MacroPatternRaw.name, MacroPatternRaw.fields, variant,
      ihp m (by omega) (hs _ (.head _)), ihq m (by omega) (hs _ (.tail _ (.head _)))]
  | many p ih | build p ih =>
    intro hd
    obtain ⟨m, rfl, hs⟩ := depth_variant_obj_le hd
    simp only [MacroPatternRaw.serialize, MacroPatternRaw.name, variant] at ih
    simp [MacroPatternRaw.deserialize, MacroPatternRaw.deserializeOne, MacroPatternRaw.map,
      MacroPatternRaw.serialize, MacroPatternRaw.name, MacroPatternRaw.fields, variant,
      ih m (by omega) (hs _ (.head _))]
  | err s p ih | tag s p ih =>
    intro hd
    obtain ⟨m, rfl, hs⟩ := depth_variant_obj_le hd
    simp only [MacroPatternRaw.serialize, MacroPatternRaw.name, variant] at ih
    simp [MacroPatternRaw.deserialize, MacroPatternRaw.deserializeNamed, MacroPatternRaw.map,
      MacroPatternRaw.serialize, MacroPatternRaw.name, MacroPatternRaw.fields, variant,
      ih m (by omega) (hs _ (.tail _ (.head _)))]
  | cls c p ih =>
    intro hd
    obtain ⟨m, rfl, hs⟩ := depth_variant_obj_le hd
    simp only [MacroPatternRaw.serialize, MacroPatternRaw.name, variant] at ih
    simp [MacroPatternRaw.deserialize, MacroPatternRaw.deserializeCls, MacroPatternRaw.map,
      MacroPatternRaw.serialize, MacroPatternRaw.name, MacroPatternRaw.fields, variant,
      PatternClass.deserialize_serialize c m (hs _ (.head _)),
      ih m (by omega) (hs _ (.tail _ (.head _)))]
  | tok s a =>
    intro hd
    obtain ⟨m, rfl, hs⟩ := depth_variant_obj_le hd
    simp [MacroPatternRaw.deserialize, MacroPatternRaw.deserializeTok, MacroPatternRaw.map,
      MacroPatternRaw.serialize, MacroPatternRaw.name, MacroPatternRaw.fields, variant,
      h m (by omega) a (hs _ (.tail _ (.head _)))]
  | opr s p =>
    intro hd
    obtain ⟨m, rfl, -⟩ := depth_variant_obj_le hd
    simp [MacroPatternRaw.deserialize, MacroPatternRaw.deserializeOpr, MacroPatternRaw.map,
      MacroPatternRaw.serialize, MacroPatternRaw.name, MacroPatternRaw.fields, variant]
  | token kind s =>
    intro hd
    obtain ⟨m, rfl, -⟩ := depth_variant_obj_le hd
    cases kind <;>
      simp [MacroPatternRaw.deserialize, MacroPatternRaw.deserializeSpaced, MacroPatternRaw.map,
        MacroPatternRaw.serialize, MacroPatternRaw.name, MacroPatternRaw.fields, variant,
        TokenKind.name, TokenKind.ofName]

/-- The same, for a pattern written as a member of a struct that serde has already entered. -/
theorem MacroPatternRaw.deserialize_obj (h : ReadsBack ser de k) {m : Nat} (hm : m ≤ k + 1)
    (p : MacroPatternRaw T) (hd : (p.map ser).fields.depth + 1 ≤ m) :
    MacroPatternRaw.deserialize de m (.obj [((p.map ser).name, (p.map ser).fields)]) = .ok p :=
  MacroPatternRaw.readsBack h m hm p (by simp [MacroPatternRaw.serialize]; omega)

theorem MacroPatternMatchRaw.deserialize_obj (key : String) (p : Json) (m : Nat) :
    MacroPatternMatchRaw.deserialize de (m + 1) (.obj [(key, p)]) =
      MacroPatternMatchRaw.deserializeFields de key m p := by
  simp [MacroPatternMatchRaw.deserialize]

theorem MacroPatternMatchRaw.deserializePairOf_arr {x y : Json} {a b : MacroPatternMatchRaw T}
    {m : Nat} (ha : MacroPatternMatchRaw.deserialize de m x = .ok a)
    (hb : MacroPatternMatchRaw.deserialize de m y = .ok b) :
    MacroPatternMatchRaw.deserializePairOf de (m + 1) (.arr [x, y]) = .ok (a, b) := by
  simp [MacroPatternMatchRaw.deserializePairOf, ha, hb]

theorem MacroPatternMatchRaw.deserializeEither_left {x : Json} {a : MacroPatternMatchRaw T}
    {m : Nat} (ha : MacroPatternMatchRaw.deserialize de m x = .ok a) :
    MacroPatternMatchRaw.deserializeEither de (m + 2) (Either.serialize (.left x)) =
      .ok (.left a) := by
  simp [MacroPatternMatchRaw.deserializeEither, Either.serialize, variant, ha]

theorem MacroPatternMatchRaw.deserializeEither_right {x : Json} {a : MacroPatternMatchRaw T}
    {m : Nat} (ha : MacroPatternMatchRaw.deserialize de m x = .ok a) :
    MacroPatternMatchRaw.deserializeEither de (m + 2) (Either.serialize (.right x)) =
      .ok (.right a) := by
  simp [MacroPatternMatchRaw.deserializeEither, Either.serialize, variant, ha]

theorem MacroPatternRaw.deserializePair_obj {P Q : Json} {p q : MacroPatternRaw T} {m : Nat}
    {n₁ n₂ : String} (hp : MacroPatternRaw.deserialize de m P = .ok p)
    (hq : MacroPatternRaw.deserialize de m Q = .ok q) (hne : n₁ ≠ n₂) :
    MacroPatternRaw.deserializePair de n₁ n₂ (m + 1) (.obj [(n₁, P), (n₂, Q)]) = .ok (p, q) := by
  simp [MacroPatternRaw.deserializePair, hne, hp, hq]

theorem MacroPatternRaw.deserializeOne_obj {P : Json} {p : MacroPatternRaw T} {m : Nat}
    (hp : MacroPatternRaw.deserialize de m P = .ok p) :
    MacroPatternRaw.deserializeOne de (m + 1) (.obj [("pat", P)]) = .ok p := by
  simp [MacroPatternRaw.deserializeOne, hp]

theorem MacroPatternRaw.deserializeNamed_obj {P : Json} {p : MacroPatternRaw T} {m : Nat}
    {n s : String} (hp : MacroPatternRaw.deserialize de m P = .ok p) (hne : n ≠ "pat") :
    MacroPatternRaw.deserializeNamed de n (m + 1) (.obj [(n, .str s), ("pat", P)]) = .ok (s, p) := by
  simp [MacroPatternRaw.deserializeNamed, hne, hp]

theorem MacroPatternRaw.deserializeCls_obj {P : Json} {p : MacroPatternRaw T} {c : PatternClass}
    {m : Nat} (hc : c.serialize.depth ≤ m) (hp : MacroPatternRaw.deserialize de m P = .ok p) :
    MacroPatternRaw.deserializeCls de (m + 1) (.obj [("cls", c.serialize), ("pat", P)]) =
      .ok (c, p) := by
  simp [MacroPatternRaw.deserializeCls, PatternClass.deserialize_serialize c m hc, hp]

/-- Each match is read back at every level its document fits in: by strong induction on the
level, since every nested match sits at least two levels further down. -/
theorem MacroPatternMatchRaw.readsBack (h : ReadsBack ser de k) :
    ReadsBack (fun e => (e.map ser).serialize) (MacroPatternMatchRaw.deserialize de) (k + 1) := by
  intro m
  induction m using Nat.strong_induction_on with
  | _ m ih =>
  intro hm e hd
  beta_reduce at ih hd ⊢
  have hpat := fun m (hm : m ≤ k + 1) (p : MacroPatternRaw T) hd =>
    MacroPatternRaw.deserialize_obj h (m := m) hm p hd
  cases e with
  | begin | «end» | nothing =>
    simp [MacroPatternMatchRaw.map, MacroPatternMatchRaw.serialize] at hd
    obtain ⟨m, rfl⟩ : ∃ j, m = j + 3 := ⟨m - 3, by omega⟩
    simp [MacroPatternMatchRaw.deserialize_obj, MacroPatternMatchRaw.deserializeFields,
      MacroPatternMatchRaw.map, MacroPatternMatchRaw.serialize, variant, deEmptyStruct]
  | seq p q ab =>
    obtain ⟨a, b⟩ := ab
    simp [MacroPatternMatchRaw.map, MacroPatternMatchRaw.serialize, MacroPatternRaw.fields] at hd
    obtain ⟨m, rfl⟩ : ∃ j, m = j + 3 := ⟨m - 3, by omega⟩
    simp [MacroPatternMatchRaw.deserialize_obj, MacroPatternMatchRaw.deserializeFields,
      MacroPatternMatchRaw.map, MacroPatternMatchRaw.serialize, MacroPatternRaw.fields, variant,
      MacroPatternRaw.deserializePair_obj (hpat m (by omega) p (by omega))
        (hpat m (by omega) q (by omega)),
      MacroPatternMatchRaw.deserializePairOf_arr (ih m (by omega) (by omega) a (by omega))
        (ih m (by omega) (by omega) b (by omega))]
  | or p q ab =>
    cases ab with
    | left a =>
      simp [MacroPatternMatchRaw.map, MacroPatternMatchRaw.serialize, MacroPatternRaw.fields,
        Either.serialize] at hd
      obtain ⟨m, rfl⟩ : ∃ j, m = j + 4 := ⟨m - 4, by omega⟩
      simp [MacroPatternMatchRaw.deserialize_obj, MacroPatternMatchRaw.deserializeFields,
        MacroPatternMatchRaw.map, MacroPatternMatchRaw.serialize, MacroPatternRaw.fields, variant,
        MacroPatternRaw.deserializePair_obj (hpat (m + 1) (by omega) p (by omega))
          (hpat (m + 1) (by omega) q (by omega)),
        MacroPatternMatchRaw.deserializeEither_left (ih m (by omega) (by omega) a (by omega))]
    | right a =>
      simp [MacroPatternMatchRaw.map, MacroPatternMatchRaw.serialize, MacroPatternRaw.fields,
        Either.serialize] at hd
      obtain ⟨m, rfl⟩ : ∃ j, m = j + 4 := ⟨m - 4, by omega⟩
      simp [MacroPatternMatchRaw.deserialize_obj, MacroPatternMatchRaw.deserializeFields,
        MacroPatternMatchRaw.map, MacroPatternMatchRaw.serialize, MacroPatternRaw.fields, variant,
        MacroPatternRaw.deserializePair_obj (hpat (m + 1) (by omega) p (by omega))
          (hpat (m + 1) (by omega) q (by omega)),
        MacroPatternMatchRaw.deserializeEither_right (ih m (by omega) (by omega) a (by omega))]
  | many p es =>
    simp [MacroPatternMatchRaw.map, MacroPatternMatchRaw.serialize, MacroPatternRaw.fields] at hd
    obtain ⟨m, rfl⟩ : ∃ j, m = j + 3 := ⟨m - 3, by omega⟩
    have hes : MacroPatternMatchRaw.deserializeList de (m + 1)
        (.arr (MacroPatternMatchRaw.serializeList (MacroPatternMatchRaw.mapList ser es))) = .ok es := by
      rw [MacroPatternMatchRaw.deserializeList, MacroPatternMatchRaw.serializeList_mapList]
      refine mapM_map_eq_ok fun x hx => ih m (by omega) (by omega) x ?_
      have := le_depthList_of_mem (List.mem_map_of_mem (fun e => (e.map ser).serialize) hx)
      rw [MacroPatternMatchRaw.serializeList_mapList] at hd
      beta_reduce at this
      omega
    simp [MacroPatternMatchRaw.deserialize_obj, MacroPatternMatchRaw.deserializeFields,
      MacroPatternMatchRaw.map, MacroPatternMatchRaw.serialize, MacroPatternRaw.fields, variant,
      MacroPatternRaw.deserializeOne_obj (hpat m (by omega) p (by omega)), hes]
  | except n p e =>
    simp [MacroPatternMatchRaw.map, MacroPatternMatchRaw.serialize, MacroPatternRaw.fields] at hd
    obtain ⟨m, rfl⟩ : ∃ j, m = j + 3 := ⟨m - 3, by omega⟩
    simp [MacroPatternMatchRaw.deserialize_obj, MacroPatternMatchRaw.deserializeFields,
      MacroPatternMatchRaw.map, MacroPatternMatchRaw.serialize, MacroPatternRaw.fields, variant,
      MacroPatternRaw.deserializePair_obj (hpat m (by omega) n (by omega))
        (hpat m (by omega) p (by omega)),
      ih (m + 1) (by omega) (by omega) e (by omega)]
  | build p e =>
    simp [MacroPatternMatchRaw.map, MacroPatternMatchRaw.serialize, MacroPatternRaw.fields] at hd
    obtain ⟨m, rfl⟩ : ∃ j, m = j + 3 := ⟨m - 3, by omega⟩
    simp [MacroPatternMatchRaw.deserialize_obj, MacroPatternMatchRaw.deserializeFields,
      MacroPatternMatchRaw.map, MacroPatternMatchRaw.serialize, MacroPatternRaw.fields, variant,
      MacroPatternRaw.deserializeOne_obj (hpat m (by omega) p (by omega)),
      Shifted.readsBack h (m + 1) (by omega) e (by beta_reduce; omega)]
  | err msg p e =>
    simp [MacroPatternMatchRaw.map, MacroPatternMatchRaw.serialize, MacroPatternRaw.fields] at hd
    obtain ⟨m, rfl⟩ : ∃ j, m = j + 3 := ⟨m - 3, by omega⟩
    simp [MacroPatternMatchRaw.deserialize_obj, MacroPatternMatchRaw.deserializeFields,
      MacroPatternMatchRaw.map, MacroPatternMatchRaw.serialize, MacroPatternRaw.fields, variant,
      MacroPatternRaw.deserializeNamed_obj (hpat m (by omega) p (by omega)),
      Shifted.readsBack h (m + 1) (by omega) e (by beta_reduce; omega)]
  | tag t p e =>
    simp [MacroPatternMatchRaw.map, MacroPatternMatchRaw.serialize, MacroPatternRaw.fields] at hd
    obtain ⟨m, rfl⟩ : ∃ j, m = j + 3 := ⟨m - 3, by omega⟩
    simp [MacroPatternMatchRaw.deserialize_obj, MacroPatternMatchRaw.deserializeFields,
      MacroPatternMatchRaw.map, MacroPatternMatchRaw.serialize, MacroPatternRaw.fields, variant,
      MacroPatternRaw.deserializeNamed_obj (hpat m (by omega) p (by omega)),
      ih (m + 1) (by omega) (by omega) e (by omega)]
  | cls c p e =>
    simp [MacroPatternMatchRaw.map, MacroPatternMatchRaw.serialize, MacroPatternRaw.fields] at hd
    obtain ⟨m, rfl⟩ : ∃ j, m = j + 3 := ⟨m - 3, by omega⟩
    simp [MacroPatternMatchRaw.deserialize_obj, MacroPatternMatchRaw.deserializeFields,
      MacroPatternMatchRaw.map, MacroPatternMatchRaw.serialize, MacroPatternRaw.fields, variant,
      MacroPatternRaw.deserializeCls_obj (c := c) (by omega) (hpat m (by omega) p (by omega)),
      ih (m + 1) (by omega) (by omega) e (by omega)]
  | tok s a e =>
    simp [MacroPatternMatchRaw.map, MacroPatternMatchRaw.serialize, MacroPatternRaw.fields] at hd
    obtain ⟨m, rfl⟩ : ∃ j, m = j + 3 := ⟨m - 3, by omega⟩
    have hpat : MacroPatternRaw.deserializeTok de (m + 1)
        (MacroPatternRaw.tok s (ser a)).fields = .ok (s, a) := by
      simp [MacroPatternRaw.deserializeTok, MacroPatternRaw.fields, h m (by omega) a (by omega)]
    simp [MacroPatternMatchRaw.deserialize_obj, MacroPatternMatchRaw.deserializeFields,
      MacroPatternMatchRaw.map, MacroPatternMatchRaw.serialize, variant, hpat,
      Shifted.readsBack h (m + 1) (by omega) e (by beta_reduce; omega)]
  | opr s mp e =>
    simp [MacroPatternMatchRaw.map, MacroPatternMatchRaw.serialize, MacroPatternRaw.fields] at hd
    obtain ⟨m, rfl⟩ : ∃ j, m = j + 3 := ⟨m - 3, by omega⟩
    have hpat : MacroPatternRaw.deserializeOpr (m + 1) (MacroPatternRaw.opr s mp).fields =
        .ok (s, mp) := by
      simp [MacroPatternRaw.deserializeOpr, MacroPatternRaw.fields]
    simp [MacroPatternMatchRaw.deserialize_obj, MacroPatternMatchRaw.deserializeFields,
      MacroPatternMatchRaw.map, MacroPatternMatchRaw.serialize, variant, hpat,
      Shifted.readsBack h (m + 1) (by omega) e (by beta_reduce; omega)]
  | token kind s e =>
    simp [MacroPatternMatchRaw.map, MacroPatternMatchRaw.serialize, MacroPatternRaw.fields] at hd
    obtain ⟨m, rfl⟩ : ∃ j, m = j + 3 := ⟨m - 3, by omega⟩
    have hpat : MacroPatternRaw.deserializeSpaced (m + 1) (MacroPatternRaw.token kind s).fields =
        .ok s := by
      simp [MacroPatternRaw.deserializeSpaced, MacroPatternRaw.fields]
    cases kind <;>
      simp [MacroPatternMatchRaw.deserialize_obj, MacroPatternMatchRaw.deserializeFields,
        MacroPatternMatchRaw.map, MacroPatternMatchRaw.serialize, variant, hpat, TokenKind.name,
        TokenKind.ofName, Shifted.readsBack h (m + 1) (by omega) e (by beta_reduce; omega)]

theorem MacroPatternMatchRaw.serialize_ne_null (e : MacroPatternMatchRaw Json) :
    e.serialize ≠ .null := by
  rcases e with _ | _ | _ | _ | ⟨_, _, _ | _⟩ <;> simp [MacroPatternMatchRaw.serialize, variant]

theorem MacroMatchSegment.readsBack (h : ReadsBack ser de k) :
    ReadsBack (fun s => (s.map ser).serialize) (MacroMatchSegment.deserialize de) (k + 1) := by
  intro m hm s hd
  obtain ⟨m, rfl, hs⟩ := depth_obj_le hd
  simp [MacroMatchSegment.deserialize, MacroMatchSegment.serialize, MacroMatchSegment.map,
    h m (by omega) s.head (hs _ (.head _)),
    (MacroPatternMatchRaw.readsBack h).eq (x := s.body) (by omega) (hs _ (.tail _ (.head _)))]

theorem MacroAmbiguousSegment.readsBack (h : ReadsBack ser de k) :
    ReadsBack (fun s => (s.map ser).serialize) (MacroAmbiguousSegment.deserialize de) (k + 1) := by
  intro m hm s hd
  obtain ⟨m, rfl, hs⟩ := depth_obj_le hd
  simp only [MacroAmbiguousSegment.serialize, MacroAmbiguousSegment.map, ofOption_map,
    List.mem_cons, List.mem_singleton, forall_eq_or_imp, forall_eq, List.not_mem_nil,
    or_false] at hs ⊢
  simp [MacroAmbiguousSegment.deserialize, h m (by omega) s.head hs.1,
    (Shifted.readsBack h).deOption_eq (fun _ h => by cases h) (by omega) hs.2]

/-- A tree is read back at every level it fits in, by strong induction on the level. -/
theorem Tree.readsBack (h : ReadsBack ser de k) :
    ReadsBack (fun t => (t.map ser).serialize) (Tree.deserialize de) (k + 1) := by
  intro m
  induction m using Nat.strong_induction_on with
  | _ m ih =>
  intro hm t hd
  beta_reduce at ih hd ⊢
  obtain ⟨v, bs⟩ := t
  simp only [Tree.map, Tree.serialize, Tree.serializeBranches_mapBranches] at hd ⊢
  obtain ⟨m, rfl, hs⟩ := depth_obj_le hd
  have hbs : Tree.deserializeBranches de m
      (.arr (bs.map fun b => .arr [ser b.1, (b.2.map ser).serialize])) = .ok bs := by
    obtain ⟨m, rfl, hl⟩ := depth_arr_le (hs _ (.tail _ (.head _)))
    rw [Tree.deserializeBranches]
    refine mapM_map_eq_ok fun b hb => ?_
    obtain ⟨j, rfl, hb⟩ := depth_arr_le (hl _ (List.mem_map_of_mem _ hb))
    simp [Tree.deserializeBranch, h j (by omega) b.1 (hb _ (.head _)),
      ih j (by omega) (by omega) b.2 (hb _ (.tail _ (.head _)))]
  have hv : deOption (deEmptyStruct "Unit" () m) (ofOption (fun _ => .obj []) v) = .ok v := by
    cases v with
    | none => rfl
    | some u =>
      have := hs _ (.head _)
      obtain ⟨m, rfl⟩ : ∃ j, m = j + 1 := ⟨m - 1, by simp [ofOption] at this; omega⟩
      simp [deEmptyStruct, deOption, ofOption]
  simp [Tree.deserialize, hv, hbs]

theorem Match.readsBack (h : ReadsBack ser de k) :
    ReadsBack (fun x => (x.map ser).serialize) (Match.deserialize de) (k + 1) := by
  intro m hm x hd
  obtain ⟨m, rfl, hs⟩ := depth_obj_le hd
  simp only [Match.serialize, Match.map, ofOption_map, ShiftedVec1.map_map, Function.comp_def,
    List.mem_cons, List.mem_singleton, forall_eq_or_imp, forall_eq, List.not_mem_nil,
    or_false] at hs ⊢
  simp [Match.deserialize,
    (MacroPatternMatchRaw.readsBack h).deOption_eq
      (fun _ => MacroPatternMatchRaw.serialize_ne_null _) (by omega) hs.1,
    (ShiftedVec1.readsBack (MacroMatchSegment.readsBack h)).eq (by omega) hs.2.1,
    h m (by omega) x.resolved hs.2.2]

theorem Ambiguous.readsBack (h : ReadsBack ser de k) :
    ReadsBack (fun x => (x.map ser).serialize) (Ambiguous.deserialize de) (k + 1) := by
  intro m hm x hd
  obtain ⟨m, rfl, hs⟩ := depth_obj_le hd
  simp only [Ambiguous.serialize, Ambiguous.map, ShiftedVec1.map_map, Function.comp_def,
    List.mem_cons, List.mem_singleton, forall_eq_or_imp, forall_eq, List.not_mem_nil,
    or_false] at hs ⊢
  simp [Ambiguous.deserialize,
    (ShiftedVec1.readsBack (MacroAmbiguousSegment.readsBack h)).eq (by omega) hs.1,
    (Tree.readsBack h).eq (by omega) hs.2]

end Macros

end Enso
