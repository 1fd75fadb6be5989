import Enso.Ast.ReadsBack

/-!
# The tree reads back what it writes

`Serialize for Ast` writes the shape, the id and the span; `Deserialize for Ast` reads them
back through its visitor. The readers of `Shape` are the containers' readers at the level
below, so the round trip is one induction on the level.

* `Shape.readsBack` — every shape is read back, given that its children are.
* `Ast.readsBack` — every tree is read back at every level its document fits in.
* `Ast.fromStr_serialize` — the round trip through text, for a document that nests at most 127
  arrays and objects.
* `Ast.fromValue_serialize` — there is none through a `serde_json::Value`: the visitor asks for
  borrowed keys, which a `Value` never lends, so every tree's document is refused.
* `Ast.nestedGroups` — trees of every depth, so the limit is reached: `serde_json::to_string`
  writes a document that `serde_json::from_str` refuses.
-/

namespace Enso

open Json Fields

/-! ## Shapes and the tree -/

theorem SegmentRaw.readsBack {k : Nat} :
    ReadsBack SegmentRaw.serialize SegmentRaw.deserialize k :=
  fun m _ s hd => SegmentRaw.deserialize_serialize s m hd

theorem usize_readsBack {k : Nat} : ReadsBack (ofFin (n := usizeBound)) (fun _ => deUsize) k :=
  fun _ _ x _ => deUsize_ofFin x

theorem string_readsBack {k : Nat} : ReadsBack Json.str (fun _ => deString) k :=
  fun _ _ _ _ => rfl

theorem Ast.serialize_ne_null (a : Ast) : a.serialize ≠ .null := by
  cases a; simp [Ast.serialize]

section Shapes

variable {deA : Nat → Json → Except DeError Ast} {k : Nat}

theorem SegmentFmt.readsBack (hA : ReadsBack Ast.serialize deA k) :
    ReadsBack SegmentFmt.serialize (SegmentFmt.deserialize deA) (k + 1) := by
  intro m hm s hd
  cases s <;> simp [SegmentFmt.serialize, Ast.serializeOption_eq] at hd <;>
    obtain ⟨m, rfl⟩ : ∃ j, m = j + 2 := ⟨m - 2, by omega⟩ <;>
    simp (disch := omega) [SegmentFmt.deserialize, SegmentFmt.serialize, variant,
      Ast.serializeOption_eq, hA.deOption_eq Ast.serialize_ne_null,
      RawEscape.deserialize_serialize, Escape.deserialize_serialize]

theorem TextLine.readsBack (hA : ReadsBack Ast.serialize deA k) :
    ReadsBack TextLine.serialize (TextLine.deserialize deA) (k + 1) := by
  intro m hm l hd
  cases l <;> simp [TextLine.serialize, SegmentFmt.serializeList_eq] at hd <;>
    obtain ⟨m, rfl⟩ : ∃ j, m = j + 2 := ⟨m - 2, by omega⟩ <;>
    simp (disch := omega) [TextLine.deserialize, TextLine.serialize, variant,
      SegmentFmt.serializeList_eq, (SegmentRaw.readsBack (k := m)).deVec_eq,
      (SegmentFmt.readsBack hA).deVec_eq]

/-- Every shape is read back at every level it fits in, given that its child Asts are. The
variant's name is dispatched on by unfolding (`show`); each payload struct is then read field by
field. -/
theorem Shape.readsBack (hA : ReadsBack Ast.serialize deA k) :
    ReadsBack Shape.serialize (Shape.deserialize deA) (k + 1) := by
  intro m hm s hd
  have hfirst : ∀ {j : Nat} {f : BlockLine Ast}, j ≤ k + 1 →
      (BlockLine.serialize ⟨f.elem.serialize, f.off⟩).depth ≤ j →
      BlockLine.deserialize deA (.error (.missingField "elem")) j
        (BlockLine.serialize ⟨f.elem.serialize, f.off⟩) = .ok f :=
    fun hj hd => BlockLine.readsBack hA _ _ hj _ hd
  cases s
  case «match» s as =>
    have hlen : s.asts.length ≤ as.toList.length := by simp
    simp only [Shape.serialize, Asts.serialize_eq, Match.fill_map _ s hlen] at hd ⊢
    obtain ⟨m, rfl, hp⟩ := depth_variant_le hd
    show endVariant [] (Shape.ofMatch <$> Match.deserialize deA _ _) = _
    simp [(Match.readsBack hA).eq (by omega) hp, Shape.match_eq_ofMatch]
  case ambiguous s as =>
    have hlen : s.asts.length ≤ as.toList.length := by simp
    simp only [Shape.serialize, Asts.serialize_eq, Ambiguous.fill_map _ s hlen] at hd ⊢
    obtain ⟨m, rfl, hp⟩ := depth_variant_le hd
    show endVariant [] (Shape.ofAmbiguous <$> Ambiguous.deserialize deA _ _) = _
    simp [(Ambiguous.readsBack hA).eq (by omega) hp, Shape.ambiguous_eq_ofAmbiguous]
  all_goals
    simp [Shape.serialize, Ast.serializeList_eq, Ast.serializeOption_eq, Ast.serializeLines_eq,
      SegmentFmt.serializeList_eq, SegmentFmt.serializeBlockLines_eq] at hd
    obtain ⟨m, rfl⟩ : ∃ j, m = j + 2 := ⟨m - 2, by omega⟩
    show endVariant [] (Fields.deserialize _ _ _ _) = _
    simp (disch := omega) [Shape.serialize, variant,
      Ast.serializeList_eq, Ast.serializeOption_eq, Ast.serializeLines_eq,
      SegmentFmt.serializeList_eq, SegmentFmt.serializeBlockLines_eq, hfirst,
      hA.eq, hA.deVec_eq, hA.deOption_eq Ast.serialize_ne_null,
      Builder.deserialize_serialize, BlockType.deserialize_serialize, (TextLine.readsBack hA).eq,
      (SegmentRaw.readsBack (k := m)).deVec_eq, (SegmentFmt.readsBack hA).deVec_eq,
      (TextBlockLine.readsBack (SegmentRaw.readsBack (k := m))).deVec_eq,
      (TextBlockLine.readsBack (SegmentFmt.readsBack hA)).deVec_eq,
      (BlockLine.readsBack (option_readsBack hA Ast.serialize_ne_null) (.ok none)).deVec_eq,
      (usize_readsBack (k := m)).deVec_eq, (string_readsBack (k := m)).deVec_eq]

end Shapes

/-! ## The tree -/

namespace Ast

theorem deserializeUpTo_of_le : ∀ {b m : Nat} (j : Json), m ≤ b →
    deserializeUpTo Key.lends b m j = deserialize m j
  | 0, m, j, h => by obtain rfl : m = 0 := by omega
                     rfl
  | b + 1, m, j, h => by
    by_cases hm : m ≤ b
    · simp only [deserializeUpTo, if_pos hm, deserializeUpTo_of_le j hm]
    · obtain rfl : m = b + 1 := by omega
      rfl

/-- An object is read by the visitor, its shape one level down. -/
theorem deserialize_obj (b : Nat) (ms : List (String × Json)) :
    deserialize (b + 1) (.obj ms) =
      visitMap Key.lends (Shape.deserialize (deserializeUpTo Key.lends b) b) ms none none none := by
  simp [deserialize, deserializeUpTo]

theorem serialize_depth_pos (x : Ast) : 0 < x.serialize.depth := by
  obtain ⟨s, id, span⟩ := x
  simp [Ast.serialize]

/-- The visitor reads the members the tree writes: `shape`, the `id` when there is one, and
`span`. -/
theorem visitMap_serialize {deShape : Json → Except DeError Shape} {s : Shape}
    (hs : deShape s.serialize = .ok s) (id : Option Uuid) (span : Usize) :
    visitMap Key.lends deShape ([("shape", s.serialize)] ++ (id.map fun u => ("id", u.serialize)).toList ++
      [("span", ofFin span)]) none none none = .ok (Ast.mk s id span) := by
  cases id <;>
    simp [visitMap, hs, newWithSpan, deOption, Uuid.serialize, Uuid.deserialize,
      Uuid.parseStr_toHyphenated]

/-- **The tree reads back what it writes**, at every level its document fits in: by
induction on the level, with the shape read by `Shape.readsBack` from the Asts one level down. -/
theorem readsBack : ∀ k, ReadsBack Ast.serialize Ast.deserialize k
  | 0 => fun m hm x hd => absurd hd (by have := serialize_depth_pos x; omega)
  | k + 1 => fun m hm x hd => by
    rcases Nat.lt_or_ge m (k + 1) with h | h
    · exact readsBack k m (by omega) x hd
    obtain rfl : m = k + 1 := by omega
    have hk : ReadsBack Ast.serialize (deserializeUpTo Key.lends k) k := fun m hm x hd => by
      rw [deserializeUpTo_of_le _ hm]
      exact readsBack k m hm x hd
    obtain ⟨s, id, span⟩ := x
    have hs : s.serialize.depth ≤ k := by
      simp [Ast.serialize] at hd
      omega
    simp only [deserialize, deserializeUpTo, Nat.not_succ_le_self, if_false, Ast.serialize]
    exact visitMap_serialize ((Shape.readsBack hk).eq (by omega) hs) id span

/-- With `b` levels left, the visitor reads back every shape whose document fits in them. -/
theorem deserializeShape_serialize {b : Nat} {s : Shape} (hs : s.serialize.depth ≤ b) :
    Shape.deserialize (deserializeUpTo Key.lends b) b s.serialize = .ok s := by
  have hk : ReadsBack Ast.serialize (deserializeUpTo Key.lends b) b := fun m hm x hd => by
    rw [deserializeUpTo_of_le _ hm]
    exact readsBack b m hm x hd
  exact (Shape.readsBack hk).eq (Nat.le_succ b) hs

/-- The `id` member is written exactly when the node has an id, and never as `null`. -/
theorem serialize_id_member (x : Ast) :
    ∃ ms, x.serialize = .obj ms ∧ ("id" ∈ ms.map Prod.fst ↔ x.id.isSome) ∧ ("id", .null) ∉ ms := by
  obtain ⟨s, id, span⟩ := x
  refine ⟨_, rfl, ?_⟩
  cases id <;> simp [Ast.id, Uuid.serialize]

/-- **Round trip through text.** A tree whose document nests at most 127 arrays and objects
is read back by `serde_json::from_str`; its `id` member is there exactly when it has an id. -/
theorem fromStr_serialize (x : Ast) (h : x.serialize.depth ≤ 127) :
    fromStr x.serialize = .ok x ∧
      ∃ ms, x.serialize = .obj ms ∧ ("id" ∈ ms.map Prod.fst ↔ x.id.isSome) ∧ ("id", .null) ∉ ms :=
  ⟨readsBack 127 127 le_rfl x h, serialize_id_member x⟩

/-- `n` groups nested around a blank: the tree of `((…(_)…))`, up to its spans. -/
def nestedGroups : Nat → Ast
  | 0 => newWithSpan .blank none 1
  | n + 1 => newWithSpan (.group (some (nestedGroups n))) none 0

/-- Each group costs three levels: the node, its shape's variant, and the variant's struct. -/
theorem depth_nestedGroups (n : Nat) : (nestedGroups n).serialize.depth = 3 * n + 3 := by
  induction n with
  | zero => simp [nestedGroups, newWithSpan, Ast.serialize, Shape.serialize]
  | succ n ih =>
    simp [nestedGroups, newWithSpan, Ast.serialize, Shape.serialize, Ast.serializeOption, ih]
    omega

/-- Reading `n` nested groups with fewer levels than their document needs fails with
`RecursionLimitExceeded`. -/
theorem deserialize_nestedGroups : ∀ (n m : Nat), m < 3 * n + 3 →
    deserialize m (nestedGroups n).serialize = .error .recursionLimitExceeded
  | n, 0, _ | n, 1, _ | n, 2, _ => by
    cases n <;> simp [deserialize, deserializeUpTo, nestedGroups, newWithSpan, Ast.serialize,
      Shape.serialize, visitMap, variant, Shape.deserialize, refuseStruct, refuseEnum,
      deEmptyStruct, Fields.deserialize]
  | 0, m + 3, h => by omega
  | n + 1, m + 3, h => by
    have ih := deserialize_nestedGroups n m (by omega)
    rw [← deserializeUpTo_of_le _ (Nat.le_add_right m 2)] at ih
    obtain ⟨ms, hms, -⟩ := serialize_id_member (nestedGroups n)
    rw [hms] at ih
    simp [hms, deserialize_obj, nestedGroups, newWithSpan, Ast.serialize, Shape.serialize, visitMap,
      variant, Shape.deserialize, Ast.serializeOption, deOption, ih]

/-- The tree of 42 nested groups, 129 levels deep, is not read back from its own text. -/
theorem fromStr_nestedGroups : fromStr (nestedGroups 42).serialize = .error .recursionLimitExceeded :=
  deserialize_nestedGroups 42 127 (by decide)

/-- 41 nested groups, 126 levels deep, are. -/
theorem fromStr_serialize_nestedGroups :
    (nestedGroups 41).serialize.depth ≤ 127 ∧
      (fromStr (nestedGroups 41).serialize = .ok (nestedGroups 41) ∧
        ∃ ms, (nestedGroups 41).serialize = .obj ms ∧
          ("id" ∈ ms.map Prod.fst ↔ (nestedGroups 41).id.isSome) ∧ ("id", .null) ∉ ms) :=
  have h : (nestedGroups 41).serialize.depth ≤ 127 := by rw [depth_nestedGroups]; decide
  ⟨h, fromStr_serialize _ h⟩

end Ast

end Enso
