import Enso.Ast.Fits
import Enso.Ast.RoundTrip

/-!
# Written back, read again

**Theorem (`Ast.deserialize_serialize_of_ok`).** A tree the reader accepts with `n` levels
left is written back as a document that the reader, with the same `n` levels, reads as that
tree again. So `serde_json::to_string` after `serde_json::from_str` gives a document that
`from_str` accepts, and reading it gives the same tree: loading and saving again changes
nothing, whatever the accepted document was (members in any order, `"id": null`, members a
struct reader skips).

The proof is `ReadsBack` (`Ast.readsBack`) at the depth `Fits` (`Ast.fits`) bounds: what the
reader reads with `n` levels is written within `n` levels. `Ast.fits` is proved as
`Ast.readsBack` is, by induction on the levels, with the shape read by `Shape.fits` from the
Asts one level down; `Ast.visitMap_reads` says the visitor's shape is one its shape reader read.
-/

namespace Enso

open Json Fields

/-! ## Macro nodes -/

/-- A `Match` node is written as its payload is. -/
theorem Shape.serialize_ofMatch (m : Match Ast) :
    (Shape.ofMatch m).serialize = variant "Match" (m.map Ast.serialize).serialize := by
  have hlen : (m.map fun _ => ()).asts.length ≤ m.asts.length := by simp [Match.asts_map]
  have hfill : (m.map fun _ => ()).fill m.asts = m := by
    simpa using Match.fill_erase_asts m []
  simp only [Shape.ofMatch, Shape.serialize, Asts.serialize_eq, Asts.toList_ofList,
    Match.fill_map _ _ hlen, hfill]

/-- An `Ambiguous` node is written as its payload is. -/
theorem Shape.serialize_ofAmbiguous (a : Ambiguous Ast) :
    (Shape.ofAmbiguous a).serialize = variant "Ambiguous" (a.map Ast.serialize).serialize := by
  have hlen : (a.map fun _ => ()).asts.length ≤ a.asts.length := by simp [Ambiguous.asts_map]
  have hfill : (a.map fun _ => ()).fill a.asts = a := by
    simpa using Ambiguous.fill_erase_asts a []
  simp only [Shape.ofAmbiguous, Shape.serialize, Asts.serialize_eq, Asts.toList_ofList,
    Ambiguous.fill_map _ _ hlen, hfill]

/-! ## Shapes -/

section Shapes

variable {deA : Nat → Json → Except DeError Ast} {k : Nat}

theorem SegmentFmt.fits (hA : Fits Ast.serialize deA k) :
    Fits SegmentFmt.serialize (SegmentFmt.deserialize deA) (k + 1) := by
  rintro m hm x ⟨j, h⟩
  revert hm
  unfold SegmentFmt.deserialize at h
  split at h
  · replace h := endVariant_eq_ok h
    split at h
    · apply forall_deserialize h
      simp only [fmap_eq, forall_builds_map, forall_builds_req]
      simp [SegmentFmt.serialize]
    · apply forall_deserialize h
      simp only [fmap_eq, forall_builds_map, forall_builds_req]
      intro m c hc _
      have := RawEscape.depth_le hc
      simp [SegmentFmt.serialize]; omega
    · apply forall_deserialize h
      simp only [fmap_eq, forall_builds_map, forall_builds_opt]
      intro m o ho hm
      have := (option_fits hA).le (by omega) ho
      simp only [← Ast.serializeOption_eq] at this
      simp [SegmentFmt.serialize]; omega
    · apply forall_deserialize h
      simp only [fmap_eq, forall_builds_map, forall_builds_req]
      intro m c hc _
      have := Escape.depth_le hc
      simp [SegmentFmt.serialize]; omega
    · cases h
  · exact absurd h refuseEnum_ne_ok

theorem TextLine.fits (hA : Fits Ast.serialize deA k) :
    Fits TextLine.serialize (TextLine.deserialize deA) (k + 1) := by
  rintro m hm x ⟨j, h⟩
  revert hm
  unfold TextLine.deserialize at h
  split at h
  · replace h := endVariant_eq_ok h
    split at h
    · apply forall_deserialize h
      simp only [fmap_eq, forall_builds_map, forall_builds_req]
      intro m t ht hm
      have := (deVec_fits (SegmentRaw.fits m)).le (by omega) ht
      simp at this
      simp [TextLine.serialize]; omega
    · apply forall_deserialize h
      simp only [fmap_eq, forall_builds_map, forall_builds_req]
      intro m t ht hm
      have := (deVec_fits (SegmentFmt.fits hA)).le (by omega) ht
      simp at this
      simp [TextLine.serialize, SegmentFmt.serializeList_eq]; omega
    · cases h
  · exact absurd h refuseEnum_ne_ok

/-- Every shape read at a level is written within it, given that its child Asts are: each
struct variant's members are written within the level its fields were read at, by the lemma of
the field's type. -/
theorem Shape.fits (hA : Fits Ast.serialize deA k) :
    Fits Shape.serialize (Shape.deserialize deA) (k + 1) := by
  have hAst : ∀ {m a}, m ≤ k → Reads (deA m) a → a.serialize.depth ≤ m := fun hm ha => hA.le hm ha
  have hOpt : ∀ {m o}, m ≤ k → Reads (deOption (deA m)) o → (Ast.serializeOption o).depth ≤ m :=
    fun hm ho => by simpa [Ast.serializeOption_eq] using (option_fits hA).le hm ho
  have hList : ∀ {m l}, m ≤ k → Reads (deVec deA m) l → (Json.arr (Ast.serializeList l)).depth ≤ m :=
    fun hm hl => by simpa [Ast.serializeList_eq] using (deVec_fits hA).le (by omega) hl
  have hLines : ∀ {m ls}, m ≤ k →
      Reads (deVec (BlockLine.deserialize (fun k => deOption (deA k)) (.ok none)) m) ls →
      (Json.arr (Ast.serializeLines ls)).depth ≤ m := fun hm hl => by
    simpa [Ast.serializeLines_eq] using (deVec_fits (BlockLine.fits (option_fits hA)
      fun x hx => by cases hx; rfl)).le (by omega) hl
  have hFirst : ∀ {m f}, m ≤ k → Reads (BlockLine.deserialize deA (.error (.missingField "elem")) m) f →
      (BlockLine.serialize ⟨f.elem.serialize, f.off⟩).depth ≤ m :=
    fun hm hf => (BlockLine.fits hA fun _ hx => by cases hx).le (by omega) hf
  have hRaw : ∀ {m t}, Reads (deVec SegmentRaw.deserialize m) t →
      (Json.arr (t.map SegmentRaw.serialize)).depth ≤ m :=
    fun {m} _ ht => (deVec_fits (SegmentRaw.fits m)).le (Nat.le_succ m) ht
  have hFmt : ∀ {m t}, m ≤ k → Reads (deVec (SegmentFmt.deserialize deA) m) t →
      (Json.arr (SegmentFmt.serializeList t)).depth ≤ m := fun hm ht => by
    simpa [SegmentFmt.serializeList_eq] using (deVec_fits (SegmentFmt.fits hA)).le (by omega) ht
  have hRawBlock : ∀ {m t}, Reads (deVec (TextBlockLine.deserialize SegmentRaw.deserialize) m) t →
      (Json.arr (t.map (·.map SegmentRaw.serialize |>.serialize))).depth ≤ m :=
    fun {m} _ ht => (deVec_fits (TextBlockLine.fits (SegmentRaw.fits m))).le (by omega) ht
  have hFmtBlock : ∀ {m t}, m ≤ k →
      Reads (deVec (TextBlockLine.deserialize (SegmentFmt.deserialize deA)) m) t →
      (Json.arr (SegmentFmt.serializeBlockLines t)).depth ≤ m := fun hm ht => by
    simpa [SegmentFmt.serializeBlockLines_eq] using
      (deVec_fits (TextBlockLine.fits (SegmentFmt.fits hA))).le (by omega) ht
  have hLine : ∀ {m l}, m ≤ k → Reads (TextLine.deserialize deA m) l → l.serialize.depth ≤ m :=
    fun hm hl => (TextLine.fits hA).le (by omega) hl
  have hUsizes : ∀ {m es}, Reads (deVec (fun _ => deUsize) m) es →
      (Json.arr (es.map ofFin)).depth ≤ m :=
    fun {m} _ hes => (deVec_fits (usize_fits (k := m))).le (Nat.le_succ m) hes
  have hStrings : ∀ {m ls}, Reads (deVec (fun _ => deString) m) ls →
      (Json.arr (ls.map Json.str)).depth ≤ m :=
    fun {m} _ hls => (deVec_fits (string_fits (k := m))).le (Nat.le_succ m) hls
  have hBase : ∀ {m} (b : Option String), (ofOption Json.str b).depth ≤ m := by
    intro m b; cases b <;> simp [ofOption]
  rintro m hm x ⟨j, h⟩
  revert hm
  unfold Shape.deserialize at h
  split at h
  · replace h := endVariant_eq_ok h
    split at h
    all_goals first
      | cases h
      | (try unfold deEmptyStruct at h
         apply forall_deserialize h
         intro m
         simp only [fmap_eq, seq_eq, forall_builds_map, forall_builds_seq, forall_builds_req,
           forall_builds_opt, forall_builds_pure]
         intros
         have hk : m ≤ k := by omega
         simp only [Nat.succ_eq_add_one, Shape.serialize, depth_variant_obj_le_iff, List.forall_mem_cons, List.not_mem_nil,
           false_implies, implies_true, and_true]
         repeat' apply And.intro
         all_goals first
           | (apply hAst hk; assumption) | (apply hOpt hk; assumption)
           | (apply hList hk; assumption) | (apply hLines hk; assumption)
           | (apply hFirst hk; assumption) | (apply hRaw; assumption)
           | (apply hFmt hk; assumption) | (apply hRawBlock; assumption)
           | (apply hFmtBlock hk; assumption) | (apply hLine hk; assumption)
           | (apply hUsizes; assumption) | (apply hStrings; assumption)
           | (apply Builder.depth_le; assumption) | (apply BlockType.depth_le; assumption)
           | exact hBase _
           | simp)
      | (obtain ⟨p, hp, rfl⟩ := Except.map_eq_ok h
         intro hm
         first
           | (rw [Shape.serialize_ofMatch, depth_variant]
              exact Nat.succ_le_succ ((Match.fits hA).le (by omega) ⟨_, hp⟩))
           | (rw [Shape.serialize_ofAmbiguous, depth_variant]
              exact Nat.succ_le_succ ((Ambiguous.fits hA).le (by omega) ⟨_, hp⟩)))
  · exact absurd h refuseEnum_ne_ok

end Shapes

/-! ## The tree -/

namespace Ast

/-- The visitor's tree has a shape that `deShape` read, or the one it started with. -/
theorem visitMap_reads {lends : String → Bool} {deShape : Json → Except DeError Shape} :
    ∀ {ms : List (String × Json)} {sh : Option Shape} {i : Option (Option Uuid)}
      {sp : Option Usize} {x : Ast},
    visitMap lends deShape ms sh i sp = .ok x → (∀ s, sh = some s → Reads deShape s) →
      Reads deShape x.shape
  | [], sh, i, sp, x, h, hsh => by
    cases sh with
    | none => cases h
    | some s =>
      cases sp with
      | none => cases h
      | some n => cases h; exact hsh s rfl
  | (key, v) :: ms, sh, i, sp, x, h, hsh => by
    simp only [visitMap] at h
    split_ifs at h
    · obtain ⟨s, hs, h⟩ := Except.bind_eq_ok h
      exact visitMap_reads h fun _ he => Option.some.inj he ▸ ⟨v, hs⟩
    · obtain ⟨_, -, h⟩ := Except.bind_eq_ok h
      exact visitMap_reads h hsh
    · obtain ⟨_, -, h⟩ := Except.bind_eq_ok h
      exact visitMap_reads h hsh

/-- **What the tree reader reads at a level is written within it**: by induction on the
level, as `readsBack`, the shape through `visitMap_reads` and `Shape.fits`. -/
theorem fits : ∀ k, Fits Ast.serialize Ast.deserialize k
  | 0 => by
    rintro m hm x ⟨j, h⟩
    obtain rfl : m = 0 := by omega
    exact (refuseStruct_ne_ok h).elim
  | k + 1 => by
    rintro m hm x ⟨j, h⟩
    rcases Nat.lt_or_ge m (k + 1) with hlt | hge
    · exact (fits k).le (by omega) ⟨j, h⟩
    obtain rfl : m = k + 1 := by omega
    have hk : Fits Ast.serialize (deserializeUpTo Key.lends k) k := fun m hm x ⟨j, hx⟩ =>
      (fits k).le hm ⟨j, deserializeUpTo_of_le j hm ▸ hx⟩
    cases j with
    | obj ms =>
      rw [deserialize_obj] at h
      have hs := (Shape.fits hk).le (Nat.le_succ k) (visitMap_reads h fun _ h => by cases h)
      obtain ⟨s, id, span⟩ := x
      cases id <;> simp_all [Ast.serialize, Ast.shape, Uuid.serialize]
    | _ =>
      simp only [deserialize, deserializeUpTo, Nat.not_succ_le_self, if_false] at h
      exact (refuseStruct_ne_ok h).elim

/-- **Saving what was loaded loads the same tree.** A document the reader accepts with `n`
levels left, whatever its member order and whether it writes `"id": null`, is written back
as a document the reader accepts with those `n` levels, as the same tree. -/
theorem deserialize_serialize_of_ok {n : Nat} {j : Json} {x : Ast} (h : deserialize n j = .ok x) :
    deserialize n x.serialize = .ok x :=
  readsBack n n le_rfl x ((fits n).le le_rfl ⟨j, h⟩)

/-- A document written in another member order, with `"id": null` and a member the `Var`
struct skips, is read as the variable `foo`; what is written back is read as it again. -/
theorem deserialize_serialize_of_ok_var :
    fromStr (.obj [("span", .num 3), ("id", .null),
        ("shape", variant "Var" (.obj [("line", .num 7), ("name", .str "foo")]))]) =
      .ok (newWithSpan (.var "foo") none 3) ∧
    fromStr (newWithSpan (.var "foo") none 3).serialize = .ok (newWithSpan (.var "foo") none 3) :=
  have h : fromStr (.obj [("span", .num 3), ("id", .null),
      ("shape", variant "Var" (.obj [("line", .num 7), ("name", .str "foo")]))]) =
      .ok (newWithSpan (.var "foo") none 3) := by rfl
  ⟨h, deserialize_serialize_of_ok h⟩

end Ast

end Enso
