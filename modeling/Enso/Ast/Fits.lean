import Enso.Ast.Serialize
import Enso.Ast.Deserialize

/-!
# What the readers take is written back within their levels

`ReadsBack ser de k` says that `de` reads back what `ser` writes. This module proves the other
half, `Fits ser de k`: whatever `de` reads with `m` levels left (from any document, written in
any member order, with skipped members, `null`s for missing options and so on) is written by
`ser` as a document that needs at most those `m` levels. Together the two say that a tree the
reader accepts is written back as a document the same reader, with the same levels, reads as
that tree again (`Ast.deserialize_serialize_of_ok`).

**What a struct reader builds.** The derived `visit_map` fills its slots in document order
and builds the struct from them at the end. `Fields.Builds r x` says what it can build
whatever the members were: every field is something its reader made of some value, or what
the field is when its key never came (`Fields.read_builds`). The struct lemmas below turn
that into the fields of `x`, without following the members.

**Why the levels suffice.** Every reader spends one level on each array and object it enters
and refuses one it cannot enter, and every writer writes one array or object for each that
was read. Members a reader skips cost levels but write nothing.
-/

namespace Enso

open Json

namespace Json

/-! ## Depths -/

theorem depthMembers_le_iff {ms : List (String × Json)} {m : Nat} :
    depthMembers ms ≤ m ↔ ∀ p ∈ ms, p.2.depth ≤ m := by
  induction ms with
  | nil => simp
  | cons p ms ih => obtain ⟨_, _⟩ := p; simp [ih]

/-- A struct variant is written within `m + 2` levels when its members are within `m`. -/
theorem depth_variant_obj_le_iff {name : String} {ms : List (String × Json)} {m : Nat} :
    (variant name (.obj ms)).depth ≤ m + 1 + 1 ↔ ∀ p ∈ ms, p.2.depth ≤ m := by
  simp [variant, depthMembers_le_iff]

/-! ## Refusals -/

theorem refuseStruct_ne_ok {α : Type} {name : String} {n : Nat} {j : Json} {x : α} :
    refuseStruct name n j ≠ .ok x := by
  unfold refuseStruct; split <;> simp

theorem refuseSeq_ne_ok {α : Type} {n : Nat} {j : Json} {x : α} : refuseSeq n j ≠ .ok x := by
  unfold refuseSeq; split <;> simp

theorem refuseEnum_ne_ok {α : Type} {names : List String} {n : Nat} {j : Json} {x : α} :
    refuseEnum names n j ≠ .ok x := by
  unfold refuseEnum; split <;> simp

theorem Except.map_eq_ok {α β : Type} {f : α → β} {e : Except DeError α} {x : β}
    (h : f <$> e = .ok x) : ∃ a, e = .ok a ∧ f a = x := by
  cases e with
  | error _ => cases h
  | ok a => exact ⟨a, rfl, Except.ok.inj h⟩

theorem Except.bind_eq_ok {α β : Type} {e : Except DeError α} {f : α → Except DeError β} {x : β}
    (h : e >>= f = .ok x) : ∃ a, e = .ok a ∧ f a = .ok x := by
  cases e with
  | error _ => cases h
  | ok a => exact ⟨a, rfl, h⟩

theorem endVariant_eq_ok {α : Type} {rest : List (String × Json)} {v : Except DeError α} {x : α}
    (h : endVariant rest v = .ok x) : v = .ok x := by
  cases v with
  | error e => cases h
  | ok a => cases rest <;> simp_all [endVariant]

/-! ## What a struct reader builds -/

namespace Fields

/-- `de` makes `b` of some value. -/
def Reads {β : Type} (de : Json → Except DeError β) (b : β) : Prop := ∃ v, de v = .ok b

/-- What a slot can hold after the last member: what it has read, what its reader makes of
some value, or what it is when its key never came. -/
def Yields {β : Type} (s : Slot β) (b : β) : Prop :=
  s.value = some b ∨ Reads s.de b ∨ s.missing = .ok b

/-- What the fields can build, whatever the members: every slot holds what it can. -/
def Builds : {α : Type} → Fields α → α → Prop
  | _, pure a, x => x = a
  | _, ap f s, x => ∃ g b, Builds f g ∧ Yields s b ∧ x = g b

variable {α β γ : Type}

theorem builds_pure {a x : α} : Builds (pure a) x ↔ x = a := Iff.rfl

theorem builds_map : ∀ {α γ : Type} (g : α → γ) (r : Fields α) (x : γ),
    Builds (map g r) x ↔ ∃ y, Builds r y ∧ x = g y
  | _, _, _, pure a, x => ⟨fun h => ⟨a, rfl, h⟩, fun ⟨_, h, hx⟩ => h ▸ hx⟩
  | _, _, g, ap f s, x => by
    simp only [map_ap, Builds, builds_map _ f]
    constructor
    · rintro ⟨_, b, ⟨h, hf, rfl⟩, hb, rfl⟩
      exact ⟨h b, ⟨h, b, hf, hb, rfl⟩, rfl⟩
    · rintro ⟨_, ⟨h, b, hf, hb, rfl⟩, rfl⟩
      exact ⟨_, b, ⟨h, hf, rfl⟩, hb, rfl⟩

theorem builds_seq : ∀ {α β : Type} (rf : Fields (β → α)) (rx : Fields β) (x : α),
    Builds (seq rf rx) x ↔ ∃ g y, Builds rf g ∧ Builds rx y ∧ x = g y
  | _, _, _, pure b, x => by
    simp only [seq_pure, builds_map, builds_pure]
    exact ⟨fun ⟨g, hg, hx⟩ => ⟨g, b, hg, rfl, hx⟩, fun ⟨g, _, hg, hy, hx⟩ => ⟨g, hg, hy ▸ hx⟩⟩
  | _, _, rf, ap f s, x => by
    simp only [seq_ap, Builds, builds_seq _ f, builds_map]
    constructor
    · rintro ⟨_, b, ⟨_, y, ⟨h, hf, rfl⟩, hy, rfl⟩, hb, rfl⟩
      exact ⟨h, y b, hf, ⟨y, b, hy, hb, rfl⟩, rfl⟩
    · rintro ⟨h, _, hf, ⟨y, b, hy, hb, rfl⟩, rfl⟩
      exact ⟨_, b, ⟨_, y, ⟨h, hf, rfl⟩, hy, rfl⟩, hb, rfl⟩

theorem builds_reqOr {name : String} {de : Json → Except DeError α}
    {missing : Except DeError α} {x : α} :
    Builds (reqOr name de missing) x ↔ Reads de x ∨ missing = .ok x := by
  simp [reqOr, Builds, Yields]

/-! What the fields build, as `simp` takes it apart: a property of everything they build is a
property of what each slot yields. -/

@[simp] theorem forall_builds_pure {P : α → Prop} (a : α) : (∀ x, Builds (pure a) x → P x) ↔ P a :=
  ⟨fun h => h a rfl, fun h _ hx => hx ▸ h⟩

@[simp] theorem forall_builds_map {P : γ → Prop} (g : α → γ) (r : Fields α) :
    (∀ x, Builds (map g r) x → P x) ↔ ∀ y, Builds r y → P (g y) := by
  simp only [builds_map]
  exact ⟨fun h y hy => h _ ⟨y, hy, rfl⟩, fun h x ⟨y, hy, hx⟩ => hx ▸ h y hy⟩

@[simp] theorem forall_builds_seq {P : α → Prop} (rf : Fields (β → α)) (rx : Fields β) :
    (∀ x, Builds (seq rf rx) x → P x) ↔ ∀ g, Builds rf g → ∀ y, Builds rx y → P (g y) := by
  simp only [builds_seq]
  exact ⟨fun h g hg y hy => h _ ⟨g, y, hg, hy, rfl⟩,
    fun h x ⟨g, y, hg, hy, hx⟩ => hx ▸ h g hg y hy⟩

@[simp] theorem forall_builds_reqOr {P : α → Prop} {name : String} {de : Json → Except DeError α}
    {missing : Except DeError α} :
    (∀ x, Builds (reqOr name de missing) x → P x) ↔
      (∀ x, Reads de x → P x) ∧ ∀ x, missing = .ok x → P x := by
  simp only [builds_reqOr]
  exact ⟨fun h => ⟨fun x hx => h x (.inl hx), fun x hx => h x (.inr hx)⟩,
    fun h x hx => hx.elim (h.1 x) (h.2 x)⟩

@[simp] theorem forall_builds_req {P : α → Prop} {name : String} {de : Json → Except DeError α} :
    (∀ x, Builds (req name de) x → P x) ↔ ∀ x, Reads de x → P x := by
  simp [req]

/-- A field of an `Option` type is what its reader makes of some value: a missing key is what
`null` is. -/
@[simp] theorem forall_builds_opt {P : Option α → Prop} {name : String}
    {de : Json → Except DeError α} :
    (∀ x, Builds (opt name de) x → P x) ↔ ∀ x, Reads (deOption de) x → P x := by
  simp only [opt, forall_builds_reqOr, Except.ok.injEq, forall_eq', and_iff_left_iff_imp]
  exact fun h => h none ⟨.null, rfl⟩

/-- After the last member, the fields build what their slots yield. -/
theorem finish_builds : ∀ {α : Type} {r : Fields α} {a : α}, r.finish = .ok a → Builds r a
  | _, pure _, _, h => (Except.ok.inj h).symm
  | _, ap f s, a, h => by
    simp only [finish] at h
    cases hf : f.finish with
    | error e => simp [hf] at h
    | ok g =>
      cases hv : s.value with
      | none =>
        simp only [hf, hv, Option.elim, Except.ok_seq_eq] at h
        cases hm : s.missing with
        | error e => simp [hm] at h
        | ok b => exact ⟨g, b, finish_builds hf, .inr (.inr hm), by simpa [hm] using h.symm⟩
      | some b =>
        simp only [hf, hv, Option.elim, Except.ok_seq_eq, Except.map_ok_eq] at h
        exact ⟨g, b, finish_builds hf, .inl hv, (Except.ok.inj h).symm⟩

/-- A member taken by a slot only narrows what the fields can build. -/
theorem feed_builds {k : String} {v : Json} : ∀ {α : Type} {r r' : Fields α} {x : α},
    r.feed k v = some (.ok r') → Builds r' x → Builds r x
  | _, pure _, _, _, h, _ => by cases h
  | _, ap f s, r', x, h, hx => by
    simp only [feed] at h
    split_ifs at h with hk
    · cases hs : s.value with
      | some _ => simp [hs] at h
      | none =>
        cases hd : s.de v with
        | error e => simp [hs, hd] at h
        | ok b =>
          simp only [hs, hd, Option.some.injEq, Except.ok.injEq] at h
          subst h
          obtain ⟨g, b', hg, hb', rfl⟩ := hx
          refine ⟨g, b', hg, ?_, rfl⟩
          rcases hb' with hb' | hb' | hb'
          · cases hb'
            exact .inr (.inl ⟨v, hd⟩)
          · exact .inr (.inl hb')
          · exact .inr (.inr hb')
    · cases hf : f.feed k v with
      | none => simp [hf] at h
      | some e =>
        cases e with
        | error e => simp [hf] at h
        | ok f' =>
          simp only [hf, Option.some.injEq, Except.ok.injEq] at h
          subst h
          obtain ⟨g, b, hg, hb, rfl⟩ := hx
          exact ⟨g, b, feed_builds hf hg, hb, rfl⟩

/-- **What `visit_map` reads, the fields can build**, whatever the members and their order. -/
theorem read_builds : ∀ {ms : List (String × Json)} {r : Fields α} {a : α},
    r.read ms = .ok a → Builds r a
  | [], _, _, h => finish_builds h
  | (k, v) :: ms, r, a, h => by
    simp only [read] at h
    split at h
    · exact read_builds h
    · cases h
    · exact feed_builds ‹_› (read_builds h)

/-- What `visit_map` reads has every property of what the fields build. -/
theorem forall_read {P : α → Prop} {r : Fields α} {ms : List (String × Json)} {x : α}
    (h : r.read ms = .ok x) (hP : ∀ y, Builds r y → P y) : P x :=
  hP x (read_builds h)

/-- A derived struct reader spends a level on an object and builds from its fields. -/
theorem deserialize_reads {name : String} {r : Nat → Fields α} {m : Nat} {x : α}
    (h : Reads (Fields.deserialize name r m) x) : ∃ m', m = m' + 1 ∧ Builds (r m') x := by
  obtain ⟨j, h⟩ := h
  cases m with
  | zero => cases j <;> cases h
  | succ m' =>
    cases j
    case obj ms => exact ⟨m', rfl, read_builds h⟩
    all_goals cases h

/-- What a derived struct reader reads with `m` levels has every property of what its fields
build one level down. -/
theorem forall_deserialize {P : Nat → α → Prop} {name : String} {r : Nat → Fields α} {m : Nat}
    {j : Json} {x : α} (h : Fields.deserialize name r m j = .ok x)
    (hP : ∀ m' y, Builds (r m') y → P (m' + 1) y) : P m x := by
  obtain ⟨m', rfl, hb⟩ := deserialize_reads ⟨j, h⟩
  exact hP m' x hb

end Fields

end Json

open Fields

/-! ## Fitting within the levels -/

/-- **What `de` reads with `m ≤ k` levels left, `ser` writes within `m` levels**: the converse
of `ReadsBack`. -/
def Fits {α : Type} (ser : α → Json) (de : Nat → Json → Except DeError α) (k : Nat) : Prop :=
  ∀ m ≤ k, ∀ x, Reads (de m) x → (ser x).depth ≤ m

section Generic

variable {α : Type} {ser : α → Json} {de : Nat → Json → Except DeError α} {k : Nat}

theorem Fits.le (h : Fits ser de k) {m : Nat} {x : α} (hm : m ≤ k) (hx : Reads (de m) x) :
    (ser x).depth ≤ m :=
  h m hm x hx

theorem Fits.mono (h : Fits ser de k) {j : Nat} (hjk : j ≤ k) : Fits ser de j :=
  fun m hm => h m (Nat.le_trans hm hjk)

end Generic

/-! ## Leaves

The leaf types read within any levels; their lemmas are stated for one reading. -/

theorem Builder.depth_le : ∀ {m : Nat} {x : Builder}, Reads (Builder.deserialize m) x →
    x.serialize.depth ≤ m := by
  intro m
  induction m using Nat.strong_induction_on with
  | _ m ih =>
  rintro x ⟨j, h⟩
  unfold Builder.deserialize at h
  split at h
  · replace h := endVariant_eq_ok h
    split at h
    · obtain ⟨_, -, rfl⟩ := Except.map_eq_ok h
      simp [Builder.serialize]
    iterate 3 · apply forall_deserialize h; simp [Builder.serialize]
    · split at h
      · apply forall_read h
        simp only [fmap_eq, seq_eq, forall_builds_map, forall_builds_seq, forall_builds_req]
        intro a ha b hb
        have := ih _ (by omega) ha
        have := ih _ (by omega) hb
        simp [Builder.serialize]; omega
      · exact absurd h refuseStruct_ne_ok
    · cases h
  · exact absurd h refuseEnum_ne_ok

theorem RawEscape.depth_le {m : Nat} {x : RawEscape} (hx : Reads (RawEscape.deserialize m) x) :
    x.serialize.depth ≤ m := by
  obtain ⟨j, h⟩ := hx
  unfold RawEscape.deserialize at h
  split at h
  · replace h := endVariant_eq_ok h
    split at h <;> (try unfold deEmptyStruct at h) <;>
      first | cases h | (apply forall_deserialize h; simp [RawEscape.serialize])
  · exact absurd h refuseEnum_ne_ok

theorem Escape.depth_le {m : Nat} {x : Escape} (hx : Reads (Escape.deserialize m) x) :
    x.serialize.depth ≤ m := by
  obtain ⟨j, h⟩ := hx
  unfold Escape.deserialize at h
  split at h
  · replace h := endVariant_eq_ok h
    split at h <;> first | cases h | (apply forall_deserialize h; simp [Escape.serialize])
  · exact absurd h refuseEnum_ne_ok

theorem SegmentRaw.depth_le {m : Nat} {x : SegmentRaw} (hx : Reads (SegmentRaw.deserialize m) x) :
    x.serialize.depth ≤ m := by
  obtain ⟨j, h⟩ := hx
  unfold SegmentRaw.deserialize at h
  split at h
  · replace h := endVariant_eq_ok h
    split at h
    · apply forall_deserialize h; simp [SegmentRaw.serialize]
    · apply forall_deserialize h
      simp only [fmap_eq, forall_builds_map, forall_builds_req]
      intro m c hc
      have := RawEscape.depth_le hc
      simp [SegmentRaw.serialize]; omega
    · cases h
  · exact absurd h refuseEnum_ne_ok

theorem SegmentRaw.fits (k : Nat) : Fits SegmentRaw.serialize SegmentRaw.deserialize k :=
  fun _ _ _ => SegmentRaw.depth_le

theorem BlockType.depth_le {m : Nat} {x : BlockType} (hx : Reads (BlockType.deserialize m) x) :
    x.serialize.depth ≤ m := by
  obtain ⟨j, h⟩ := hx
  unfold BlockType.deserialize at h
  split at h
  · replace h := endVariant_eq_ok h
    split at h <;> (try unfold deEmptyStruct at h) <;>
      first | cases h | (apply forall_deserialize h; simp [BlockType.serialize])
  · exact absurd h refuseEnum_ne_ok

theorem PatternClass.depth_le {m : Nat} {x : PatternClass}
    (hx : Reads (PatternClass.deserialize m) x) : x.serialize.depth ≤ m := by
  obtain ⟨j, h⟩ := hx
  unfold PatternClass.deserialize at h
  split at h
  · replace h := endVariant_eq_ok h
    split at h <;> first
      | cases h
      | (obtain ⟨_, -, rfl⟩ := Except.map_eq_ok h; simp [PatternClass.serialize])
  · exact absurd h refuseEnum_ne_ok

/-! ## Generic containers -/

section Containers

variable {T : Type} {ser : T → Json} {de : Nat → Json → Except DeError T} {k : Nat}

theorem usize_fits {k : Nat} : Fits (ofFin (n := usizeBound)) (fun _ => deUsize) k :=
  fun _ _ x _ => by simp

theorem string_fits {k : Nat} : Fits Json.str (fun _ => deString) k := fun _ _ _ _ => by simp

/-- What `mapM` reads, each element read. -/
theorem mapM_reads {f : Json → Except DeError T} :
    ∀ {js : List Json} {l : List T}, js.mapM f = .ok l → ∀ x ∈ l, Reads f x
  | [], _, h, _, hx => by cases h; cases hx
  | j :: js, l, h, x, hx => by
    rw [List.mapM_cons] at h
    cases hj : f j with
    | error e => simp only [hj, Except.error_bind_eq] at h; cases h
    | ok a =>
      cases hjs : js.mapM f with
      | error e => simp only [hj, hjs, Except.ok_bind_eq, Except.error_bind_eq] at h; cases h
      | ok as =>
        simp only [hj, hjs, Except.ok_bind_eq, Except.pure_eq, Except.ok.injEq] at h
        subst h
        rcases List.mem_cons.1 hx with rfl | hx
        · exact ⟨j, hj⟩
        · exact mapM_reads hjs x hx

/-- `Vec` spends a level on an array and reads its elements one level down. -/
theorem deVec_reads {m : Nat} {l : List T} (h : Reads (deVec de m) l) :
    ∃ m', m = m' + 1 ∧ ∀ x ∈ l, Reads (de m') x := by
  obtain ⟨j, h⟩ := h
  cases m with
  | zero => cases j <;> cases h
  | succ m =>
    cases j
    case arr js => exact ⟨m, rfl, mapM_reads h⟩
    all_goals cases h

theorem deVec_fits (h : Fits ser de k) :
    Fits (fun l => .arr (l.map ser)) (deVec de) (k + 1) := by
  intro m hm l hl
  obtain ⟨m, rfl, hx⟩ := deVec_reads hl
  have := depthList_map_le ser l m fun x hx' => h.le (by omega) (hx x hx')
  simpa using this

/-- An `Option` reads `None`, or `Some` of what the inner reader reads. -/
theorem deOption_reads {f : Json → Except DeError T} {o : Option T} (h : Reads (deOption f) o) :
    ∀ x ∈ o, Reads f x := by
  rintro x rfl
  obtain ⟨j, h⟩ := h
  cases j
  case null => cases h
  all_goals obtain ⟨_, h, hx⟩ := Except.map_eq_ok h; exact ⟨_, (Option.some.inj hx) ▸ h⟩

theorem option_fits (h : Fits ser de k) : Fits (ofOption ser) (fun m => deOption (de m)) k := by
  intro m hm o ho
  cases o with
  | none => simp [ofOption]
  | some x => exact h.le hm (deOption_reads ho x rfl)

theorem Shifted.fits (h : Fits ser de k) :
    Fits (fun s => (s.map ser).serialize) (Shifted.deserialize de) (k + 1) := by
  rintro m hm s ⟨j, hs⟩
  revert hm
  apply forall_deserialize hs
  simp only [fmap_eq, seq_eq, forall_builds_map, forall_builds_seq, forall_builds_req]
  intro m a ha o _ hm
  have := h.le (by omega) ha
  simp [Shifted.serialize, Shifted.map]; omega

theorem ShiftedVec1.fits (h : Fits ser de k) :
    Fits (fun v => (v.map ser).serialize) (ShiftedVec1.deserialize de) (k + 1) := by
  rintro m hm v ⟨j, hv⟩
  revert hm
  apply forall_deserialize hv
  simp only [fmap_eq, seq_eq, forall_builds_map, forall_builds_seq, forall_builds_req]
  intro m a ha l hl hm
  have := h.le (by omega) ha
  have := (deVec_fits (Shifted.fits h)).le (by omega) hl
  simp_all [ShiftedVec1.serialize, ShiftedVec1.map, Shifted.map, Function.comp_def]

theorem BlockLine.fits (h : Fits ser de k) {missing : Except DeError T}
    (hmiss : ∀ x, missing = .ok x → ser x = .null) :
    Fits (fun l => (l.map ser).serialize) (BlockLine.deserialize de missing) (k + 1) := by
  rintro m hm l ⟨j, hl⟩
  revert hm
  apply forall_deserialize hl
  simp only [fmap_eq, seq_eq, forall_builds_map, forall_builds_seq, forall_builds_req,
    forall_builds_reqOr]
  refine fun m => ⟨fun a ha o _ hm => ?_, fun a ha o _ hm => ?_⟩
  · have := h.le (by omega) ha
    simp [BlockLine.serialize, BlockLine.map]; omega
  · simp [BlockLine.serialize, BlockLine.map, hmiss a ha]

theorem TextBlockLine.fits (h : Fits ser de k) :
    Fits (fun l => (l.map ser).serialize) (TextBlockLine.deserialize de) (k + 1) := by
  rintro m hm l ⟨j, hl⟩
  revert hm
  apply forall_deserialize hl
  simp only [fmap_eq, seq_eq, forall_builds_map, forall_builds_seq, forall_builds_req]
  intro m es hes t ht hm
  have := (deVec_fits (usize_fits (k := m))).le (by omega) hes
  have := (deVec_fits h).le (by omega) ht
  simp_all [TextBlockLine.serialize, TextBlockLine.map]

end Containers

/-! ## Macro patterns and matches -/

section Macros

variable {T : Type} {ser : T → Json} {de : Nat → Json → Except DeError T} {k : Nat}

namespace MacroPatternRaw

theorem deserializePair_reads {n₁ n₂ : String} {m : Nat}
    {ab : MacroPatternRaw T × MacroPatternRaw T} (h : Reads (deserializePair de n₁ n₂ m) ab) :
    ∃ m', m = m' + 1 ∧ Reads (deserialize de m') ab.1 ∧ Reads (deserialize de m') ab.2 := by
  obtain ⟨j, h⟩ := h
  unfold deserializePair at h
  split at h
  · apply forall_read h
    simp only [fmap_eq, seq_eq, forall_builds_map, forall_builds_seq, forall_builds_req]
    exact fun a ha b hb => ⟨_, rfl, ha, hb⟩
  · exact absurd h refuseStruct_ne_ok

theorem deserializeOne_reads {m : Nat} {p : MacroPatternRaw T} (h : Reads (deserializeOne de m) p) :
    ∃ m', m = m' + 1 ∧ Reads (deserialize de m') p := by
  obtain ⟨j, h⟩ := h
  unfold deserializeOne at h
  split at h
  · apply forall_read h
    simp only [forall_builds_req]
    exact fun a ha => ⟨_, rfl, ha⟩
  · exact absurd h refuseStruct_ne_ok

theorem deserializeNamed_reads {n : String} {m : Nat} {sp : String × MacroPatternRaw T}
    (h : Reads (deserializeNamed de n m) sp) : ∃ m', m = m' + 1 ∧ Reads (deserialize de m') sp.2 := by
  obtain ⟨j, h⟩ := h
  unfold deserializeNamed at h
  split at h
  · apply forall_read h
    simp only [fmap_eq, seq_eq, forall_builds_map, forall_builds_seq, forall_builds_req]
    exact fun _ _ a ha => ⟨_, rfl, ha⟩
  · exact absurd h refuseStruct_ne_ok

theorem deserializeCls_reads {m : Nat} {cp : PatternClass × MacroPatternRaw T}
    (h : Reads (deserializeCls de m) cp) :
    ∃ m', m = m' + 1 ∧ Reads (PatternClass.deserialize m') cp.1 ∧ Reads (deserialize de m') cp.2 := by
  obtain ⟨j, h⟩ := h
  unfold deserializeCls at h
  split at h
  · apply forall_read h
    simp only [fmap_eq, seq_eq, forall_builds_map, forall_builds_seq, forall_builds_req]
    exact fun c hc a ha => ⟨_, rfl, hc, ha⟩
  · exact absurd h refuseStruct_ne_ok

theorem deserializeTok_reads {m : Nat} {sa : Option Bool × T} (h : Reads (deserializeTok de m) sa) :
    ∃ m', m = m' + 1 ∧ Reads (de m') sa.2 := by
  obtain ⟨m', rfl, hb⟩ := deserialize_reads h
  have key : ∀ y, Builds (Prod.mk <$> opt "spaced" deBool <*> req "ast" (de m')) y →
      Reads (de m') y.2 := by
    simp only [fmap_eq, seq_eq, forall_builds_map, forall_builds_seq, forall_builds_req,
      forall_builds_opt]
    exact fun _ _ _ ha => ha
  exact ⟨m', rfl, key sa hb⟩

theorem deserializeOpr_reads {m : Nat} {sm : Option Bool × Option Usize}
    (h : Reads (deserializeOpr m) sm) : 1 ≤ m := by
  obtain ⟨m', rfl, -⟩ := deserialize_reads h
  omega

theorem deserializeSpaced_reads {m : Nat} {s : Option Bool} (h : Reads (deserializeSpaced m) s) :
    1 ≤ m := by
  obtain ⟨m', rfl, -⟩ := deserialize_reads h
  omega

/-- A pattern's writer nests its sub-patterns as its reader reads them: each pattern read at a
level is written within it, given that its Ast positions are. -/
theorem fits (h : Fits ser de k) :
    Fits (fun p => (p.map ser).serialize) (MacroPatternRaw.deserialize de) (k + 1) := by
  intro m
  induction m using Nat.strong_induction_on with
  | _ m ih =>
  rintro hm x ⟨j, hx⟩
  have ih' : ∀ {m'} {p}, m' < m → Reads (deserialize de m') p → ((p.map ser).fields).depth + 1 ≤ m' :=
    fun hlt hp => by simpa [serialize] using ih _ hlt (by omega) _ hp
  unfold deserialize at hx
  split at hx
  · replace hx := endVariant_eq_ok hx
    split at hx
    iterate 3
      unfold deEmptyStruct at hx
      apply forall_deserialize hx
      simp [map, serialize, name, fields]
    iterate 2
      obtain ⟨ab, hab, rfl⟩ := Except.map_eq_ok hx
      obtain ⟨m', rfl, ha, hb⟩ := deserializePair_reads ⟨_, hab⟩
      have := ih' (by omega) ha
      have := ih' (by omega) hb
      simp [map, serialize, name, fields]; omega
    · obtain ⟨p, hp₁, rfl⟩ := Except.map_eq_ok hx
      obtain ⟨m', rfl, hp⟩ := deserializeOne_reads ⟨_, hp₁⟩
      have := ih' (by omega) hp
      simp [map, serialize, name, fields]; omega
    · obtain ⟨ab, hab, rfl⟩ := Except.map_eq_ok hx
      obtain ⟨m', rfl, ha, hb⟩ := deserializePair_reads ⟨_, hab⟩
      have := ih' (by omega) ha
      have := ih' (by omega) hb
      simp [map, serialize, name, fields]; omega
    · obtain ⟨p, hp₁, rfl⟩ := Except.map_eq_ok hx
      obtain ⟨m', rfl, hp⟩ := deserializeOne_reads ⟨_, hp₁⟩
      have := ih' (by omega) hp
      simp [map, serialize, name, fields]; omega
    iterate 2
      obtain ⟨sp, hsp, rfl⟩ := Except.map_eq_ok hx
      obtain ⟨m', rfl, hp⟩ := deserializeNamed_reads ⟨_, hsp⟩
      have := ih' (by omega) hp
      simp [map, serialize, name, fields]; omega
    · obtain ⟨cp, hcp, rfl⟩ := Except.map_eq_ok hx
      obtain ⟨m', rfl, hc, hp⟩ := deserializeCls_reads ⟨_, hcp⟩
      have := PatternClass.depth_le hc
      have := ih' (by omega) hp
      simp [map, serialize, name, fields]; omega
    · obtain ⟨sa, hsa, rfl⟩ := Except.map_eq_ok hx
      revert hm
      apply forall_deserialize hsa
      simp only [fmap_eq, seq_eq, forall_builds_map, forall_builds_seq, forall_builds_req,
        forall_builds_opt]
      intro m s _ a ha hm
      have := h.le (by omega) ha
      cases s <;> simp [map, serialize, name, fields, ofOption] <;> omega
    · obtain ⟨sm, hsm, rfl⟩ := Except.map_eq_ok hx
      apply forall_deserialize hsm
      simp only [fmap_eq, seq_eq, forall_builds_map, forall_builds_seq, forall_builds_opt]
      intro m s _ n _
      cases s <;> cases n <;> simp [map, serialize, name, fields, ofOption, ofFin]
    · split at hx
      · obtain ⟨s, hs, rfl⟩ := Except.map_eq_ok hx
        apply forall_deserialize hs
        simp only [forall_builds_opt]
        intro m s _
        cases s <;> simp [map, serialize, name, fields, ofOption]
      · cases hx
  · exact absurd hx refuseEnum_ne_ok

end MacroPatternRaw

/-- An empty struct is read by entering an object. -/
theorem deEmptyStruct_reads {α : Type} {name : String} {a x : α} {m : Nat}
    (h : Reads (deEmptyStruct name a m) x) : x = a ∧ 1 ≤ m := by
  obtain ⟨m', rfl, hb⟩ := deserialize_reads h
  exact ⟨hb, by omega⟩

namespace MacroPatternMatchRaw

theorem deserializePairOf_reads {m : Nat} {ab : MacroPatternMatchRaw T × MacroPatternMatchRaw T}
    (h : Reads (deserializePairOf de m) ab) :
    ∃ m', m = m' + 1 ∧ Reads (deserialize de m') ab.1 ∧ Reads (deserialize de m') ab.2 := by
  obtain ⟨j, h⟩ := h
  unfold deserializePairOf at h
  split at h
  · split at h
    · cases h
    · obtain ⟨_, -, h⟩ := Except.bind_eq_ok h
      cases h
    · obtain ⟨a, ha, h⟩ := Except.bind_eq_ok h
      obtain ⟨b, hb, h⟩ := Except.bind_eq_ok h
      split at h
      · cases h
        exact ⟨_, rfl, ⟨_, ha⟩, ⟨_, hb⟩⟩
      · cases h
  · exact absurd h refuseSeq_ne_ok

theorem deserializeEither_reads {m : Nat}
    {e : Either (MacroPatternMatchRaw T) (MacroPatternMatchRaw T)} (h : Reads (deserializeEither de m) e) :
    ∃ m' a, m = m' + 2 ∧ Reads (deserialize de m') a ∧ (e = .left a ∨ e = .right a) := by
  obtain ⟨j, h⟩ := h
  unfold deserializeEither at h
  split at h
  · replace h := endVariant_eq_ok h
    split at h
    · apply forall_read h
      simp only [fmap_eq, forall_builds_map, forall_builds_req]
      exact fun a ha => ⟨_, a, rfl, ha, .inl rfl⟩
    · apply forall_read h
      simp only [fmap_eq, forall_builds_map, forall_builds_req]
      exact fun a ha => ⟨_, a, rfl, ha, .inr rfl⟩
    all_goals first | exact absurd h refuseStruct_ne_ok | cases h
  · exact absurd h refuseEnum_ne_ok

theorem deserializeList_reads {m : Nat} {es : List (MacroPatternMatchRaw T)}
    (h : Reads (deserializeList de m) es) : ∃ m', m = m' + 1 ∧ ∀ e ∈ es, Reads (deserialize de m') e := by
  obtain ⟨j, h⟩ := h
  unfold deserializeList at h
  split at h
  · exact ⟨_, rfl, mapM_reads h⟩
  · exact absurd h refuseSeq_ne_ok

/-- Each match read at a level is written within it, by strong induction on the level: a
match's own matches are read two levels down, and its patterns by `MacroPatternRaw.fits`. -/
theorem fits (h : Fits ser de k) :
    Fits (fun e => (e.map ser).serialize) (MacroPatternMatchRaw.deserialize de) (k + 1) := by
  intro m
  induction m using Nat.strong_induction_on with
  | _ m ih =>
  rintro hm x ⟨j, hx⟩
  have ih' : ∀ {m'} {e}, m' < m → Reads (deserialize de m') e → ((e.map ser).serialize).depth ≤ m' :=
    fun hlt he => ih _ hlt (by omega) _ he
  have hpat : ∀ {m'} {p}, m' < m → Reads (MacroPatternRaw.deserialize de m') p →
      ((p.map ser).fields).depth + 1 ≤ m' := fun hlt hp => by
    simpa [MacroPatternRaw.serialize] using (MacroPatternRaw.fits h).le (by omega) hp
  unfold deserialize at hx
  split at hx
  · replace hx := endVariant_eq_ok hx
    unfold deserializeFields at hx
    split at hx
    · split at hx
      iterate 3
        apply forall_read hx
        simp only [fmap_eq, forall_builds_map, forall_builds_req]
        intro u hu
        have := (deEmptyStruct_reads hu).2
        simp [map, serialize, variant]; omega
      · apply forall_read hx
        simp only [fmap_eq, seq_eq, forall_builds_map, forall_builds_seq, forall_builds_req]
        rintro ⟨p, q⟩ hpq ⟨a, b⟩ hab
        obtain ⟨k₁, rfl, hp, hq⟩ := MacroPatternRaw.deserializePair_reads hpq
        obtain ⟨k₂, hk, ha, hb⟩ := deserializePairOf_reads hab
        dsimp only at hp hq ha hb
        have := hpat (by omega) hp
        have := hpat (by omega) hq
        have := ih' (by omega) ha
        have := ih' (by omega) hb
        simp [map, serialize, MacroPatternRaw.fields, variant]; omega
      · apply forall_read hx
        simp only [fmap_eq, seq_eq, forall_builds_map, forall_builds_seq, forall_builds_req]
        rintro ⟨p, q⟩ hpq e he
        obtain ⟨k₁, rfl, hp, hq⟩ := MacroPatternRaw.deserializePair_reads hpq
        obtain ⟨k₂, a, hk, ha, rfl | rfl⟩ := deserializeEither_reads he
        all_goals dsimp only at hp hq
        all_goals
          have := hpat (by omega) hp
          have := hpat (by omega) hq
          have := ih' (by omega) ha
          simp [map, serialize, MacroPatternRaw.fields, variant, Either.serialize]; omega
      · apply forall_read hx
        simp only [fmap_eq, seq_eq, forall_builds_map, forall_builds_seq, forall_builds_req]
        intro p hp₁ es hes
        obtain ⟨k₁, rfl, hp⟩ := MacroPatternRaw.deserializeOne_reads hp₁
        obtain ⟨k₂, hk, hes⟩ := deserializeList_reads hes
        have := hpat (by omega) hp
        have := depthList_map_le _ es k₂ fun e he => ih' (by omega) (hes e he)
        simp [map, serialize, MacroPatternRaw.fields, variant, serializeList_mapList]; omega
      · apply forall_read hx
        simp only [fmap_eq, seq_eq, forall_builds_map, forall_builds_seq, forall_builds_req]
        rintro ⟨n, p⟩ hnp e he
        obtain ⟨k₁, rfl, hn, hp⟩ := MacroPatternRaw.deserializePair_reads hnp
        dsimp only at hn hp
        have := hpat (by omega) hn
        have := hpat (by omega) hp
        have := ih' (by omega) he
        simp [map, serialize, MacroPatternRaw.fields, variant]; omega
      · apply forall_read hx
        simp only [fmap_eq, seq_eq, forall_builds_map, forall_builds_seq, forall_builds_req]
        intro p hp₁ e he
        obtain ⟨k₁, rfl, hp⟩ := MacroPatternRaw.deserializeOne_reads hp₁
        have := hpat (by omega) hp
        have : (Shifted.serialize (e.map ser)).depth ≤ k₁ + 1 := (Shifted.fits h).le (by omega) he
        simp [map, serialize, MacroPatternRaw.fields, variant]; omega
      · apply forall_read hx
        simp only [fmap_eq, seq_eq, forall_builds_map, forall_builds_seq, forall_builds_req]
        rintro ⟨s, p⟩ hsp e he
        obtain ⟨k₁, rfl, hp⟩ := MacroPatternRaw.deserializeNamed_reads hsp
        dsimp only at hp
        have := hpat (by omega) hp
        have : (Shifted.serialize (e.map ser)).depth ≤ k₁ + 1 := (Shifted.fits h).le (by omega) he
        simp [map, serialize, MacroPatternRaw.fields, variant]; omega
      · apply forall_read hx
        simp only [fmap_eq, seq_eq, forall_builds_map, forall_builds_seq, forall_builds_req]
        rintro ⟨s, p⟩ hsp e he
        obtain ⟨k₁, rfl, hp⟩ := MacroPatternRaw.deserializeNamed_reads hsp
        dsimp only at hp
        have := hpat (by omega) hp
        have := ih' (by omega) he
        simp [map, serialize, MacroPatternRaw.fields, variant]; omega
      · apply forall_read hx
        simp only [fmap_eq, seq_eq, forall_builds_map, forall_builds_seq, forall_builds_req]
        rintro ⟨c, p⟩ hcp e he
        obtain ⟨k₁, rfl, hc, hp⟩ := MacroPatternRaw.deserializeCls_reads hcp
        dsimp only at hc hp
        have := PatternClass.depth_le hc
        have := hpat (by omega) hp
        have := ih' (by omega) he
        simp [map, serialize, MacroPatternRaw.fields, variant]; omega
      · apply forall_read hx
        simp only [fmap_eq, seq_eq, forall_builds_map, forall_builds_seq, forall_builds_req]
        rintro ⟨s, a⟩ hsa e he
        obtain ⟨k₁, rfl, ha⟩ := MacroPatternRaw.deserializeTok_reads hsa
        dsimp only at ha
        have := h.le (by omega) ha
        have : (Shifted.serialize (e.map ser)).depth ≤ k₁ + 1 := (Shifted.fits h).le (by omega) he
        cases s <;> simp [map, serialize, MacroPatternRaw.map, MacroPatternRaw.fields, variant,
          ofOption] <;> omega
      · apply forall_read hx
        simp only [fmap_eq, seq_eq, forall_builds_map, forall_builds_seq, forall_builds_req]
        rintro ⟨s, n⟩ hsn e he
        have := MacroPatternRaw.deserializeOpr_reads hsn
        have : (Shifted.serialize (e.map ser)).depth ≤ _ := (Shifted.fits h).le (by omega) he
        cases s <;> cases n <;> simp [map, serialize, MacroPatternRaw.map, MacroPatternRaw.fields,
          variant, ofOption, ofFin] <;> omega
      · split at hx
        · apply forall_read hx
          simp only [fmap_eq, seq_eq, forall_builds_map, forall_builds_seq, forall_builds_req]
          intro s hs e he
          have := MacroPatternRaw.deserializeSpaced_reads hs
          have : (Shifted.serialize (e.map ser)).depth ≤ _ := (Shifted.fits h).le (by omega) he
          cases s <;> simp [map, serialize, MacroPatternRaw.map, MacroPatternRaw.fields, variant,
            ofOption] <;> omega
        · cases hx
    · split at hx
      · exact absurd hx refuseStruct_ne_ok
      · cases hx
  · exact absurd hx refuseEnum_ne_ok

end MacroPatternMatchRaw

theorem MacroMatchSegment.fits (h : Fits ser de k) :
    Fits (fun s => (s.map ser).serialize) (MacroMatchSegment.deserialize de) (k + 1) := by
  rintro m hm s ⟨j, hs⟩
  revert hm
  apply forall_deserialize hs
  simp only [fmap_eq, seq_eq, forall_builds_map, forall_builds_seq, forall_builds_req]
  intro m a ha e he hm
  have := h.le (by omega) ha
  have := (MacroPatternMatchRaw.fits h).le (by omega) he
  simp only at this
  simp [MacroMatchSegment.serialize, MacroMatchSegment.map]; omega

theorem MacroAmbiguousSegment.fits (h : Fits ser de k) :
    Fits (fun s => (s.map ser).serialize) (MacroAmbiguousSegment.deserialize de) (k + 1) := by
  rintro m hm s ⟨j, hs⟩
  revert hm
  apply forall_deserialize hs
  simp only [fmap_eq, seq_eq, forall_builds_map, forall_builds_seq, forall_builds_req,
    forall_builds_opt]
  intro m a ha o ho hm
  have := h.le (by omega) ha
  have := (option_fits (Shifted.fits h)).le (by omega) ho
  simp only [ofOption_map] at this
  simp [MacroAmbiguousSegment.serialize, MacroAmbiguousSegment.map, ofOption_map]; omega

namespace Tree

theorem deserializeBranch_reads {m : Nat} {b : T × Tree T Unit} (h : Reads (deserializeBranch de m) b) :
    ∃ m', m = m' + 1 ∧ Reads (de m') b.1 ∧ Reads (deserialize de m') b.2 := by
  obtain ⟨j, h⟩ := h
  unfold deserializeBranch at h
  split at h
  · split at h
    · cases h
    · obtain ⟨_, -, h⟩ := Except.bind_eq_ok h
      cases h
    · obtain ⟨a, ha, h⟩ := Except.bind_eq_ok h
      obtain ⟨t, ht, h⟩ := Except.bind_eq_ok h
      split at h
      · cases h
        exact ⟨_, rfl, ⟨_, ha⟩, ⟨_, ht⟩⟩
      · cases h
  · exact absurd h refuseSeq_ne_ok

theorem deserializeBranches_reads {m : Nat} {bs : List (T × Tree T Unit)}
    (h : Reads (deserializeBranches de m) bs) :
    ∃ m', m = m' + 1 ∧ ∀ b ∈ bs, Reads (deserializeBranch de m') b := by
  obtain ⟨j, h⟩ := h
  unfold deserializeBranches at h
  split at h
  · exact ⟨_, rfl, mapM_reads h⟩
  · exact absurd h refuseSeq_ne_ok

/-- A tree read at a level is written within it, by strong induction on the level: each
subtree is read three levels down. -/
theorem fits (h : Fits ser de k) : Fits (fun t => (t.map ser).serialize) (Tree.deserialize de) (k + 1) := by
  intro m
  induction m using Nat.strong_induction_on with
  | _ m ih =>
  rintro hm t ⟨j, ht⟩
  unfold deserialize at ht
  split at ht
  · apply forall_read ht
    simp only [fmap_eq, seq_eq, forall_builds_map, forall_builds_seq, forall_builds_req,
      forall_builds_opt]
    intro v hv bs hbs
    obtain ⟨m', hm', hb⟩ := deserializeBranches_reads hbs
    have hbranch : ∀ b ∈ bs, (Json.arr [ser b.1, (b.2.map ser).serialize]).depth ≤ m' := by
      intro b hb'
      obtain ⟨m'', rfl, hk, ht⟩ := deserializeBranch_reads (hb b hb')
      have := h.le (by omega) hk
      have := ih m'' (by omega) (by omega) _ ht
      simp only at this
      simp; omega
    have := depthList_map_le _ bs m' hbranch
    have hv : (ofOption (fun _ => Json.obj []) v).depth ≤ m' + 1 := by
      cases v with
      | none => simp [ofOption]
      | some u =>
        obtain ⟨-, h1⟩ := deEmptyStruct_reads (deOption_reads hv u rfl)
        simp [ofOption]
    simp [map, serialize, serializeBranches_mapBranches]; omega
  · exact absurd ht refuseStruct_ne_ok

end Tree

theorem Match.fits (h : Fits ser de k) :
    Fits (fun x => (x.map ser).serialize) (Match.deserialize de) (k + 1) := by
  rintro m hm x ⟨j, hx⟩
  revert hm
  apply forall_deserialize hx
  simp only [fmap_eq, seq_eq, forall_builds_map, forall_builds_seq, forall_builds_req,
    forall_builds_opt]
  intro m o ho v hv a ha hm
  have := (option_fits (MacroPatternMatchRaw.fits h)).le (by omega) ho
  have := (ShiftedVec1.fits (MacroMatchSegment.fits h)).le (by omega) hv
  have := h.le (by omega) ha
  simp only [ofOption_map] at *
  simp [Match.serialize, Match.map, ofOption_map, ShiftedVec1.map_map, Function.comp_def]; omega

theorem Ambiguous.fits (h : Fits ser de k) :
    Fits (fun x => (x.map ser).serialize) (Ambiguous.deserialize de) (k + 1) := by
  rintro m hm x ⟨j, hx⟩
  revert hm
  apply forall_deserialize hx
  simp only [fmap_eq, seq_eq, forall_builds_map, forall_builds_seq, forall_builds_req]
  intro m v hv t ht hm
  have := (ShiftedVec1.fits (MacroAmbiguousSegment.fits h)).le (by omega) hv
  have := (Tree.fits h).le (by omega) ht
  simp only at *
  simp [Ambiguous.serialize, Ambiguous.map, ShiftedVec1.map_map, Function.comp_def]; omega

end Macros

end Enso
