import Enso.Ast.RoundTrip

/-!
# What the Ast visitor accepts

`AstDeserializationVisitor::visit_map` keeps one slot for each of `shape`, `id` and `span`
and fills them from the object's members in document order; after the last member a missing
`shape` or `span` is `missing_field`, and a missing `id` is `None`. Every key is asked for as
a borrowed `&str`; a key the deserializer cannot lend is refused (`invalid type`).

**Order (`visitMap_perm`).** Members with distinct keys that all read may come in any order:
the visitor's result depends only on which value each slot receives.

**Other keys (`visitMap_unknown`).** The `_ => {}` arm takes the key but never its value, so
serde_json next finds that value's `:` where it expects `,` or `}`
(`ExpectedObjectCommaOrEnd`). An object with a member of any other key is refused so,
wherever the member stands.

**Theorem (`fromStr_obj`).** An object made of a `shape` member, a `span` member and
optionally an `id` member, in any order, reads as `Ast::new_with_span`; without `shape` it is
`missing_field("shape")`, without `span` `missing_field("span")`; with one more member of
another key, written without escapes, it is refused with `ExpectedObjectCommaOrEnd`.
-/

namespace Enso

open Json

namespace Ast

variable {lends : String → Bool} {deShape : Json → Except DeError Shape}

/-- A member the visitor takes without error: one of its three keys, lent, with a value its
slot reads. -/
def Takes (lends : String → Bool) (deShape : Json → Except DeError Shape) (p : String × Json) :
    Prop :=
  lends p.1 = true ∧
    (p.1 = "shape" ∧ (∃ s, deShape p.2 = .ok s) ∨
      p.1 = "id" ∧ (∃ i, deOption Uuid.deserialize p.2 = .ok i) ∨
      p.1 = "span" ∧ ∃ n, deUsize p.2 = .ok n)

/-- A member of another key, lent: the one the `_ => {}` arm takes. -/
def Unknown (lends : String → Bool) (p : String × Json) : Prop :=
  lends p.1 = true ∧ p.1 ≠ "shape" ∧ p.1 ≠ "id" ∧ p.1 ≠ "span"

/-- Two members that fill different slots commute. -/
theorem visitMap_swap {p q : String × Json} (hp : Takes lends deShape p)
    (hq : Takes lends deShape q) (hne : p.1 ≠ q.1) (ms : List (String × Json))
    (shape : Option Shape) (id : Option (Option Uuid)) (span : Option Usize) :
    visitMap lends deShape (p :: q :: ms) shape id span =
      visitMap lends deShape (q :: p :: ms) shape id span := by
  obtain ⟨k, v⟩ := p
  obtain ⟨k', v'⟩ := q
  obtain ⟨hl, hp⟩ := hp
  obtain ⟨hl', hq⟩ := hq
  rcases hp with ⟨rfl, s, hs⟩ | ⟨rfl, i, hi⟩ | ⟨rfl, n, hn⟩ <;>
    rcases hq with ⟨rfl, s', hs'⟩ | ⟨rfl, i', hi'⟩ | ⟨rfl, n', hn'⟩ <;>
    first | exact absurd rfl hne | simp_all [visitMap]

/-- **Member order does not matter** among members of distinct keys that the visitor takes. -/
theorem visitMap_perm {ms ms' : List (String × Json)} (h : ms.Perm ms')
    (hk : (ms.map Prod.fst).Nodup) (ht : ∀ p ∈ ms, Takes lends deShape p) (shape : Option Shape)
    (id : Option (Option Uuid)) (span : Option Usize) :
    visitMap lends deShape ms shape id span = visitMap lends deShape ms' shape id span := by
  induction h generalizing shape id span with
  | nil => rfl
  | cons p _ ih =>
    have ih' := ih (List.nodup_cons.1 hk).2 fun q hq => ht q (.tail _ hq)
    obtain ⟨k, v⟩ := p
    simp only [visitMap, ih']
  | swap p q l =>
    have hne : q.1 ≠ p.1 := fun he => (List.nodup_cons.1 hk).1 (by simp [he])
    exact visitMap_swap (ht q (by simp)) (ht p (by simp)) hne l shape id span
  | trans h₁ _ ih₁ ih₂ =>
    rw [ih₁ hk ht, ih₂ ((h₁.map Prod.fst).nodup_iff.1 hk) fun p hp => ht p (h₁.mem_iff.2 hp)]

/-- **A member of another key is refused** with `ExpectedObjectCommaOrEnd`, wherever it
stands among members the visitor takes. -/
theorem visitMap_unknown {ms : List (String × Json)}
    (ht : ∀ p ∈ ms, Takes lends deShape p ∨ Unknown lends p) (h : ∃ p ∈ ms, Unknown lends p)
    (shape : Option Shape) (id : Option (Option Uuid)) (span : Option Usize) :
    visitMap lends deShape ms shape id span = .error .expectedObjectCommaOrEnd := by
  induction ms generalizing shape id span with
  | nil => simp at h
  | cons p ms ih =>
    obtain ⟨k, v⟩ := p
    have ih' := ih fun q hq => ht q (.tail _ hq)
    rcases ht (k, v) (List.mem_cons_self _ _) with ⟨hl, hk⟩ | ⟨hl, hk⟩
    · have hms : ∃ p ∈ ms, Unknown lends p := by
        obtain ⟨q, hq, hu⟩ := h
        rcases List.mem_cons.1 hq with rfl | hq
        · rcases hk with ⟨rfl, -⟩ | ⟨rfl, -⟩ | ⟨rfl, -⟩ <;> simp [Unknown] at hu
        · exact ⟨q, hq, hu⟩
      rcases hk with ⟨rfl, _, h'⟩ | ⟨rfl, _, h'⟩ | ⟨rfl, _, h'⟩ <;> simp [visitMap, hl, h', ih' hms]
    · simp [visitMap, hl, hk]

/-! ## A repeated key -/

/-- What a slot held only matters while no later member of its key overwrites it: the
visitor's result is the same from two slot states that differ only in slots whose keys come
later. -/
theorem visitMap_slots {ms : List (String × Json)} {shape shape' : Option Shape}
    {id id' : Option (Option Uuid)} {span span' : Option Usize}
    (hs : shape = shape' ∨ ∃ q ∈ ms, q.1 = "shape") (hi : id = id' ∨ ∃ q ∈ ms, q.1 = "id")
    (hn : span = span' ∨ ∃ q ∈ ms, q.1 = "span") :
    visitMap lends deShape ms shape id span = visitMap lends deShape ms shape' id' span' := by
  induction ms generalizing shape shape' id id' span span' with
  | nil =>
    simp only [List.not_mem_nil, false_and, exists_false, or_false] at hs hi hn
    rw [hs, hi, hn]
  | cons q ms ih =>
    obtain ⟨k, v⟩ := q
    simp only [List.mem_cons, exists_eq_or_imp] at hs hi hn
    simp only [visitMap]
    split_ifs with hl h₁ h₂ h₃
    · rfl
    · subst h₁
      cases deShape v
      · rfl
      · exact ih (.inl rfl) (hi.imp_right (·.resolve_left (by decide)))
          (hn.imp_right (·.resolve_left (by decide)))
    · subst h₂
      cases deOption Uuid.deserialize v
      · rfl
      · exact ih (hs.imp_right (·.resolve_left (by decide))) (.inl rfl)
          (hn.imp_right (·.resolve_left (by decide)))
    · subst h₃
      cases deUsize v
      · rfl
      · exact ih (hs.imp_right (·.resolve_left (by decide)))
          (hi.imp_right (·.resolve_left (by decide))) (.inl rfl)
    · rfl

/-- **The last member of a key wins.** A member the visitor takes, followed somewhere by
another of the same key, changes nothing; serde's derived readers would refuse the repeated
key (`duplicate_field`). -/
theorem visitMap_shadowed {p : String × Json} (hp : Takes lends deShape p)
    {ms : List (String × Json)} (h : ∃ q ∈ ms, q.1 = p.1) (shape : Option Shape)
    (id : Option (Option Uuid)) (span : Option Usize) :
    visitMap lends deShape (p :: ms) shape id span = visitMap lends deShape ms shape id span := by
  obtain ⟨k, v⟩ := p
  obtain ⟨hl, hp⟩ := hp
  rcases hp with ⟨rfl, s, hs⟩ | ⟨rfl, i, hi⟩ | ⟨rfl, n, hn⟩
  · simpa [visitMap, hl, hs] using visitMap_slots (.inr h) (.inl rfl) (.inl rfl)
  · simpa [visitMap, hl, hi] using visitMap_slots (.inl rfl) (.inr h) (.inl rfl)
  · simpa [visitMap, hl, hn] using visitMap_slots (.inl rfl) (.inl rfl) (.inr h)

/-- Two `span` members: `from_str` reads the node as if the first, `3`, were not there. -/
theorem visitMap_shadowed_span :
    fromStr (.obj [("span", ofFin (3 : Usize)), ("shape", Shape.blank.serialize),
        ("span", ofFin (5 : Usize))]) =
      fromStr (.obj [("shape", Shape.blank.serialize), ("span", ofFin (5 : Usize))]) :=
  (deserialize_obj 126 _).trans <| (visitMap_shadowed
    (show Takes Key.lends _ ("span", ofFin (3 : Usize)) from ⟨rfl, .inr (.inr ⟨rfl, 3, deUsize_ofFin 3⟩)⟩)
    ⟨("span", ofFin (5 : Usize)), by simp, rfl⟩ none none none).trans (deserialize_obj 126 _).symm

/-- The members the visitor is meant to take: `shape` when there is a shape, the `id`
members `idm`, and `span` when there is a span. -/
def members (s? : Option Shape) (idm : List (String × Json)) (n? : Option Usize) :
    List (String × Json) :=
  (s?.map fun s => ("shape", s.serialize)).toList ++ idm ++ (n?.map fun n => ("span", ofFin n)).toList

/-- What the visitor makes of them: the node, or the first slot left empty. -/
def membersResult (s? : Option Shape) (id : Option Uuid) (n? : Option Usize) : Except DeError Ast :=
  match s?, n? with
  | some s, some n => .ok (newWithSpan s id n)
  | none, _ => .error (.missingField "shape")
  | some _, none => .error (.missingField "span")

section Members

variable {s? : Option Shape} {n? : Option Usize} {id : Option Uuid} {idm : List (String × Json)}

/-- The `id` members: none, and no id; or one, whose value reads as the id (`null` as `None`). -/
def IdMembers (idm : List (String × Json)) (id : Option Uuid) : Prop :=
  idm = [] ∧ id = none ∨ ∃ v, idm = [("id", v)] ∧ deOption Uuid.deserialize v = .ok id

theorem members_nodup (hid : IdMembers idm id) : ((members s? idm n?).map Prod.fst).Nodup := by
  rcases hid with ⟨rfl, -⟩ | ⟨v, rfl, -⟩ <;> cases s? <;> cases n? <;> simp [members]

theorem members_takes {b : Nat} (hs : ∀ s ∈ s?, s.serialize.depth ≤ b) (hid : IdMembers idm id) :
    ∀ p ∈ members s? idm n?, Takes Key.lends (Shape.deserialize (deserializeUpTo Key.lends b) b) p := by
  intro p hp
  rcases hid with ⟨rfl, -⟩ | ⟨v, rfl, hv⟩ <;> cases s? <;> cases n? <;> simp [members] at hp hs <;>
    rcases hp with rfl | rfl | rfl <;> simp [Takes, deserializeShape_serialize, *]

theorem visitMap_members (hs : ∀ s ∈ s?, deShape s.serialize = .ok s) (hid : IdMembers idm id) :
    visitMap Key.lends deShape (members s? idm n?) none none none = membersResult s? id n? := by
  rcases hid with ⟨rfl, rfl⟩ | ⟨v, rfl, hv⟩ <;> cases s? <;> cases n? <;> simp at hs <;>
    simp [members, membersResult, visitMap, *]

end Members

/-- **What `serde_json::from_str` makes of an object**: its members `shape`, `span` and
`id` in any order give the node (or the missing field), and one member more, of any other key
written without escapes, makes it refused with `ExpectedObjectCommaOrEnd`. -/
theorem fromStr_obj (s? : Option Shape) (n? : Option Usize) (id : Option Uuid)
    (idm ms : List (String × Json)) (hs : ∀ s ∈ s?, s.serialize.depth ≤ 126)
    (hid : IdMembers idm id) :
    (ms.Perm (members s? idm n?) → fromStr (.obj ms) = membersResult s? id n?) ∧
      ∀ other : String × Json, Unknown Key.lends other →
        ms.Perm (other :: members s? idm n?) → fromStr (.obj ms) = .error .expectedObjectCommaOrEnd := by
  have ht : ∀ p ∈ members s? idm n?, Takes Key.lends (Shape.deserialize (deserializeUpTo Key.lends 126) 126) p :=
    members_takes hs hid
  refine ⟨fun hp => ?_, fun other ho hp => ?_⟩
  · rw [fromStr, show (127 : Nat) = 126 + 1 from rfl, deserialize_obj,
      visitMap_perm hp ((hp.map Prod.fst).nodup_iff.2 (members_nodup hid))
        (fun p h => ht p (hp.mem_iff.1 h)),
      visitMap_members (fun s h => deserializeShape_serialize (hs s h)) hid]
  · rw [fromStr, show (127 : Nat) = 126 + 1 from rfl, deserialize_obj]
    refine visitMap_unknown (fun p h => ?_) ⟨other, hp.mem_iff.2 (List.mem_cons_self _ _), ho⟩ _ _ _
    rcases List.mem_cons.1 (hp.mem_iff.1 h) with rfl | h
    · exact .inr ho
    · exact .inl (ht p h)

/-- The members in the order the node writes them, `span` before `shape`, or with `id: null`,
are read; with one more member `"x": 0`, the visitor leaves `0` unread and the object is
refused. -/
theorem fromStr_obj_blank :
    fromStr (.obj [("span", ofFin (0 : Usize)), ("id", .null), ("shape", Shape.blank.serialize)]) =
      .ok (newWithSpan .blank none 0) ∧
    fromStr (.obj [("shape", Shape.blank.serialize), ("span", ofFin (0 : Usize)), ("x", .num 0)]) =
      .error .expectedObjectCommaOrEnd :=
  have hs : ∀ s ∈ some Shape.blank, s.serialize.depth ≤ 126 := by simp [Shape.serialize, variant]
  ⟨(fromStr_obj (some .blank) (some 0) none [("id", .null)] _ hs (.inr ⟨.null, rfl, rfl⟩)).1
    (List.reverse_perm (members (some .blank) [("id", .null)] (some 0))),
   (fromStr_obj (some .blank) (some 0) none [] _ hs (.inl ⟨rfl, rfl⟩)).2 ("x", .num 0)
    ⟨rfl, by decide, by decide, by decide⟩
    (List.perm_append_singleton _ [("shape", Shape.blank.serialize), ("span", ofFin (0 : Usize))])⟩

end Ast

end Enso
