import Enso.Json

/-!
# Flattened fields and member order

serde's derived readers for a struct with a `#[serde(flatten)]` field keep a slot for each of
the struct's own fields and collect every other member, in document order; after the last
member the own fields are finished and the flattened field is read from what was collected
(`FlatMapDeserializer`). `Fields.readFlat` is that loop.

**Collecting (`readFlat_eq`).** The loop reads the own fields exactly as a struct without the
flattened field would, and collects precisely the members whose key no own field has.

**Member order (`read_perm`).** When the keys are distinct and every member is either unknown
to the fields or read without error, the fields' result does not depend on the order of the
members. Two members of different keys fill different slots, so they commute
(`feed_comm`); the rest is an induction on the permutation. This is what lets a document
written by `serde_json::to_value`, whose map orders its keys, read the same as the text
`serde_json::to_string` writes.
-/

namespace Enso

open Json

namespace Json.Fields

variable {α β γ : Type}

/-- The keys of the fields, last declared first. -/
def names {α : Type} : Fields α → List String
  | pure _ => []
  | ap f s => s.name :: f.names

/-- `visit_map` of a derived struct with a flattened field: the own fields are read as `read`
reads them, every member no own field takes is collected, and the own fields are finished
after the last member. -/
def readFlat {α : Type} (r : Fields α) :
    List (String × Json) → Except DeError (α × List (String × Json))
  | [] => (·, []) <$> r.finish
  | (k, v) :: ms => match r.feed k v with
    | none => (fun a => (a.1, (k, v) :: a.2)) <$> r.readFlat ms
    | some (.error e) => .error e
    | some (.ok r') => r'.readFlat ms

/-- A derived struct whose own fields are `r` and whose flattened field is read by `deRest`
from the members the own fields leave. -/
def deserializeFlat (r : Fields β) (deRest : List (String × Json) → Except DeError γ)
    (mk : β → γ → α) (ms : List (String × Json)) : Except DeError α := do
  let (b, rest) ← r.readFlat ms
  mk b <$> deRest rest

/-! ## Feeding one member -/

@[simp] theorem names_reqOr {name : String} {de : Json → Except DeError α}
    {missing : Except DeError α} : (reqOr name de missing).names = [name] := rfl

@[simp] theorem names_req {name : String} {de : Json → Except DeError α} :
    (req name de).names = [name] := rfl

theorem feed_eq_none {r : Fields α} {k : String} {v : Json} : r.feed k v = none ↔ k ∉ r.names := by
  induction r with
  | pure a => simp [feed, names]
  | ap f s ih =>
    simp only [feed, names, List.mem_cons, not_or]
    split_ifs with h
    · simp [h]
    · split <;> simp_all

/-- What feeding one member can do to a slot-list: fill the last slot, if the key is its and
the slot is still empty, or pass the member on to the slots before it. -/
theorem feed_ap_eq_ok {β : Type} {f : Fields (β → α)} {s : Slot β} {k : String} {v : Json}
    {r : Fields α} :
    (ap f s).feed k v = some (.ok r) ↔
      k = s.name ∧ s.value = none ∧ (∃ b, s.de v = .ok b ∧ r = ap f { s with value := some b }) ∨
        k ≠ s.name ∧ ∃ f', f.feed k v = some (.ok f') ∧ r = ap f' s := by
  by_cases hk : k = s.name
  · subst hk
    simp only [feed, if_true, eq_self_iff_true, ne_eq, not_true_eq_false, false_and, or_false,
      true_and]
    cases s.value <;> simp only [reduceCtorEq, false_and, Option.some.injEq, true_and]
    cases s.de v <;> simp [eq_comm]
  · simp only [feed, if_neg hk, hk, false_and, false_or, ne_eq, not_false_eq_true, true_and]
    cases f.feed k v with
    | none => simp
    | some x => cases x <;> simp [eq_comm]

theorem names_of_feed {r r' : Fields α} {k : String} {v : Json}
    (h : r.feed k v = some (.ok r')) : r'.names = r.names := by
  induction r with
  | pure a => simp [feed] at h
  | ap f s ih =>
    rcases feed_ap_eq_ok.1 h with ⟨-, -, b, -, rfl⟩ | ⟨-, f', e, rfl⟩
    · rfl
    · simp [names, ih e]

theorem mem_names_of_feed {r r' : Fields α} {k : String} {v : Json}
    (h : r.feed k v = some (.ok r')) : k ∈ r.names := by
  by_contra hk
  rw [feed_eq_none.2 hk] at h
  cases h

/-- Two members of different keys fill different slots, in either order. -/
theorem feed_comm {r r₁ r₂ : Fields α} {k₁ k₂ : String} {v₁ v₂ : Json} (hne : k₁ ≠ k₂)
    (h₁ : r.feed k₁ v₁ = some (.ok r₁)) (h₂ : r.feed k₂ v₂ = some (.ok r₂)) :
    ∃ r₁₂, r₁.feed k₂ v₂ = some (.ok r₁₂) ∧ r₂.feed k₁ v₁ = some (.ok r₁₂) := by
  induction r with
  | pure a => simp [feed] at h₁
  | ap f s ih =>
    rw [feed_ap_eq_ok] at h₁ h₂
    rcases h₁ with ⟨hk₁, hs₁, b₁, hb₁, rfl⟩ | ⟨hk₁, f₁, e₁, rfl⟩ <;>
      rcases h₂ with ⟨hk₂, hs₂, b₂, hb₂, rfl⟩ | ⟨hk₂, f₂, e₂, rfl⟩
    · exact absurd (hk₁.trans hk₂.symm) hne
    · exact ⟨_, feed_ap_eq_ok.2 (.inr ⟨hk₂, _, e₂, rfl⟩), feed_ap_eq_ok.2 (.inl ⟨hk₁, hs₁, _, hb₁, rfl⟩)⟩
    · exact ⟨_, feed_ap_eq_ok.2 (.inl ⟨hk₂, hs₂, _, hb₂, rfl⟩), feed_ap_eq_ok.2 (.inr ⟨hk₁, _, e₁, rfl⟩)⟩
    · obtain ⟨f₁₂, e₁₂, e₂₁⟩ := ih e₁ e₂
      exact ⟨ap f₁₂ s, feed_ap_eq_ok.2 (.inr ⟨hk₂, _, e₁₂, rfl⟩), feed_ap_eq_ok.2 (.inr ⟨hk₁, _, e₂₁, rfl⟩)⟩

/-- Members of keys none of the fields has are skipped. -/
theorem read_append_of_not_mem {r : Fields α} :
    ∀ {l₁ : List (String × Json)}, (∀ p ∈ l₁, p.1 ∉ r.names) →
      ∀ l₂ : List (String × Json), r.read (l₁ ++ l₂) = r.read l₂
  | [], _, _ => rfl
  | (k, v) :: l₁, h, l₂ => by
    rw [List.cons_append, read, feed_eq_none.2 (h _ (List.mem_cons_self _ _))]
    exact read_append_of_not_mem (fun q hq => h q (.tail _ hq)) l₂

theorem read_of_not_mem {r : Fields α} {ms : List (String × Json)}
    (h : ∀ p ∈ ms, p.1 ∉ r.names) : r.read ms = r.finish := by
  simpa using read_append_of_not_mem h []

/-! ## Collecting what no own field takes -/

/-- `readFlat` reads the own fields as `read` does, and collects the members of other keys. -/
theorem readFlat_eq (r : Fields α) (ms : List (String × Json)) :
    r.readFlat ms = (fun a => (a, ms.filter fun p => p.1 ∉ r.names)) <$> r.read ms := by
  induction ms generalizing r with
  | nil => cases h : r.finish <;> simp [readFlat, read, h]
  | cons p ms ih =>
    obtain ⟨k, v⟩ := p
    cases h : r.feed k v with
    | none =>
      have hk := feed_eq_none.1 h
      cases hr : r.read ms <;> simp [readFlat, read, h, ih, hr, hk]
    | some x =>
      cases x with
      | error e => simp [readFlat, read, h]
      | ok r' => simp [readFlat, read, h, ih, names_of_feed h, mem_names_of_feed h]

/-- The members `readFlat` collects are among those it was given. -/
theorem mem_of_readFlat {r : Fields α} {ms rest : List (String × Json)} {a : α}
    (h : r.readFlat ms = .ok (a, rest)) {p : String × Json} (hp : p ∈ rest) : p ∈ ms := by
  rw [readFlat_eq] at h
  cases hr : r.read ms <;> simp [hr] at h
  exact (List.mem_filter.1 (h.2 ▸ hp)).1

/-! ## Member order -/

/-- A member the fields take without error: its key is none of theirs, or its slot reads it. -/
def Takes (r : Fields α) (p : String × Json) : Prop :=
  r.feed p.1 p.2 = none ∨ ∃ r', r.feed p.1 p.2 = some (.ok r')

theorem takes_iff {r : Fields α} {p : String × Json} :
    r.Takes p ↔ ∀ e, r.feed p.1 p.2 ≠ some (.error e) := by
  unfold Takes
  rcases r.feed p.1 p.2 with _ | _ | _ <;> simp

/-- Filling one slot leaves every other member as it was. -/
theorem Takes.of_feed {r r₁ : Fields α} {k : String} {v : Json} {p : String × Json}
    (hne : k ≠ p.1) (h : r.feed k v = some (.ok r₁)) (hp : r.Takes p) : r₁.Takes p := by
  rcases hp with hp | ⟨r₂, hp⟩
  · exact .inl (feed_eq_none.2 (names_of_feed h ▸ feed_eq_none.1 hp))
  · obtain ⟨r₁₂, e, -⟩ := feed_comm hne h hp
    exact .inr ⟨r₁₂, e⟩

/-- Two adjacent members of different keys can be exchanged. -/
theorem read_swap {r : Fields α} {p q : String × Json} (hne : p.1 ≠ q.1) (hp : r.Takes p)
    (hq : r.Takes q) (ms : List (String × Json)) : r.read (p :: q :: ms) = r.read (q :: p :: ms) := by
  obtain ⟨k, v⟩ := p
  obtain ⟨k', v'⟩ := q
  rcases hp with hp | ⟨rp, hp⟩ <;> rcases hq with hq | ⟨rq, hq⟩
  · simp [read, hp, hq]
  · have : rq.feed k v = none := feed_eq_none.2 (names_of_feed hq ▸ feed_eq_none.1 hp)
    simp [read, hp, hq, this]
  · have : rp.feed k' v' = none := feed_eq_none.2 (names_of_feed hp ▸ feed_eq_none.1 hq)
    simp [read, hp, hq, this]
  · obtain ⟨r₁₂, e₁, e₂⟩ := feed_comm hne hp hq
    simp [read, hp, hq, e₁, e₂]

/-- **Member order does not matter** when the keys are distinct and every member is taken. -/
theorem read_perm {ms ms' : List (String × Json)} (h : ms.Perm ms') (hk : (ms.map Prod.fst).Nodup)
    {r : Fields α} (ht : ∀ p ∈ ms, r.Takes p) : r.read ms = r.read ms' := by
  induction h generalizing r with
  | nil => rfl
  | cons p _ ih =>
    obtain ⟨k, v⟩ := p
    obtain ⟨hp, hl⟩ := List.nodup_cons.1 hk
    rcases ht _ (List.mem_cons_self _ _) with h | ⟨r', h⟩
    · simp only [read, h, ih hl fun q hq => ht q (.tail _ hq)]
    · simp only [read, h]
      refine ih hl fun q hq => (ht q (.tail _ hq)).of_feed (fun (he : k = q.1) => ?_) h
      exact hp (he ▸ List.mem_map_of_mem Prod.fst hq : k ∈ _)
  | swap p q l =>
    have hne : q.1 ≠ p.1 := fun he => (List.nodup_cons.1 hk).1 (by simp [he])
    exact read_swap hne (ht q (by simp)) (ht p (by simp)) l
  | trans h₁ _ ih₁ ih₂ =>
    rw [ih₁ hk ht, ih₂ ((h₁.map Prod.fst).nodup_iff.1 hk) fun p hp => ht p (h₁.mem_iff.2 hp)]

/-- Members the fields take, mixed with members of other keys (all keys distinct), read as the
former alone. -/
theorem read_perm_append {r : Fields α} {others l ms : List (String × Json)}
    (h : ms.Perm (others ++ l)) (hk : ((others ++ l).map Prod.fst).Nodup)
    (hnames : ∀ k ∈ r.names, k ∈ l.map Prod.fst) (hl : ∀ p ∈ l, r.Takes p) :
    r.read ms = r.read l := by
  have ho : ∀ p ∈ others, p.1 ∉ r.names := fun p hp hn => by
    rw [List.map_append] at hk
    exact (List.pairwise_append.1 hk).2.2 _ (List.mem_map_of_mem _ hp) _ (hnames _ hn) rfl
  rw [read_perm h ((h.map Prod.fst).nodup_iff.2 hk) fun p hp => ?_, read_append_of_not_mem ho]
  rcases List.mem_append.1 (h.mem_iff.1 hp) with hp | hp
  · exact .inl (feed_eq_none.2 (ho p hp))
  · exact hl p hp

/-- A repeated key of a struct's own field is refused, once its first member has been read. -/
theorem deserializeFlat_req_duplicate {name : String} {de : Json → Except DeError β} {v₁ v₂ : Json}
    {b : β} (hb : de v₁ = .ok b) (deRest : List (String × Json) → Except DeError γ)
    (mk : β → γ → α) {l₁ l₂ : List (String × Json)} (h : ∀ p ∈ l₁ ++ l₂, p.1 ≠ name)
    (l₃ : List (String × Json)) :
    deserializeFlat (req name de) deRest mk (l₁ ++ (name, v₁) :: (l₂ ++ (name, v₂) :: l₃)) =
      .error (.duplicateField name) := by
  have hout : ∀ {l : List (String × Json)}, (∀ p ∈ l, p.1 ≠ name) → ∀ p ∈ l, p.1 ∉ [name] :=
    fun hl p hp => by simpa using hl p hp
  have hread : (req name de).read (l₁ ++ (name, v₁) :: (l₂ ++ (name, v₂) :: l₃)) =
      .error (.duplicateField name) := by
    rw [read_append_of_not_mem (hout fun p hp => h p (List.mem_append_left _ hp)), read]
    simp only [req, reqOr, feed, if_true, hb]
    rw [read_append_of_not_mem (r := ap (pure id) ⟨name, de, _, some b⟩)
      (hout fun p hp => h p (List.mem_append_right _ hp))]
    simp [read, feed]
  simp [deserializeFlat, readFlat_eq, hread]

/-- **A struct with one field of its own and a flattened field** reads its field from its
member and hands the flattened field the other members, in whatever order they come. -/
theorem deserializeFlat_req {name : String} {de : Json → Except DeError β} {v : Json} {b : β}
    (hb : de v = .ok b) {deRest : List (String × Json) → Except DeError γ} {mk : β → γ → α}
    {rest : List (String × Json)} {c : γ} (hrest : ∀ ms, ms.Perm rest → deRest ms = .ok c)
    (hk : (((name, v) :: rest).map Prod.fst).Nodup) {ms : List (String × Json)}
    (hp : ms.Perm ((name, v) :: rest)) :
    deserializeFlat (req name de) deRest mk ms = .ok (mk b c) := by
  have hout : ∀ p ∈ rest, p.1 ∉ (req name de).names := fun p hp' h => by
    have hmem := List.mem_map_of_mem Prod.fst hp'
    simp only [names_req, List.mem_singleton] at h
    rw [h] at hmem
    exact (List.nodup_cons.1 hk).1 hmem
  have hfeed : (req name de).feed name v =
      some (.ok (ap (pure id) ⟨name, de, .error (.missingField name), some b⟩)) := by
    simp [req, reqOr, feed, hb]
  have ht : ∀ p ∈ ms, (req name de).Takes p := fun p hp' => by
    rcases List.mem_cons.1 (hp.mem_iff.1 hp') with rfl | hr
    · exact .inr ⟨_, hfeed⟩
    · exact .inl (feed_eq_none.2 (hout p hr))
  have hread : (req name de).read ms = .ok b := by
    rw [read_perm hp ((hp.map Prod.fst).nodup_iff.2 hk) ht, read, hfeed]
    exact read_of_not_mem (r := ap (pure id) ⟨name, de, .error (.missingField name), some b⟩) hout
  have hfilter : (ms.filter fun p => p.1 ∉ (req name de).names).Perm rest := by
    refine (hp.filter _).trans ?_
    rw [List.filter_cons_of_neg (by simp), List.filter_eq_self.2 fun p hp' => by simpa using hout p hp']
  simp only [deserializeFlat, readFlat_eq, hread, Except.map_ok_eq, Except.ok_bind_eq,
    hrest _ hfilter]

end Json.Fields

end Enso
