import Mathlib

/-!
# JSON documents and serde's readers

Both crates move their values through serde_json. This module fixes the document model and
the conventions of serde's readers that the rest of the development relies on.

**Documents.** A `Json` is a parsed document (`serde_json::Value`). Object members keep the
order they were written in: the derived readers and the hand-written `Ast` visitor see them
in that order, and the `Ast` visitor's behaviour depends on it.

**Levels.** serde_json refuses to nest deeper than its recursion limit: it starts with 128
levels and fails as soon as entering a `[` or `{` would leave none, so a document read from
text may nest at most 127 arrays and objects. The readers of the syntax tree take the levels
still available as their first argument and spend one on every array or object they enter;
`Json.depth` counts what a document needs.

**Readers.** serde's derived readers look a struct's fields up by name (a second occurrence
is `duplicate_field`, an unknown key is skipped), read a missing `Option` field as `None`
and report any other missing field (`missing_field`). `Option` itself is transparent: `null`
is `None`, anything else is read as the inner value.
-/

namespace Enso

/-- One more than `usize::MAX` on a 64-bit target. -/
def usizeBound : Nat := 2 ^ 64

instance : NeZero usizeBound := ⟨by simp [usizeBound]⟩

/-- Rust's `usize` on a 64-bit target. -/
abbrev Usize := Fin usizeBound

/-- Rust's `u8`. -/
abbrev U8 := Fin 256

/-- A parsed JSON document (`serde_json::Value`), members in document order. -/
inductive Json where
  | null
  | bool (b : Bool)
  /-- An integer, which serde_json holds as a `u64` or an `i64`. -/
  | num (n : Int)
  /-- A number serde_json holds as an `f64`, by its bits. -/
  | float (bits : UInt64)
  | str (s : String)
  | arr (elems : List Json)
  | obj (members : List (String × Json))
deriving Repr, Inhabited

namespace Json

mutual
/-- How many arrays and objects nest in a document: what serde_json spends on it. -/
def depth : Json → Nat
  | .arr elems => depthList elems + 1
  | .obj members => depthMembers members + 1
  | _ => 0

/-- The deepest element of an array. -/
def depthList : List Json → Nat
  | [] => 0
  | j :: js => max j.depth (depthList js)

/-- The deepest member value of an object. -/
def depthMembers : List (String × Json) → Nat
  | [] => 0
  | (_, j) :: ms => max j.depth (depthMembers ms)
end

@[simp] theorem depth_null : null.depth = 0 := rfl
@[simp] theorem depth_bool (b : Bool) : (bool b).depth = 0 := rfl
@[simp] theorem depth_num (n : Int) : (num n).depth = 0 := rfl
@[simp] theorem depth_str (s : String) : (str s).depth = 0 := rfl
@[simp] theorem depth_arr (elems : List Json) : (arr elems).depth = depthList elems + 1 := rfl
@[simp] theorem depth_obj (ms : List (String × Json)) : (obj ms).depth = depthMembers ms + 1 :=
  rfl
@[simp] theorem depthList_nil : depthList [] = 0 := rfl
@[simp] theorem depthList_cons (j : Json) (js : List Json) :
    depthList (j :: js) = max j.depth (depthList js) := rfl
@[simp] theorem depthMembers_nil : depthMembers [] = 0 := rfl
@[simp] theorem depthMembers_cons (k : String) (j : Json) (ms : List (String × Json)) :
    depthMembers ((k, j) :: ms) = max j.depth (depthMembers ms) := rfl

theorem depthList_map_le {α : Type} (f : α → Json) (xs : List α) (d : Nat)
    (h : ∀ x ∈ xs, (f x).depth ≤ d) : depthList (xs.map f) ≤ d := by
  induction xs with
  | nil => simp
  | cons x xs ih =>
    simp only [List.map_cons, depthList_cons, List.mem_cons, forall_eq_or_imp] at h ⊢
    exact Nat.max_le.2 ⟨h.1, ih h.2⟩

theorem le_depthMembers_of_mem {p : String × Json} :
    ∀ {ms : List (String × Json)}, p ∈ ms → p.2.depth ≤ depthMembers ms
  | (k, j) :: ms, h => by
    rcases List.mem_cons.1 h with rfl | h
    · exact Nat.le_max_left _ _
    · exact Nat.le_trans (le_depthMembers_of_mem h) (Nat.le_max_right _ _)

/-- An object fits in `m` levels: there is one left for it, and its members fit in the rest. -/
theorem depth_obj_le {ms : List (String × Json)} {m : Nat} (h : (obj ms).depth ≤ m) :
    ∃ m', m = m' + 1 ∧ ∀ p ∈ ms, p.2.depth ≤ m' :=
  ⟨m - 1, by simp at h; omega, fun _ hp => by
    have := le_depthMembers_of_mem hp; simp at h; omega⟩

theorem le_depthList_of_mem {j : Json} {js : List Json} (h : j ∈ js) : j.depth ≤ depthList js := by
  induction js with
  | nil => cases h
  | cons x xs ih =>
    rcases List.mem_cons.1 h with rfl | h
    · exact Nat.le_max_left _ _
    · exact Nat.le_trans (ih h) (Nat.le_max_right _ _)

/-- An array fits in `m` levels: there is one left for it, and its elements fit in the rest. -/
theorem depth_arr_le {js : List Json} {m : Nat} (h : (arr js).depth ≤ m) :
    ∃ m', m = m' + 1 ∧ ∀ j ∈ js, j.depth ≤ m' :=
  ⟨m - 1, by simp at h; omega, fun _ hj => by
    have := le_depthList_of_mem hj; simp at h; omega⟩

end Json

/-! ## Errors -/

/-- The errors of serde's readers, as far as the model tells them apart. -/
inductive DeError where
  | invalidType (expected : String)
  | invalidValue (expected : String)
  | unknownVariant (variant : String)
  | missingField (field : String)
  | duplicateField (field : String)
  /-- serde_json's `RecursionLimitExceeded`. -/
  | recursionLimitExceeded
  /-- serde_json's `ExpectedObjectCommaOrEnd`: a key where `,` or `}` should follow. -/
  | expectedObjectCommaOrEnd
  /-- "data did not match any variant of untagged enum …". -/
  | noVariantMatched (enum : String)
  /-- serde_json's `ExpectedSomeValue`: an enum that is neither a string nor an object, or an
  object with a member after the variant's. -/
  | expectedSomeValue
  /-- A sequence too short for a tuple (`invalid_length`). -/
  | invalidLength (len : Nat)
  /-- serde_json's `TrailingCharacters`: a sequence too long for a tuple. -/
  | trailingCharacters
deriving Repr, DecidableEq

@[simp] theorem Except.ok_bind_eq {ε α β : Type} (a : α) (f : α → Except ε β) :
    (Except.ok a >>= f) = f a := rfl

@[simp] theorem Except.error_bind_eq {ε α β : Type} (e : ε) (f : α → Except ε β) :
    (Except.error e >>= f) = Except.error e := rfl

@[simp] theorem Except.map_ok_eq {ε α β : Type} (a : α) (f : α → β) :
    (f <$> (Except.ok a : Except ε α)) = .ok (f a) := rfl

@[simp] theorem Except.pure_eq {ε α : Type} (a : α) : (pure a : Except ε α) = .ok a := rfl

@[simp] theorem Except.ok_seq_eq {ε α β : Type} (f : α → β) (x : Except ε α) :
    (Except.ok f <*> x) = f <$> x := rfl

@[simp] theorem Except.error_seq_eq {ε α β : Type} (e : ε) (x : Except ε α) :
    (Except.error e <*> x : Except ε β) = .error e := rfl

/-! ## Reading values -/

namespace Json

/-- A string. -/
def deString : Json → Except DeError String
  | .str s => .ok s
  | _ => .error (.invalidType "a string")

/-- A `char`: a string of exactly one character. -/
def deChar : Json → Except DeError Char
  | .str s => match s.toList with
    | [c] => .ok c
    | _ => .error (.invalidValue "a character")
  | _ => .error (.invalidType "a character")

/-- A `bool`. -/
def deBool : Json → Except DeError Bool
  | .bool b => .ok b
  | _ => .error (.invalidType "a boolean")

/-- An unsigned integer below `bound`. -/
def deUnsigned (bound : Nat) : Json → Except DeError (Fin bound)
  | .num n => if h : 0 ≤ n ∧ n.toNat < bound then .ok ⟨n.toNat, h.2⟩
    else .error (.invalidValue "an unsigned integer in range")
  | _ => .error (.invalidType "an unsigned integer")

/-- A `usize`. -/
def deUsize : Json → Except DeError Usize := deUnsigned usizeBound

/-- A `u8`. -/
def deU8 : Json → Except DeError U8 := deUnsigned 256

/-- An `Option`: `null` is `None`, anything else the inner value. -/
def deOption {α : Type} (de : Json → Except DeError α) : Json → Except DeError (Option α)
  | .null => .ok none
  | j => some <$> de j

/-! ## Values that take a level

A reader that enters an array or an object spends a level, and with none left serde_json
refuses the value with `RecursionLimitExceeded` before it looks inside. The entry points
differ in what they enter: `deserialize_struct` enters arrays and objects, `deserialize_seq`
only arrays, and `deserialize_enum` only objects. -/

/-- What `deserialize_struct` does with a value no visitor of the model takes: an array or
object it cannot enter is `RecursionLimitExceeded`, anything else the wrong type. (serde's
derived visitors also take a struct written as an array; the model refuses that form.) -/
def refuseStruct {α : Type} (expected : String) : Nat → Json → Except DeError α
  | 0, .obj _ | 0, .arr _ => .error .recursionLimitExceeded
  | _, _ => .error (.invalidType expected)

/-- What `deserialize_seq` does with a value that is not an array it can enter. -/
def refuseSeq {α : Type} : Nat → Json → Except DeError α
  | 0, .arr _ => .error .recursionLimitExceeded
  | _, _ => .error (.invalidType "a sequence")

/-- What `deserialize_enum`, for an externally tagged enum whose variants `names` all carry a
payload, does with a value that is not an object naming a variant: the name alone is refused
(it has no payload), an object it cannot enter is `RecursionLimitExceeded`, and anything but
a string or an object is `ExpectedSomeValue`. -/
def refuseEnum {α : Type} (names : List String) : Nat → Json → Except DeError α
  | 0, .obj _ => .error .recursionLimitExceeded
  | _, .obj _ => .error (.invalidType "a variant identifier")
  | _, .str s => .error (if s ∈ names then .invalidType "a variant with a payload"
      else .unknownVariant s)
  | _, _ => .error .expectedSomeValue

/-- An enum's variant, read by `v`, and the members after it: the object must close there. -/
def endVariant {α : Type} (rest : List (String × Json)) (v : Except DeError α) :
    Except DeError α := do
  let a ← v
  match rest with
  | [] => .ok a
  | _ :: _ => .error .expectedSomeValue

@[simp] theorem endVariant_nil {α : Type} (v : Except DeError α) : endVariant [] v = v := by
  cases v <;> rfl

/-- A `Vec`: an array, each element read with `de` one level down. -/
def deVec {α : Type} (de : Nat → Json → Except DeError α) : Nat → Json → Except DeError (List α)
  | k + 1, .arr js => js.mapM (de k)
  | n, j => refuseSeq n j

/-! ## Structs

serde's derived `visit_map` keeps one `Option` per field. It takes the members in document
order: a field's key fills its slot with the value read (the key coming again is
`duplicate_field`), and any other key is skipped. After the last member, the fields are
taken in declaration order, and an empty slot becomes what serde's `missing_field` helper
gives: an error, but `None` for a field of an `Option` type. -/

/-- A field of a derived struct: its key, the reader of its value, what it is when its key
never comes, and the value read so far. -/
structure Slot (β : Type) where
  name : String
  de : Json → Except DeError β
  missing : Except DeError β
  value : Option β

/-- The state of a derived struct's `visit_map`: its fields, and how the struct is built from
them (a free applicative over slots). -/
inductive Fields : Type → Type 1 where
  | pure {α : Type} (a : α) : Fields α
  | ap {α β : Type} (f : Fields (β → α)) (s : Slot β) : Fields α

namespace Fields

/-- Build something else from the same fields. -/
def map {α γ : Type} (g : α → γ) : Fields α → Fields γ
  | pure a => pure (g a)
  | ap f s => ap (map (fun h b => g (h b)) f) s

/-- The fields of both, the first's before the second's. -/
def seq {α β : Type} (rf : Fields (β → α)) : Fields β → Fields α
  | pure b => map (· b) rf
  | ap f s => ap (seq (map (fun h g c => h (g c)) rf) f) s

instance : Functor Fields := ⟨map, fun a r => map (fun _ => a) r⟩
instance : Seq Fields := ⟨fun rf rx => seq rf (rx ())⟩

@[simp] theorem fmap_eq {α γ : Type} (g : α → γ) (r : Fields α) : (g <$> r) = map g r := rfl
@[simp] theorem seq_eq {α β : Type} (rf : Fields (β → α)) (r : Fields β) :
    (rf <*> r) = seq rf r := rfl
@[simp] theorem map_pure {α γ : Type} (g : α → γ) (a : α) : map g (pure a) = pure (g a) := rfl
@[simp] theorem map_ap {α β γ : Type} (g : α → γ) (f : Fields (β → α)) (s : Slot β) :
    map g (ap f s) = ap (map (fun h b => g (h b)) f) s := rfl
@[simp] theorem seq_pure {α β : Type} (rf : Fields (β → α)) (b : β) :
    seq rf (pure b) = map (· b) rf := rfl
@[simp] theorem seq_ap {α β γ : Type} (rf : Fields (β → α)) (f : Fields (γ → β)) (s : Slot γ) :
    seq rf (ap f s) = ap (seq (map (fun h g c => h (g c)) rf) f) s := rfl

/-- A field read with `de`, and `missing` when its key never comes. -/
def reqOr {α : Type} (name : String) (de : Json → Except DeError α)
    (missing : Except DeError α) : Fields α :=
  ap (pure id) ⟨name, de, missing, none⟩

/-- A field. -/
def req {α : Type} (name : String) (de : Json → Except DeError α) : Fields α :=
  reqOr name de (.error (.missingField name))

/-- A field of an `Option` type: `null` and a missing key are both `None`. -/
def opt {α : Type} (name : String) (de : Json → Except DeError α) : Fields (Option α) :=
  reqOr name (deOption de) (.ok none)

/-- A member offered to the fields: `none` when no field has its key; otherwise the fields
with that one read, or the error of reading it. -/
def feed {α : Type} : Fields α → String → Json → Option (Except DeError (Fields α))
  | pure _, _, _ => none
  | ap f s, k, v => if k = s.name then some (match s.value with
      | some _ => .error (.duplicateField k)
      | none => match s.de v with
        | .ok b => .ok (ap f { s with value := some b })
        | .error e => .error e)
    else match feed f k v with
      | none => none
      | some (.ok f') => some (.ok (ap f' s))
      | some (.error e) => some (.error e)

/-- After the last member: the fields in declaration order. -/
def finish {α : Type} : Fields α → Except DeError α
  | pure a => .ok a
  | ap f s => finish f <*> s.value.elim s.missing .ok

/-- `visit_map`: the members in document order, then `finish`. -/
def read {α : Type} (r : Fields α) : List (String × Json) → Except DeError α
  | [] => r.finish
  | (k, v) :: ms => match r.feed k v with
    | none => r.read ms
    | some (.error e) => .error e
    | some (.ok r') => r'.read ms

/-- A derived struct: an object, its fields read by `r` one level down. -/
def deserialize {α : Type} (name : String) (r : Nat → Fields α) : Nat → Json → Except DeError α
  | k + 1, .obj ms => (r k).read ms
  | n, j => refuseStruct ("struct " ++ name) n j

@[simp] theorem deserialize_obj {α : Type} (name : String) (r : Nat → Fields α) (k : Nat)
    (ms : List (String × Json)) : deserialize name r (k + 1) (.obj ms) = (r k).read ms := rfl

end Fields

/-! ## Writing values -/

/-- An `Option`: `None` is `null`. -/
def ofOption {α : Type} (f : α → Json) : Option α → Json
  | none => .null
  | some a => f a

/-- A `usize` (or any unsigned integer). -/
def ofFin {n : Nat} (x : Fin n) : Json := .num x.val

/-- A `char`: a string of that one character. -/
def ofChar (c : Char) : Json := .str (String.mk [c])

/-- An externally tagged enum variant: `{"Name": payload}`. -/
def variant (name : String) (payload : Json) : Json := .obj [(name, payload)]

/-! ## Reading what was written -/

@[simp] theorem deString_str (s : String) : deString (str s) = .ok s := rfl

@[simp] theorem deBool_bool (b : Bool) : deBool (bool b) = .ok b := rfl

@[simp] theorem deChar_ofChar (c : Char) : deChar (ofChar c) = .ok c := rfl

@[simp] theorem deUnsigned_ofFin {n : Nat} (x : Fin n) : deUnsigned n (ofFin x) = .ok x := by
  simp only [deUnsigned, ofFin, Int.toNat_ofNat, Fin.is_lt, and_true, Int.ofNat_nonneg,
    dite_true]

@[simp] theorem deUsize_ofFin (x : Usize) : deUsize (ofFin x) = .ok x := deUnsigned_ofFin x

@[simp] theorem deU8_ofFin (x : U8) : deU8 (ofFin x) = .ok x := deUnsigned_ofFin x

@[simp] theorem depth_ofFin {n : Nat} (x : Fin n) : (ofFin x).depth = 0 := rfl

@[simp] theorem depth_ofChar (c : Char) : (ofChar c).depth = 0 := rfl

@[simp] theorem depth_variant (name : String) (payload : Json) :
    (variant name payload).depth = payload.depth + 1 := by
  simp [variant]

theorem depth_variant_le {name : String} {p : Json} {m : Nat} (h : (variant name p).depth ≤ m) :
    ∃ m', m = m' + 1 ∧ p.depth ≤ m' :=
  ⟨m - 1, by simp at h; omega, by simp at h; omega⟩

theorem deOption_ofOption {α : Type} (f : α → Json) (de : Json → Except DeError α)
    (hf : ∀ a, f a ≠ .null) {o : Option α} (h : ∀ a ∈ o, de (f a) = .ok a) :
    deOption de (ofOption f o) = .ok o := by
  cases o with
  | none => rfl
  | some a =>
    have hd := h a rfl
    have : deOption de (f a) = some <$> de (f a) := by
      unfold deOption; split
      · exact absurd ‹_› (hf a)
      · rfl
    simp [ofOption, this, hd]

end Json

end Enso
