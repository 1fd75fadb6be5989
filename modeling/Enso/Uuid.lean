import Enso.Json

/-!
# UUIDs and their text form

An `Ast`'s id is a `uuid::Uuid`, which serde writes as a string (serde_json is a
human-readable format): the lowercase hyphenated form `xxxxxxxx-xxxx-xxxx-xxxx-xxxxxxxxxxxx`.
It is read back with the crate's `parse_str`, which takes the simple form (32 hex digits), the
hyphenated form and the hyphenated form behind `urn:uuid:`, in either case.

**Theorem (`Uuid.parseStr_toHyphenated`).** Reading the hyphenated form gives the UUID back.
-/

namespace Enso

/-- A UUID as the `uuid` crate stores it: sixteen bytes. -/
structure Uuid where
  bytes : List U8
  length_eq : bytes.length = 16
deriving DecidableEq, Repr

/-! ## Hex digits -/

/-- The lowercase hex digit of a nibble. -/
def hexDigit (n : Fin 16) : Char :=
  if n.val < 10 then Char.ofNat (48 + n.val) else Char.ofNat (87 + n.val)

/-- The nibble of a hex digit of either case (`0`–`9` are 48–57, `a`–`f` 97–102, `A`–`F`
65–70). -/
def hexValue (c : Char) : Option (Fin 16) :=
  if h : 48 ≤ c.toNat ∧ c.toNat < 58 then some ⟨c.toNat - 48, by omega⟩
  else if h : 97 ≤ c.toNat ∧ c.toNat < 103 then some ⟨c.toNat - 87, by omega⟩
  else if h : 65 ≤ c.toNat ∧ c.toNat < 71 then some ⟨c.toNat - 55, by omega⟩
  else none

theorem hexValue_hexDigit : ∀ n : Fin 16, hexValue (hexDigit n) = some n := by decide

/-- Two digits per byte, high nibble first. -/
def hexOfBytes : List U8 → List Char
  | [] => []
  | b :: bs => hexDigit ⟨b.val / 16, by omega⟩ :: hexDigit ⟨b.val % 16, by omega⟩ :: hexOfBytes bs

/-- Bytes from pairs of hex digits. -/
def bytesOfHex : List Char → Option (List U8)
  | [] => some []
  | hi :: lo :: rest => do
    let h ← hexValue hi
    let l ← hexValue lo
    let bs ← bytesOfHex rest
    pure (⟨h.val * 16 + l.val, by omega⟩ :: bs)
  | [_] => none

@[simp] theorem length_hexOfBytes (bs : List U8) : (hexOfBytes bs).length = 2 * bs.length := by
  induction bs with
  | nil => rfl
  | cons b bs ih => simp [hexOfBytes, ih]; omega

theorem hexOfBytes_append (as bs : List U8) :
    hexOfBytes (as ++ bs) = hexOfBytes as ++ hexOfBytes bs := by
  induction as with
  | nil => rfl
  | cons a as ih => simp [hexOfBytes, ih]

theorem bytesOfHex_hexOfBytes (bs : List U8) : bytesOfHex (hexOfBytes bs) = some bs := by
  induction bs with
  | nil => rfl
  | cons b bs ih =>
    simp only [hexOfBytes, bytesOfHex, hexValue_hexDigit, ih, Option.pure_def, Option.bind_eq_bind,
      Option.some_bind, Option.some.injEq, List.cons.injEq, and_true]
    ext; simp only; omega

/-! ## The three forms `parse_str` takes -/

/-- The digit groups of the hyphenated form, as byte counts. -/
def hyphenGroups : List Nat := [4, 2, 2, 2, 6]

/-- Hex digit groups of the given byte counts, separated by single hyphens, with the hyphens
dropped. -/
def unhyphenate : List Nat → List Char → Option (List Char)
  | [], _ => none
  | [n], cs => if cs.length = 2 * n then some cs else none
  | n :: m :: ns, cs => match cs.drop (2 * n) with
    | '-' :: rest => (unhyphenate (m :: ns) rest).map (cs.take (2 * n) ++ ·)
    | _ => none

/-- Hex digit groups of the given byte counts, joined by hyphens. -/
def hyphenate : List Nat → List U8 → List Char
  | [], _ => []
  | [_], bs => hexOfBytes bs
  | n :: m :: ns, bs => hexOfBytes (bs.take n) ++ '-' :: hyphenate (m :: ns) (bs.drop n)

/-- `Uuid::to_hyphenated().to_string()`, as serde writes an id. -/
def Uuid.toHyphenated (u : Uuid) : String := String.mk (hyphenate hyphenGroups u.bytes)

/-- `Uuid::parse_str`. -/
def Uuid.parseStr (s : String) : Option Uuid := do
  let cs := s.toList
  let digits ← if cs.length = 32 then some cs
    else if cs.length = 36 then unhyphenate hyphenGroups cs
    else if cs.length = 45 ∧ cs.take 9 = "urn:uuid:".toList then
      unhyphenate hyphenGroups (cs.drop 9)
    else none
  let bytes ← bytesOfHex digits
  if h : bytes.length = 16 then some ⟨bytes, h⟩ else none

theorem unhyphenate_hyphenate (n : Nat) (ns : List Nat) (bs : List U8)
    (h : bs.length = n + (n :: ns).tail.sum) :
    unhyphenate (n :: ns) (hyphenate (n :: ns) bs) = some (hexOfBytes bs) := by
  induction ns generalizing n bs with
  | nil => simp_all [unhyphenate, hyphenate]
  | cons m ns ih =>
    have hlen : (hexOfBytes (bs.take n)).length = 2 * n := by simp; omega
    have hdrop : (hexOfBytes (bs.take n) ++ '-' :: hyphenate (m :: ns) (bs.drop n)).drop (2 * n)
        = '-' :: hyphenate (m :: ns) (bs.drop n) := by
      rw [List.drop_append_eq_append_drop]; simp [hlen]
    have htake : (hexOfBytes (bs.take n) ++ '-' :: hyphenate (m :: ns) (bs.drop n)).take (2 * n)
        = hexOfBytes (bs.take n) := by
      rw [List.take_append_eq_append_take]; simp [hlen, List.take_of_length_le]
    simp only [unhyphenate, hyphenate, hdrop, htake]
    rw [ih m (bs.drop n) (by simp at h ⊢; omega), Option.map_some',
      ← hexOfBytes_append, List.take_append_drop]

theorem length_hyphenate (n : Nat) (ns : List Nat) (bs : List U8)
    (h : bs.length = n + (n :: ns).tail.sum) :
    (hyphenate (n :: ns) bs).length = 2 * bs.length + ns.length := by
  induction ns generalizing n bs with
  | nil => simp [hyphenate]
  | cons m ns ih =>
    simp only [hyphenate, List.length_append, length_hexOfBytes, List.length_take,
      List.length_cons]
    rw [ih m (bs.drop n) (by simp at h ⊢; omega)]
    simp at h ⊢; omega

theorem hyphenate_bytes (u : Uuid) :
    (hyphenate hyphenGroups u.bytes).length = 36 ∧
      unhyphenate hyphenGroups (hyphenate hyphenGroups u.bytes) = some (hexOfBytes u.bytes) := by
  have hsum : u.bytes.length = 4 + ([4, 2, 2, 2, 6] : List Nat).tail.sum := by
    simp [u.length_eq]
  refine ⟨?_, by rw [hyphenGroups, unhyphenate_hyphenate 4 _ _ hsum]⟩
  rw [hyphenGroups, length_hyphenate 4 _ _ hsum, u.length_eq]
  rfl

/-- **Reading the hyphenated form gives the UUID back.** -/
theorem Uuid.parseStr_toHyphenated (u : Uuid) : Uuid.parseStr u.toHyphenated = some u := by
  simp [Uuid.parseStr, Uuid.toHyphenated, String.toList, (hyphenate_bytes u).1,
    (hyphenate_bytes u).2, bytesOfHex_hexOfBytes, u.length_eq]

/-- **`parse_str` also reads the simple form and the URN form** of every UUID: the 32 digits
alone, and the hyphenated form behind `urn:uuid:`. -/
theorem Uuid.parseStr_simple_urn (u : Uuid) :
    Uuid.parseStr (String.mk (hexOfBytes u.bytes)) = some u ∧
      Uuid.parseStr ("urn:uuid:" ++ u.toHyphenated) = some u := by
  have h32 : (hexOfBytes u.bytes).length = 32 := by simp [u.length_eq]
  constructor
  · simp [Uuid.parseStr, h32, bytesOfHex_hexOfBytes, u.length_eq]
  · have hcs : ("urn:uuid:" ++ u.toHyphenated).toList =
        "urn:uuid:".toList ++ hyphenate hyphenGroups u.bytes := rfl
    have hlen : ("urn:uuid:".toList ++ hyphenate hyphenGroups u.bytes).length = 45 := by
      rw [List.length_append, (hyphenate_bytes u).1]
      rfl
    have htake : ("urn:uuid:".toList ++ hyphenate hyphenGroups u.bytes).take 9 = "urn:uuid:".toList :=
      List.take_left' rfl
    have hdrop : ("urn:uuid:".toList ++ hyphenate hyphenGroups u.bytes).drop 9 =
        hyphenate hyphenGroups u.bytes :=
      List.drop_left' rfl
    simp only [Uuid.parseStr, hcs, hlen, htake, hdrop]
    simp [(hyphenate_bytes u).2, bytesOfHex_hexOfBytes, u.length_eq]

end Enso
