import Chariott.Registry.Entities

/-!
# The Protected-Namespace Guard

`Registry::upsert` first rejects any intent whose namespace is `system`, or
starts with `system.`, both compared up to ASCII case. The comparison works on
the UTF-8 bytes of the namespace: Rust's `eq_ignore_ascii_case` folds only the
letters `A`–`Z`, and `starts_with_ignore_ascii_case` slices the first
`prefix.len()` bytes.

We model the byte-level functions as the Rust standard library defines them,
then prove that the guard never panics and that it fires exactly on the
namespaces of `ReservedNamespace`, the reading of the rule in terms of whole
byte strings. On characters, the rule is `ReservedByChars`: the namespace,
lower-cased on `A`–`Z` only, is `system` or starts with `system.`.
-/

namespace Chariott

/-! ## §1 Bytes and ASCII case -/

/-- `SYSTEM_NAMESPACE`. -/
def systemNamespace : String := "system"

/-- `SYSTEM_NAMESPACE_PREFIX`. -/
def systemNamespacePrefix : String := "system."

/-- `str::as_bytes`: the UTF-8 encoding of a string. -/
def asBytes (s : String) : List UInt8 := s.toUTF8.data.toList

/-- `u8::is_ascii_uppercase`: `b'A'..=b'Z'`. -/
def isAsciiUppercase (b : UInt8) : Bool := 65 ≤ b && b ≤ 90

/-- `u8::to_ascii_lowercase`: `self | (self.is_ascii_uppercase() as u8 * ASCII_CASE_MASK)`. -/
def toAsciiLowercase (b : UInt8) : UInt8 := b ||| (if isAsciiUppercase b then 1 else 0) * 32

/-- `u8::eq_ignore_ascii_case`. -/
def byteEqIgnoreAsciiCase (a b : UInt8) : Bool := toAsciiLowercase a == toAsciiLowercase b

/-- `<[u8]>::eq_ignore_ascii_case`: equal lengths, then byte by byte. -/
def bytesEqIgnoreAsciiCase (a b : List UInt8) : Bool :=
  a.length == b.length && (a.zip b).all fun (x, y) => byteEqIgnoreAsciiCase x y

/-- `str::eq_ignore_ascii_case`, which compares the bytes. -/
def strEqIgnoreAsciiCase (a b : String) : Bool := bytesEqIgnoreAsciiCase (asBytes a) (asBytes b)

/-- The range index `bytes[start..stop]`, which panics unless
`start ≤ stop ≤ bytes.len()`. -/
def sliceRange (bytes : List UInt8) (start stop : Nat) : Except Panic (List UInt8) :=
  if start > stop then .error (.sliceIndexOrder start stop)
  else if stop > bytes.length then .error (.sliceEndIndex stop bytes.length)
  else .ok ((bytes.take stop).drop start)

/-- `starts_with_ignore_ascii_case`, declared inside `upsert`. The `&&` only
slices when the string is long enough. -/
def startsWithIgnoreAsciiCase (string pfx : String) : Except Panic Bool :=
  if (asBytes string).length ≥ (asBytes pfx).length then do
    let head ← sliceRange (asBytes string) 0 (asBytes pfx).length
    pure (bytesEqIgnoreAsciiCase head (asBytes pfx))
  else pure false

/-- The closure `upsert` passes to `intent_configurations.iter().any(..)`. -/
def isSystemIntent (ic : IntentConfiguration) : Except Panic Bool :=
  if strEqIgnoreAsciiCase ic.namespace systemNamespace then pure true
  else startsWithIgnoreAsciiCase ic.namespace systemNamespacePrefix

/-! ## §2 ASCII folding -/

set_option maxRecDepth 2000 in
private theorem toNat_toAsciiLowercase_ofNat : ∀ n < 256,
    (toAsciiLowercase (UInt8.ofNat n)).toNat = if 65 ≤ n ∧ n ≤ 90 then n + 32 else n := by
  decide

/-- `to_ascii_lowercase` adds 32 to the bytes of `A`–`Z` and keeps every other byte. -/
theorem toNat_toAsciiLowercase (b : UInt8) : (toAsciiLowercase b).toNat =
    if 65 ≤ b.toNat ∧ b.toNat ≤ 90 then b.toNat + 32 else b.toNat := by
  have h := toNat_toAsciiLowercase_ofNat b.toNat b.toNat_lt_size
  rwa [UInt8.toNat.inj (UInt8.toNat_ofNat_of_lt b.toNat_lt_size)] at h

/-- A byte that is not ASCII is its own lower case. -/
theorem toAsciiLowercase_of_le {b : UInt8} (h : 128 ≤ b.toNat) : toAsciiLowercase b = b := by
  apply UInt8.toNat.inj
  rw [toNat_toAsciiLowercase, if_neg (by omega)]

private theorem bytesEqIgnoreAsciiCase_cons (x y : UInt8) (xs ys : List UInt8) :
    bytesEqIgnoreAsciiCase (x :: xs) (y :: ys) =
      (byteEqIgnoreAsciiCase x y && bytesEqIgnoreAsciiCase xs ys) := by
  simp only [bytesEqIgnoreAsciiCase, List.length_cons, List.zip_cons_cons, List.all_cons]
  cases byteEqIgnoreAsciiCase x y <;> simp

/-- Rust's slice comparison is equality of the lower-cased byte strings. -/
theorem bytesEqIgnoreAsciiCase_iff (a b : List UInt8) :
    bytesEqIgnoreAsciiCase a b = true ↔ a.map toAsciiLowercase = b.map toAsciiLowercase := by
  induction a generalizing b with
  | nil => cases b <;> simp [bytesEqIgnoreAsciiCase]
  | cons x xs ih =>
    cases b with
    | nil => simp [bytesEqIgnoreAsciiCase]
    | cons y ys => simp [bytesEqIgnoreAsciiCase_cons, byteEqIgnoreAsciiCase, ih]

@[simp] theorem bytesEqIgnoreAsciiCase_eq (a b : List UInt8) :
    bytesEqIgnoreAsciiCase a b = decide (a.map toAsciiLowercase = b.map toAsciiLowercase) :=
  Bool.eq_iff_iff.mpr (by simpa using bytesEqIgnoreAsciiCase_iff a b)

/-! ## §3 The guard decides `ReservedNamespace` -/

/-- A reserved namespace, read off the bytes: it equals `system` up to ASCII
case, or it has at least seven bytes and the first seven equal `system.` up to
ASCII case. -/
def ReservedNamespace (n : String) : Prop :=
  (asBytes n).map toAsciiLowercase = (asBytes "system").map toAsciiLowercase ∨
    (7 ≤ (asBytes n).length ∧
      ((asBytes n).take 7).map toAsciiLowercase = (asBytes "system.").map toAsciiLowercase)

instance : DecidablePred ReservedNamespace := fun _ =>
  inferInstanceAs (Decidable (_ ∨ _))

example : ReservedNamespace "system" ∧ ReservedNamespace "System" ∧
    ReservedNamespace "system.registry" ∧ ReservedNamespace "SYSTEM." ∧
    ¬ ReservedNamespace "systemfoo" := by
  decide

/-- Slicing a prefix that fits never panics. -/
theorem sliceRange_zero {bytes : List UInt8} {n : Nat} (h : n ≤ bytes.length) :
    sliceRange bytes 0 n = .ok (bytes.take n) := by
  simp [sliceRange, Nat.not_lt.mpr h]

/-- `starts_with_ignore_ascii_case` never panics, and tests the lower-cased prefix. -/
theorem startsWithIgnoreAsciiCase_eq (s p : String) :
    startsWithIgnoreAsciiCase s p = .ok (decide ((asBytes p).length ≤ (asBytes s).length ∧
      ((asBytes s).take (asBytes p).length).map toAsciiLowercase =
        (asBytes p).map toAsciiLowercase)) := by
  unfold startsWithIgnoreAsciiCase
  split <;> simp_all [sliceRange_zero]

/-- The closure of `any` never panics, and holds exactly of reserved namespaces. -/
theorem isSystemIntent_eq (ic : IntentConfiguration) :
    isSystemIntent ic = .ok (decide (ReservedNamespace ic.namespace)) := by
  have h7 : (asBytes "system.").length = 7 := rfl
  simp only [isSystemIntent, strEqIgnoreAsciiCase, bytesEqIgnoreAsciiCase_eq,
    startsWithIgnoreAsciiCase_eq, systemNamespace, systemNamespacePrefix, h7, ReservedNamespace]
  split <;> simp_all

/-- The whole guard: `any` over the intents never panics, and fires exactly when
some intent, at any position, has a reserved namespace. -/
theorem anyM_isSystemIntent (I : List IntentConfiguration) :
    I.anyM isSystemIntent = .ok (decide (∃ ic ∈ I, ReservedNamespace ic.namespace)) := by
  induction I with
  | nil => rfl
  | cons ic I ih =>
    by_cases h : ReservedNamespace ic.namespace <;>
      simp [List.anyM, isSystemIntent_eq, h, ih]

/-! ## §4 The guard on characters

The bytes compared are the UTF-8 encoding of the namespace. An ASCII character
is one byte, its code point; every byte of any other character is 128 or more,
so it is never lowered and never equals a byte of `system.`. The byte-level
guard is therefore a test on characters, with the lower case of `Char.toLower`,
which lowers `A`–`Z` only. -/

/-- The guard read on characters: the namespace, lower-cased on `A`–`Z`, is
`system` or starts with `system.`. -/
def ReservedByChars (n : String) : Prop :=
  n.data.map Char.toLower = "system".data ∨
    List.IsPrefix "system.".data (n.data.map Char.toLower)

instance : DecidablePred ReservedByChars := fun _ => inferInstanceAs (Decidable (_ ∨ _))

/-- `Char.toLower` moves only `A`–`Z`, onto `a`–`z`. -/
theorem toNat_toLower (c : Char) :
    c.toLower.toNat = if 65 ≤ c.toNat ∧ c.toNat ≤ 90 then c.toNat + 32 else c.toNat := by
  dsimp only [Char.toLower]
  split_ifs with h
  · have hv : (c.toNat + 32).isValidChar := Or.inl (by omega)
    rw [Char.ofNat, dif_pos hv]
    rfl
  · rfl

/-- Only `.` lowers to `.`. -/
theorem toLower_eq_dot {c : Char} : c.toLower = '.' ↔ c = '.' := by
  refine ⟨fun h => ?_, fun h => by rw [h]; rfl⟩
  have h' : c.toLower.toNat = 46 := congrArg Char.toNat h
  rw [toNat_toLower] at h'
  split_ifs at h' with hu
  · omega
  · rw [← Char.ofNat_toNat c, h']

/-- A character beyond ASCII is its own lower case. -/
theorem toLower_of_lt {c : Char} (h : 127 < c.toNat) : c.toLower = c := by
  dsimp only [Char.toLower]
  rw [if_neg (by omega)]

/-- A byte `x ||| y` where `y` has bit 7 set is not ASCII. -/
theorem le_toNat_or {x y : UInt8} (hy : y.toNat.testBit 7 = true) : 128 ≤ (x ||| y).toNat := by
  have h : (x ||| y).toNat = x.toNat ||| y.toNat := BitVec.toNat_or x.toBitVec y.toBitVec
  have hbit : (x.toNat ||| y.toNat).testBit 7 = true := by rw [Nat.testBit_or, hy, Bool.or_true]
  rw [h]
  exact Nat.testBit_implies_ge hbit

/-- Every byte of the encoding of a character beyond ASCII is 128 or more. -/
theorem le_toNat_of_mem_utf8EncodeChar {c : Char} (hc : ¬ c.val ≤ 0x7f) {b : UInt8}
    (hb : b ∈ String.utf8EncodeChar c) : 128 ≤ b.toNat := by
  unfold String.utf8EncodeChar at hb
  simp only [if_neg hc] at hb
  split_ifs at hb <;>
    simp only [List.mem_cons, List.mem_singleton, List.not_mem_nil, or_false] at hb <;>
    rcases hb with rfl | rfl | rfl | rfl <;> exact le_toNat_or (by decide)

/-- An ASCII character is encoded as the one byte of its code point. -/
theorem utf8EncodeChar_of_le {c : Char} (h : c.val ≤ 0x7f) :
    String.utf8EncodeChar c = [c.val.toUInt8] := by
  simp [String.utf8EncodeChar, h]

theorem utf8EncodeChar_ne_nil (c : Char) : String.utf8EncodeChar c ≠ [] := by
  dsimp only [String.utf8EncodeChar]
  split_ifs <;> simp

/-- The byte of an ASCII character is its code point, below 128. -/
theorem toNat_toUInt8_val {a : Char} (ha : a.val ≤ 0x7f) :
    a.val.toUInt8.toNat = a.toNat ∧ a.toNat < 128 := by
  have hlt : a.val.toNat < 128 := Nat.lt_of_le_of_lt (UInt32.toNat_le_of_le (by decide) ha)
    (by decide)
  exact ⟨UInt8.toNat_ofNat_of_lt (Nat.lt_trans hlt (by decide)), hlt⟩

/-- Two ASCII characters with the same byte are equal. -/
theorem toUInt8_val_inj {a l : Char} (ha : a.val ≤ 0x7f) (hl : l.val ≤ 0x7f) :
    a.val.toUInt8 = l.val.toUInt8 ↔ a = l := by
  refine ⟨fun h => ?_, fun h => h ▸ rfl⟩
  have h' := congrArg UInt8.toNat h
  rw [(toNat_toUInt8_val ha).1, (toNat_toUInt8_val hl).1] at h'
  rw [← Char.ofNat_toNat a, ← Char.ofNat_toNat l, h']

set_option maxRecDepth 2000 in
private theorem map_toAsciiLowercase_utf8EncodeChar_ofNat : ∀ n < 128,
    (String.utf8EncodeChar (Char.ofNat n)).map toAsciiLowercase =
      String.utf8EncodeChar (Char.ofNat n).toLower := by
  decide

/-- Lowering the bytes of a character encodes its lower case. -/
theorem map_toAsciiLowercase_utf8EncodeChar (c : Char) :
    (String.utf8EncodeChar c).map toAsciiLowercase = String.utf8EncodeChar c.toLower := by
  by_cases hc : c.val ≤ 0x7f
  · simpa [Char.ofNat_toNat] using
      map_toAsciiLowercase_utf8EncodeChar_ofNat c.toNat (toNat_toUInt8_val hc).2
  · have h127 : 127 < c.toNat := by
      simp only [UInt32.le_def] at hc
      exact Nat.lt_of_not_le hc
    rw [toLower_of_lt h127]
    exact (List.map_congr_left fun b hb =>
      toAsciiLowercase_of_le (le_toNat_of_mem_utf8EncodeChar hc hb)).trans (List.map_id _)

/-- The lowered bytes of a string encode its lower case. -/
theorem map_toAsciiLowercase_asBytes (s : String) :
    (asBytes s).map toAsciiLowercase = (s.data.map Char.toLower).flatMap String.utf8EncodeChar := by
  show (s.data.flatMap String.utf8EncodeChar).map toAsciiLowercase = _
  rw [List.map_flatMap, List.flatMap_map]
  simp only [map_toAsciiLowercase_utf8EncodeChar]

/-- The encoding of an ASCII list starts the encoding of a list exactly when the
list starts with it. -/
theorem isPrefix_flatMap_utf8EncodeChar {A : List Char} (hA : ∀ a ∈ A, a.val ≤ 0x7f) :
    ∀ L : List Char, List.IsPrefix (A.flatMap String.utf8EncodeChar)
      (L.flatMap String.utf8EncodeChar) ↔ List.IsPrefix A L := by
  induction A with
  | nil => simp
  | cons a A ih =>
    intro L
    have ha := hA a (List.mem_cons_self _ _)
    have ih' := ih fun a h => hA a (List.mem_cons_of_mem _ h)
    rw [List.flatMap_cons, utf8EncodeChar_of_le ha, List.singleton_append]
    cases L with
    | nil => simp
    | cons l L =>
      rw [List.flatMap_cons, List.cons_prefix_cons]
      by_cases hl : l.val ≤ 0x7f
      · rw [utf8EncodeChar_of_le hl, List.singleton_append, List.cons_prefix_cons, ih' L,
          toUInt8_val_inj ha hl]
      · -- a character beyond ASCII starts with a byte of 128 or more
        obtain ⟨b, bs, hb⟩ := List.exists_cons_of_ne_nil (utf8EncodeChar_ne_nil l)
        have hb128 := le_toNat_of_mem_utf8EncodeChar hl (hb ▸ List.mem_cons_self b bs)
        have ha128 := toNat_toUInt8_val ha
        rw [hb, List.cons_append, List.cons_prefix_cons]
        refine iff_of_false (fun h => ?_) (fun h => hl (h.1 ▸ ha))
        rw [← h.1] at hb128
        omega

/-- The encoding of a list equals that of an ASCII list exactly when the lists do. -/
theorem flatMap_utf8EncodeChar_eq_iff {A : List Char} (hA : ∀ a ∈ A, a.val ≤ 0x7f)
    (L : List Char) :
    L.flatMap String.utf8EncodeChar = A.flatMap String.utf8EncodeChar ↔ L = A := by
  refine ⟨fun h => ?_, fun h => h ▸ rfl⟩
  obtain ⟨R, rfl⟩ := (isPrefix_flatMap_utf8EncodeChar hA L).mp (h ▸ List.prefix_refl _)
  rw [List.flatMap_append, List.append_right_eq_self] at h
  cases R with
  | nil => simp
  | cons r R => exact absurd (List.append_eq_nil.mp h).1 (utf8EncodeChar_ne_nil r)

/-- The byte-level rule is the character-level one. -/
theorem reservedNamespace_iff_chars (n : String) : ReservedNamespace n ↔ ReservedByChars n := by
  have hsys : ∀ a ∈ "system".data, a.val ≤ 0x7f := by decide
  have hdot : ∀ a ∈ "system.".data, a.val ≤ 0x7f := by decide
  have e1 : (asBytes "system").map toAsciiLowercase =
      "system".data.flatMap String.utf8EncodeChar := by decide
  have e2 : (asBytes "system.").map toAsciiLowercase =
      "system.".data.flatMap String.utf8EncodeChar := by decide
  have hlen : ("system.".data.flatMap String.utf8EncodeChar).length = 7 := by decide
  have hlen' : (asBytes n).length =
      ((n.data.map Char.toLower).flatMap String.utf8EncodeChar).length := by
    rw [← map_toAsciiLowercase_asBytes, List.length_map]
  unfold ReservedNamespace ReservedByChars
  rw [map_toAsciiLowercase_asBytes, e1, e2, flatMap_utf8EncodeChar_eq_iff hsys, List.map_take,
    map_toAsciiLowercase_asBytes, hlen', ← isPrefix_flatMap_utf8EncodeChar hdot _,
    List.prefix_iff_eq_take, hlen]
  refine or_congr_right ⟨fun h => h.2.symm, fun h => ⟨?_, h.symm⟩⟩
  have := congrArg List.length h
  rw [hlen, List.length_take] at this
  omega

/-- The closure of `any` computes the character-level rule, for every namespace:
it returns true exactly when the namespace, lower-cased on `A`–`Z` only, is
`system` or starts with `system.`. -/
theorem isSystemIntent_eq_chars (ic : IntentConfiguration) :
    isSystemIntent ic = .ok (decide (ReservedByChars ic.namespace)) := by
  rw [isSystemIntent_eq]
  exact congrArg _ (decide_eq_decide.mpr (reservedNamespace_iff_chars ic.namespace))

example : ReservedByChars "System.Registry" ∧ ¬ ReservedByChars "systemfoo" ∧
    ¬ ReservedByChars "ſystem" := by
  decide

end Chariott
