import PullSecretSync.Text.Base64
import Mathlib.Tactic.SplitIfs

/-!
# Bytes survive base64

Three bytes are written as four signs, each of which stands for six of their bits, and a last group
of fewer bytes is padded. Every sign is read as the number that it was written for, so the bytes of
a group come back, and with them all bytes.
-/

namespace PullSecretSync.Base64

variable {value : Nat}

/-! ## Signs -/

theorem value?_symbol (small : value < 64) : value? (symbol value) = some value := by
  have all : ∀ value < 64, value? (symbol value) = some value := by decide
  exact all value small

theorem symbol_ne_pad (small : value < 64) : symbol value ≠ pad := by
  have all : ∀ value < 64, symbol value ≠ pad := by decide
  exact all value small

/-- A sign is a character of ASCII. -/
theorem toNat_symbol_lt (value : Nat) : (symbol value).toNat < 128 := by
  unfold symbol
  split_ifs <;> simp <;> omega

theorem valueAt_symbol (small : value < 64) (offset : Nat) :
    valueAt offset (symbol value) = .ok value := by
  rw [valueAt, value?_symbol small]

/-- The signs of a group are read as their numbers, and its padding as its end. -/
theorem groupValues_eq {values : List Nat} (small : ∀ value ∈ values, value < 64)
    (offset place pads : Nat) (late : pads = 0 ∨ 2 ≤ place + values.length) :
    groupValues offset place (values.map symbol ++ List.replicate pads pad) =
      .ok (values.map fun value => (value, symbol value)) := by
  induction values generalizing place with
  | nil =>
    cases pads with
    | zero => rfl
    | succ pads =>
      have late : ¬ place < 2 := by
        rw [List.length_nil] at late
        omega
      simp [groupValues, List.replicate_succ, late]
  | cons value values ih =>
    obtain ⟨here, small⟩ := List.forall_mem_cons.mp small
    have late : pads = 0 ∨ 2 ≤ place + 1 + values.length := by
      rwa [List.length_cons, Nat.add_comm _ 1, ← Nat.add_assoc] at late
    rw [List.map_cons, List.cons_append, groupValues, if_neg (symbol_ne_pad here),
      valueAt_symbol here, ih small _ late]
    rfl

/-! ## Groups -/

/-- A number that is that of a byte stands for the byte. -/
theorem toUInt8_eq {byte : UInt8} (same : value = byte.toNat) : value.toUInt8 = byte := by
  subst same
  exact UInt8.ofNat_toNat

section Bits

variable (a b c : UInt8)

theorem sign₁_lt : a.toNat / 4 < 64 := by
  have := a.toNat_lt
  omega

theorem sign₂_lt : a.toNat % 4 * 16 + b.toNat / 16 < 64 := by
  have := b.toNat_lt
  omega

theorem sign₃_lt : b.toNat % 16 * 4 + c.toNat / 64 < 64 := by
  have := c.toNat_lt
  omega

theorem byte₁_eq :
    (a.toNat / 4 * 4 + (a.toNat % 4 * 16 + b.toNat / 16) / 16).toUInt8 = a := by
  have := b.toNat_lt
  exact toUInt8_eq (by omega)

theorem byte₂_eq : ((a.toNat % 4 * 16 + b.toNat / 16) % 16 * 16 +
    (b.toNat % 16 * 4 + c.toNat / 64) / 4).toUInt8 = b := by
  have := b.toNat_lt
  have := c.toNat_lt
  exact toUInt8_eq (by omega)

theorem byte₃_eq : ((b.toNat % 16 * 4 + c.toNat / 64) % 4 * 64 + c.toNat % 64).toUInt8 = c := by
  have := c.toNat_lt
  exact toUInt8_eq (by omega)

end Bits

/-- A group of one byte is read. -/
theorem lastGroup_encode_one (offset : Nat) (a : UInt8) :
    lastGroup offset (encode [a]) = .ok [a] := by
  have small : ∀ value ∈ [a.toNat / 4, a.toNat % 4 * 16], value < 64 := by
    simpa using ⟨sign₁_lt a, sign₂_lt a 0⟩
  have values := groupValues_eq small offset 0 2 (.inr (by simp))
  have byte := byte₁_eq a 0
  have clean : a.toNat % 4 * 16 % 16 = 0 := Nat.mul_mod_left _ 16
  simp only [UInt8.toNat_zero, Nat.zero_div, Nat.add_zero] at byte
  simp only [List.map_cons, List.map_nil, List.cons_append, List.nil_append, List.replicate]
    at values
  simp only [encode, lastGroup, values, bind, Except.bind, pure, Except.pure, clean, byte]
  rfl

/-- A group of two bytes is read. -/
theorem lastGroup_encode_two (offset : Nat) (a b : UInt8) :
    lastGroup offset (encode [a, b]) = .ok [a, b] := by
  have small : ∀ value ∈ [a.toNat / 4, a.toNat % 4 * 16 + b.toNat / 16, b.toNat % 16 * 4],
      value < 64 := by
    simpa using ⟨sign₁_lt a, sign₂_lt a b, sign₃_lt b 0⟩
  have values := groupValues_eq small offset 0 1 (.inr (by simp))
  have byte := byte₂_eq a b 0
  have clean : b.toNat % 16 * 4 % 4 = 0 := Nat.mul_mod_left _ 4
  simp only [UInt8.toNat_zero, Nat.zero_div, Nat.add_zero] at byte
  simp only [List.map_cons, List.map_nil, List.cons_append, List.nil_append, List.replicate]
    at values
  simp only [encode, lastGroup, values, bind, Except.bind, pure, Except.pure, clean, byte₁_eq, byte]
  rfl

/-- A group of three bytes is read, where it is the last one. -/
theorem lastGroup_encode_three (offset : Nat) (a b c : UInt8) :
    lastGroup offset (encode [a, b, c]) = .ok [a, b, c] := by
  have small : ∀ value ∈ [a.toNat / 4, a.toNat % 4 * 16 + b.toNat / 16,
      b.toNat % 16 * 4 + c.toNat / 64, c.toNat % 64], value < 64 := by
    simpa using ⟨sign₁_lt a, sign₂_lt a b, sign₃_lt b c, Nat.mod_lt _ (by simp)⟩
  have values := groupValues_eq small offset 0 0 (.inl rfl)
  simp only [List.map_cons, List.map_nil, List.cons_append, List.nil_append, List.replicate]
    at values
  simp only [encode, lastGroup, values, bind, Except.bind, pure, Except.pure, byte₁_eq, byte₂_eq,
    byte₃_eq]

theorem encode_ne_nil (byte : UInt8) (rest : List UInt8) : encode (byte :: rest) ≠ [] := by
  match rest with
  | [] => simp [encode]
  | [_] => simp [encode]
  | _ :: _ :: _ => simp [encode]

/-- All bytes are read from their signs. A group that another one follows is read without a look at
padding. -/
theorem decodeFrom_encode (offset : Nat) (bytes : List UInt8) :
    decodeFrom offset (encode bytes) = .ok bytes := by
  induction bytes using encode.induct generalizing offset with
  | case1 => rfl
  | case2 a => exact lastGroup_encode_one offset a
  | case3 a b => exact lastGroup_encode_two offset a b
  | case4 a b c rest ih =>
    cases rest with
    | nil => exact lastGroup_encode_three offset a b c
    | cons byte rest =>
      obtain ⟨next, behind, follows⟩ := List.exists_cons_of_ne_nil (encode_ne_nil byte rest)
      have read := ih (offset + 4)
      have last : c.toNat % 64 < 64 := Nat.mod_lt _ (by simp)
      rw [encode, follows, decodeFrom, ← follows, read, valueAt_symbol (sign₁_lt a),
        valueAt_symbol (sign₂_lt a b), valueAt_symbol (sign₃_lt b c), valueAt_symbol last]
      simp only [bind, Except.bind, pure, Except.pure, byte₁_eq, byte₂_eq, byte₃_eq]

/-! ## Texts -/

/-- All signs are characters of ASCII. -/
theorem ascii_encode (bytes : List UInt8) : ∀ sign ∈ encode bytes, sign.toNat < 128 := by
  have padding : pad.toNat < 128 := by decide
  induction bytes using encode.induct with
  | case1 => simp [encode]
  | case2 a => simp [encode, toNat_symbol_lt, padding]
  | case3 a b => simp [encode, toNat_symbol_lt, padding]
  | case4 a b c rest ih => simpa [encode, toNat_symbol_lt] using ih

theorem length_encode_mod (bytes : List UInt8) : (encode bytes).length % 4 = 0 := by
  induction bytes using encode.induct with
  | case1 => rfl
  | case2 a => simp [encode]
  | case3 a b => simp [encode]
  | case4 a b c rest ih => simpa [encode, Nat.add_assoc] using ih

/-- The bytes of ASCII text are its characters. -/
theorem utf8_ofList {signs : List UInt8} (ascii : ∀ sign ∈ signs, sign.toNat < 128) :
    Text.utf8 (String.ofList (signs.map fun sign => Char.ofNat sign.toNat)) = signs := by
  have single : ∀ code < 128, String.utf8EncodeChar (Char.ofNat code) = [code.toUInt8] := by
    decide +kernel
  rw [Text.utf8, String.toList_ofList, List.flatMap_map]
  induction signs with
  | nil => rfl
  | cons sign signs ih =>
    obtain ⟨here, ascii⟩ := List.forall_mem_cons.mp ascii
    rw [List.flatMap_cons, ih ascii, single _ here, toUInt8_eq rfl]
    rfl

/-- **Bytes survive base64.** -/
theorem read_text (bytes : List UInt8) : read (text bytes) = .ok bytes := by
  have read := decodeFrom_encode 0 bytes
  rw [Base64.read, text, utf8_ofList (ascii_encode bytes), decode]
  cases last : (encode bytes).getLast? with
  | none => rwa [List.getLast?_eq_none_iff.mp last] at read
  | some sign => simpa [length_encode_mod] using read

end PullSecretSync.Base64
