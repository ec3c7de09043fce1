import UdsIsoTp.Lib.Bytes

/-!
# Values in a fixed number of bytes

A structure in memory, saved and loaded as its bytes. A `Codec` says how many bytes a value
has, how they are written and how they are read, and that reading gives back what was
written, whatever follows it. The codec of a structure is put together from those of its
fields in their order (`seq`, `array`), with padding where the compiler has it (`padded`).
-/

namespace UdsIsoTp

/-- A way to write the values of a type in a fixed number of bytes, and to read them back. -/
structure Codec (α : Type) where
  width : Nat
  encode : α → List UInt8
  decode : List UInt8 → α
  length_encode : ∀ a, (encode a).length = width
  decode_encode : ∀ a rest, decode (encode a ++ rest) = a

namespace Codec

variable {α β : Type}

theorem decode_encode_self (c : Codec α) (a : α) : c.decode (c.encode a) = a := by
  have h := c.decode_encode a []
  rwa [List.append_nil] at h

/-! ## Fields -/

/-- One byte. -/
def u8 : Codec UInt8 where
  width := 1
  encode v := [v]
  decode bytes := bytes.getD 0 0
  length_encode _ := rfl
  decode_encode _ _ := rfl

/-- One byte with a sign. -/
def i8 : Codec Int8 where
  width := 1
  encode v := [v.toUInt8]
  decode bytes := (bytes.getD 0 0).toInt8
  length_encode _ := rfl
  decode_encode v _ := v.toInt8_toUInt8

/-- A `bool`: one byte, zero for `false`. -/
def bool : Codec Bool where
  width := 1
  encode v := [if v then 1 else 0]
  decode bytes := bytes.getD 0 0 ≠ 0
  length_encode _ := rfl
  decode_encode v _ := by cases v <;> rfl

/-- Two bytes, the low one first. -/
def u16 : Codec UInt16 where
  width := 2
  encode := putU16Le
  decode bytes := getU16Le bytes 0
  length_encode := length_putU16Le
  decode_encode v rest := getU16Le_append [] rest v rfl

/-- Four bytes, the low one first. -/
def u32 : Codec UInt32 where
  width := 4
  encode := putU32Le
  decode bytes := getU32Le bytes 0
  length_encode := length_putU32Le
  decode_encode v rest := getU32Le_append [] rest v rfl

/-! ## Structures -/

/-- One value behind another. -/
def seq (c : Codec α) (d : Codec β) : Codec (α × β) where
  width := c.width + d.width
  encode v := c.encode v.1 ++ d.encode v.2
  decode bytes := (c.decode bytes, d.decode (bytes.drop c.width))
  length_encode v := by rw [List.length_append, c.length_encode, d.length_encode]
  decode_encode v rest := by
    rw [List.append_assoc, c.decode_encode, List.drop_left' (c.length_encode v.1),
      d.decode_encode]

/-- A value with `n` zeros behind it. -/
def padded (c : Codec α) (n : Nat) : Codec α where
  width := c.width + n
  encode v := c.encode v ++ List.replicate n 0
  decode := c.decode
  length_encode v := by rw [List.length_append, c.length_encode, List.length_replicate]
  decode_encode v rest := by rw [List.append_assoc, c.decode_encode]

/-- The codec of a type whose values are made of those of another. -/
def via (c : Codec α) (make : α → β) (parts : β → α) (h : ∀ b, make (parts b) = b) :
    Codec β where
  width := c.width
  encode b := c.encode (parts b)
  decode bytes := make (c.decode bytes)
  length_encode b := c.length_encode (parts b)
  decode_encode b rest := by rw [c.decode_encode, h]

/-! ## Arrays -/

theorem length_flatMap_encode (c : Codec α) (l : List α) :
    (l.flatMap c.encode).length = l.length * c.width := by
  induction l with
  | nil => rw [List.flatMap_nil, List.length_nil, List.length_nil, Nat.zero_mul]
  | cons a l ih =>
    rw [List.flatMap_cons, List.length_append, c.length_encode, ih, List.length_cons,
      Nat.succ_mul, Nat.add_comm]

/-- An element is at its index times the width. -/
theorem decode_drop_flatMap (c : Codec α) (l : List α) (rest : List UInt8) {i : Nat}
    (hi : i < l.length) : c.decode ((l.flatMap c.encode ++ rest).drop (i * c.width)) = l[i] := by
  induction l generalizing i with
  | nil => exact absurd hi (Nat.not_lt_zero i)
  | cons a l ih =>
    rw [List.flatMap_cons, List.append_assoc]
    cases i with
    | zero =>
      rw [Nat.zero_mul, List.drop_zero, c.decode_encode]
      rfl
    | succ i =>
      have hskip : (c.encode a ++ (l.flatMap c.encode ++ rest)).drop ((i + 1) * c.width)
          = (l.flatMap c.encode ++ rest).drop (i * c.width) := by
        rw [Nat.succ_mul, Nat.add_comm, ← List.drop_drop,
          List.drop_left' (c.length_encode a)]
      rw [hskip]
      exact ih (Nat.lt_of_succ_lt_succ hi)

/-- So many of them, one behind the other. -/
def array (c : Codec α) (n : Nat) : Codec (Vector α n) where
  width := n * c.width
  encode v := v.toList.flatMap c.encode
  decode bytes := Vector.ofFn fun i => c.decode (bytes.drop (i * c.width))
  length_encode v := by rw [length_flatMap_encode, Vector.length_toList]
  decode_encode v rest := by
    refine Vector.ext fun i hi => ?_
    rw [Vector.getElem_ofFn, decode_drop_flatMap c _ rest (by rwa [Vector.length_toList])]
    exact Vector.getElem_toList _

end Codec

end UdsIsoTp
