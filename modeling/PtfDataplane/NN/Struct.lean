/-
The `struct` formats of the nanomsg wire format: little-endian int32 fields.

Every integer on the wire is a signed 32-bit little-endian field: `"<i"` packs `x` as
the four bytes of `x mod 2^32`, least significant first, and reads four bytes back as
the natural they spell, minus `2^32` when it is `2^31` or more.  `packInts` and
`unpackFromInts` are `struct.pack` and `struct.unpack_from` for the formats
`"<" + "i" * n` the platform uses, with their `struct.error` on a value out of range or
a buffer too short, and the `TypeError` of `unpack_from` on `None`.

* `ofBytesLE_toBytesLE`, `ofInt32Bits_int32Bits` — the unsigned and the signed round
  trip of one field;
* `unpackFromInts_packInts` — unpacking what `packInts` packed, followed by any bytes,
  gives the values back.
-/
import PtfDataplane.Engine
import Mathlib.Algebra.Order.Group.Nat

namespace PtfDataplane

/-- The `w` little-endian bytes of `n`; bits above `8 * w` are dropped. -/
def toBytesLE : Nat → Nat → Packet
  | 0, _ => []
  | w + 1, n => UInt8.ofNat (n % 256) :: toBytesLE w (n / 256)

/-- The natural with the given little-endian bytes. -/
def ofBytesLE : Packet → Nat
  | [] => 0
  | b :: bs => b.toNat + 256 * ofBytesLE bs

@[simp] theorem length_toBytesLE (w n : Nat) : (toBytesLE w n).length = w := by
  induction w generalizing n with
  | zero => rfl
  | succ w ih => simp [toBytesLE, ih]

theorem ofBytesLE_toBytesLE (w n : Nat) : ofBytesLE (toBytesLE w n) = n % 256 ^ w := by
  induction w generalizing n with
  | zero => simp [toBytesLE, ofBytesLE, Nat.mod_one]
  | succ w ih =>
    have hb : (UInt8.ofNat (n % 256)).toNat = n % 256 :=
      UInt8.toNat_ofNat_of_lt (Nat.mod_lt n (by decide))
    rw [toBytesLE, ofBytesLE, ih, hb, pow_succ', Nat.mod_mul]

/-- A value of the int32 range, the only ones `struct.pack("<i", x)` accepts. -/
def inInt32Range (x : Int) : Bool := -2147483648 ≤ x && x < 2147483648

/-- The two's-complement bits of `x`: `x mod 2^32`. -/
def int32Bits (x : Int) : Nat := (x % 4294967296).toNat

/-- The signed value of 32 bits. -/
def ofInt32Bits (n : Nat) : Int := if n < 2147483648 then n else (n : Int) - 4294967296

/-- `struct.pack("<i", x)` of a value in range. -/
def int32LE (x : Int) : Packet := toBytesLE 4 (int32Bits x)

theorem ofInt32Bits_int32Bits {x : Int} (hx : inInt32Range x = true) :
    ofInt32Bits (int32Bits x) = x := by
  have hcast : ((int32Bits x : Nat) : Int) = x % 4294967296 :=
    Int.toNat_of_nonneg (Int.emod_nonneg _ (by decide))
  simp only [inInt32Range, Bool.and_eq_true, decide_eq_true_eq] at hx
  unfold ofInt32Bits
  split_ifs with h <;> omega

@[simp] theorem length_int32LE (x : Int) : (int32LE x).length = 4 := length_toBytesLE 4 _

/-- `int32LE` reads back as the value it packed. -/
theorem ofInt32Bits_int32LE {x : Int} (hx : inInt32Range x = true) :
    ofInt32Bits (ofBytesLE (int32LE x)) = x := by
  have hlt : int32Bits x < 256 ^ 4 := by
    have := Int.emod_lt_of_pos x (show (0 : Int) < 4294967296 by decide)
    have := Int.emod_nonneg x (show (4294967296 : Int) ≠ 0 by decide)
    simp only [int32Bits]
    omega
  rw [int32LE, ofBytesLE_toBytesLE, Nat.mod_eq_of_lt hlt, ofInt32Bits_int32Bits hx]

/-- `struct.calcsize("<" + "i" * count)`. -/
def calcsizeInts (count : Nat) : Nat := 4 * count

/-- The first `count` int32 fields of `buf`. -/
def intsAt : Nat → Packet → List Int
  | 0, _ => []
  | n + 1, buf => ofInt32Bits (ofBytesLE (buf.take 4)) :: intsAt n (buf.drop 4)

/-- `struct.pack("<" + "i" * len(values), *values)`. -/
def packInts (values : List Int) : Except PyError Packet :=
  if values.all inInt32Range then .ok (values.flatMap int32LE) else .error .structError

/-- `struct.pack("<" + "i" * len(values) + "%ds" % n, *values, s)`: the bytes field is `s`
cut, or padded with zero bytes, to `n` bytes. -/
def packIntsBytes (values : List Int) (n : Nat) (s : Packet) : Except PyError Packet :=
  (packInts values).map fun hdr => hdr ++ (s.take n ++ List.replicate (n - s.length) 0)

/-- `struct.unpack_from("<" + "i" * count, buf)`, where `buf` is `None` after a failed
info reply. -/
def unpackFromInts (count : Nat) (buf : Option Packet) : Except PyError (List Int) :=
  match buf with
  | none => .error .typeError
  | some b => if b.length < calcsizeInts count then .error .structError else .ok (intsAt count b)

@[simp] theorem length_flatMap_int32LE (values : List Int) :
    (values.flatMap int32LE).length = 4 * values.length := by
  induction values with
  | nil => rfl
  | cons v vs ih => simp [List.flatMap_cons, ih]; omega

theorem intsAt_flatMap_int32LE (values : List Int) (hv : ∀ v ∈ values, inInt32Range v = true)
    (rest : Packet) : intsAt values.length (values.flatMap int32LE ++ rest) = values := by
  induction values with
  | nil => rfl
  | cons v vs ih =>
    have hv' := hv v (List.mem_cons_self _ _)
    rw [List.length_cons, intsAt, List.flatMap_cons, List.append_assoc,
      List.take_left' (length_int32LE v), List.drop_left' (length_int32LE v),
      ofInt32Bits_int32LE hv', ih fun w hw => hv w (List.mem_cons_of_mem _ hw)]

/-- **The int32 round trip.**  Unpacking what `packInts` packed, followed by any bytes,
gives the values back. -/
theorem unpackFromInts_packInts {values : List Int} {b : Packet}
    (h : packInts values = .ok b) (rest : Packet) :
    unpackFromInts values.length (some (b ++ rest)) = .ok values := by
  unfold packInts at h
  split_ifs at h with hv
  cases h
  rw [List.all_eq_true] at hv
  simp only [unpackFromInts, calcsizeInts, List.length_append, length_flatMap_int32LE]
  rw [if_neg (by omega), intsAt_flatMap_int32LE _ hv]

theorem packInts_of_inRange {values : List Int} (hv : ∀ v ∈ values, inInt32Range v = true) :
    packInts values = .ok (values.flatMap int32LE) := by
  simp [packInts, List.all_eq_true.mpr hv]

/-- Unpacking int32 fields from the start of any bytes that begin with them. -/
theorem unpackFromInts_flatMap {values : List Int} (hv : ∀ v ∈ values, inInt32Range v = true)
    (rest : Packet) :
    unpackFromInts values.length (some (values.flatMap int32LE ++ rest)) = .ok values :=
  unpackFromInts_packInts (packInts_of_inRange hv) rest

/-! ## Decoding then encoding gives the bytes back -/

theorem ofNat_toNat_byte (x : UInt8) : UInt8.ofNat x.toNat = x :=
  UInt8.eq_of_toBitVec_eq (BitVec.eq_of_toNat_eq (UInt8.toNat_ofNat_of_lt x.toNat_lt_size))

theorem ofBytesLE_lt (b : Packet) : ofBytesLE b < 256 ^ b.length := by
  induction b with
  | nil => decide
  | cons x xs ih =>
    have hx : x.toNat < 256 := x.toNat_lt_size
    rw [ofBytesLE, List.length_cons, pow_succ]
    omega

theorem toBytesLE_ofBytesLE (b : Packet) : toBytesLE b.length (ofBytesLE b) = b := by
  induction b with
  | nil => rfl
  | cons x xs ih =>
    have hx : x.toNat < 256 := x.toNat_lt_size
    rw [List.length_cons, toBytesLE, ofBytesLE,
      show (x.toNat + 256 * ofBytesLE xs) % 256 = x.toNat by omega,
      show (x.toNat + 256 * ofBytesLE xs) / 256 = ofBytesLE xs by omega, ih, ofNat_toNat_byte]

theorem int32Bits_ofInt32Bits {n : Nat} (h : n < 4294967296) : int32Bits (ofInt32Bits n) = n := by
  unfold int32Bits ofInt32Bits
  split_ifs <;> omega

theorem inInt32Range_ofInt32Bits {n : Nat} (h : n < 4294967296) :
    inInt32Range (ofInt32Bits n) = true := by
  simp only [inInt32Range, ofInt32Bits, Bool.and_eq_true, decide_eq_true_eq]
  split_ifs <;> omega

/-- Four bytes read as an int32 and packed again are the four bytes. -/
theorem int32LE_ofInt32Bits {c : Packet} (h : c.length = 4) :
    int32LE (ofInt32Bits (ofBytesLE c)) = c := by
  have hlt := ofBytesLE_lt c
  rw [h] at hlt
  rw [int32LE, int32Bits_ofInt32Bits (by simpa using hlt), ← h, toBytesLE_ofBytesLE]

@[simp] theorem length_intsAt (n : Nat) (b : Packet) : (intsAt n b).length = n := by
  induction n generalizing b with
  | zero => rfl
  | succ n ih => simp [intsAt, ih]

theorem inRange_intsAt (n : Nat) (b : Packet) : ∀ v ∈ intsAt n b, inInt32Range v = true := by
  induction n generalizing b with
  | zero => simp [intsAt]
  | succ n ih =>
    simp only [intsAt, List.mem_cons, forall_eq_or_imp]
    refine ⟨inInt32Range_ofInt32Bits ?_, ih _⟩
    calc ofBytesLE (b.take 4) < 256 ^ (b.take 4).length := ofBytesLE_lt _
      _ ≤ 256 ^ 4 := Nat.pow_le_pow_right (by decide) (by simp)
      _ = 4294967296 := rfl

/-- The fields read from the start of a buffer, packed again, are its first bytes. -/
theorem flatMap_int32LE_intsAt (n : Nat) (b : Packet) (h : 4 * n ≤ b.length) :
    (intsAt n b).flatMap int32LE ++ b.drop (4 * n) = b := by
  induction n generalizing b with
  | zero => rfl
  | succ n ih =>
    rw [intsAt, List.flatMap_cons, int32LE_ofInt32Bits (by simp; omega), List.append_assoc,
      show 4 * (n + 1) = 4 + 4 * n by omega, ← List.drop_drop,
      ih (b.drop 4) (by simp; omega), List.take_append_drop]

/-- What `struct.unpack_from` returns is the int32 fields its buffer starts with. -/
theorem unpackFromInts_ok {count : Nat} {b : Packet} {vs : List Int}
    (h : unpackFromInts count (some b) = .ok vs) :
    b = vs.flatMap int32LE ++ b.drop (calcsizeInts count) ∧ vs.length = count ∧
      ∀ v ∈ vs, inInt32Range v = true := by
  simp only [unpackFromInts] at h
  split_ifs at h with hl
  cases h
  exact ⟨(flatMap_int32LE_intsAt count b (by unfold calcsizeInts at hl; omega)).symm,
    length_intsAt _ _, inRange_intsAt _ _⟩

/-- `struct.unpack_from` raises only `struct.error`, and `TypeError` on `None`. -/
theorem unpackFromInts_error {count : Nat} {buf : Option Packet} {e : PyError}
    (h : unpackFromInts count buf = .error e) : e = .structError ∨ e = .typeError := by
  unfold unpackFromInts at h
  split at h
  · cases h; exact .inr rfl
  · split_ifs at h; cases h; exact .inl rfl

/-- A buffer shorter than the format raises `struct.error`. -/
theorem unpackFromInts_short {count : Nat} {b : Packet} (h : b.length < calcsizeInts count) :
    unpackFromInts count (some b) = .error .structError := by
  simp [unpackFromInts, h]

theorem drop_flatMap_int32LE (values : List Int) (rest : Packet) :
    (values.flatMap int32LE ++ rest).drop (calcsizeInts values.length) = rest := by
  rw [calcsizeInts, ← length_flatMap_int32LE, List.drop_left]

/-- Three int32 fields, each in range. -/
theorem header_inRange {t p more : Int} (ht : inInt32Range t = true) (hp : inInt32Range p = true)
    (hm : inInt32Range more = true) : ∀ v ∈ [t, p, more], inInt32Range v = true := by
  simp [ht, hp, hm]

theorem inInt32Range_length {b : Packet} (h : b.length < 2147483648) :
    inInt32Range (b.length : Int) = true := by
  simp only [inInt32Range, Bool.and_eq_true, decide_eq_true_eq]; omega

end PtfDataplane
