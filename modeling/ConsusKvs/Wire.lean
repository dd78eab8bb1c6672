import Mathlib

/-!
# The wire: bytes, big-endian integers, slices and buffers

The daemon packs and unpacks its messages with `e::packer`, `e::unpacker` and `e::buffer`, which are not part of the
source. They are modelled from the spec's section 6: integers are fixed-width big-endian, and a slice is its size as a
`u32` followed by its bytes. An unpacker is the bytes it has left; a read returns the value and the bytes after it, or
`none`, the unpacker's error state, when too few bytes remain. Every read of the daemon is followed by `CHECK_UNPACK`,
which drops the message on that error, so a chain of reads is a chain of `Option` binds.

The round-trip lemmas are stated with an arbitrary suffix, so that the reads of one message compose field by field.
-/

namespace ConsusKvs

/-- Bytes, as a buffer or an unpacker holds them. -/
abbrev Bytes := List UInt8

/-! ## Big-endian integers -/

/-- Modelled from the spec: the `w` bytes of `n`, big-endian (`n` is cut to `w` bytes, as a C++ conversion does). -/
def packBE : Nat → Nat → Bytes
  | 0, _ => []
  | w + 1, n => packBE w (n / 256) ++ [UInt8.ofNat (n % 256)]

/-- Modelled from the spec: the number that bytes spell, big-endian. -/
def unpackBE (bs : Bytes) : Nat := bs.foldl (fun acc b => acc * 256 + b.toNat) 0

@[simp] theorem length_packBE (w n : Nat) : (packBE w n).length = w := by
  induction w generalizing n with
  | zero => rfl
  | succ w ih => simp [packBE, ih]

theorem unpackBE_append_singleton (bs : Bytes) (b : UInt8) : unpackBE (bs ++ [b]) = unpackBE bs * 256 + b.toNat := by
  simp [unpackBE, List.foldl_append]

theorem toNat_ofNat_mod_256 (n : Nat) : (UInt8.ofNat (n % 256)).toNat = n % 256 :=
  UInt8.toNat_ofNat_of_lt (Nat.mod_lt _ (by decide))

/-- Reading back `w` big-endian bytes gives the number modulo `256 ^ w`. -/
@[simp] theorem unpackBE_packBE (w n : Nat) : unpackBE (packBE w n) = n % 256 ^ w := by
  induction w generalizing n with
  | zero => simp [packBE, unpackBE, Nat.mod_one]
  | succ w ih =>
    rw [packBE, unpackBE_append_singleton, ih, toNat_ofNat_mod_256, Nat.pow_succ, Nat.mul_comm (256 ^ w), Nat.mod_mul]
    omega

/-! ## Reads -/

/-- Reading `w` bytes: `none` when fewer remain. -/
def unpackBytes (w : Nat) (up : Bytes) : Option (Bytes × Bytes) :=
  if w ≤ up.length then some (up.take w, up.drop w) else none

theorem unpackBytes_append {w : Nat} (bs rest : Bytes) (h : bs.length = w) :
    unpackBytes w (bs ++ rest) = some (bs, rest) := by
  simp [unpackBytes, ← h, List.take_left' rfl, List.drop_left' rfl]

/-- An unsigned integer of `w` bytes, big-endian (`up >> x` for `uint8_t`, `uint32_t` and `uint64_t`). -/
def unpackUInt (w : Nat) (up : Bytes) : Option (Nat × Bytes) :=
  (unpackBytes w up).map fun r => (unpackBE r.1, r.2)

@[simp] theorem unpackUInt_packBE (w n : Nat) (rest : Bytes) :
    unpackUInt w (packBE w n ++ rest) = some (n % 256 ^ w, rest) := by
  simp [unpackUInt, unpackBytes_append _ rest (length_packBE w n)]

/-- `up >> x` for a `uint64_t`. -/
def unpackU64 (up : Bytes) : Option (UInt64 × Bytes) :=
  (unpackUInt 8 up).map fun r => (UInt64.ofNat r.1, r.2)

/-- `pk << x` for a `uint64_t`. -/
def packU64 (x : UInt64) : Bytes := packBE 8 x.toNat

/-- `up >> x` for a `uint8_t`. -/
def unpackU8 (up : Bytes) : Option (UInt8 × Bytes) :=
  (unpackUInt 1 up).map fun r => (UInt8.ofNat r.1, r.2)

/-- `pk << x` for a `uint8_t`. -/
def packU8 (x : UInt8) : Bytes := packBE 1 x.toNat

@[simp] theorem length_packU64 (x : UInt64) : (packU64 x).length = 8 := length_packBE _ _

@[simp] theorem length_packU8 (x : UInt8) : (packU8 x).length = 1 := length_packBE _ _

@[simp] theorem unpackU64_packU64 (x : UInt64) (rest : Bytes) : unpackU64 (packU64 x ++ rest) = some (x, rest) := by
  have h : x.toNat % 256 ^ 8 = x.toNat := Nat.mod_eq_of_lt x.toNat_lt_size
  simp only [unpackU64, packU64, unpackUInt_packBE, h, Option.map_some']
  exact congrArg (fun y => some (y, rest)) (UInt64.toNat.inj (UInt64.toNat_ofNat_of_lt x.toNat_lt_size))

@[simp] theorem unpackU8_packU8 (x : UInt8) (rest : Bytes) : unpackU8 (packU8 x ++ rest) = some (x, rest) := by
  have h : x.toNat % 256 ^ 1 = x.toNat := Nat.mod_eq_of_lt x.toNat_lt_size
  simp only [unpackU8, packU8, unpackUInt_packBE, h, Option.map_some']
  exact congrArg (fun y => some (y, rest)) (UInt8.toNat.inj (UInt8.toNat_ofNat_of_lt x.toNat_lt_size))

/-- A read that succeeded hands its value to the rest of the chain: `Option.some_bind` in the `>>=` form the daemon's
`do` blocks elaborate to, so that a chain of reads simplifies without first being rewritten to `Option.bind`. -/
theorem some_bind_eq {α β : Type} (a : α) (f : α → Option β) : (some a >>= f) = f a := rfl

/-! ## Slices -/

/-- Modelled from the spec: `pk << s` for an `e::slice`, its size as a `u32` and then its bytes. -/
def packSlice (s : Bytes) : Bytes := packBE 4 s.length ++ s

/-- Modelled from the spec: `up >> s` for an `e::slice`. -/
def unpackSlice (up : Bytes) : Option (Bytes × Bytes) :=
  (unpackUInt 4 up).bind fun r => unpackBytes r.1 r.2

/-- `pack_size(s)` for an `e::slice`. -/
def packSizeSlice (s : Bytes) : Nat := 4 + s.length

@[simp] theorem length_packSlice (s : Bytes) : (packSlice s).length = packSizeSlice s := by
  simp [packSlice, packSizeSlice]

/-- A slice whose size fits the `u32` prefix reads back whole. -/
theorem unpackSlice_packSlice (s rest : Bytes) (h : s.length < 2 ^ 32) :
    unpackSlice (packSlice s ++ rest) = some (s, rest) := by
  have hm : s.length % 256 ^ 4 = s.length := Nat.mod_eq_of_lt (by simpa using h)
  simp only [unpackSlice, packSlice, List.append_assoc, unpackUInt_packBE, hm, Option.some_bind]
  exact unpackBytes_append s rest rfl

/-! ## Buffers -/

/-- An `e::buffer`: the capacity it was created with, and the bytes written so far (its size is their number). -/
structure Buffer where
  capacity : Nat
  data : Bytes
  deriving DecidableEq, Repr

/-- `e::buffer::create(sz)`: room for `sz` bytes, none written. -/
def Buffer.create (sz : Nat) : Buffer := ⟨sz, []⟩

/-- `pack_at(off) << x << …`: the encoding `bs` written from offset `off` over what was there. A gap between the old
size and `off` reads as zero: it is the header, which the transport fills in. The packer's error past the capacity is
not modelled; every packing of the daemon is shown to stay inside the capacity instead. -/
def Buffer.packAt (b : Buffer) (off : Nat) (bs : Bytes) : Buffer :=
  { b with data := (b.data ++ List.replicate (off - b.data.length) 0).take off ++ bs ++ b.data.drop (off + bs.length) }

/-- `unpack_from(off)`: an unpacker over the bytes from `off` on, in error when the buffer is shorter. -/
def Buffer.unpackFrom (b : Buffer) (off : Nat) : Option Bytes :=
  if off ≤ b.data.length then some (b.data.drop off) else none

@[simp] theorem Buffer.packAt_capacity (b : Buffer) (off : Nat) (bs : Bytes) :
    (b.packAt off bs).capacity = b.capacity := rfl

theorem Buffer.length_take_padded (b : Buffer) (off : Nat) :
    ((b.data ++ List.replicate (off - b.data.length) 0).take off).length = off := by
  simp only [List.length_take, List.length_append, List.length_replicate]
  omega

/-- Packing into a fresh buffer: the header as zeros, then the encoding. -/
theorem Buffer.create_packAt (sz off : Nat) (bs : Bytes) :
    (Buffer.create sz).packAt off bs = ⟨sz, List.replicate off 0 ++ bs⟩ := by
  simp [Buffer.create, Buffer.packAt, List.take_replicate]

/-- An encoding that ends inside the buffer's size leaves the size as it was. -/
theorem Buffer.length_packAt_of_le (b : Buffer) (off : Nat) (bs : Bytes) (h : off + bs.length ≤ b.data.length) :
    (b.packAt off bs).data.length = b.data.length := by
  simp only [Buffer.packAt, List.length_append, b.length_take_padded, List.length_drop]
  omega

/-- What an unpacker from `off` reads after packing at `off`: the encoding, then whatever the buffer held past it. -/
theorem Buffer.unpackFrom_packAt (b : Buffer) (off : Nat) (bs : Bytes) :
    (b.packAt off bs).unpackFrom off = some (bs ++ b.data.drop (off + bs.length)) := by
  have h := b.length_take_padded off
  simp only [Buffer.unpackFrom, Buffer.packAt, List.append_assoc, List.length_append, h, Nat.le_add_right, if_true,
    List.drop_left' h]

end ConsusKvs
