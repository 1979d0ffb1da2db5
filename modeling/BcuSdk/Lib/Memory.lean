/-
  BcuSdk.Lib.Memory

  Byte-addressable memory with addresses of `w` bits.

  `readBytes` and `writeBytes` go on at address 0 behind the last one;
  `Updated` says in plain terms what a write of a range that fits leaves
  behind, and `updated_writeBytes` that `writeBytes` does.
-/
import BcuSdk.Lib.Bytes

namespace BcuSdk.Lib

variable {w : Nat}

/-- The contents of a memory. -/
abbrev Memory (w : Nat) := BitVec w → Byte

/-- The `n` bytes from address `a` on. -/
def readBytes (m : Memory w) (a : BitVec w) (n : Nat) : List Byte :=
  (List.range n).map fun i => m (a + BitVec.ofNat w i)

/-- The memory with `data` stored from address `a` on. -/
def writeBytes (m : Memory w) (a : BitVec w) (data : List Byte) : Memory w := fun x =>
  data[(x - a).toNat]?.getD (m x)

/-- `m'` holds `data` from address `a` on, and what `m` holds elsewhere. -/
structure Updated (m m' : Memory w) (a : BitVec w) (data : List Byte) : Prop where
  inside : ∀ i (h : i < data.length), m' (a + BitVec.ofNat w i) = data[i]
  outside : ∀ x, x.toNat < a.toNat ∨ a.toNat + data.length ≤ x.toNat → m' x = m x

@[simp] theorem length_readBytes (m : Memory w) (a : BitVec w) (n : Nat) :
    (readBytes m a n).length = n := by
  simp [readBytes]

@[simp] theorem getElem_readBytes {m : Memory w} {a : BitVec w} {n i : Nat}
    (h : i < (readBytes m a n).length) : (readBytes m a n)[i] = m (a + BitVec.ofNat w i) := by
  simp [readBytes]

@[simp] theorem readBytes_zero (m : Memory w) (a : BitVec w) : readBytes m a 0 = [] := rfl

/-- `n + k` bytes are `n` bytes and the `k` behind them. -/
theorem readBytes_append (m : Memory w) (a : BitVec w) (n k : Nat) :
    readBytes m a (n + k) = readBytes m a n ++ readBytes m (a + BitVec.ofNat w n) k := by
  simp [readBytes, List.range_add, BitVec.ofNat_add, BitVec.add_assoc]

@[simp] theorem writeBytes_nil (m : Memory w) (a : BitVec w) : writeBytes m a [] = m := by
  funext x
  simp [writeBytes]

/-- The distance from an address behind `a`. -/
theorem toNat_sub_add {a x : BitVec w} {n : Nat} (hn : n ≤ (x - a).toNat) :
    (x - (a + BitVec.ofNat w n)).toNat = (x - a).toNat - n := by
  have hlt := (x - a).isLt
  have hmod : n % 2 ^ w = n := Nat.mod_eq_of_lt (Nat.lt_of_le_of_lt hn hlt)
  have hle : BitVec.ofNat w n ≤ x - a := by rwa [BitVec.le_def, BitVec.toNat_ofNat, hmod]
  rw [← BitVec.sub_sub, BitVec.toNat_sub_of_le hle, BitVec.toNat_ofNat, hmod]

/-- Addresses closer to `a` are far from one behind it. -/
theorem toNat_sub_add_of_lt {a x : BitVec w} {n : Nat} (hn : (x - a).toNat < n) (hw : n < 2 ^ w) :
    (x - (a + BitVec.ofNat w n)).toNat = 2 ^ w + (x - a).toNat - n := by
  rw [← BitVec.sub_sub, BitVec.toNat_sub, BitVec.toNat_ofNat, Nat.mod_eq_of_lt hw,
    Nat.mod_eq_of_lt (by omega)]
  omega

/-- They are behind what begins there. -/
theorem beyond_of_lt {a x : BitVec w} {n k : Nat} (hn : (x - a).toNat < n)
    (hfit : n + k ≤ 2 ^ w) : k ≤ (x - (a + BitVec.ofNat w n)).toNat := by
  rcases Nat.eq_zero_or_pos k with hzero | hpos
  · omega
  · rw [toNat_sub_add_of_lt hn (by omega)]
    omega

theorem toNat_add_sub {a : BitVec w} {i : Nat} (h : i < 2 ^ w) :
    (a + BitVec.ofNat w i - a).toNat = i := by
  rw [BitVec.add_comm, BitVec.add_sub_cancel, BitVec.toNat_ofNat, Nat.mod_eq_of_lt h]

/-- An address by its distance from `a`. -/
theorem eq_add_ofNat {a x : BitVec w} {i : Nat} (h : x.toNat = a.toNat + i) :
    x = a + BitVec.ofNat w i := by
  have hlt := x.isLt
  refine BitVec.eq_of_toNat_eq ?_
  rw [BitVec.toNat_add, BitVec.toNat_ofNat, Nat.add_mod_mod, h, Nat.mod_eq_of_lt (by omega)]

theorem writeBytes_of_beyond {m : Memory w} {a x : BitVec w} {data : List Byte}
    (h : data.length ≤ (x - a).toNat) : writeBytes m a data x = m x := by
  rw [writeBytes, List.getElem?_eq_none h, Option.getD_none]

theorem writeBytes_append_left {m : Memory w} {a x : BitVec w} {xs : List Byte} (ys : List Byte)
    (h : (x - a).toNat < xs.length) : writeBytes m a (xs ++ ys) x = writeBytes m a xs x := by
  rw [writeBytes, writeBytes, List.getElem?_append_left h]

theorem writeBytes_append_right {m : Memory w} {a x : BitVec w} {xs : List Byte} (ys : List Byte)
    (h : xs.length ≤ (x - a).toNat) :
    writeBytes m a (xs ++ ys) x = writeBytes m (a + BitVec.ofNat w xs.length) ys x := by
  rw [writeBytes, writeBytes, toNat_sub_add h, List.getElem?_append_right h]

/-- Two writes, one behind the other, are one. -/
theorem writeBytes_append (m : Memory w) (a : BitVec w) {xs ys : List Byte}
    (h : xs.length + ys.length ≤ 2 ^ w) :
    writeBytes (writeBytes m a xs) (a + BitVec.ofNat w xs.length) ys =
      writeBytes m a (xs ++ ys) := by
  funext x
  rcases Nat.lt_or_ge (x - a).toNat xs.length with hlt | hge
  · rw [writeBytes_of_beyond (beyond_of_lt hlt h), writeBytes_append_left ys hlt]
  · have hfirst : writeBytes m a xs x = m x := writeBytes_of_beyond hge
    rw [writeBytes_append_right ys hge, writeBytes, hfirst, writeBytes]

theorem readBytes_writeBytes (m : Memory w) (a : BitVec w) {data : List Byte}
    (h : data.length ≤ 2 ^ w) : readBytes (writeBytes m a data) a data.length = data := by
  refine List.ext_getElem (length_readBytes ..) fun i hi hi' => ?_
  rw [getElem_readBytes, writeBytes, toNat_add_sub (Nat.lt_of_lt_of_le hi' h),
    List.getElem?_eq_getElem hi', Option.getD_some]

/-- To store what is there already changes nothing. -/
theorem writeBytes_singleton_self {m : Memory w} {a : BitVec w} {b : Byte} (h : m a = b) :
    writeBytes m a [b] = m := by
  funext x
  rcases Nat.eq_zero_or_pos (x - a).toNat with hzero | hpos
  · have hx : x = a := by
      have hsub : x - a = 0#w := BitVec.eq_of_toNat_eq (by rw [hzero, BitVec.toNat_zero])
      rw [← BitVec.sub_add_cancel x a, hsub, BitVec.zero_add]
    rw [writeBytes, hzero, hx]
    exact h.symm
  · exact writeBytes_of_beyond hpos

theorem updated_writeBytes (m : Memory w) {a : BitVec w} {data : List Byte}
    (h : a.toNat + data.length ≤ 2 ^ w) : Updated m (writeBytes m a data) a data where
  inside i hi := by
    rw [writeBytes, toNat_add_sub (by omega), List.getElem?_eq_getElem hi, Option.getD_some]
  outside x hx := by
    have hfar : data.length ≤ (x - a).toNat := by
      have hx' := x.isLt
      rw [BitVec.toNat_sub]
      rcases hx with hx | hx
      · rw [Nat.mod_eq_of_lt (by omega)]
        omega
      · have hwrap : 2 ^ w - a.toNat + x.toNat = x.toNat - a.toNat + 2 ^ w := by omega
        rw [hwrap, Nat.add_mod_right, Nat.mod_eq_of_lt (by omega)]
        omega
    exact writeBytes_of_beyond hfar

end BcuSdk.Lib
