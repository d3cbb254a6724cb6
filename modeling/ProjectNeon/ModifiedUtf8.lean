import Mathlib.Data.List.Basic

/-!
# Modified UTF-8, the string encoding of `NewStringUTF` and `GetStringUTFChars`

Every string crossing the boundary goes through the runtime's modified UTF-8 coder: the C API hands
`const char *` text to `NewStringUTF`, and the JNI layer reads managed strings back with
`GetStringUTFChars` before `sscanf` parses them.  A managed string is a list of UTF-16 code units.

* `encode` is the JNI specification's encoding, one code unit at a time: `\u0001`–`\u007F` in one
  byte, `\u0000` and `\u0080`–`߿` in two (`110xxxxx 10xxxxxx`), the rest in three
  (`1110xxxx 10xxxxxx 10xxxxxx`).  The bit fields are written as quotients and remainders.
* `decode` is HotSpot's `UTF8::next` loop: a well-formed two- or three-byte group is one code unit,
  and a byte that starts no well-formed group stands for itself (as does a group cut short by the
  terminating `NUL`).
* `decode_encode`: decoding inverts encoding, so a string that goes out with `GetStringUTFChars`
  and back in with `NewStringUTF` is the same string.
* `encode_decode_ascii_append`: a string's form followed by one-byte characters comes back
  unchanged from `NewStringUTF` then `GetStringUTFChars`; `colon_not_mem_encode`: `:` is one byte
  only as itself, so no other character's bytes contain it.
-/

namespace ProjectNeon.ModifiedUtf8

/-- The modified UTF-8 bytes of one code unit. -/
def encodeUnit (c : UInt16) : List UInt8 :=
  if 1 ≤ c.toNat ∧ c.toNat ≤ 0x7F then [UInt8.ofNat c.toNat]
  else if c.toNat ≤ 0x7FF then
    [UInt8.ofNat (0xC0 + c.toNat / 64), UInt8.ofNat (0x80 + c.toNat % 64)]
  else
    [UInt8.ofNat (0xE0 + c.toNat / 4096), UInt8.ofNat (0x80 + c.toNat / 64 % 64),
      UInt8.ofNat (0x80 + c.toNat % 64)]

/-- `GetStringUTFChars`: the modified UTF-8 form of a string. -/
def encode : List UInt16 → List UInt8
  | [] => []
  | c :: cs => encodeUnit c ++ encode cs

/-- A continuation byte `10xxxxxx`. -/
def IsCont (b : UInt8) : Prop := b.toNat / 64 = 2

instance (b : UInt8) : Decidable (IsCont b) := inferInstanceAs (Decidable (_ = _))

/-- The length of the group a lead byte starts: `0xxxxxxx` one, `110xxxxx` two, `1110xxxx` three;
`0` for a byte that starts no group. -/
def lead (b : UInt8) : Nat :=
  if b.toNat < 0x80 then 1 else if b.toNat / 32 = 6 then 2 else if b.toNat / 16 = 14 then 3 else 0

/-- The code unit of a two-byte group. -/
def unit2 (b c : UInt8) : UInt16 := UInt16.ofNat (b.toNat % 32 * 64 + c.toNat % 64)

/-- The code unit of a three-byte group. -/
def unit3 (b c d : UInt8) : UInt16 :=
  UInt16.ofNat (b.toNat % 16 * 4096 + c.toNat % 64 * 64 + d.toNat % 64)

/-- `NewStringUTF`: the string whose modified UTF-8 form the bytes are. -/
def decode : List UInt8 → List UInt16
  | [] => []
  | [b] => [UInt16.ofNat b.toNat]
  | [b, c] =>
    if lead b = 2 ∧ IsCont c then [unit2 b c] else [UInt16.ofNat b.toNat, UInt16.ofNat c.toNat]
  | b :: c :: d :: rest =>
    if lead b = 3 ∧ IsCont c ∧ IsCont d then unit3 b c d :: decode rest
    else if lead b = 2 ∧ IsCont c then unit2 b c :: decode (d :: rest)
    else UInt16.ofNat b.toNat :: decode (c :: d :: rest)

@[simp] theorem encode_nil : encode [] = [] := rfl

@[simp] theorem encode_cons (c : UInt16) (cs : List UInt16) :
    encode (c :: cs) = encodeUnit c ++ encode cs := rfl

@[simp] theorem encode_append (a b : List UInt16) : encode (a ++ b) = encode a ++ encode b := by
  induction a with
  | nil => rfl
  | cons c cs ih => simp [ih]

theorem uint16_eq_of_toNat {a : UInt16} {n : Nat} (h : a.toNat = n) : UInt16.ofNat n = a := by
  subst h
  exact UInt16.eq_of_toBitVec_eq (BitVec.eq_of_toNat_eq (Nat.mod_eq_of_lt a.toBitVec.isLt))

theorem lead_of_lt {b : UInt8} (h : b.toNat < 0x80) : lead b = 1 := if_pos h

theorem lead_of_two {b : UInt8} (h : b.toNat / 32 = 6) : lead b = 2 := by
  rw [lead, if_neg (by omega), if_pos h]

theorem lead_of_three {b : UInt8} (h : b.toNat / 16 = 14) : lead b = 3 := by
  rw [lead, if_neg (by omega), if_neg (by omega), if_pos h]

theorem decode_one {b : UInt8} (hb : lead b = 1) (rest : List UInt8) :
    decode (b :: rest) = UInt16.ofNat b.toNat :: decode rest := by
  match rest with
  | [] => rfl
  | [c] => simp [decode, hb]
  | c :: d :: rest => simp [decode, hb]

theorem decode_two {b c : UInt8} (hb : lead b = 2) (hc : IsCont c) (rest : List UInt8) :
    decode (b :: c :: rest) = unit2 b c :: decode rest := by
  match rest with
  | [] => simp [decode, hb, hc]
  | d :: rest => simp [decode, hb, hc]

theorem decode_three {b c d : UInt8} (hb : lead b = 3) (hc : IsCont c) (hd : IsCont d)
    (rest : List UInt8) : decode (b :: c :: d :: rest) = unit3 b c d :: decode rest := by
  simp [decode, hb, hc, hd]

/-- One code unit decodes back from its bytes, whatever follows them. -/
theorem decode_encodeUnit (c : UInt16) (rest : List UInt8) :
    decode (encodeUnit c ++ rest) = c :: decode rest := by
  have hc : c.toNat < 65536 := c.toBitVec.isLt
  unfold encodeUnit
  split_ifs with h1 h2
  · -- one byte
    have e := UInt8.toNat_ofNat_of_lt (n := c.toNat) (by simp only [UInt8.size]; omega)
    rw [List.singleton_append, decode_one (lead_of_lt (by rw [e]; omega)), e,
      uint16_eq_of_toNat rfl]
  · -- two bytes
    have e1 := UInt8.toNat_ofNat_of_lt (n := 0xC0 + c.toNat / 64) (by simp only [UInt8.size]; omega)
    have e2 := UInt8.toNat_ofNat_of_lt (n := 0x80 + c.toNat % 64) (by simp only [UInt8.size]; omega)
    rw [List.cons_append, List.singleton_append,
      decode_two (lead_of_two (by rw [e1]; omega)) (by simp only [IsCont, e2]; omega)]
    exact congrArg (· :: decode rest) (uint16_eq_of_toNat (by simp only [e1, e2]; omega))
  · -- three bytes
    have e1 := UInt8.toNat_ofNat_of_lt (n := 0xE0 + c.toNat / 4096) (by simp only [UInt8.size]; omega)
    have e2 := UInt8.toNat_ofNat_of_lt (n := 0x80 + c.toNat / 64 % 64)
      (by simp only [UInt8.size]; omega)
    have e3 := UInt8.toNat_ofNat_of_lt (n := 0x80 + c.toNat % 64) (by simp only [UInt8.size]; omega)
    rw [List.cons_append, List.cons_append, List.singleton_append,
      decode_three (lead_of_three (by rw [e1]; omega)) (by simp only [IsCont, e2]; omega)
        (by simp only [IsCont, e3]; omega)]
    exact congrArg (· :: decode rest) (uint16_eq_of_toNat (by simp only [e1, e2, e3]; omega))

/-- No byte of a modified UTF-8 form is `NUL`: `U+0000` takes two bytes. -/
theorem zero_not_mem_encodeUnit (c : UInt16) : (0 : UInt8) ∉ encodeUnit c := by
  have hc : c.toNat < 65536 := c.toBitVec.isLt
  have ne : ∀ n, 0 < n → n < 256 → UInt8.ofNat n ≠ 0 := fun n h0 h1 h => by
    have := congrArg UInt8.toNat h
    rw [UInt8.toNat_ofNat_of_lt (by simp only [UInt8.size]; omega)] at this
    exact absurd this (by simp; omega)
  unfold encodeUnit
  split_ifs with h1 h2 <;> simp only [List.mem_cons, List.mem_singleton, List.not_mem_nil,
    or_false, not_or]
  · exact fun h => ne _ (by omega) (by omega) h.symm
  · exact ⟨fun h => ne _ (by omega) (by omega) h.symm, fun h => ne _ (by omega) (by omega) h.symm⟩
  · exact ⟨fun h => ne _ (by omega) (by omega) h.symm, fun h => ne _ (by omega) (by omega) h.symm,
      fun h => ne _ (by omega) (by omega) h.symm⟩

theorem zero_not_mem_encode (cs : List UInt16) : (0 : UInt8) ∉ encode cs := by
  induction cs with
  | nil => simp
  | cons c cs ih => simpa [not_or] using ⟨zero_not_mem_encodeUnit c, ih⟩

/-- **Round trip.** `NewStringUTF (GetStringUTFChars s) = s`. -/
theorem decode_encode (cs : List UInt16) : decode (encode cs) = cs := by
  induction cs with
  | nil => rfl
  | cons c cs ih => rw [encode_cons, decode_encodeUnit, ih]

/-! ## One-byte characters -/

/-- The code units of one-byte characters. -/
def ascii (bs : List UInt8) : List UInt16 := bs.map fun b => UInt16.ofNat b.toNat

/-- A byte that is a whole character: `\u0001`–`\u007F`. -/
def IsAscii (b : UInt8) : Prop := 1 ≤ b.toNat ∧ b.toNat ≤ 0x7F

instance (b : UInt8) : Decidable (IsAscii b) := inferInstanceAs (Decidable (_ ∧ _))

theorem uint8_ofNat_toNat (b : UInt8) : UInt8.ofNat b.toNat = b :=
  UInt8.eq_of_toBitVec_eq (BitVec.eq_of_toNat_eq (Nat.mod_eq_of_lt b.toBitVec.isLt))

theorem encodeUnit_ascii {b : UInt8} (hb : IsAscii b) : encodeUnit (UInt16.ofNat b.toNat) = [b] := by
  have e : (UInt16.ofNat b.toNat).toNat = b.toNat :=
    UInt16.toNat_ofNat_of_lt (by simp only [UInt16.size]; have := hb.2; omega)
  rw [encodeUnit, if_pos (by rw [e]; exact hb), e, uint8_ofNat_toNat]

theorem encode_ascii {bs : List UInt8} (h : ∀ b ∈ bs, IsAscii b) : encode (ascii bs) = bs := by
  induction bs with
  | nil => rfl
  | cons b bs ih =>
    rw [ascii, List.map_cons, encode_cons, encodeUnit_ascii (h b (List.mem_cons_self _ _))]
    exact congrArg (b :: ·) (ih fun x hx => h x (List.mem_cons_of_mem _ hx))

theorem decode_ascii {bs : List UInt8} (h : ∀ b ∈ bs, IsAscii b) : decode bs = ascii bs := by
  induction bs with
  | nil => rfl
  | cons b bs ih =>
    have hb := h b (List.mem_cons_self _ _)
    rw [decode_one (lead_of_lt (by have := hb.2; omega)), ascii, List.map_cons,
      ih fun x hx => h x (List.mem_cons_of_mem _ hx), ascii]

/-- Decoding a string's form followed by more bytes gives the string, then what those bytes
decode to. -/
theorem decode_encode_append (cs : List UInt16) (rest : List UInt8) :
    decode (encode cs ++ rest) = cs ++ decode rest := by
  induction cs with
  | nil => rfl
  | cons c cs ih => rw [encode_cons, List.append_assoc, decode_encodeUnit, ih, List.cons_append]

/-- `NewStringUTF` then `GetStringUTFChars` gives back a string's form followed by one-byte
characters. -/
theorem encode_decode_ascii_append (cs : List UInt16) {bs : List UInt8}
    (h : ∀ b ∈ bs, IsAscii b) : encode (decode (encode cs ++ bs)) = encode cs ++ bs := by
  rw [decode_encode_append, encode_append, decode_ascii h, encode_ascii h]

/-- The bytes of a character contain `:` only if the character is `:`. -/
theorem colon_mem_encodeUnit {c : UInt16} (h : (58 : UInt8) ∈ encodeUnit c) : c = 58 := by
  have hc : c.toNat < 65536 := c.toBitVec.isLt
  have val : ∀ n, n < 256 → UInt8.ofNat n = 58 → n = 58 := fun n hn e => by
    have := congrArg UInt8.toNat e
    rwa [UInt8.toNat_ofNat_of_lt (by simp only [UInt8.size]; omega)] at this
  unfold encodeUnit at h
  split_ifs at h with h1 h2 <;>
    simp only [List.mem_cons, List.mem_singleton, List.not_mem_nil, or_false] at h
  · exact uint16_eq_of_toNat (val _ (by omega) h.symm) |>.symm
  · rcases h with h | h <;> have := val _ (by omega) h.symm <;> omega
  · rcases h with h | h | h <;> have := val _ (by omega) h.symm <;> omega

theorem colon_not_mem_encode {cs : List UInt16} (h : (58 : UInt16) ∉ cs) :
    (58 : UInt8) ∉ encode cs := by
  induction cs with
  | nil => simp
  | cons c cs ih =>
    rw [encode_cons, List.mem_append, not_or]
    exact ⟨fun hc => h (colon_mem_encodeUnit hc ▸ List.mem_cons_self _ _),
      ih fun hm => h (List.mem_cons_of_mem _ hm)⟩

end ProjectNeon.ModifiedUtf8
