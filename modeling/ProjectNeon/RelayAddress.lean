import ProjectNeon.Sscanf

/-!
# What the relay address parse accepts

`neonClientConnect` and `neonHostNew` accept a relay address when
`sscanf(addrStr, "%255[^:]:%d", host, &port)` returns `2`.  This module says exactly which byte
strings those are, and what the two fields then hold:

* `sscanfHostPort_of_colon`: a host field of 1 to 255 bytes other than `:`, then `:`, then a tail
  `%d` converts: it skips white space, takes a sign, and stops at the first non-digit, so nothing
  after the digits is looked at;
* `sscanfHostPort_eq_two`: the count is `2` for those strings and no others;
* `sscanfHostPort_of_long_host`: a host of more than 255 bytes fills the field, leaves a byte other
  than `:` next, and the count is `1`;
* `scanDecimal_decimal`: `%d` reads back the decimal digits of any `p` as `p`.
-/

namespace ProjectNeon.Sscanf

/-! ## The host field -/

theorem not_colon {h : List UInt8} (h58 : (58 : UInt8) ∉ h) : ∀ a ∈ h, (a != 58) = true :=
  fun a ha => bne_iff_ne.2 fun e => h58 (by rw [← e]; exact ha)

theorem hostField_of_colon {h : List UInt8} (hlen : h.length ≤ 255) (h58 : (58 : UInt8) ∉ h)
    (rest : List UInt8) : hostField (h ++ 58 :: rest) = h := by
  have hw : (h ++ 58 :: rest).takeWhile (· != 58) = h := by
    rw [List.takeWhile_append_of_pos (not_colon h58)]
    simp
  rw [hostField, hw, List.take_of_length_le hlen]

/-- The host field is a prefix of the string, of at most 255 bytes, none of them `:`. -/
theorem hostField_prefix (bs : List UInt8) :
    hostField bs <+: bs ∧ (hostField bs).length ≤ 255 ∧ (58 : UInt8) ∉ hostField bs := by
  refine ⟨(List.take_prefix _ _).trans (List.takeWhile_prefix _), List.length_take_le _ _,
    fun h => ?_⟩
  have := List.mem_takeWhile_imp (List.mem_of_mem_take h)
  simp at this

/-! ## The whole parse -/

/-- A host field of 1 to 255 bytes other than `:`, followed by `:` and a tail that `%d` converts:
the count is `2`, whatever follows the digits `%d` reads. -/
theorem sscanfHostPort_of_colon (s : CString) {h rest : List UInt8} {v : Int}
    (hs : s.bytes = h ++ 58 :: rest) (hne : h ≠ []) (hlen : h.length ≤ 255)
    (h58 : (58 : UInt8) ∉ h) (hv : scanDecimal (rest.dropWhile isSpace) = some v) :
    sscanfHostPort s = (2, hostFieldCString s, storeInt v) := by
  have hf : hostField s.bytes = h := by rw [hs, hostField_of_colon hlen h58]
  have hd : s.bytes.drop h.length = 58 :: rest := by simp [hs]
  unfold sscanfHostPort
  rw [if_neg (by simp [hs]), if_neg (by rw [hf]; exact hne), hf, hd]
  simp [hv]

theorem hostFieldCString_bytes (s : CString) : (hostFieldCString s).bytes = hostField s.bytes := rfl

/-- **Acceptance.** `sscanf` returns `2` exactly for a host of 1 to 255 bytes other than `:`, then
`:`, then a tail that `%d` converts. -/
theorem sscanfHostPort_eq_two (s : CString) :
    (sscanfHostPort s).1 = 2 ↔ ∃ h rest v, s.bytes = h ++ 58 :: rest ∧ h ≠ [] ∧ h.length ≤ 255 ∧
      (58 : UInt8) ∉ h ∧ scanDecimal (rest.dropWhile isSpace) = some v := by
  constructor
  · intro h2
    obtain ⟨hp, hlen, h58⟩ := hostField_prefix s.bytes
    have hsplit := List.prefix_iff_eq_append.1 hp
    unfold sscanfHostPort at h2
    split_ifs at h2 with he hf
    · simp at h2
    · simp at h2
    · split at h2
      · rename_i b rest hb
        split_ifs at h2 with hb58
        · split at h2
          · rename_i v hv
            exact ⟨_, rest, v, by rw [← hb58, ← hb]; exact hsplit.symm, hf, hlen, h58, hv⟩
          · simp at h2
        · simp at h2
      · simp at h2
  · rintro ⟨h, rest, v, hs, hne, hlen, h58, hv⟩
    rw [sscanfHostPort_of_colon s hs hne hlen h58 hv]

/-- A host of more than 255 bytes other than `:`: the field stops at 255 bytes, the next byte is not
`:`, and the count is `1`. -/
theorem sscanfHostPort_of_long_host (s : CString) {h rest : List UInt8}
    (hs : s.bytes = h ++ 58 :: rest) (hlen : 255 < h.length) (h58 : (58 : UInt8) ∉ h) :
    (sscanfHostPort s).1 = 1 := by
  have hw : s.bytes.takeWhile (· != 58) = h := by
    rw [hs, List.takeWhile_append_of_pos (not_colon h58)]
    simp
  have hf : hostField s.bytes = h.take 255 := by rw [hostField, hw]
  have hfl : (h.take 255).length = 255 := by simp; omega
  have hd : s.bytes.drop 255 = h[255] :: (h.drop 256 ++ 58 :: rest) := by
    rw [hs, List.drop_append_of_le_length (by omega), List.drop_eq_getElem_cons (by omega)]
    rfl
  have hb : h[255] ≠ 58 := fun e => h58 (e ▸ List.getElem_mem _)
  unfold sscanfHostPort
  rw [if_neg (by simp [hs]), hf, if_neg (List.ne_nil_of_length_pos (by omega)), hfl, hd]
  simp [hb]

/-! ## Decimal digits -/

/-- The decimal digits of `p`, most significant first, as `printf("%u", p)` writes them. -/
def decimal (p : Nat) : List UInt8 :=
  if p < 10 then [UInt8.ofNat (48 + p)] else decimal (p / 10) ++ [UInt8.ofNat (48 + p % 10)]
termination_by p
decreasing_by omega

/-- What `%d` needs of a digit byte, for each of the ten digits. -/
theorem digit_byte : ∀ d < 10, isDigit (UInt8.ofNat (48 + d)) = true ∧
    isSpace (UInt8.ofNat (48 + d)) = false ∧ UInt8.ofNat (48 + d) ≠ 45 ∧
    UInt8.ofNat (48 + d) ≠ 43 ∧ (UInt8.ofNat (48 + d)).toNat - 48 = d ∧
    UInt8.ofNat (48 + d) ≠ 58 ∧ UInt8.ofNat (48 + d) ≠ 0 := by
  decide

theorem digitsValue_append (a b : List UInt8) (acc : Nat) :
    digitsValue (a ++ b) acc = digitsValue b (digitsValue a acc) := by
  induction a generalizing acc with
  | nil => rfl
  | cons d ds ih => exact ih _

/-- Every byte of `decimal p` is a digit byte `48 + d`. -/
theorem mem_decimal {p : Nat} {b : UInt8} (hb : b ∈ decimal p) : ∃ d < 10, b = UInt8.ofNat (48 + d) := by
  induction p using Nat.strong_induction_on with
  | _ p ih =>
    unfold decimal at hb
    split_ifs at hb with hp
    · exact ⟨p, hp, List.mem_singleton.1 hb⟩
    · rcases List.mem_append.1 hb with hb | hb
      · exact ih _ (by omega) hb
      · exact ⟨p % 10, Nat.mod_lt _ (by omega), List.mem_singleton.1 hb⟩

theorem digitsValue_decimal (p : Nat) : digitsValue (decimal p) 0 = p := by
  induction p using Nat.strong_induction_on with
  | _ p ih =>
    unfold decimal
    split_ifs with hp
    · simp [digitsValue, (digit_byte p hp).2.2.2.2.1]
    · rw [digitsValue_append, ih _ (by omega)]
      simp only [digitsValue, (digit_byte (p % 10) (Nat.mod_lt _ (by omega))).2.2.2.2.1]
      omega

theorem decimal_ne_nil (p : Nat) : decimal p ≠ [] := by
  unfold decimal
  split_ifs <;> simp

/-- `%d` reads the decimal digits of `p` as `p`. -/
theorem scanDecimal_decimal (p : Nat) : scanDecimal ((decimal p).dropWhile isSpace) = some p := by
  obtain ⟨b, bs, hb⟩ := List.exists_cons_of_ne_nil (decimal_ne_nil p)
  obtain ⟨d, hd, rfl⟩ := mem_decimal (hb ▸ List.mem_cons_self _ _ : _ ∈ decimal p)
  obtain ⟨-, hsp, h45, h43, -⟩ := digit_byte d hd
  have hdig : ∀ x ∈ decimal p, isDigit x = true := fun x hx => by
    obtain ⟨e, he, rfl⟩ := mem_decimal hx
    exact (digit_byte e he).1
  rw [hb, List.dropWhile_cons_of_neg (by simp [hsp])]
  simp only [scanDecimal, signSplit, if_neg h45, if_neg h43, ← hb,
    List.takeWhile_eq_self_iff.2 hdig, if_neg (decimal_ne_nil p), digitsValue_decimal]
  rfl

end ProjectNeon.Sscanf
