import ConversionRules.Cache.Primitive

/-!
What the decoders of numbers, texts and sequences recover. A decoder recovers a
value from bytes if it reads exactly these bytes, whatever stands after them.
Lengths are written in at most 64 bits, so the statement is about fewer bytes
than that; parts of such a sequence are as short, and recovery composes.
-/
namespace ConversionRules.Bytes

theorem length_ofNat (count n : Nat) : (ofNat count n).length = count := by
  induction count generalizing n with
  | zero => rfl
  | succ count ih => simp [ofNat, ih]

theorem toNat_ofNat (count n : Nat) : toNat (ofNat count n) = n % Nat.pow 256 count := by
  induction count generalizing n with
  | zero => simp [ofNat, toNat, Nat.mod_one]
  | succ count ih =>
    have htail : toNat (ofNat count (n / 256)) = n / 256 % Nat.pow 256 count := ih (n / 256)
    have hhead : (UInt8.ofNat n).toNat = n % 256 := UInt8.toNat_ofNat'
    have hpow : Nat.pow 256 (count + 1) = 256 * Nat.pow 256 count := Nat.pow_succ'
    change (UInt8.ofNat n).toNat + 256 * toNat (ofNat count (n / 256)) = _
    rw [hhead, htail, hpow, Nat.mod_mul]

end ConversionRules.Bytes

namespace ConversionRules.Codec

variable {α β : Type}

def Recovers (d : Decoder α) (bs : List UInt8) (a : α) : Prop :=
  bs.length < UInt64.size → ∀ rest, d (bs ++ rest) = some (a, rest)

namespace Recovers

theorem pure (a : α) : Recovers (Pure.pure a) [] a := fun _ _ => rfl

/-- One decoder after another recovers from the bytes of both. -/
theorem bind {d : Decoder α} {k : α → Decoder β} {bs cs : List UInt8} {a : α} {b : β}
    (hd : Recovers d bs a) (hk : Recovers (k a) cs b) : Recovers (d >>= k) (bs ++ cs) b := by
  intro hlen rest
  rw [List.length_append] at hlen
  have hfirst : d (bs ++ (cs ++ rest)) = some (a, cs ++ rest) := hd (by omega) (cs ++ rest)
  have hsecond : k a (cs ++ rest) = some (b, rest) := hk (by omega) rest
  change (d (bs ++ cs ++ rest)).bind (fun p => k p.1 p.2) = some (b, rest)
  rw [List.append_assoc, hfirst]
  exact hsecond

/-- What follows a decoder may only look at the value. -/
theorem finish {d : Decoder α} {k : α → Decoder β} {bs : List UInt8} {a : α} {b : β}
    (hd : Recovers d bs a) (hk : k a = Pure.pure b) : Recovers (d >>= k) bs b := by
  have hnext : Recovers (k a) [] b := hk ▸ Recovers.pure b
  have h := hd.bind hnext
  rwa [List.append_nil] at h

end Recovers

theorem recovers_byte (b : UInt8) : Recovers byte [b] b := fun _ _ => rfl

theorem recovers_bytes {bs : List UInt8} {n : Nat} (h : bs.length = n) :
    Recovers (bytes n) bs bs := by
  intro _ rest
  subst h
  simp [bytes]

theorem length_encodeNat_pos (n : Nat) : 0 < (encodeNat n).length := by
  unfold encodeNat
  split
  · simp
  split
  · simp
  split <;> simp

theorem length_tagged_pos (n : Nat) (bs : List UInt8) : 0 < (encodeNat n ++ bs).length := by
  have h := length_encodeNat_pos n
  rw [List.length_append]
  omega

/-- After a mark that tells a width, a number that fits the width is recovered. -/
theorem recovers_marked {width size n : Nat} {b : UInt8} (hb : 251 ≤ b)
    (hsize : (if b = 251 then 2 else if b = 252 then 4 else if b = 253 then 8 else 16) = size)
    (hwidth : size ≤ width) (hn : n < Nat.pow 256 size) :
    Recovers (decodeNat width) (b :: Bytes.ofNat size n) n := by
  have hnot : ¬ b < 251 := UInt8.not_lt.mpr hb
  have hbytes : Recovers (bytes size) (Bytes.ofNat size n) (Bytes.ofNat size n) :=
    recovers_bytes (Bytes.length_ofNat size n)
  have hvalue : Bytes.toNat (Bytes.ofNat size n) = n := by
    rw [Bytes.toNat_ofNat, Nat.mod_eq_of_lt hn]
  refine (recovers_byte b).bind ?_
  simp only [hsize, hnot, hwidth, if_true, if_false]
  exact hbytes.finish (by rw [hvalue])

/-- A number below 2^64 is recovered if a width of 4 is enough for it or 8 is allowed. -/
theorem recovers_nat {width n : Nat} (hwidth : 4 ≤ width) (hn : n < UInt64.size)
    (hwide : UInt32.size ≤ n → 8 ≤ width) : Recovers (decodeNat width) (encodeNat n) n := by
  unfold encodeNat
  split
  · rename_i hsmall
    have hb : UInt8.ofNat n < 251 := by
      rw [UInt8.lt_iff_toNat_lt, UInt8.toNat_ofNat']
      exact Nat.lt_of_le_of_lt (Nat.mod_le n _) hsmall
    have hvalue : (UInt8.ofNat n).toNat = n := by
      rw [UInt8.toNat_ofNat']
      omega
    refine (recovers_byte (UInt8.ofNat n)).finish ?_
    simp only [hb, if_true, hvalue]
  split
  · rename_i htwo
    exact recovers_marked (by decide) rfl (by omega) htwo
  split
  · rename_i hfour
    exact recovers_marked (by decide) rfl hwidth hfour
  · rename_i height
    exact recovers_marked (by decide) rfl (hwide (Nat.le_of_not_lt height)) hn

theorem recovers_tag {n : Nat} (hn : n < UInt32.size) : Recovers decodeTag (encodeNat n) n :=
  recovers_nat (Nat.le_refl 4) (Nat.lt_trans hn (by decide)) fun h => absurd hn (Nat.not_lt.mpr h)

theorem recovers_size {n : Nat} (hn : n < UInt64.size) : Recovers decodeSize (encodeNat n) n :=
  recovers_nat (by decide) hn (fun _ => Nat.le_refl 8)

/-- The number of a constructor, then its parameters. -/
theorem Recovers.tagged {k : Nat → Decoder β} {n : Nat} {bs : List UInt8} {b : β}
    (hk : Recovers (k n) bs b) (hn : n < UInt32.size) :
    Recovers (decodeTag >>= k) (encodeNat n ++ bs) b := (recovers_tag hn).bind hk

/-- The number of a constructor without parameters. -/
theorem Recovers.constant {k : Nat → Decoder β} {n : Nat} {b : β}
    (hk : k n = Pure.pure b) (hn : n < UInt32.size) : Recovers (decodeTag >>= k) (encodeNat n) b :=
  (recovers_tag hn).finish hk

theorem unfold_fold (n : Int) : unfold (fold n) = n := by
  unfold unfold fold
  split <;> split <;> omega

theorem recovers_int64 (n : Int64) : Recovers decodeInt64 (encodeInt64 n) n := by
  have hlow : -9223372036854775808 ≤ n.toInt := n.le_toInt
  have hhigh : n.toInt < 9223372036854775808 := n.toInt_lt
  have hfold : fold n.toInt < UInt64.size := by
    unfold fold UInt64.size
    split <;> omega
  exact (recovers_size hfold).finish (by rw [unfold_fold, Int64.ofInt_toInt])

theorem recovers_uint64 (n : UInt64) : Recovers decodeUInt64 (encodeUInt64 n) n :=
  (recovers_size n.toNat_lt).finish (by rw [UInt64.ofNat_toNat])

theorem recovers_binary64 (x : Binary64) : Recovers decodeBinary64 (encodeBinary64 x) x := by
  have hbytes : Recovers (bytes 8) (encodeBinary64 x) (encodeBinary64 x) :=
    recovers_bytes (Bytes.length_ofNat 8 _)
  have hvalue : Bytes.toNat (encodeBinary64 x) = x.bits.toNat := by
    have hlt : x.bits.toNat < Nat.pow 256 8 := x.bits.toNat_lt_size
    rw [encodeBinary64, Bytes.toNat_ofNat, Nat.mod_eq_of_lt hlt]
  exact hbytes.finish (by rw [hvalue, UInt64.ofNat_toNat])

theorem recovers_bool (b : Bool) : Recovers decodeBool (encodeBool b) b := by
  cases b with
  | false => exact (recovers_byte 0).finish rfl
  | true => exact (recovers_byte 1).finish rfl

theorem stringOfBytes?_toUTF8 (s : String) : stringOfBytes? s.toUTF8.data.toList = some s := by
  change String.fromUTF8? ⟨s.toUTF8.data.toList.toArray⟩ = some s
  rw [Array.toArray_toList]
  exact dif_pos s.isValidUTF8

theorem recovers_string (s : String) : Recovers decodeString (encodeString s) s := by
  intro hlen
  have hsize : s.toUTF8.data.toList.length < UInt64.size := by
    rw [encodeString, List.length_append] at hlen
    omega
  have hcontent : Recovers (bytes s.toUTF8.data.toList.length) s.toUTF8.data.toList
      s.toUTF8.data.toList := recovers_bytes rfl
  refine ((recovers_size hsize).bind (hcontent.finish ?_)) hlen
  rw [stringOfBytes?_toUTF8]

theorem stringOfBytes?_utf8EncodeChar (c : Char) :
    stringOfBytes? (String.utf8EncodeChar c) = some (String.ofList [c]) := by
  have h := stringOfBytes?_toUTF8 (String.ofList [c])
  rw [String.toUTF8_eq_toByteArray, String.toByteArray_ofList, List.utf8Encode_singleton] at h
  simpa using h

theorem charWidth?_ofNat {n : Nat} (hn : n < 256) : charWidth? (UInt8.ofNat n) =
    if n < 0x80 then some 1
    else if 0xC2 ≤ n ∧ n ≤ 0xDF then some 2
    else if 0xE0 ≤ n ∧ n ≤ 0xEF then some 3
    else if 0xF0 ≤ n ∧ n ≤ 0xF4 then some 4
    else none := by
  have hmod : n % 256 = n := Nat.mod_eq_of_lt hn
  simp [charWidth?, UInt8.lt_iff_toNat_lt, UInt8.le_iff_toNat_le, hmod]

/-- The first byte of a character tells how many there are. -/
theorem charWidth?_head (c : Char) : ∃ b more, String.utf8EncodeChar c = b :: more ∧
    charWidth? b = some (more.length + 1) := by
  have hvalid : c.val.toNat < 0x110000 := by
    rcases c.valid with h | h
    · change c.val.toNat < 0xd800 at h
      omega
    · exact h.2
  by_cases hone : c.val.toNat ≤ 0x7f
  · refine ⟨_, _, if_pos hone, ?_⟩
    rw [charWidth?_ofNat (by omega), if_pos (by omega)]
    rfl
  by_cases htwo : c.val.toNat ≤ 0x7ff
  · refine ⟨_, _, (if_neg hone).trans (if_pos htwo), ?_⟩
    rw [charWidth?_ofNat (by omega), if_neg (by omega), if_pos (by omega)]
    rfl
  by_cases hthree : c.val.toNat ≤ 0xffff
  · refine ⟨_, _, (if_neg hone).trans ((if_neg htwo).trans (if_pos hthree)), ?_⟩
    rw [charWidth?_ofNat (by omega), if_neg (by omega), if_neg (by omega), if_pos (by omega)]
    rfl
  · refine ⟨_, _, (if_neg hone).trans ((if_neg htwo).trans (if_neg hthree)), ?_⟩
    rw [charWidth?_ofNat (by omega), if_neg (by omega), if_neg (by omega), if_neg (by omega),
      if_pos (by omega)]
    rfl

theorem recovers_char (c : Char) : Recovers decodeChar (encodeChar c) c := by
  obtain ⟨b, more, hbytes, hwidth⟩ := charWidth?_head c
  have hmore : Recovers (bytes (more.length + 1 - 1)) more more := recovers_bytes rfl
  rw [encodeChar, hbytes]
  refine (recovers_byte b).bind ?_
  simp only [hwidth]
  refine hmore.finish ?_
  rw [← hbytes, stringOfBytes?_utf8EncodeChar]
  simp only [Option.map_some, String.toList_ofList]

theorem recovers_none (d : Decoder α) (f : α → List UInt8) :
    Recovers (decodeOption d) (encodeOption f none) none :=
  (recovers_bool false).finish rfl

theorem recovers_some {d : Decoder α} {f : α → List UInt8} {a : α} (h : Recovers d (f a) a) :
    Recovers (decodeOption d) (encodeOption f (some a)) (some a) :=
  (recovers_bool true).bind (h.finish rfl)

/-- An optional part is recovered if the part is when it is there. -/
theorem recovers_option {d : Decoder α} {f : α → List UInt8} (o : Option α)
    (h : ∀ a ∈ o, Recovers d (f a) a) : Recovers (decodeOption d) (encodeOption f o) o := by
  cases o with
  | none => exact recovers_none d f
  | some a => exact recovers_some (h a rfl)

theorem recovers_many {d : Decoder α} {f : α → List UInt8} {as : List α}
    (h : ∀ a ∈ as, Recovers d (f a) a) : Recovers (decodeMany d as.length) (as.flatMap f) as := by
  induction as with
  | nil => exact Recovers.pure []
  | cons a as ih =>
    have hhead : Recovers d (f a) a := h a List.mem_cons_self
    have htail := ih fun b hb => h b (List.mem_cons_of_mem a hb)
    rw [List.flatMap_cons]
    exact hhead.bind (htail.finish rfl)

theorem length_le_flatMap {f : α → List UInt8} {as : List α} (h : ∀ a ∈ as, 0 < (f a).length) :
    as.length ≤ (as.flatMap f).length := by
  induction as with
  | nil => simp
  | cons a as ih =>
    have hhead := h a List.mem_cons_self
    have htail := ih fun b hb => h b (List.mem_cons_of_mem a hb)
    simp only [List.flatMap_cons, List.length_append, List.length_cons]
    omega

/-- A sequence is recovered if its elements are and take at least one byte
each, so that there are not more of them than bytes. -/
theorem recovers_list {d : Decoder α} {f : α → List UInt8} (as : List α)
    (hpos : ∀ a ∈ as, 0 < (f a).length) (h : ∀ a ∈ as, Recovers d (f a) a) :
    Recovers (decodeList d) (encodeList f as) as := by
  intro hlen
  have hcount : as.length < UInt64.size := by
    have hle := length_le_flatMap hpos
    rw [encodeList, List.length_append] at hlen
    omega
  exact (recovers_size hcount).bind (recovers_many h) hlen

theorem recovers_constant [BEq α] [LawfulBEq α] {constants : List α} {a : α}
    (hmem : a ∈ constants) (hfew : constants.length ≤ UInt32.size) :
    Recovers (decodeConstant constants) (encodeConstant constants a) a := by
  have hindex : constants.idxOf a < constants.length := List.idxOf_lt_length_of_mem hmem
  have hget : constants[constants.idxOf a]? = some a := by
    rw [List.getElem?_eq_getElem hindex, List.getElem_idxOf hindex]
  refine Recovers.constant ?_ (Nat.lt_of_lt_of_le hindex hfew)
  simp only [hget]

end ConversionRules.Codec
