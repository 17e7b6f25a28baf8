import ConversionRules.Proofs.Cache.Delimiting
import ConversionRules.Proofs.Cache.RoundTrip
import ConversionRules.Proofs.Converter.Validity

/-!
Which files are accepted as converters. The header guards the whole file: its
mark, its version, the length of the payload and the checksum are compared, the
version of the engine and the flags are not. Inside a payload of the declared
length, bytes after the end of the rules are accepted as well.
-/
namespace ConversionRules.Bytes

theorem ofNat_toNat (bs : List UInt8) : ofNat bs.length (toNat bs) = bs := by
  induction bs with
  | nil => rfl
  | cons b rest ih =>
    have hvalue : toNat (b :: rest) = b.toNat + 256 * toNat rest := rfl
    have hbyte : b.toNat < 256 := b.toNat_lt
    have hhead : UInt8.ofNat (b.toNat + 256 * toNat rest) = b := by
      apply UInt8.toNat_inj.mp
      rw [UInt8.toNat_ofNat']
      omega
    have htail : (b.toNat + 256 * toNat rest) / 256 = toNat rest := by omega
    rw [List.length_cons, hvalue, ofNat, hhead, htail, ih]

/-- Sequences of one length that stand for the same number are the same. -/
theorem toNat_inj {as bs : List UInt8} (hlen : as.length = bs.length) :
    toNat as = toNat bs ↔ as = bs := by
  constructor
  · intro h
    rw [← ofNat_toNat as, ← ofNat_toNat bs, hlen, h]
  · exact congrArg toNat

end ConversionRules.Bytes

namespace ConversionRules.Cache

open Codec

/-- The bytes of a file from an offset on. -/
def part (bs : List UInt8) (offset size : Nat) : List UInt8 := (bs.drop offset).take size

/-- The bytes are the payload of the converter from the first to the last, and
its rules are in order. -/
def PayloadOf (bs : List UInt8) (c : Converter) : Prop :=
  InOrder c.rules ∧ ∃ digest, decodePayload bs = some (⟨c.rules.length, digest, c.rules⟩, [])

/-- The checks of a file that is long enough for a header. -/
theorem checkedPayload_eq {bs : List UInt8} (hsize : headerSize ≤ bs.length) :
    checkedPayload bs =
      if part bs 0 4 ≠ mark then .error .badMark
      else if field bs 4 2 ≠ formatVersion then .error (.incompatibleVersion (field bs 4 2))
      else if (bs.drop headerSize).length ≠ field bs 12 4 then
        .error (.lengthMismatch (field bs 12 4) (bs.drop headerSize).length)
      else if checksum (bs.drop headerSize) ≠ part bs 16 16 then .error .checksumMismatch
      else .ok (bs.drop headerSize) := by
  have hlong : ¬ bs.length < headerSize := Nat.not_lt.mpr hsize
  simp only [checkedPayload, hlong, if_false, bne_iff_ne]
  rfl

/-- A check that fails with an error, and what is left to check if it passes. -/
theorem guard_eq_ok_iff {ε α : Type} {p : Prop} [Decidable p] {e : ε} {x : Except ε α} {a : α} :
    (if p then .error e else x) = .ok a ↔ ¬p ∧ x = .ok a := by
  by_cases hp : p
  · simp [hp]
  · simp [hp]

theorem checkedPayload_eq_ok_iff {bs payload : List UInt8} (hsize : headerSize ≤ bs.length) :
    checkedPayload bs = .ok payload ↔
      part bs 0 4 = mark ∧ field bs 4 2 = formatVersion ∧
        (bs.drop headerSize).length = field bs 12 4 ∧
        checksum (bs.drop headerSize) = part bs 16 16 ∧ bs.drop headerSize = payload := by
  rw [checkedPayload_eq hsize]
  simp only [guard_eq_ok_iff, Decidable.not_not, Except.ok.injEq]

theorem headerSize_le_of_checkedPayload {bs payload : List UInt8}
    (h : checkedPayload bs = .ok payload) : headerSize ≤ bs.length := by
  unfold checkedPayload at h
  by_cases hshort : bs.length < headerSize
  · rw [if_pos hshort] at h
    cases h
  · exact Nat.le_of_not_lt hshort

theorem decode_of_checkedPayload_error {bs : List UInt8} {e : CacheError}
    (h : checkedPayload bs = .error e) : decode bs = .error e := by
  simp only [decode, readPayload, h]

theorem decode_congr {as bs : List UInt8} (h : checkedPayload as = checkedPayload bs) :
    decode as = decode bs := by
  simp only [decode, readPayload, h]

theorem decode_of_guard {bs : List UInt8} {p : Prop} [Decidable p] {e : CacheError}
    {x : Except CacheError (List UInt8)} {y : Except CacheError Converter}
    (h : checkedPayload bs = if p then .error e else x)
    (hx : checkedPayload bs = x → decode bs = y) :
    decode bs = if p then .error e else y := by
  by_cases hp : p
  · rw [if_pos hp] at h ⊢
    exact decode_of_checkedPayload_error h
  · rw [if_neg hp] at h ⊢
    exact hx h

theorem exists_checkedPayload {bs : List UInt8} {c : Converter} (h : decode bs = .ok c) :
    ∃ payload, checkedPayload bs = .ok payload := by
  cases hchecked : checkedPayload bs with
  | ok payload => exact ⟨payload, rfl⟩
  | error e =>
    rw [decode_of_checkedPayload_error hchecked] at h
    cases h

/-- Behind a header that is in order, a file is accepted if some part at the
beginning of its payload is a payload. -/
theorem decode_eq_ok_iff {bs payload : List UInt8} (hchecked : checkedPayload bs = .ok payload)
    (c : Converter) :
    decode bs = .ok c ↔ ∃ used rest, payload = used ++ rest ∧ PayloadOf used c := by
  constructor
  · intro h
    unfold decode readPayload at h
    rw [hchecked] at h
    cases hpayload : decodePayload payload with
    | none => simp [hpayload] at h
    | some result =>
      obtain ⟨p, rest⟩ := result
      simp only [hpayload] at h
      split at h
      · cases h
      rename_i hcount
      split at h
      · rename_i hrules
        cases h
        obtain ⟨horder, rfl⟩ := (Converter.ofRules_eq_ok_iff p.rules c).mp hrules
        obtain ⟨used, hused, hwhole⟩ := delimiting_payload.eq_some_iff.mp hpayload
        have hp : p = ⟨p.rules.length, p.sourceDigest, p.rules⟩ := by
          have hlength : p.ruleCount = p.rules.length := by simpa using hcount
          rw [← hlength]
        exact ⟨used, rest, hused, horder, p.sourceDigest, hp ▸ hwhole⟩
      · cases h
  · rintro ⟨used, rest, rfl, horder, digest, hwhole⟩
    have hpayload : decodePayload (used ++ rest) =
        some (⟨c.rules.length, digest, c.rules⟩, rest) :=
      delimiting_payload.eq_some_iff.mpr ⟨used, rfl, hwhole⟩
    have hrules : Converter.ofRules c.rules = .ok c :=
      (Converter.ofRules_eq_ok_iff c.rules c).mpr ⟨horder, rfl⟩
    simp only [decode, readPayload, hchecked, hpayload, bne_self_eq_false, hrules]
    rfl

/-- What is written for a converter is a payload of it. -/
theorem payloadOf_encodePayload {rules : List Rule} {source : Option String}
    (horder : InOrder rules)
    (hshort : (encodePayload ⟨rules.length, source.map sourceDigest, rules⟩).length < UInt32.size) :
    PayloadOf (encodePayload ⟨rules.length, source.map sourceDigest, rules⟩) ⟨rules⟩ :=
  ⟨horder, _, decodePayload_encodePayload rfl (fun _ hd => length_sourceDigest hd) hshort⟩

theorem part_add (bs : List UInt8) (offset m n : Nat) :
    part bs offset (m + n) = part bs offset m ++ part bs (offset + m) n := by
  rw [part, part, part, List.take_add, List.drop_drop]

theorem length_part (bs : List UInt8) (offset size : Nat) :
    (part bs offset size).length = min size (bs.length - offset) := by
  rw [part, List.length_take, List.length_drop]

section Altered

variable {altered bs payload : List UInt8} (hlen : altered.length = bs.length)

include hlen

theorem length_part_eq (offset size : Nat) :
    (part altered offset size).length = (part bs offset size).length := by
  rw [length_part, length_part, hlen]

/-- Files agree on a part if and only if they agree on both of its pieces. -/
theorem part_add_eq_iff (offset m n : Nat) :
    part altered offset (m + n) = part bs offset (m + n) ↔
      part altered offset m = part bs offset m ∧
        part altered (offset + m) n = part bs (offset + m) n := by
  rw [part_add, part_add]
  constructor
  · intro h
    exact List.append_inj h (length_part_eq hlen offset m)
  · rintro ⟨hfirst, hsecond⟩
    rw [hfirst, hsecond]

theorem field_eq_iff (offset size : Nat) :
    field altered offset size = field bs offset size ↔
      part altered offset size = part bs offset size :=
  Bytes.toNat_inj (length_part_eq hlen offset size)

/-- The checks of a file that differs only in its header from one that passes. -/
theorem checkedPayload_altered (hpayload : altered.drop headerSize = bs.drop headerSize)
    (hchecked : checkedPayload bs = .ok payload) :
    checkedPayload altered =
      if part altered 0 4 ≠ part bs 0 4 then .error .badMark
      else if part altered 4 2 ≠ part bs 4 2 then
        .error (.incompatibleVersion (field altered 4 2))
      else if part altered 12 4 ≠ part bs 12 4 then
        .error (.lengthMismatch (field altered 12 4) (bs.length - headerSize))
      else if part altered 16 16 ≠ part bs 16 16 then .error .checksumMismatch
      else checkedPayload bs := by
  have hsize : headerSize ≤ bs.length := headerSize_le_of_checkedPayload hchecked
  obtain ⟨hmark, hversion, hlength, hchecksum, hbs⟩ :=
    (checkedPayload_eq_ok_iff hsize).mp hchecked
  have hversions : field altered 4 2 ≠ formatVersion ↔ part altered 4 2 ≠ part bs 4 2 := by
    rw [← hversion, ne_eq, field_eq_iff hlen]
  have hlengths : bs.length - headerSize ≠ field altered 12 4 ↔
      part altered 12 4 ≠ part bs 12 4 := by
    rw [← List.length_drop, hlength, ne_comm, ne_eq, field_eq_iff hlen]
  have hchecksums : checksum (bs.drop headerSize) ≠ part altered 16 16 ↔
      part altered 16 16 ≠ part bs 16 16 := by
    rw [hchecksum, ne_comm]
  rw [checkedPayload_eq (hlen ▸ hsize), hpayload, hchecked, List.length_drop, ← hbs, ← hmark]
  simp only [hversions, hlengths, hchecksums]

/-- A changed header is reported by the first check that sees the change. -/
theorem decode_altered {c : Converter} (hpayload : altered.drop headerSize = bs.drop headerSize)
    (h : decode bs = .ok c) :
    decode altered =
      if part altered 0 4 ≠ part bs 0 4 then .error .badMark
      else if part altered 4 2 ≠ part bs 4 2 then
        .error (.incompatibleVersion (field altered 4 2))
      else if part altered 12 4 ≠ part bs 12 4 then
        .error (.lengthMismatch (field altered 12 4) (bs.length - headerSize))
      else if part altered 16 16 ≠ part bs 16 16 then .error .checksumMismatch
      else .ok c := by
  obtain ⟨payload, hchecked⟩ := exists_checkedPayload h
  apply decode_of_guard (checkedPayload_altered hlen hpayload hchecked)
  intro hversion
  apply decode_of_guard hversion
  intro hlength
  apply decode_of_guard hlength
  intro hchecksum
  apply decode_of_guard hchecksum
  intro hsame
  rw [decode_congr hsame, h]

/-- Only the version of the engine and the flags are free. -/
theorem decode_altered_eq_ok_iff {c : Converter}
    (hpayload : altered.drop headerSize = bs.drop headerSize) (h : decode bs = .ok c) :
    decode altered = .ok c ↔
      part altered 0 6 = part bs 0 6 ∧ part altered 12 20 = part bs 12 20 := by
  have hfront := part_add_eq_iff hlen 0 4 2
  have hback := part_add_eq_iff hlen 12 4 16
  rw [hfront, hback, decode_altered hlen hpayload h]
  simp only [guard_eq_ok_iff, Decidable.not_not, and_true, and_assoc]

end Altered

theorem part_eq_of_take {as bs : List UInt8} (hhead : as.take headerSize = bs.take headerSize)
    {offset size : Nat} (hfits : offset + size ≤ headerSize) :
    part as offset size = part bs offset size := by
  have hinside (cs : List UInt8) :
      part cs offset size = part (cs.take headerSize) offset size := by
    have hmin : min size (headerSize - offset) = size := by omega
    rw [part, part, List.drop_take, List.take_take, hmin]
  rw [hinside as, hinside bs, hhead]

/-- A file that begins like one that passes and is of another length fails the
check of the length. -/
theorem checkedPayload_resized {bs other payload : List UInt8}
    (hchecked : checkedPayload bs = .ok payload)
    (hhead : other.take headerSize = bs.take headerSize) (hsize : headerSize ≤ other.length)
    (hlen : other.length ≠ bs.length) :
    checkedPayload other =
      .error (.lengthMismatch (bs.length - headerSize) (other.length - headerSize)) := by
  have hbs : headerSize ≤ bs.length := headerSize_le_of_checkedPayload hchecked
  obtain ⟨hmark, hversion, hlength, _⟩ := (checkedPayload_eq_ok_iff hbs).mp hchecked
  have hmark' : part other 0 4 = mark := (part_eq_of_take hhead (by decide)).trans hmark
  have hversion' : field other 4 2 = formatVersion :=
    (congrArg Bytes.toNat (part_eq_of_take hhead (by decide))).trans hversion
  have hdeclared : field other 12 4 = bs.length - headerSize := by
    rw [← List.length_drop, hlength]
    exact congrArg Bytes.toNat (part_eq_of_take hhead (by decide))
  have hdiffers : (other.drop headerSize).length ≠ field other 12 4 := by
    rw [hdeclared, List.length_drop]
    omega
  rw [checkedPayload_eq hsize, if_neg (not_not_intro hmark'), if_neg (not_not_intro hversion'),
    if_pos hdiffers, hdeclared, List.length_drop]

theorem checkedPayload_short {bs : List UInt8} (hsize : bs.length < headerSize) :
    checkedPayload bs = .error (.lengthMismatch headerSize bs.length) := by
  unfold checkedPayload
  exact if_pos hsize

/-- Neither a part at the beginning of an accepted file nor a continuation of it
is accepted. -/
theorem decode_resized {bs other : List UInt8} {c : Converter} (h : decode bs = .ok c)
    (hother : other ≠ bs) (hcut : other <+: bs ∨ bs <+: other) :
    decode other = .error
      (if other.length < headerSize then .lengthMismatch headerSize other.length
      else .lengthMismatch (bs.length - headerSize) (other.length - headerSize)) := by
  obtain ⟨payload, hchecked⟩ := exists_checkedPayload h
  have hbs : headerSize ≤ bs.length := headerSize_le_of_checkedPayload hchecked
  by_cases hshort : other.length < headerSize
  · rw [if_pos hshort]
    exact decode_of_checkedPayload_error (checkedPayload_short hshort)
  · have hsize : headerSize ≤ other.length := Nat.le_of_not_lt hshort
    rw [if_neg hshort]
    apply decode_of_checkedPayload_error
    rcases hcut with ⟨rest, hrest⟩ | ⟨rest, hrest⟩
    · have hhead : other.take headerSize = bs.take headerSize := by
        rw [← hrest, List.take_append_of_le_length hsize]
      have hlen : other.length ≠ bs.length := by
        intro heq
        exact hother (List.IsPrefix.eq_of_length ⟨rest, hrest⟩ heq)
      exact checkedPayload_resized hchecked hhead hsize hlen
    · have hhead : other.take headerSize = bs.take headerSize := by
        rw [← hrest, List.take_append_of_le_length hbs]
      have hlen : other.length ≠ bs.length := by
        intro heq
        exact hother (List.IsPrefix.eq_of_length ⟨rest, hrest⟩ heq.symm).symm
      exact checkedPayload_resized hchecked hhead hsize hlen

/-- A file whose header is changed is read as before if only the version of the
engine and the flags are; else the first check that sees the change fails. An
accepted file is neither shortened nor continued. -/
theorem decode_altered_and_resized :
    (∀ rules source bs altered, Converter.validate rules = .ok () →
      encode? ⟨rules⟩ source = some bs → altered.length = bs.length →
      altered.drop headerSize = bs.drop headerSize →
      (decode altered = .ok ⟨rules⟩ ↔
        part altered 0 6 = part bs 0 6 ∧ part altered 12 20 = part bs 12 20) ∧
      decode altered =
        if part altered 0 4 ≠ part bs 0 4 then .error .badMark
        else if part altered 4 2 ≠ part bs 4 2 then
          .error (.incompatibleVersion (field altered 4 2))
        else if part altered 12 4 ≠ part bs 12 4 then
          .error (.lengthMismatch (field altered 12 4) (bs.length - headerSize))
        else if part altered 16 16 ≠ part bs 16 16 then .error .checksumMismatch
        else .ok ⟨rules⟩) ∧
    ∀ bs c other, decode bs = .ok c → other ≠ bs → other <+: bs ∨ bs <+: other →
      decode other = .error
        (if other.length < headerSize then .lengthMismatch headerSize other.length
        else .lengthMismatch (bs.length - headerSize) (other.length - headerSize)) := by
  refine ⟨?_, fun bs c other h hother hcut => decode_resized h hother hcut⟩
  intro rules source bs altered hvalid hbytes hlen hpayload
  have horder : InOrder rules := (Converter.validate_eq_ok_iff rules).mp hvalid
  obtain ⟨payload, hencoded, hshort, rfl⟩ := encode?_eq_some hbytes
  have hwhole : PayloadOf payload ⟨rules⟩ := by
    rw [hencoded] at hshort ⊢
    exact payloadOf_encodePayload horder hshort
  have h : decode (header payload ++ payload) = .ok ⟨rules⟩ :=
    (decode_eq_ok_iff (checkedPayload_header payload hshort) ⟨rules⟩).mpr
      ⟨payload, [], (List.append_nil payload).symm, hwhole⟩
  exact ⟨decode_altered_eq_ok_iff hlen hpayload h, decode_altered hlen hpayload h⟩

/-- A rule that replaces null, and the bytes of the converter that consists of it. -/
def nullRules : List Rule :=
  [{ name := some "null"
     condition := some (.literal .null)
     output := some (.literal (.bool false)) }]

def nullFile : List UInt8 :=
  [0x55, 0x43, 0x4E, 0x56, 1, 0, 1, 0, 0, 0, 0, 0, 18, 0, 0, 0, 0xCC, 0xFB, 0x17, 0x21, 0x27, 0xC8,
    0x78, 0x32, 0xA1, 0x37, 0xD4, 0x63, 0x0A, 0x3C, 0x26, 0x95, 1, 0, 1, 1, 4, 0x6E, 0x75, 0x6C,
    0x6C, 1, 0, 0, 0, 1, 0, 1, 0, 0]

theorem decode_nullFile :
    Converter.validate nullRules = .ok () ∧ encode? ⟨nullRules⟩ none = some nullFile ∧
      decode (nullFile.set 6 42) = .ok ⟨nullRules⟩ ∧
      decode ((nullFile.set 4 99).set 12 0) = .error (.incompatibleVersion 99) ∧
      decode (nullFile.take 10) = .error (.lengthMismatch 32 10) ∧
      decode (nullFile ++ [0]) = .error (.lengthMismatch 18 19) := by
  have hvalid : Converter.validate nullRules = .ok () := rfl
  have hbytes : encode? ⟨nullRules⟩ none = some nullFile := by decide +kernel
  obtain ⟨haltered, hresized⟩ := decode_altered_and_resized
  have hengine := haltered nullRules none nullFile (nullFile.set 6 42) hvalid hbytes rfl rfl
  have hversion := haltered nullRules none nullFile ((nullFile.set 4 99).set 12 0) hvalid hbytes
    rfl rfl
  have hwhole := haltered nullRules none nullFile nullFile hvalid hbytes rfl rfl
  have haccepted : decode nullFile = .ok ⟨nullRules⟩ := hwhole.1.mpr ⟨rfl, rfl⟩
  have hcut := hresized nullFile ⟨nullRules⟩ (nullFile.take 10) haccepted (by decide)
    (Or.inl (List.take_prefix 10 nullFile))
  have hcontinued := hresized nullFile ⟨nullRules⟩ (nullFile ++ [0]) haccepted (by decide)
    (Or.inr (List.prefix_append nullFile [0]))
  exact ⟨hvalid, hbytes, hengine.1.mpr ⟨rfl, rfl⟩, hversion.2, hcut, hcontinued⟩

/-- The remainder of a payload behind a payload of a converter is what its
decoder leaves. -/
theorem decodePayload_append {used : List UInt8} {c : Converter} (hused : PayloadOf used c)
    (rest : List UInt8) : ∃ p, decodePayload (used ++ rest) = some (p, rest) := by
  obtain ⟨_, digest, hwhole⟩ := hused
  exact ⟨_, delimiting_payload.eq_some_iff.mpr ⟨used, rfl, hwhole⟩⟩

/-- A checked file is consumed completely if and only if nothing stands behind
the payload of the converter. -/
theorem consumed_iff {bs used rest : List UInt8} {c : Converter}
    (hchecked : checkedPayload bs = .ok (used ++ rest)) (hused : PayloadOf used c) :
    (∃ p, decodePayload (bs.drop headerSize) = some (p, [])) ↔ rest = [] := by
  have hsize : headerSize ≤ bs.length := headerSize_le_of_checkedPayload hchecked
  obtain ⟨_, _, _, _, hbs⟩ := (checkedPayload_eq_ok_iff hsize).mp hchecked
  obtain ⟨p, hread⟩ := decodePayload_append hused rest
  rw [hbs, hread]
  constructor
  · rintro ⟨_, heq⟩
    cases heq
    rfl
  · intro hrest
    exact ⟨p, by rw [hrest]⟩

/-- What stands after the rules in a payload is not looked at: a file is
accepted if and only if its header is in order and its payload begins with one
of the converter. It is consumed completely only if nothing follows, and any
payload can be continued. -/
theorem decode_ignores_remainder (bs : List UInt8) (c : Converter) :
    (decode bs = .ok c ↔
      ∃ used rest, checkedPayload bs = .ok (used ++ rest) ∧ PayloadOf used c) ∧
    (∀ used rest, checkedPayload bs = .ok (used ++ rest) → PayloadOf used c →
      ((∃ p, decodePayload (bs.drop headerSize) = some (p, [])) ↔ rest = [])) ∧
    ∀ used rest, PayloadOf used c → (used ++ rest).length < UInt32.size →
      decode (header (used ++ rest) ++ (used ++ rest)) = .ok c := by
  refine ⟨⟨?_, ?_⟩, fun used rest hchecked hused => consumed_iff hchecked hused, ?_⟩
  · intro h
    obtain ⟨payload, hchecked⟩ := exists_checkedPayload h
    obtain ⟨used, rest, rfl, hused⟩ := (decode_eq_ok_iff hchecked c).mp h
    exact ⟨used, rest, hchecked, hused⟩
  · rintro ⟨used, rest, hchecked, hused⟩
    exact (decode_eq_ok_iff hchecked c).mpr ⟨used, rest, rfl, hused⟩
  · intro used rest hused hshort
    have hchecked := checkedPayload_header (used ++ rest) hshort
    exact (decode_eq_ok_iff hchecked c).mpr ⟨used, rest, rfl, hused⟩

theorem decode_continued :
    PayloadOf [0, 0, 0] ⟨[]⟩ ∧ ([0, 0, 0] ++ [7]).length < UInt32.size ∧
      checkedPayload (header [0, 0, 0, 7] ++ [0, 0, 0, 7]) = .ok ([0, 0, 0] ++ [7]) ∧
      decode (header ([0, 0, 0] ++ [7]) ++ ([0, 0, 0] ++ [7])) = .ok ⟨[]⟩ ∧
      ¬ ∃ p, decodePayload ((header [0, 0, 0, 7] ++ [0, 0, 0, 7]).drop headerSize) =
        some (p, []) := by
  have hused : PayloadOf [0, 0, 0] ⟨[]⟩ := ⟨Converter.inOrder_nil, none, rfl⟩
  have hshort : ([0, 0, 0] ++ [7]).length < UInt32.size := by decide
  have hchecked : checkedPayload (header [0, 0, 0, 7] ++ [0, 0, 0, 7]) = .ok ([0, 0, 0] ++ [7]) :=
    checkedPayload_header [0, 0, 0, 7] (by decide)
  obtain ⟨_, hconsumed, hcontinued⟩ :=
    decode_ignores_remainder (header [0, 0, 0, 7] ++ [0, 0, 0, 7]) ⟨[]⟩
  refine ⟨hused, hshort, hchecked, hcontinued [0, 0, 0] [7] hused hshort, ?_⟩
  rw [hconsumed [0, 0, 0] [7] hchecked hused]
  exact List.cons_ne_nil 7 []

/-- A file of no rules whose payload has a byte more than these. -/
def idleFile : List UInt8 :=
  [0x55, 0x43, 0x4E, 0x56, 1, 0, 1, 0, 0, 0, 0, 0, 4, 0, 0, 0, 0xEC, 0x2B, 0xD0, 0x3B, 0xF8, 0x6B,
    0x93, 0x5F, 0xA3, 0x4D, 0x71, 0xAD, 0x7E, 0xBB, 4, 0x9F, 0, 0, 0, 0]

/-- Accepted files are not consumed completely. -/
theorem decode_idleFile :
    decode idleFile = .ok ⟨[]⟩ ∧
      ¬ ∃ p, decodePayload (idleFile.drop headerSize) = some (p, []) := by
  have hchecksum : checksum [0, 0, 0, 0] = part idleFile 16 16 := by decide +kernel
  have hchecked : checkedPayload idleFile = .ok [0, 0, 0, 0] :=
    (checkedPayload_eq_ok_iff (by decide)).mpr ⟨rfl, rfl, rfl, hchecksum, rfl⟩
  have hused : PayloadOf [0, 0, 0] ⟨[]⟩ := ⟨Converter.inOrder_nil, none, rfl⟩
  have hpayload : decodePayload (idleFile.drop headerSize) = some (⟨0, none, []⟩, [0]) := rfl
  refine ⟨(decode_eq_ok_iff hchecked ⟨[]⟩).mpr ⟨[0, 0, 0], [0], rfl, hused⟩, ?_⟩
  rintro ⟨p, hp⟩
  rw [hpayload] at hp
  cases hp

end ConversionRules.Cache
