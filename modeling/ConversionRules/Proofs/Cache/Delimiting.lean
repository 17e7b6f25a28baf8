import ConversionRules.Cache.Container

/-!
Binary forms are self-delimiting: a decoder that succeeds has read a part at the
beginning of the bytes, and it reads the same value from this part whatever
stands after it. The property composes, so that it holds of the payload of a
converter because it holds of its parts. Values need an argument of their own,
for their decoder bounds the nesting by the number of bytes it is given.
-/
namespace ConversionRules.Codec

variable {α β : Type}

/-- The decoder reads exactly these bytes, whatever stands after them. -/
def Reads (d : Decoder α) (used : List UInt8) (a : α) : Prop :=
  ∀ rest, d (used ++ rest) = some (a, rest)

/-- Whatever the decoder returns it has read from a part at the beginning. -/
def SelfDelimiting (d : Decoder α) : Prop :=
  ∀ bs a rest, d bs = some (a, rest) → ∃ used, bs = used ++ rest ∧ Reads d used a

theorem bind_eq_some {d : Decoder α} {k : α → Decoder β} {bs rest : List UInt8} {b : β}
    (h : (d >>= k) bs = some (b, rest)) :
    ∃ a middle, d bs = some (a, middle) ∧ k a middle = some (b, rest) := by
  obtain ⟨p, hd, hk⟩ := Option.bind_eq_some_iff.mp h
  exact ⟨p.1, p.2, hd, hk⟩

theorem not_reads_failure {used : List UInt8} {a : α} : ¬ Reads failure used a := by
  intro h
  have hnone : (failure : Decoder α) (used ++ []) = none := rfl
  rw [h []] at hnone
  cases hnone

namespace Reads

theorem bind {d : Decoder α} {k : α → Decoder β} {front back : List UInt8} {a : α} {b : β}
    (hd : Reads d front a) (hk : Reads (k a) back b) : Reads (d >>= k) (front ++ back) b := by
  intro rest
  have hfront : d (front ++ (back ++ rest)) = some (a, back ++ rest) := hd (back ++ rest)
  change (d (front ++ back ++ rest)).bind (fun p => k p.1 p.2) = some (b, rest)
  rw [List.append_assoc, hfront]
  exact hk rest

/-- What two decoders read one after the other falls into their parts. -/
theorem split {d : Decoder α} {k : α → Decoder β} {used : List UInt8} {b : β}
    (hd : SelfDelimiting d) (h : Reads (d >>= k) used b) :
    ∃ front back a, used = front ++ back ∧ Reads d front a ∧ Reads (k a) back b := by
  obtain ⟨a, back, hfirst, _⟩ := bind_eq_some (h [])
  obtain ⟨front, hused, hfront⟩ := hd _ _ _ hfirst
  rw [List.append_nil] at hused
  refine ⟨front, back, a, hused, hfront, fun rest => ?_⟩
  obtain ⟨a', middle, hfirst', hsecond⟩ := bind_eq_some (h rest)
  rw [hused, List.append_assoc, hfront] at hfirst'
  cases hfirst'
  exact hsecond

end Reads

namespace SelfDelimiting

theorem pure (a : α) : SelfDelimiting (Pure.pure a) := by
  intro bs b rest h
  cases h
  exact ⟨[], rfl, fun _ => rfl⟩

theorem failure : SelfDelimiting (failure : Decoder α) := by
  intro bs a rest h
  cases h

theorem bind {d : Decoder α} {k : α → Decoder β} (hd : SelfDelimiting d)
    (hk : ∀ a, SelfDelimiting (k a)) : SelfDelimiting (d >>= k) := by
  intro bs b rest h
  obtain ⟨a, middle, hfirst, hsecond⟩ := bind_eq_some h
  obtain ⟨front, rfl, hfront⟩ := hd _ _ _ hfirst
  obtain ⟨back, rfl, hback⟩ := hk a _ _ _ hsecond
  exact ⟨front ++ back, (List.append_assoc front back rest).symm, hfront.bind hback⟩

/-- What follows a decoder may only look at the value. -/
theorem map {d : Decoder α} (hd : SelfDelimiting d) (f : α → β) :
    SelfDelimiting (d >>= fun a => Pure.pure (f a)) :=
  hd.bind fun a => pure (f a)

/-- A decoder succeeds on bytes if it reads some part at their beginning, which
is then all there is to read. -/
theorem eq_some_iff {d : Decoder α} (hd : SelfDelimiting d) {bs rest : List UInt8} {a : α} :
    d bs = some (a, rest) ↔ ∃ used, bs = used ++ rest ∧ d used = some (a, []) := by
  constructor
  · intro h
    obtain ⟨used, hbs, hused⟩ := hd bs a rest h
    have hwhole := hused []
    rw [List.append_nil] at hwhole
    exact ⟨used, hbs, hwhole⟩
  · rintro ⟨used, rfl, h⟩
    obtain ⟨part, hpart, hreads⟩ := hd used a [] h
    rw [List.append_nil] at hpart
    rw [hpart]
    exact hreads rest

end SelfDelimiting

theorem delimiting_byte : SelfDelimiting byte := by
  intro bs b rest h
  cases bs with
  | nil => cases h
  | cons first others =>
    cases h
    exact ⟨[b], rfl, fun _ => rfl⟩

theorem delimiting_bytes (n : Nat) : SelfDelimiting (bytes n) := by
  intro bs part rest h
  unfold bytes at h
  split at h
  · rename_i hle
    cases h
    refine ⟨bs.take n, (List.take_append_drop n bs).symm, fun more => ?_⟩
    have hlen : (bs.take n).length = n := List.length_take_of_le hle
    have hfits : n ≤ (bs.take n ++ more).length := by
      rw [List.length_append]
      omega
    rw [bytes, if_pos hfits, List.take_left' hlen, List.drop_left' hlen]
  · cases h

theorem delimiting_nat (width : Nat) : SelfDelimiting (decodeNat width) := by
  have hmarked : ∀ size, SelfDelimiting
      (if size ≤ width then (do return Bytes.toNat (← bytes size)) else failure) := by
    intro size
    split
    · exact (delimiting_bytes size).map _
    · exact SelfDelimiting.failure
  refine delimiting_byte.bind fun b => ?_
  by_cases hb : b < 251
  · simp only [hb, if_true]
    exact SelfDelimiting.pure b.toNat
  · simp only [hb, if_false]
    exact hmarked _

theorem delimiting_tag : SelfDelimiting decodeTag := delimiting_nat 4

theorem delimiting_size : SelfDelimiting decodeSize := delimiting_nat 8

theorem delimiting_int64 : SelfDelimiting decodeInt64 := delimiting_size.map _

theorem delimiting_uint64 : SelfDelimiting decodeUInt64 := delimiting_size.map _

theorem delimiting_binary64 : SelfDelimiting decodeBinary64 := (delimiting_bytes 8).map _

theorem delimiting_bool : SelfDelimiting decodeBool := by
  refine delimiting_byte.bind fun b => ?_
  split
  · exact SelfDelimiting.pure false
  split
  · exact SelfDelimiting.pure true
  · exact SelfDelimiting.failure

theorem delimiting_string : SelfDelimiting decodeString := by
  refine delimiting_size.bind fun n => (delimiting_bytes n).bind fun content => ?_
  split
  · exact SelfDelimiting.pure _
  · exact SelfDelimiting.failure

theorem delimiting_char : SelfDelimiting decodeChar := by
  refine delimiting_byte.bind fun first => ?_
  split
  · exact SelfDelimiting.failure
  · refine (delimiting_bytes _).bind fun more => ?_
    split
    · exact SelfDelimiting.pure _
    · exact SelfDelimiting.failure

theorem delimiting_option {d : Decoder α} (hd : SelfDelimiting d) :
    SelfDelimiting (decodeOption d) := by
  refine delimiting_bool.bind fun given => ?_
  split
  · exact hd.map some
  · exact SelfDelimiting.pure none

theorem delimiting_many {d : Decoder α} (hd : SelfDelimiting d) (n : Nat) :
    SelfDelimiting (decodeMany d n) := by
  induction n with
  | zero => exact SelfDelimiting.pure []
  | succ n ih => exact hd.bind fun a => ih.map (a :: ·)

theorem delimiting_list {d : Decoder α} (hd : SelfDelimiting d) :
    SelfDelimiting (decodeList d) :=
  delimiting_size.bind fun n => delimiting_many hd n

theorem delimiting_constant (constants : List α) : SelfDelimiting (decodeConstant constants) := by
  refine delimiting_tag.bind fun n => ?_
  split
  · exact SelfDelimiting.pure _
  · exact SelfDelimiting.failure

theorem delimiting_valueType : SelfDelimiting decodeValueType := by
  refine delimiting_tag.bind fun n => ?_
  split
  case h_8 => exact delimiting_string.map _
  case h_9 => exact SelfDelimiting.failure
  all_goals exact SelfDelimiting.pure _

theorem delimiting_enumValue : SelfDelimiting decodeEnumValue :=
  delimiting_string.bind fun _ => (delimiting_option delimiting_string).bind fun _ =>
    delimiting_int64.map _

/-- A number takes at least its mark. -/
theorem length_pos_of_reads_nat {width n : Nat} {used : List UInt8}
    (h : Reads (decodeNat width) used n) : 0 < used.length := by
  cases used with
  | nil =>
    have hnone : decodeNat width ([] ++ []) = none := rfl
    rw [h []] at hnone
    cases hnone
  | cons b rest => exact Nat.succ_pos rest.length

/-- Items read from few bytes are read by any decoder that does as well on few bytes. -/
theorem Reads.many {d d' : Decoder α} {length n : Nat} (hd : SelfDelimiting d)
    (hall : ∀ part a, part.length ≤ length → Reads d part a → Reads d' part a)
    {used : List UInt8} {as : List α} (hused : used.length ≤ length)
    (h : Reads (decodeMany d n) used as) : Reads (decodeMany d' n) used as := by
  induction n generalizing used as with
  | zero => exact h
  | succ n ih =>
    obtain ⟨front, back, a, rfl, hfront, hback⟩ := Reads.split hd h
    rw [List.length_append] at hused
    have hhead : Reads d' front a := hall front a (by omega) hfront
    obtain ⟨items, last, bs, rfl, hitems, hlast⟩ :=
      Reads.split (delimiting_many hd n) hback
    rw [List.length_append] at hused
    have htail : Reads (decodeMany d' n) items bs := ih (by omega) hitems
    exact hhead.bind (htail.bind hlast)

theorem Reads.list {d d' : Decoder α} {length : Nat} (hd : SelfDelimiting d)
    (hall : ∀ part a, part.length ≤ length → Reads d part a → Reads d' part a)
    {used : List UInt8} {as : List α} (hused : used.length ≤ length)
    (h : Reads (decodeList d) used as) : Reads (decodeList d') used as := by
  obtain ⟨front, back, n, rfl, hfront, hback⟩ := Reads.split delimiting_size h
  rw [List.length_append] at hused
  exact hfront.bind (Reads.many hd hall (by omega) hback)

theorem delimiting_valueWithin (depth : Nat) : SelfDelimiting (decodeValueWithin depth) := by
  induction depth with
  | zero => exact SelfDelimiting.failure
  | succ depth ih =>
    refine delimiting_tag.bind fun n => ?_
    split
    · exact SelfDelimiting.pure Value.null
    · exact delimiting_bool.map Value.bool
    · exact delimiting_int64.map Value.int
    · exact delimiting_binary64.map Value.float
    · exact delimiting_char.map Value.char
    · exact delimiting_string.map Value.string
    · exact (delimiting_list ih).map Value.list
    · exact delimiting_enumValue.map Value.enum
    · exact delimiting_valueType.map Value.type
    · exact SelfDelimiting.failure

/-- The bound on the nesting does not matter once it is as large as the bytes
of the value, since every list takes a byte before its items. -/
theorem reads_valueWithin_of_length_le {depth depth' : Nat} {used : List UInt8} {v : Value}
    (hlen : used.length ≤ depth') (h : Reads (decodeValueWithin depth) used v) :
    Reads (decodeValueWithin depth') used v := by
  induction depth generalizing depth' used v with
  | zero => exact absurd h not_reads_failure
  | succ depth ih =>
    rw [decodeValueWithin] at h
    obtain ⟨front, back, n, rfl, hfront, hback⟩ := Reads.split delimiting_tag h
    have hmark := length_pos_of_reads_nat hfront
    rw [List.length_append] at hlen
    cases depth' with
    | zero => omega
    | succ depth' =>
      rw [decodeValueWithin]
      refine hfront.bind ?_
      split at hback
      case h_7 =>
        obtain ⟨items, last, vs, rfl, hitems, hlast⟩ :=
          Reads.split (delimiting_list (delimiting_valueWithin depth)) hback
        rw [List.length_append] at hlen
        have hlist : Reads (decodeList (decodeValueWithin depth')) items vs :=
          Reads.list (delimiting_valueWithin depth) (fun _ _ hpart => ih hpart) (by omega) hitems
        exact hlist.bind hlast
      all_goals exact hback

theorem delimiting_value : SelfDelimiting decodeValue := by
  intro bs v rest h
  obtain ⟨used, hbs, hused⟩ := delimiting_valueWithin bs.length bs v rest h
  refine ⟨used, hbs, fun more => ?_⟩
  have hlen : used.length ≤ (used ++ more).length := by
    rw [List.length_append]
    omega
  exact reads_valueWithin_of_length_le hlen hused more

theorem delimiting_member : SelfDelimiting decodeMember :=
  delimiting_string.bind fun name => delimiting_int64.map (name, ·)

theorem delimiting_enumType : SelfDelimiting decodeEnumType :=
  delimiting_string.bind fun _ => (delimiting_list delimiting_member).bind fun _ =>
    delimiting_bool.map _

theorem delimiting_number : SelfDelimiting decodeNumber := delimiting_option delimiting_binary64

theorem delimiting_text : SelfDelimiting decodeText := delimiting_option delimiting_string

theorem delimiting_index : SelfDelimiting decodeIndex := delimiting_option delimiting_uint64

theorem delimiting_choice (constants : List α) :
    SelfDelimiting (decodeOption (decodeConstant constants)) :=
  delimiting_option (delimiting_constant constants)

theorem delimiting_arithmetic : SelfDelimiting decodeArithmetic :=
  delimiting_number.bind fun _ => delimiting_number.bind fun _ => delimiting_number.bind fun _ =>
    delimiting_number.bind fun _ => delimiting_number.map _

theorem delimiting_bounds : SelfDelimiting decodeBounds :=
  delimiting_number.bind fun _ => delimiting_number.bind fun _ => delimiting_number.bind fun _ =>
    delimiting_number.bind fun _ => delimiting_number.bind fun _ => delimiting_number.map _

theorem delimiting_lookup : SelfDelimiting decodeLookup :=
  delimiting_index.bind fun _ => (delimiting_constant _).map _

theorem delimiting_enumeration : SelfDelimiting decodeEnumeration :=
  (delimiting_option delimiting_enumType).bind fun _ =>
    (delimiting_option delimiting_valueType).bind fun _ => delimiting_text.bind fun _ =>
      (delimiting_option delimiting_value).map _

theorem delimiting_range : SelfDelimiting decodeRange :=
  (delimiting_option delimiting_int64).bind fun _ => (delimiting_option delimiting_int64).map _

theorem delimiting_check : SelfDelimiting decodeCheck :=
  (delimiting_choice _).bind fun _ => delimiting_text.bind fun _ => delimiting_text.bind fun _ =>
    delimiting_text.map _

theorem delimiting_transform : SelfDelimiting decodeTransform :=
  (delimiting_choice _).bind fun _ => delimiting_index.bind fun _ =>
    delimiting_index.bind fun _ => delimiting_text.bind fun _ => delimiting_index.bind fun _ =>
      (delimiting_choice _).bind fun _ => (delimiting_choice _).bind fun _ =>
        delimiting_text.map _

theorem delimiting_query : SelfDelimiting decodeQuery :=
  (delimiting_option delimiting_valueType).bind fun _ => delimiting_text.map _

theorem delimiting_expression : SelfDelimiting decodeExpression := by
  refine delimiting_tag.bind fun n => ?_
  split
  · exact delimiting_arithmetic.map Expression.arithmetic
  · exact delimiting_bounds.map Expression.compare
  · exact delimiting_bounds.map Expression.count
  · exact delimiting_lookup.map Expression.lookup
  · exact delimiting_number.map Expression.double
  · exact delimiting_enumeration.map Expression.enum
  · exact SelfDelimiting.pure Expression.negate
  · exact delimiting_number.map Expression.percentage
  · exact delimiting_range.map Expression.random
  · exact delimiting_check.map Expression.check
  · exact delimiting_text.map Expression.format
  · exact delimiting_transform.map Expression.transform
  · exact delimiting_query.map Expression.typeOf
  · exact SelfDelimiting.failure

theorem delimiting_condition : SelfDelimiting decodeCondition := by
  refine delimiting_tag.bind fun n => ?_
  split
  · exact delimiting_value.map Condition.literal
  · exact delimiting_valueType.map Condition.type
  · exact delimiting_expression.map Condition.expression
  · exact SelfDelimiting.failure

theorem delimiting_output : SelfDelimiting decodeOutput := by
  refine delimiting_tag.bind fun n => ?_
  split
  · exact delimiting_value.map Output.literal
  · exact delimiting_expression.map Output.expression
  · exact SelfDelimiting.failure

theorem delimiting_rule : SelfDelimiting decodeRule :=
  delimiting_text.bind fun _ => (delimiting_option delimiting_condition).bind fun _ =>
    (delimiting_list delimiting_condition).bind fun _ =>
      (delimiting_option delimiting_output).bind fun _ => (delimiting_list delimiting_output).map _

end ConversionRules.Codec

namespace ConversionRules.Cache

open Codec

theorem delimiting_payload : SelfDelimiting decodePayload :=
  delimiting_size.bind fun _ => (delimiting_option (delimiting_bytes 32)).bind fun _ =>
    (delimiting_list delimiting_rule).map _

end ConversionRules.Cache
