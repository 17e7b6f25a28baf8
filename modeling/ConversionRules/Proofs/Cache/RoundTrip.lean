import ConversionRules.Cache.Container
import ConversionRules.Proofs.Cache.Decoding

/-!
Reading a cached converter gives back the converter that was written: every
constructor and every parameter of the rules is recovered from its bytes, the
header describes its payload, and rules that were in order still are.
-/
namespace ConversionRules.Codec

theorem recovers_valueType (t : ValueType) :
    Recovers decodeValueType (encodeValueType t) t := by
  cases t with
  | enum name => exact Recovers.tagged ((recovers_string name).finish rfl) (by decide)
  | _ => exact Recovers.constant rfl (by decide)

theorem recovers_enumValue (e : EnumValue) :
    Recovers decodeEnumValue (encodeEnumValue e) e := by
  have hname := recovers_option e.memberName fun s _ => recovers_string s
  rw [encodeEnumValue, List.append_assoc]
  exact (recovers_string e.typeName).bind <| hname.bind <| (recovers_int64 e.ordinal).finish rfl

theorem encodeItems_eq_flatMap (items : List Value) :
    encodeItems items = items.flatMap encodeValue := by
  induction items with
  | nil => rw [encodeItems, List.flatMap_nil]
  | cons v rest ih => rw [encodeItems, List.flatMap_cons, ih]

theorem length_encodeValue_pos (v : Value) : 0 < (encodeValue v).length := by
  cases v with
  | null => exact length_encodeNat_pos 0
  | _ => exact length_tagged_pos _ _

theorem length_encodeValue_le {v : Value} {items : List Value} (h : v ∈ items) :
    (encodeValue v).length ≤ (encodeItems items).length := by
  obtain ⟨before, after, rfl⟩ := List.append_of_mem h
  simp only [encodeItems_eq_flatMap, List.flatMap_append, List.flatMap_cons, List.length_append]
  omega

/-- A depth of as many bytes as the value takes is enough, since each list
takes a byte before its items. -/
theorem recovers_valueWithin {depth : Nat} {v : Value} (hdepth : (encodeValue v).length ≤ depth) :
    Recovers (decodeValueWithin depth) (encodeValue v) v := by
  induction depth generalizing v with
  | zero =>
    have hpos := length_encodeValue_pos v
    omega
  | succ depth ih =>
    cases v with
    | null => exact Recovers.constant rfl (by decide)
    | bool b => exact Recovers.tagged ((recovers_bool b).finish rfl) (by decide)
    | int n => exact Recovers.tagged ((recovers_int64 n).finish rfl) (by decide)
    | float x => exact Recovers.tagged ((recovers_binary64 x).finish rfl) (by decide)
    | char c => exact Recovers.tagged ((recovers_char c).finish rfl) (by decide)
    | string s => exact Recovers.tagged ((recovers_string s).finish rfl) (by decide)
    | enum e => exact Recovers.tagged ((recovers_enumValue e).finish rfl) (by decide)
    | type t => exact Recovers.tagged ((recovers_valueType t).finish rfl) (by decide)
    | list items =>
      have hitem : ∀ v ∈ items, Recovers (decodeValueWithin depth) (encodeValue v) v := by
        intro v hv
        apply ih
        have hle := length_encodeValue_le hv
        have hpos := length_encodeNat_pos 6
        simp only [encodeValue, List.length_append] at hdepth
        omega
      have hitems := recovers_list items (fun v _ => length_encodeValue_pos v) hitem
      rw [encodeList, ← encodeItems_eq_flatMap] at hitems
      rw [encodeValue]
      exact Recovers.tagged (hitems.finish rfl) (by decide)

theorem recovers_value (v : Value) : Recovers decodeValue (encodeValue v) v := by
  intro hlen rest
  have hdepth : (encodeValue v).length ≤ (encodeValue v ++ rest).length := by
    rw [List.length_append]
    omega
  exact recovers_valueWithin hdepth hlen rest

theorem recovers_enumType (e : EnumType) : Recovers decodeEnumType (encodeEnumType e) e := by
  have hmember : ∀ m ∈ e.members,
      Recovers decodeMember (encodeString m.1 ++ encodeInt64 m.2) m := by
    intro m _
    exact (recovers_string m.1).bind <| (recovers_int64 m.2).finish rfl
  have hpos : ∀ m ∈ e.members, 0 < (encodeString m.1 ++ encodeInt64 m.2).length := by
    intro m _
    have h := length_encodeNat_pos (fold m.2.toInt)
    rw [List.length_append, encodeInt64]
    omega
  rw [encodeEnumType, List.append_assoc]
  exact (recovers_string e.name).bind <| (recovers_list e.members hpos hmember).bind <|
    (recovers_bool e.flags).finish rfl

theorem recovers_number (o : Option Binary64) : Recovers decodeNumber (encodeNumber o) o :=
  recovers_option o fun x _ => recovers_binary64 x

theorem recovers_text (o : Option String) : Recovers decodeText (encodeText o) o :=
  recovers_option o fun s _ => recovers_string s

theorem recovers_index (o : Option UInt64) : Recovers decodeIndex (encodeIndex o) o :=
  recovers_option o fun n _ => recovers_uint64 n

theorem recovers_choice {α : Type} [BEq α] [LawfulBEq α] {constants : List α} {o : Option α}
    (hmem : ∀ a, a ∈ constants) (hfew : constants.length ≤ UInt32.size) :
    Recovers (decodeOption (decodeConstant constants))
      (encodeOption (encodeConstant constants) o) o :=
  recovers_option o fun a _ => recovers_constant (hmem a) hfew

theorem recovers_arithmetic (a : Arithmetic) :
    Recovers decodeArithmetic (encodeArithmetic a) a := by
  simp only [encodeArithmetic, List.append_assoc]
  exact (recovers_number a.multiply).bind <| (recovers_number a.divide).bind <|
    (recovers_number a.modulo).bind <| (recovers_number a.add).bind <|
    (recovers_number a.subtract).finish rfl

theorem recovers_bounds (b : Bounds) : Recovers decodeBounds (encodeBounds b) b := by
  simp only [encodeBounds, List.append_assoc]
  exact (recovers_number b.equalTo).bind <| (recovers_number b.notEqualTo).bind <|
    (recovers_number b.greaterThan).bind <| (recovers_number b.atLeast).bind <|
    (recovers_number b.lessThan).bind <| (recovers_number b.atMost).finish rfl

theorem recovers_lookup (l : Lookup) : Recovers decodeLookup (encodeLookup l) l := by
  have hmem : l.operation ∈ LookupOperation.all := by cases l.operation <;> decide
  exact (recovers_index l.index).bind <| (recovers_constant hmem (by decide)).finish rfl

theorem recovers_enumeration (e : Enumeration) :
    Recovers decodeEnumeration (encodeEnumeration e) e := by
  have hdefinition := recovers_option e.definition fun t _ => recovers_enumType t
  have htype := recovers_option e.enumType fun t _ => recovers_valueType t
  have hvalue := recovers_option e.value fun v _ => recovers_value v
  simp only [encodeEnumeration, List.append_assoc]
  exact hdefinition.bind <| htype.bind <| (recovers_text e.typeName).bind <| hvalue.finish rfl

theorem recovers_range (r : RandomRange) : Recovers decodeRange (encodeRange r) r := by
  have hlower := recovers_option r.lower fun n _ => recovers_int64 n
  have hupper := recovers_option r.upper fun n _ => recovers_int64 n
  exact hlower.bind <| hupper.finish rfl

theorem recovers_check (c : TextCheck) : Recovers decodeCheck (encodeCheck c) c := by
  have hmem : ∀ o, o ∈ CheckOperation.all := by intro o; cases o <;> decide
  simp only [encodeCheck, List.append_assoc]
  exact (recovers_choice hmem (by decide)).bind <| (recovers_text c.startsWith).bind <|
    (recovers_text c.endsWith).bind <| (recovers_text c.contains).finish rfl

theorem recovers_transform (t : TextTransform) :
    Recovers decodeTransform (encodeTransform t) t := by
  have htrim : ∀ m, m ∈ TrimMode.all := by intro m; cases m <;> decide
  have hcase : ∀ m, m ∈ CaseMode.all := by intro m; cases m <;> decide
  simp only [encodeTransform, List.append_assoc]
  exact (recovers_choice htrim (by decide)).bind <| (recovers_index t.substringStart).bind <|
    (recovers_index t.substringEnd).bind <| (recovers_text t.insertText).bind <|
    (recovers_index t.insertIndex).bind <| (recovers_choice hcase (by decide)).bind <|
    (recovers_choice hcase (by decide)).bind <| (recovers_text t.splitBy).finish rfl

theorem recovers_query (q : TypeQuery) : Recovers decodeQuery (encodeQuery q) q := by
  have htype := recovers_option q.type fun t _ => recovers_valueType t
  exact htype.bind <| (recovers_text q.name).finish rfl

theorem recovers_expression (e : Expression) :
    Recovers decodeExpression (encodeExpression e) e := by
  cases e with
  | arithmetic a => exact Recovers.tagged ((recovers_arithmetic a).finish rfl) (by decide)
  | compare b => exact Recovers.tagged ((recovers_bounds b).finish rfl) (by decide)
  | count b => exact Recovers.tagged ((recovers_bounds b).finish rfl) (by decide)
  | lookup l => exact Recovers.tagged ((recovers_lookup l).finish rfl) (by decide)
  | double x => exact Recovers.tagged ((recovers_number x).finish rfl) (by decide)
  | enum e => exact Recovers.tagged ((recovers_enumeration e).finish rfl) (by decide)
  | negate => exact Recovers.constant rfl (by decide)
  | percentage x => exact Recovers.tagged ((recovers_number x).finish rfl) (by decide)
  | random r => exact Recovers.tagged ((recovers_range r).finish rfl) (by decide)
  | check c => exact Recovers.tagged ((recovers_check c).finish rfl) (by decide)
  | format t => exact Recovers.tagged ((recovers_text t).finish rfl) (by decide)
  | transform t => exact Recovers.tagged ((recovers_transform t).finish rfl) (by decide)
  | typeOf q => exact Recovers.tagged ((recovers_query q).finish rfl) (by decide)

theorem recovers_condition (c : Condition) :
    Recovers decodeCondition (encodeCondition c) c := by
  cases c with
  | literal v => exact Recovers.tagged ((recovers_value v).finish rfl) (by decide)
  | type t => exact Recovers.tagged ((recovers_valueType t).finish rfl) (by decide)
  | expression e => exact Recovers.tagged ((recovers_expression e).finish rfl) (by decide)

theorem recovers_output (o : Output) : Recovers decodeOutput (encodeOutput o) o := by
  cases o with
  | literal v => exact Recovers.tagged ((recovers_value v).finish rfl) (by decide)
  | expression e => exact Recovers.tagged ((recovers_expression e).finish rfl) (by decide)

theorem length_encodeCondition_pos (c : Condition) : 0 < (encodeCondition c).length := by
  cases c <;> exact length_tagged_pos _ _

theorem length_encodeOutput_pos (o : Output) : 0 < (encodeOutput o).length := by
  cases o <;> exact length_tagged_pos _ _

theorem length_encodeRule_pos (r : Rule) : 0 < (encodeRule r).length := by
  have h := length_encodeNat_pos r.outputs.length
  simp only [encodeRule, encodeList, List.length_append]
  omega

theorem recovers_rule (r : Rule) : Recovers decodeRule (encodeRule r) r := by
  have hcondition := recovers_option r.condition fun c _ => recovers_condition c
  have hconditions := recovers_list r.conditions
    (fun c _ => length_encodeCondition_pos c) (fun c _ => recovers_condition c)
  have houtput := recovers_option r.output fun o _ => recovers_output o
  have houtputs := recovers_list r.outputs
    (fun o _ => length_encodeOutput_pos o) (fun o _ => recovers_output o)
  simp only [encodeRule, List.append_assoc]
  exact (recovers_text r.name).bind <| hcondition.bind <| hconditions.bind <| houtput.bind <|
    houtputs.finish rfl

end ConversionRules.Codec

namespace ConversionRules.Cache

open Codec

theorem recovers_payload {p : Payload} (hcount : p.ruleCount < UInt64.size)
    (hdigest : ∀ d ∈ p.sourceDigest, d.length = 32) :
    Recovers decodePayload (encodePayload p) p := by
  have hsource : Recovers (decodeOption (bytes 32)) (encodeOption id p.sourceDigest)
      p.sourceDigest := recovers_option p.sourceDigest fun d hd => recovers_bytes (hdigest d hd)
  have hrules := recovers_list p.rules
    (fun r _ => length_encodeRule_pos r) (fun r _ => recovers_rule r)
  rw [encodePayload, List.append_assoc]
  exact (recovers_size hcount).bind <| hsource.bind <| hrules.finish rfl

theorem length_digest (bs : List UInt8) : (Digest.digest bs).length = 32 := by
  simp [Digest.digest, Lanes.toList, Bytes.length_ofNat]

theorem length_checksum (payload : List UInt8) : (checksum payload).length = 16 := by
  rw [checksum, List.length_take, length_digest]
  rfl

theorem length_mark : mark.length = 4 := rfl

theorem length_header (payload : List UInt8) : (header payload).length = headerSize := by
  simp only [header, List.length_append, length_mark, Bytes.length_ofNat, length_checksum]
  rfl

theorem take_drop_append {before part after : List UInt8} {offset size : Nat}
    (hoffset : before.length = offset) (hsize : part.length = size) :
    ((before ++ (part ++ after)).drop offset).take size = part := by
  rw [← hoffset, ← hsize, List.drop_left, List.take_left]

theorem field_append {before after : List UInt8} {offset size n : Nat}
    (hoffset : before.length = offset) (hn : n < Nat.pow 256 size) :
    field (before ++ (Bytes.ofNat size n ++ after)) offset size = n := by
  rw [field, take_drop_append hoffset (Bytes.length_ofNat size n), Bytes.toNat_ofNat,
    Nat.mod_eq_of_lt hn]

section Header

variable (payload : List UInt8)

theorem take_header : (header payload ++ payload).take 4 = mark := by
  simp only [header, List.append_assoc]
  rw [← length_mark, List.take_left]

theorem version_header : field (header payload ++ payload) 4 2 = formatVersion := by
  simp only [header, List.append_assoc]
  exact field_append length_mark (by decide)

theorem length_field_header (hlen : payload.length < UInt32.size) :
    field (header payload ++ payload) 12 4 = payload.length := by
  rw [header, List.append_assoc _ (checksum payload), List.append_assoc]
  exact field_append rfl hlen

theorem checksum_header :
    ((header payload ++ payload).drop 16).take 16 = checksum payload := by
  rw [header, List.append_assoc _ (checksum payload)]
  refine take_drop_append ?_ (length_checksum payload)
  rw [List.length_append, Bytes.length_ofNat]
  rfl

theorem drop_header : (header payload ++ payload).drop headerSize = payload := by
  rw [← length_header payload, List.drop_left]

/-- A payload below 4 GiB is what stands after its header. -/
theorem checkedPayload_header (hlen : payload.length < UInt32.size) :
    checkedPayload (header payload ++ payload) = .ok payload := by
  have hsize : ¬ (header payload ++ payload).length < headerSize := by
    rw [List.length_append, length_header]
    omega
  simp only [checkedPayload, hsize, take_header, version_header, drop_header,
    length_field_header payload hlen, checksum_header, bne_self_eq_false]
  rfl

end Header

theorem encode?_of_length {c : Converter} {source : Option String} {payload : List UInt8}
    (hpayload : encodePayload ⟨c.size, source.map sourceDigest, c.rules⟩ = payload)
    (hlen : payload.length < UInt32.size) : encode? c source = some (header payload ++ payload) := by
  simp only [encode?, hpayload]
  exact if_pos hlen

theorem encode?_eq_some {c : Converter} {source : Option String} {bs : List UInt8}
    (h : encode? c source = some bs) : ∃ payload,
      payload = encodePayload ⟨c.size, source.map sourceDigest, c.rules⟩ ∧
      payload.length < UInt32.size ∧ bs = header payload ++ payload := by
  simp only [encode?] at h
  split at h
  · rename_i hlen
    exact ⟨_, rfl, hlen, (Option.some.inj h).symm⟩
  · simp at h

/-- The number of rules fits its field, since every rule takes a byte. -/
theorem decodePayload_encodePayload {p : Payload} (hcount : p.ruleCount = p.rules.length)
    (hdigest : ∀ d ∈ p.sourceDigest, d.length = 32)
    (hlen : (encodePayload p).length < UInt32.size) :
    decodePayload (encodePayload p) = some (p, []) := by
  have hlong : (encodePayload p).length < UInt64.size := Nat.lt_trans hlen (by decide)
  have hfits : p.ruleCount < UInt64.size := by
    have hle : p.rules.length ≤ (p.rules.flatMap encodeRule).length :=
      length_le_flatMap fun r _ => length_encodeRule_pos r
    simp only [encodePayload, encodeList, List.length_append] at hlong
    omega
  have h := recovers_payload hfits hdigest hlong []
  rwa [List.append_nil] at h

theorem length_sourceDigest {source : Option String} {d : List UInt8}
    (h : d ∈ source.map sourceDigest) : d.length = 32 := by
  obtain ⟨s, _, rfl⟩ := Option.map_eq_some_iff.mp h
  exact length_digest _

/-- A converter whose rules are in order is read back from its bytes. -/
theorem decode_of_encode {rules : List Rule} {source : Option String} {bs : List UInt8}
    (hvalid : Converter.validate rules = .ok ()) (h : encode? ⟨rules⟩ source = some bs) :
    decode bs = .ok ⟨rules⟩ := by
  obtain ⟨payload, hpayload, hlen, rfl⟩ := encode?_eq_some h
  have hdecode : decodePayload payload =
      some (⟨rules.length, source.map sourceDigest, rules⟩, []) := by
    rw [hpayload] at hlen ⊢
    exact decodePayload_encodePayload rfl (fun d hd => length_sourceDigest hd) hlen
  have hread : readPayload (header payload ++ payload) =
      .ok ⟨rules.length, source.map sourceDigest, rules⟩ := by
    rw [readPayload, checkedPayload_header payload hlen]
    simp only [hdecode]
  rw [decode, hread]
  simp only [Converter.ofRules, hvalid, bne_self_eq_false]
  rfl

/-- Rules with a nested list, an embedded enum type, a named member, a number
that is none, the least whole number and the largest index. -/
def swatchRules : List Rule :=
  [{ name := some "swatch"
     condition := some (.literal (.list
       [.enum ⟨"Color", some "red", 0⟩, .list [.int Int64.minValue]]))
     conditions := [.type (.enum "Color"), .expression (.compare { atLeast := some .nan })]
     output := some (.literal (.char 'é'))
     outputs := [.expression (.enum { definition := some ⟨"Color", [("red", 0)], true⟩
                                      value := some .null })] },
   { outputs := [.expression (.lookup { index := some (UInt64.ofNat (UInt64.size - 1)) })] }]

theorem decode_swatchRules :
    Converter.validate swatchRules = .ok () ∧
      ∃ bs, encode? ⟨swatchRules⟩ none = some bs ∧ decode bs = .ok ⟨swatchRules⟩ := by
  have hvalid : Converter.validate swatchRules = .ok () := rfl
  have hshort : (encodePayload ⟨2, none, swatchRules⟩).length < UInt32.size := by decide +kernel
  have hbytes : encode? ⟨swatchRules⟩ none = some _ := encode?_of_length rfl hshort
  exact ⟨hvalid, _, hbytes, decode_of_encode hvalid hbytes⟩

end ConversionRules.Cache
