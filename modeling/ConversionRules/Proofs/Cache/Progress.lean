import ConversionRules.Proofs.Cache.Delimiting

/-!
Progress of the decoders. Every rule, condition, output, value and member takes
a byte of its own, beside the bytes of the elements inside it, so a payload has
no more elements than bytes, whatever lengths are written before its sequences.
The decoder of values is a recursion over the bytes that remain, and a sequence
is given up before its decoder has been called more often than there are bytes.
-/
namespace ConversionRules

variable {α β : Type}

section Counts

/-- The elements of a sequence together with what is counted inside them. -/
def tally (count : α → Nat) : List α → Nat
  | [] => 0
  | a :: as => 1 + count a + tally count as

theorem tally_zero (as : List α) : tally (fun _ => 0) as = as.length := by
  induction as with
  | nil => rfl
  | cons a as ih => rw [tally, ih, List.length_cons, Nat.add_zero, Nat.add_comm]

mutual

/-- The items of lists in a value, at any depth. -/
def Value.itemCount : Value → Nat
  | .list items => Value.itemCountOfItems items
  | _ => 0

def Value.itemCountOfItems : List Value → Nat
  | [] => 0
  | v :: rest => 1 + v.itemCount + Value.itemCountOfItems rest

end

theorem Value.itemCount_list (items : List Value) :
    (Value.list items).itemCount = tally Value.itemCount items := by
  rw [Value.itemCount]
  induction items with
  | nil => rfl
  | cons v rest ih => rw [Value.itemCountOfItems, ih, tally]

/-- The members of the enum type and the items in the value to convert. -/
def Enumeration.elementCount (e : Enumeration) : Nat :=
  e.definition.elim 0 (fun t => t.members.length) + e.value.elim 0 Value.itemCount

def Expression.elementCount : Expression → Nat
  | .enum e => e.elementCount
  | _ => 0

def Condition.elementCount : Condition → Nat
  | .literal v => v.itemCount
  | .type _ => 0
  | .expression e => e.elementCount

def Output.elementCount : Output → Nat
  | .literal v => v.itemCount
  | .expression e => e.elementCount

/-- The conditions and outputs of a rule, in both places, and what is inside them. -/
def Rule.elementCount (r : Rule) : Nat :=
  tally Condition.elementCount r.allConditions + tally Output.elementCount r.allOutputs

end Counts

namespace Codec

/-- What the decoder returns has cost at least its weight in bytes. -/
def Pays (d : Decoder α) (weight : α → Nat) : Prop :=
  ∀ bs a rest, d bs = some (a, rest) → weight a + rest.length ≤ bs.length

section Costs

variable {d : Decoder α} {weight : α → Nat}

theorem Pays.le (hd : Pays d weight) {bs rest : List UInt8} {a : α}
    (h : d bs = some (a, rest)) : weight a + rest.length ≤ bs.length := hd bs a rest h

theorem SelfDelimiting.length_le (hd : SelfDelimiting d) {bs rest : List UInt8} {a : α}
    (h : d bs = some (a, rest)) : rest.length ≤ bs.length := by
  obtain ⟨used, rfl, _⟩ := hd bs a rest h
  rw [List.length_append]
  omega

theorem SelfDelimiting.pays_nothing (hd : SelfDelimiting d) : Pays d fun _ => 0 := by
  intro bs a rest h
  rw [Nat.zero_add]
  exact hd.length_le h

/-- A decoder that finds nothing in no bytes takes a byte for everything it finds. -/
theorem SelfDelimiting.pays_one (hd : SelfDelimiting d) (hnil : d [] = none) :
    Pays d fun _ => 1 := by
  intro bs a rest h
  obtain ⟨used, rfl, hreads⟩ := hd bs a rest h
  cases used with
  | nil => cases hnil.symm.trans (hreads [])
  | cons b used =>
    show 1 + rest.length ≤ (b :: (used ++ rest)).length
    rw [List.length_cons, List.length_append]
    omega

namespace Pays

theorem pure {a : α} (h : weight a = 0) : Pays (Pure.pure a) weight := by
  intro bs a' rest hbs
  cases hbs
  omega

theorem failure : Pays (failure : Decoder α) weight := by
  intro bs a rest h
  cases h

theorem bind {k : α → Decoder β} {weight : β → Nat} {price : Nat}
    (hd : Pays d fun _ => price) (hk : ∀ a, Pays (k a) weight) :
    Pays (d >>= k) fun b => price + weight b := by
  intro bs b rest h
  obtain ⟨a, middle, hfirst, hsecond⟩ := bind_eq_some h
  have hfront := hd.le hfirst
  have hback := (hk a).le hsecond
  rw [Nat.add_assoc]
  exact Nat.le_trans (Nat.add_le_add_left hback price) hfront

theorem map {f : α → β} {weight : β → Nat} (hd : Pays d fun a => weight (f a)) :
    Pays (d >>= fun a => Pure.pure (f a)) weight := by
  intro bs b rest h
  obtain ⟨a, middle, hfirst, hsecond⟩ := bind_eq_some h
  cases hsecond
  exact hd.le hfirst

end Pays

theorem pays_tag : Pays decodeTag fun _ => 1 := delimiting_tag.pays_one rfl

theorem pays_option (hd : Pays d weight) :
    Pays (decodeOption d) fun o => 1 + o.elim 0 weight := by
  refine (delimiting_bool.pays_one rfl).bind fun given => ?_
  split
  · exact Pays.map hd
  · exact Pays.pure rfl

theorem pays_many {count : α → Nat} (hd : Pays d fun a => 1 + count a) (n : Nat) :
    Pays (decodeMany d n) (tally count) := by
  induction n with
  | zero => exact Pays.pure rfl
  | succ n ih =>
    intro bs as rest h
    obtain ⟨a, middle, hfirst, h⟩ := bind_eq_some h
    obtain ⟨items, last, hitems, h⟩ := bind_eq_some h
    cases h
    have hhead := hd.le hfirst
    have htail := ih.le hitems
    rw [tally]
    omega

/-- Items that take a byte each are no more than the bytes. -/
theorem pays_items (hd : Pays d fun _ => 1) (n : Nat) : Pays (decodeMany d n) List.length := by
  intro bs as rest h
  have hitem : Pays d fun a => 1 + (fun _ => 0) a := hd
  have hpaid := (pays_many hitem n).le h
  rwa [tally_zero] at hpaid

theorem pays_list {count : α → Nat} (hd : Pays d fun a => 1 + count a) :
    Pays (decodeList d) fun as => 1 + tally count as :=
  (delimiting_size.pays_one rfl).bind fun n => pays_many hd n

end Costs

section Elements

theorem pays_valueWithin (depth : Nat) :
    Pays (decodeValueWithin depth) fun v => 1 + v.itemCount := by
  induction depth with
  | zero => exact Pays.failure
  | succ depth ih =>
    refine pays_tag.bind fun n => ?_
    split
    · exact Pays.pure rfl
    · exact Pays.map delimiting_bool.pays_nothing
    · exact Pays.map delimiting_int64.pays_nothing
    · exact Pays.map delimiting_binary64.pays_nothing
    · exact Pays.map delimiting_char.pays_nothing
    · exact Pays.map delimiting_string.pays_nothing
    · refine Pays.map fun bs items rest h => ?_
      have hitems := (pays_list ih).le h
      show (Value.list items).itemCount + rest.length ≤ bs.length
      rw [Value.itemCount_list]
      omega
    · exact Pays.map delimiting_enumValue.pays_nothing
    · exact Pays.map delimiting_valueType.pays_nothing
    · exact Pays.failure

theorem pays_value : Pays decodeValue fun v => 1 + v.itemCount :=
  fun bs => pays_valueWithin bs.length bs

theorem pays_member : Pays decodeMember fun _ => 1 := delimiting_member.pays_one rfl

theorem pays_members : Pays (decodeList decodeMember) fun ms => 1 + ms.length :=
  (delimiting_size.pays_one rfl).bind fun n => pays_items pays_member n

theorem pays_enumType : Pays decodeEnumType fun t => t.members.length := by
  intro bs t rest h
  obtain ⟨name, bs₁, hname, h⟩ := bind_eq_some h
  obtain ⟨members, bs₂, hmembers, h⟩ := bind_eq_some h
  obtain ⟨flags, bs₃, hflags, h⟩ := bind_eq_some h
  cases h
  have hname := delimiting_string.length_le hname
  have hmembers := pays_members.le hmembers
  have hflags := delimiting_bool.length_le hflags
  show members.length + rest.length ≤ bs.length
  omega

theorem pays_enumeration : Pays decodeEnumeration Enumeration.elementCount := by
  intro bs e rest h
  obtain ⟨definition, bs₁, hdefinition, h⟩ := bind_eq_some h
  obtain ⟨enumType, bs₂, henumType, h⟩ := bind_eq_some h
  obtain ⟨typeName, bs₃, htypeName, h⟩ := bind_eq_some h
  obtain ⟨value, bs₄, hvalue, h⟩ := bind_eq_some h
  cases h
  have hdefinition := (pays_option pays_enumType).le hdefinition
  have henumType := (delimiting_option delimiting_valueType).length_le henumType
  have htypeName := delimiting_text.length_le htypeName
  have hvalue := (pays_option pays_value).le hvalue
  have hitems : value.elim 0 Value.itemCount ≤ value.elim 0 fun v => 1 + v.itemCount := by
    cases value with
    | none => exact Nat.le_refl _
    | some v => exact Nat.le_add_left _ _
  show definition.elim 0 (fun t => t.members.length) + value.elim 0 Value.itemCount +
    rest.length ≤ bs.length
  omega

theorem pays_expression : Pays decodeExpression fun e => 1 + e.elementCount := by
  refine pays_tag.bind fun n => ?_
  split
  · exact Pays.map delimiting_arithmetic.pays_nothing
  · exact Pays.map delimiting_bounds.pays_nothing
  · exact Pays.map delimiting_bounds.pays_nothing
  · exact Pays.map delimiting_lookup.pays_nothing
  · exact Pays.map delimiting_number.pays_nothing
  · exact Pays.map pays_enumeration
  · exact Pays.pure rfl
  · exact Pays.map delimiting_number.pays_nothing
  · exact Pays.map delimiting_range.pays_nothing
  · exact Pays.map delimiting_check.pays_nothing
  · exact Pays.map delimiting_text.pays_nothing
  · exact Pays.map delimiting_transform.pays_nothing
  · exact Pays.map delimiting_query.pays_nothing
  · exact Pays.failure

theorem Pays.of_succ {d : Decoder α} {count : α → Nat} (hd : Pays d fun a => 1 + count a) :
    Pays d count := by
  intro bs a rest h
  have hpaid := hd.le h
  omega

theorem pays_condition : Pays decodeCondition fun c => 1 + c.elementCount := by
  refine pays_tag.bind fun n => ?_
  split
  · exact Pays.map pays_value.of_succ
  · exact Pays.map delimiting_valueType.pays_nothing
  · exact Pays.map pays_expression.of_succ
  · exact Pays.failure

theorem pays_output : Pays decodeOutput fun o => 1 + o.elementCount := by
  refine pays_tag.bind fun n => ?_
  split
  · exact Pays.map pays_value.of_succ
  · exact Pays.map pays_expression.of_succ
  · exact Pays.failure

/-- One element or none counts as the elements of a list do. -/
theorem tally_toList_append (count : α → Nat) (o : Option α) (as : List α) :
    tally count (o.toList ++ as) = o.elim 0 (fun a => 1 + count a) + tally count as := by
  cases o with
  | none => exact (Nat.zero_add _).symm
  | some a => rfl

theorem pays_rule : Pays decodeRule fun r => 1 + r.elementCount := by
  intro bs r rest h
  obtain ⟨name, bs₁, hname, h⟩ := bind_eq_some h
  obtain ⟨condition, bs₂, hcondition, h⟩ := bind_eq_some h
  obtain ⟨conditions, bs₃, hconditions, h⟩ := bind_eq_some h
  obtain ⟨output, bs₄, houtput, h⟩ := bind_eq_some h
  obtain ⟨outputs, bs₅, houtputs, h⟩ := bind_eq_some h
  cases h
  have hname := delimiting_text.length_le hname
  have hcondition := (pays_option pays_condition).le hcondition
  have hconditions := (pays_list pays_condition).le hconditions
  have houtput := (pays_option pays_output).le houtput
  have houtputs := (pays_list pays_output).le houtputs
  show 1 + (tally Condition.elementCount (condition.toList ++ conditions) +
    tally Output.elementCount (output.toList ++ outputs)) + rest.length ≤ bs.length
  rw [tally_toList_append, tally_toList_append]
  omega

end Elements

section Recursion

/-- The decoder of values with the decoder of list items as a parameter. -/
def decodeValueOf (item : Decoder Value) : Decoder Value := do
  match ← decodeTag with
  | 0 => return .null
  | 1 => return .bool (← decodeBool)
  | 2 => return .int (← decodeInt64)
  | 3 => return .float (← decodeBinary64)
  | 4 => return .char (← decodeChar)
  | 5 => return .string (← decodeString)
  | 6 => return .list (← decodeList item)
  | 7 => return .enum (← decodeEnumValue)
  | 8 => return .type (← decodeValueType)
  | _ => failure

theorem decodeValueWithin_succ (depth : Nat) :
    decodeValueWithin (depth + 1) = decodeValueOf (decodeValueWithin depth) := rfl

section Congruence

variable {d d' : Decoder α} {bs : List UInt8}

/-- Only what stands at the end of the bytes is ever given to the decoder of items. -/
theorem decodeMany_congr (hd' : SelfDelimiting d') (h : ∀ cs, cs <:+ bs → d cs = d' cs)
    (n : Nat) : decodeMany d n bs = decodeMany d' n bs := by
  induction n generalizing bs with
  | zero => rfl
  | succ n ih =>
    change (d bs).bind _ = (d' bs).bind _
    rw [h bs List.suffix_rfl]
    cases hfirst : d' bs with
    | none => rfl
    | some p =>
      obtain ⟨a, middle⟩ := p
      obtain ⟨used, rfl, _⟩ := hd' _ _ _ hfirst
      have hrest : decodeMany d n middle = decodeMany d' n middle :=
        ih fun cs hcs => h cs (hcs.trans (List.suffix_append used middle))
      change (decodeMany d n middle).bind _ = (decodeMany d' n middle).bind _
      rw [hrest]

theorem decodeList_congr (hd' : SelfDelimiting d') (h : ∀ cs, cs <:+ bs → d cs = d' cs) :
    decodeList d bs = decodeList d' bs := by
  change (decodeSize bs).bind _ = (decodeSize bs).bind _
  cases hsize : decodeSize bs with
  | none => rfl
  | some p =>
    obtain ⟨n, middle⟩ := p
    obtain ⟨used, rfl, _⟩ := delimiting_size _ _ _ hsize
    exact decodeMany_congr hd' (fun cs hcs => h cs (hcs.trans (List.suffix_append used middle))) n

/-- The items of a list stand after its tag. -/
theorem decodeValueOf_congr {item item' : Decoder Value} (hitem' : SelfDelimiting item')
    (h : ∀ cs, cs <:+ bs → cs.length < bs.length → item cs = item' cs) :
    decodeValueOf item bs = decodeValueOf item' bs := by
  change (decodeTag bs).bind _ = (decodeTag bs).bind _
  cases htag : decodeTag bs with
  | none => rfl
  | some p =>
    obtain ⟨n, middle⟩ := p
    have hshorter := pays_tag.le htag
    obtain ⟨used, rfl, _⟩ := delimiting_tag _ _ _ htag
    have hlist : decodeList item middle = decodeList item' middle := by
      refine decodeList_congr hitem' fun cs hcs => ?_
      have hle := hcs.length_le
      exact h cs (hcs.trans (List.suffix_append used middle)) (by omega)
    simp only [Option.bind_some]
    split
    case h_7 => exact congrArg (Option.bind · _) hlist
    all_goals rfl

end Congruence

theorem decodeValueWithin_of_length_le {depth depth' : Nat} {bs : List UInt8}
    {result : Value × List UInt8} (hlen : bs.length ≤ depth')
    (h : decodeValueWithin depth bs = some result) : decodeValueWithin depth' bs = some result := by
  obtain ⟨used, rfl, hreads⟩ := delimiting_valueWithin depth bs result.1 result.2 h
  rw [List.length_append] at hlen
  exact reads_valueWithin_of_length_le (Nat.le_trans (Nat.le_add_right _ _) hlen) hreads result.2

/-- A bound on the nesting is never reached if it is as large as the bytes. -/
theorem decodeValueWithin_eq {depth : Nat} {bs : List UInt8} (hlen : bs.length ≤ depth) :
    decodeValueWithin depth bs = decodeValue bs := by
  apply Option.ext
  intro result
  exact ⟨decodeValueWithin_of_length_le (Nat.le_refl _), decodeValueWithin_of_length_le hlen⟩

/-- To decode a value it is enough to decode what stands at the end of the
bytes and is shorter than they are. -/
theorem decodeValueOf_eq {item : Decoder Value} {bs : List UInt8}
    (h : ∀ cs, cs <:+ bs → cs.length < bs.length → item cs = decodeValue cs) :
    decodeValueOf item bs = decodeValue bs := by
  have hdepth : decodeValue bs = decodeValueOf (decodeValueWithin bs.length) bs := by
    rw [← decodeValueWithin_succ]
    exact (decodeValueWithin_eq (Nat.le_succ bs.length)).symm
  rw [hdepth]
  refine decodeValueOf_congr (delimiting_valueWithin _) fun cs hcs hshorter => ?_
  rw [h cs hcs hshorter, decodeValueWithin_eq hcs.length_le]

end Recursion

section Sequences

variable {d : Decoder α} {n : Nat} {bs rest : List UInt8} {as : List α}

theorem length_of_decodeMany (h : decodeMany d n bs = some (as, rest)) : as.length = n := by
  induction n generalizing bs as with
  | zero =>
    cases h
    rfl
  | succ n ih =>
    obtain ⟨a, middle, _, h⟩ := bind_eq_some h
    obtain ⟨items, last, hitems, h⟩ := bind_eq_some h
    cases h
    rw [List.length_cons, ih hitems]

theorem le_length_of_decodeMany (hd : Pays d fun _ => 1)
    (h : decodeMany d n bs = some (as, rest)) : n ≤ bs.length := by
  have hpaid := (pays_items hd n).le h
  rw [length_of_decodeMany h] at hpaid
  omega

/-- A sequence is given up at an item that its decoder refuses. -/
theorem exists_refused (h : decodeMany d n bs = none) : ∃ k as rest, k < n ∧
    decodeMany d k bs = some (as, rest) ∧ d rest = none := by
  induction n generalizing bs with
  | zero => cases h
  | succ n ih =>
    cases hfirst : d bs with
    | none => exact ⟨0, [], bs, Nat.succ_pos n, rfl, hfirst⟩
    | some p =>
      obtain ⟨a, middle⟩ := p
      have hstep : ∀ k, decodeMany d (k + 1) bs =
          (decodeMany d k middle).bind fun p => some (a :: p.1, p.2) := by
        intro k
        change (d bs).bind _ = _
        rw [hfirst]
        rfl
      rw [hstep, Option.bind_eq_none_iff] at h
      have hrest : decodeMany d n middle = none := by
        cases hmany : decodeMany d n middle with
        | none => rfl
        | some p => cases h p hmany
      obtain ⟨k, as, rest, hk, hmany, hrefused⟩ := ih hrest
      exact ⟨k + 1, a :: as, rest, Nat.succ_lt_succ hk, by rw [hstep, hmany]; rfl, hrefused⟩

end Sequences

/-- A decoder that leaves the end of its bytes, and takes a byte of its own
beside one for each element inside what it returns. -/
def Progresses (d : Decoder α) (count : α → Nat) : Prop :=
  ∀ bs a rest, d bs = some (a, rest) → ∃ used, bs = used ++ rest ∧ count a < used.length

section Progressing

variable {d : Decoder α} {count : α → Nat}

theorem Pays.progresses (hpays : Pays d fun a => 1 + count a) (hd : SelfDelimiting d) :
    Progresses d count := by
  intro bs a rest h
  have hpaid := hpays.le h
  obtain ⟨used, rfl, _⟩ := hd bs a rest h
  rw [List.length_append] at hpaid
  exact ⟨used, rfl, by omega⟩

theorem Progresses.pays_one (h : Progresses d count) : Pays d fun _ => 1 := by
  intro bs a rest hbs
  obtain ⟨used, rfl, hcount⟩ := h bs a rest hbs
  show 1 + rest.length ≤ (used ++ rest).length
  rw [List.length_append]
  omega

end Progressing

end Codec

namespace Cache

open Codec

/-- The rules of a payload and what is inside them. -/
def Payload.elementCount (p : Payload) : Nat := tally Rule.elementCount p.rules

theorem pays_payload : Pays decodePayload fun p => 1 + p.elementCount := by
  intro bs p rest h
  obtain ⟨ruleCount, bs₁, hruleCount, h⟩ := bind_eq_some h
  obtain ⟨sourceDigest, bs₂, hsourceDigest, h⟩ := bind_eq_some h
  obtain ⟨rules, bs₃, hrules, h⟩ := bind_eq_some h
  cases h
  have hruleCount := delimiting_size.length_le hruleCount
  have hsourceDigest := (delimiting_option (delimiting_bytes 32)).length_le hsourceDigest
  have hrules := (pays_list pays_rule).le hrules
  show 1 + tally Rule.elementCount rules + rest.length ≤ bs.length
  omega

/-- Decoding always progresses. Every element takes a byte of its own, a list is
decoded by decoding what is shorter, a sequence that is longer than its bytes is
given up within them, and no payload has as many elements as bytes. -/
theorem decoders_progress :
    (Progresses decodeRule Rule.elementCount ∧ Progresses decodeCondition Condition.elementCount ∧
      Progresses decodeOutput Output.elementCount ∧ Progresses decodeValue Value.itemCount ∧
      Progresses decodeMember fun _ => 0) ∧
    (∀ (item : Decoder Value) (bs : List UInt8),
      (∀ cs, cs <:+ bs → cs.length < bs.length → item cs = decodeValue cs) →
        decodeValueOf item bs = decodeValue bs) ∧
    (∀ {α : Type} (d : Decoder α) (count : α → Nat), Progresses d count → ∀ n bs,
      (∀ as rest, decodeMany d n bs = some (as, rest) → n ≤ bs.length) ∧
      (decodeMany d n bs = none → ∃ k as rest, k < n ∧ k ≤ bs.length ∧
        decodeMany d k bs = some (as, rest) ∧ d rest = none)) ∧
    ∀ bs p rest, decodePayload bs = some (p, rest) →
      rest <:+ bs ∧ p.elementCount + rest.length < bs.length := by
  refine ⟨⟨?_, ?_, ?_, ?_, ?_⟩, ?_, ?_, ?_⟩
  · exact pays_rule.progresses delimiting_rule
  · exact pays_condition.progresses delimiting_condition
  · exact pays_output.progresses delimiting_output
  · exact pays_value.progresses delimiting_value
  · exact Pays.progresses pays_member delimiting_member
  · intro item bs h
    exact decodeValueOf_eq h
  · intro α d count hd n bs
    refine ⟨fun as rest h => le_length_of_decodeMany hd.pays_one h, fun h => ?_⟩
    obtain ⟨k, as, rest, hk, hmany, hrefused⟩ := exists_refused h
    exact ⟨k, as, rest, hk, le_length_of_decodeMany hd.pays_one hmany, hmany, hrefused⟩
  · intro bs p rest h
    have hpaid := pays_payload.le h
    obtain ⟨used, rfl, _⟩ := delimiting_payload bs p rest h
    exact ⟨List.suffix_append used rest, by omega⟩

/-- One rule, whose output is a list of null and an empty list. -/
def nestedPayload : List UInt8 := [1, 0, 1, 0, 0, 0, 1, 0, 6, 2, 0, 6, 0, 0]

/-- The payload has four elements in fourteen bytes. Of a list that claims 2^64 - 1
items and has the byte of one, no more than one is decoded. -/
theorem decode_nestedPayload :
    decodePayload nestedPayload =
      some (⟨1, none, [{ output := some (.literal (.list [.null, .list []])) }]⟩, []) ∧
    Payload.elementCount ⟨1, none, [{ output := some (.literal (.list [.null, .list []])) }]⟩ = 4 ∧
    4 + 0 < nestedPayload.length ∧
    decodeMany decodeValue 18446744073709551615 [0] = none ∧
    ∃ k as rest, k ≤ 1 ∧ decodeMany decodeValue k [0] = some (as, rest) ∧
      decodeValue rest = none := by
  obtain ⟨⟨_, _, _, hvalue, _⟩, _, hsequences, hpayloads⟩ := decoders_progress
  have hpayload : decodePayload nestedPayload =
      some (⟨1, none, [{ output := some (.literal (.list [.null, .list []])) }]⟩, []) := rfl
  have hcount : Payload.elementCount
      ⟨1, none, [{ output := some (.literal (.list [.null, .list []])) }]⟩ = 4 := rfl
  have hendless : decodeMany decodeValue 18446744073709551615 [0] = none := rfl
  refine ⟨hpayload, hcount, hcount ▸ (hpayloads _ _ _ hpayload).2, hendless, ?_⟩
  obtain ⟨k, as, rest, _, hk, hmany, hrefused⟩ := (hsequences _ _ hvalue _ _).2 hendless
  exact ⟨k, as, rest, hk, hmany, hrefused⟩

end Cache

end ConversionRules
