import ConversionRules.Proofs.Document.Tokens

/-!
The documents that can be written down, and one text for each of them. Names
are identifiers that are not taken for literals, and literals are lists, texts,
numbers, truth values and null; a binary number needs a decimal text.
-/
namespace ConversionRules.Spelling

open Lexeme

/-- A number of decimal places that is read as the binary number. -/
def HasDecimal (x : Binary64) : Prop :=
  ∃ n : NumberWord, IsNumber n ∧ n.places.isSome = true ∧ nearestValue n = x

inductive WritableLiteral : Value → Prop where
  | null : WritableLiteral .null
  | bool (b : Bool) : WritableLiteral (.bool b)
  | int (k : Int64) : WritableLiteral (.int k)
  | float {x : Binary64} : HasDecimal x → WritableLiteral (.float x)
  | string (s : String) : WritableLiteral (.string s)
  | list {items : List Value} :
      (∀ v ∈ items, WritableLiteral v) → WritableLiteral (.list items)

inductive WritableArgument : Argument → Prop where
  | literal {v : Value} : WritableLiteral v → WritableArgument (.literal v)
  | word {s : String} : IsIdentifier s → s ∉ literalWords → WritableArgument (.word s)

inductive WritableTerm : Term → Prop where
  | literal {v : Value} : WritableLiteral v → WritableTerm (.literal v)
  | typeRef {name : String} : IsIdentifier name → WritableTerm (.typeRef name)
  | call {name : String} {args : List (String × Argument)} :
      IsIdentifier name → name ∉ literalWords → name ≠ "type" →
      (∀ a ∈ args, IsIdentifier a.1 ∧ WritableArgument a.2) → WritableTerm (.call name args)

structure WritableRule (r : WrittenRule) : Prop where
  name : ∀ s ∈ r.name, IsIdentifier s
  clauses : ∀ c ∈ r.clauses, WritableTerm c.term

def spaced (ts : List Token) : List Char := ts.flatMap fun t => ' ' :: t.text

theorem rendering_spaced {ts : List Token} (h : ∀ t ∈ ts, t.WellFormed) :
    Rendering ts (spaced ts) := by
  refine ⟨[], ?_, .nothing []⟩
  induction ts with
  | nil => exact .nil []
  | cons t ts ih =>
    have hblank : Layout [' '] (t.text ++ spaced ts) := .space rfl (.nothing _)
    have hends : t.EndsBefore (spaced ts) := by
      cases t with
      | word s =>
        intro c hc
        cases ts with
        | nil => simp [spaced] at hc
        | cons u us =>
          obtain rfl : ' ' = c := by simpa [spaced] using hc
          decide
      | symbol c => trivial
      | number n => trivial
      | quoted content => trivial
    exact .cons (h t (by simp)) hblank hends (ih fun u hu => h u (by simp [hu]))

/-- Some well-formed tokens spell the part. -/
def IsSpelled {α : Type} (spells : α → List Token → Prop) (a : α) : Prop :=
  ∃ ts, spells a ts ∧ ∀ t ∈ ts, t.WellFormed

theorem isSpelled_sequence {α : Type} {spells : α → List Token → Prop} {lead : List Token}
    (hlead : ∀ t ∈ lead, t.WellFormed) {as : List α} (h : ∀ a ∈ as, IsSpelled spells a) :
    IsSpelled (Sequence lead spells) as := by
  induction as with
  | nil => exact ⟨[], .nil, by simp⟩
  | cons a as ih =>
    obtain ⟨ts, hts, hwell⟩ := h a (by simp)
    obtain ⟨us, hus, hwell'⟩ := ih fun b hb => h b (by simp [hb])
    refine ⟨_, .cons hts hus, fun t ht => ?_⟩
    rcases List.mem_append.mp ht with ht | ht
    · exact hlead t ht
    · rcases List.mem_append.mp ht with ht | ht
      · exact hwell t ht
      · exact hwell' t ht

theorem isSpelled_separated {α : Type} {spells : α → List Token → Prop} {as : List α}
    (h : ∀ a ∈ as, IsSpelled spells a) : IsSpelled (Separated spells) as := by
  cases as with
  | nil => exact ⟨[], .nil, by simp⟩
  | cons a as =>
    obtain ⟨ts, hts, hwell⟩ := h a (by simp)
    have hcomma : ∀ t ∈ [Token.symbol ','], t.WellFormed :=
      List.forall_mem_singleton.mpr (by decide)
    have hmore : ∀ b ∈ as, IsSpelled spells b := fun b hb => h b (by simp [hb])
    obtain ⟨us, hus, hwell'⟩ := isSpelled_sequence hcomma hmore
    refine ⟨_, .cons hts hus, fun t ht => ?_⟩
    rcases List.mem_append.mp ht with ht | ht
    · exact hwell t ht
    · exact hwell' t ht

/-- The digits of a whole number, after a sign if it is negative. -/
def integerWord (k : Int) : NumberWord := ⟨decide (k < 0), Nat.toDigits 10 k.natAbs, none⟩

theorem isNumber_integerWord (k : Int) : IsNumber (integerWord k) := by
  refine ⟨⟨Nat.toDigits_ne_nil, fun c hc => ?_⟩, by simp [integerWord]⟩
  exact Nat.isDigit_of_mem_toDigits (by decide) (by decide) hc

theorem wholeValue_integerWord (k : Int) : wholeValue (integerWord k) = k := by
  rw [← toInt_eq_wholeValue]
  simp only [integerWord, NumberWord.toInt, Nat.ofDigitChars_ten_toDigits, decide_eq_true_eq]
  by_cases hk : k < 0
  · rw [if_pos hk]; omega
  · rw [if_neg hk]; omega

theorem isSpelled_of_token {α : Type} {spells : α → List Token → Prop} {a : α} {t : Token}
    (h : spells a [t]) (ht : t.WellFormed) : IsSpelled spells a :=
  ⟨[t], h, by simpa using ht⟩

theorem isSpelled_literal {v : Value} (h : WritableLiteral v) :
    IsSpelled (SpellsLiteral Escaped) v := by
  induction h with
  | null => exact isSpelled_of_token .null (by decide)
  | bool b =>
    refine isSpelled_of_token (.bool b) ?_
    cases b <;> decide
  | int k =>
    exact isSpelled_of_token (.int rfl (wholeValue_integerWord k.toInt))
      (isNumber_integerWord k.toInt)
  | float hx =>
    obtain ⟨n, hn, hplaces, rfl⟩ := hx
    exact isSpelled_of_token (.float hplaces) hn
  | string s => exact isSpelled_of_token (.string rfl) trivial
  | list _ ih =>
    obtain ⟨ts, hts, hwell⟩ := isSpelled_separated ih
    refine ⟨_, .list hts, ?_⟩
    rw [List.forall_mem_cons, List.forall_mem_append]
    exact ⟨by decide, hwell, List.forall_mem_singleton.mpr (by decide)⟩

theorem isSpelled_argument {a : Argument} (h : WritableArgument a) :
    IsSpelled (SpellsArgument Escaped) a := by
  cases h with
  | literal hv =>
    obtain ⟨ts, hts, hwell⟩ := isSpelled_literal hv
    exact ⟨ts, .literal hts, hwell⟩
  | word hs hword => exact isSpelled_of_token (.word hword) hs

theorem isSpelled_parameter {a : String × Argument} (hname : IsIdentifier a.1)
    (h : WritableArgument a.2) : IsSpelled (SpellsParameter Escaped) a := by
  obtain ⟨ts, hts, hwell⟩ := isSpelled_argument h
  refine ⟨_, .mk hts, ?_⟩
  rw [List.forall_mem_cons, List.forall_mem_cons]
  exact ⟨hname, by decide, hwell⟩

theorem isSpelled_term {t : Term} (h : WritableTerm t) : IsSpelled (SpellsTerm Escaped) t := by
  cases h with
  | literal hv =>
    obtain ⟨ts, hts, hwell⟩ := isSpelled_literal hv
    exact ⟨ts, .literal hts, hwell⟩
  | @typeRef name hname =>
    refine ⟨_, .typeRef name, ?_⟩
    simp only [List.forall_mem_cons]
    exact ⟨by decide, by decide, hname,
      by decide, by simp⟩
  | call hname hword htype hargs =>
    obtain ⟨ts, hts, hwell⟩ :=
      isSpelled_separated fun a ha => isSpelled_parameter (hargs a ha).1 (hargs a ha).2
    refine ⟨_, .call hword htype hts, ?_⟩
    rw [List.forall_mem_cons, List.forall_mem_cons, List.forall_mem_append]
    exact ⟨hname, by decide, hwell, List.forall_mem_singleton.mpr (by decide)⟩

theorem isSpelled_clause {c : Clause} (h : WritableTerm c.term) :
    IsSpelled (SpellsClause Escaped) c := by
  obtain ⟨ts, hts, hwell⟩ := isSpelled_term h
  refine ⟨_, .mk hts, ?_⟩
  rw [List.forall_mem_cons]
  refine ⟨?_, hwell⟩
  cases c.kind <;> decide

theorem isSpelled_rule {r : WrittenRule} (h : WritableRule r) :
    IsSpelled (SpellsRule Escaped) r := by
  obtain ⟨ts, hts, hwell⟩ :=
    isSpelled_sequence (List.forall_mem_nil _) fun c hc => isSpelled_clause (h.clauses c hc)
  refine ⟨_, .mk hts, ?_⟩
  rw [List.forall_mem_cons, List.forall_mem_append, List.forall_mem_cons]
  refine ⟨by decide, fun t ht => ?_, by decide, hwell⟩
  obtain ⟨s, hs, rfl⟩ := List.mem_map.mp ht
  exact h.name s (Option.mem_toList.mp hs)

end ConversionRules.Spelling

namespace ConversionRules

open Spelling

/-- Whether a document can be written down. -/
def Document.Writable (d : Document) : Prop := ∀ r ∈ d.rules, WritableRule r

/-- A document that can be written down has a text. -/
theorem Document.Writable.exists_rendering {d : Document} (h : d.Writable) :
    ∃ ts input, d.Spells Escaped ts ∧ Rendering ts (String.toList input) := by
  obtain ⟨ts, hts, hwell⟩ :=
    isSpelled_sequence (List.forall_mem_nil _) fun r hr => isSpelled_rule (h r hr)
  refine ⟨ts, String.ofList (spaced ts), hts, ?_⟩
  rw [String.toList_ofList]
  exact rendering_spaced hwell

end ConversionRules
