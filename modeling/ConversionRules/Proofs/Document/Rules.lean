import ConversionRules.Proofs.Document.Literals

/-!
Parameters, terms, clauses and rules in both directions. A part that begins
with a word of the grammar is read as that part or not at all, so the order in
which the parts are tried leaves no spelling unread and lets no other text in.
-/
namespace ConversionRules.Spelling

open Lexeme Grammar

variable {quotes : String → List Char → Prop} {cs rest : List Char}

theorem spellsArgument_of_argumentValue {a : Argument} (h : Reads (argumentValue cs) a rest) :
    ∃ ts, SpellsArgument StandsFor a ts ∧ Laid ts cs rest := by
  unfold argumentValue at h
  split at h
  · rename_i v r hv
    rw [reads_ok_iff] at h
    obtain ⟨rfl, rfl⟩ := h
    obtain ⟨ts, hts, hlaid⟩ := spellsLiteral_of_literal ⟨r.property, hv⟩
    exact ⟨ts, .literal hts, hlaid⟩
  · rename_i f hf
    split at h
    · simp at h
    · rename_i hfatal
      rw [reads_afterSkip_iff] at h
      split at h
      · simp at h
      · rename_i s r hs
        rw [reads_ok_iff] at h
        obtain ⟨rfl, rfl⟩ := h
        have hbegins := identifier?_finds_iff.mp ⟨r.property, hs⟩
        have hword := not_mem_literalWords_of_refuses hbegins ⟨f, hf, by simpa using hfatal⟩
        exact ⟨[.word s], .word hword, laid_singleton_iff.mpr hbegins⟩

theorem argumentValue_of_laid (hquotes : ∀ s content, quotes s content → StandsFor s content)
    {a : Argument} {ts : List Token} (ha : SpellsArgument quotes a ts) (h : Laid ts cs rest)
    (hend : NumberEnd rest) : Reads (argumentValue cs) a rest := by
  cases ha with
  | literal hv =>
    obtain ⟨hlen, heq⟩ := literal_of_laid hquotes hv h hend
    rw [argumentValue, heq]
    exact ⟨hlen, rfl⟩
  | word hs =>
    have hbegins := laid_singleton_iff.mp h
    obtain ⟨f, hf, hfatal⟩ := refuses_literal_of_word hbegins hs
    obtain ⟨hlen, heq⟩ := identifier?_finds_iff.mpr hbegins
    rw [argumentValue, hf]
    simp only [hfatal, Bool.false_eq_true, if_false]
    rw [reads_afterSkip_iff, heq]
    exact ⟨hlen, rfl⟩

theorem spellsParameter_of_argument {a : String × Argument} (h : Reads (argument cs) a rest) :
    ∃ ts, SpellsParameter StandsFor a ts ∧ Laid ts cs rest := by
  rw [argument, reads_afterSkip_iff] at h
  split at h
  · simp at h
  · rename_i name r hr hname
    split at h
    · simp at h
    · rename_i r' hr' hequals
      split at h
      · simp at h
      · rename_i v r'' hr'' hv
        rw [reads_ok_iff] at h
        obtain ⟨rfl, rfl⟩ := h
        obtain ⟨ts, hts, hlaid⟩ := spellsArgument_of_argumentValue ⟨hr'', hv⟩
        have hname := identifier?_finds_iff.mp ⟨hr, hname⟩
        have hequals := begins_of_symbol? (by decide) hequals
        exact ⟨_, .mk hts, laid_cons_iff.mpr ⟨r, hname, laid_cons_iff.mpr ⟨r', hequals, hlaid⟩⟩⟩

theorem argument_of_laid (hquotes : ∀ s content, quotes s content → StandsFor s content)
    {a : String × Argument} {ts : List Token} (ha : SpellsParameter quotes a ts)
    (h : Laid ts cs rest) (hend : NumberEnd rest) : Reads (argument cs) a rest := by
  obtain @⟨name, v, ts, hv⟩ := ha
  obtain ⟨r, hname, htail⟩ := laid_cons_iff.mp h
  obtain ⟨r', hequals, hlaid⟩ := laid_cons_iff.mp htail
  obtain ⟨_, heq⟩ := identifier?_finds_iff.mpr hname
  obtain ⟨_, heq'⟩ := symbol?_of_begins hequals
  obtain ⟨_, heq''⟩ := argumentValue_of_laid hquotes hv hlaid hend
  rw [argument, reads_afterSkip_iff, heq]
  simp only [heq', heq'', reads_ok_iff, and_self]

theorem refuses_argument_of_symbol {s : Char} (h : (Token.symbol s).Begins (skip cs) rest) :
    Refuses (argument cs) := by
  rw [argument, identifier?_eq_none_of_symbol h]
  exact refuses_afterSkip (refuses_retry _)

theorem spellsTerm_of_typeReference {t : Term} (h : Reads (typeReference cs) t rest) :
    ∃ name, t = .typeRef name ∧ Laid [.word name, .symbol ')'] cs rest := by
  rw [typeReference, reads_afterSkip_iff] at h
  split at h
  · simp at h
  · rename_i name r hr hname
    split at h
    · simp at h
    · rename_i r' hr' hclose
      rw [reads_ok_iff] at h
      obtain ⟨rfl, rfl⟩ := h
      have hname := identifier?_finds_iff.mp ⟨hr, hname⟩
      have hclose := begins_of_symbol? (by decide) hclose
      exact ⟨name, rfl, laid_cons_iff.mpr ⟨r, hname, laid_singleton_iff.mpr hclose⟩⟩

theorem typeReference_of_laid {name : String} (h : Laid [.word name, .symbol ')'] cs rest) :
    Reads (typeReference cs) (.typeRef name) rest := by
  obtain ⟨r, hname, htail⟩ := laid_cons_iff.mp h
  obtain ⟨_, heq⟩ := identifier?_finds_iff.mpr hname
  obtain ⟨_, heq'⟩ := symbol?_of_begins (laid_singleton_iff.mp htail)
  rw [typeReference, reads_afterSkip_iff, heq]
  simp only [heq', reads_ok_iff, and_self]

theorem separated_of_callArguments {name : String} {t : Term}
    (h : Reads (callArguments name cs) t rest) :
    ∃ args ts, t = .call name args ∧ Separated (SpellsParameter StandsFor) args ts ∧
      Laid (ts ++ [.symbol ')']) cs rest := by
  unfold callArguments at h
  split at h
  · simp at h
  · rename_i args r hr hargs
    split at h
    · simp at h
    · rename_i r' hr' hclose
      rw [reads_ok_iff] at h
      obtain ⟨rfl, rfl⟩ := h
      obtain ⟨ts, hts, hlaid⟩ :=
        exists_separated (fun _ _ _ _ ha => spellsParameter_of_argument ha) ⟨hr, hargs⟩
      have hclose := begins_of_symbol? (by decide) hclose
      exact ⟨args, ts, rfl, hts, laid_append_iff.mpr ⟨r, hlaid, laid_singleton_iff.mpr hclose⟩⟩

theorem callArguments_of_laid (hquotes : ∀ s content, quotes s content → StandsFor s content)
    {name : String} {args : List (String × Argument)} {ts : List Token}
    (hargs : Separated (SpellsParameter quotes) args ts)
    (h : Laid (ts ++ [.symbol ')']) cs rest) :
    Reads (callArguments name cs) (.call name args) rest := by
  obtain ⟨mid, hlaid, hclose⟩ := laid_append_iff.mp h
  have hmid := laid_singleton_iff.mp hclose
  obtain ⟨_, heq⟩ := separated_of_laid (fun _ ha => argument_of_laid hquotes ha)
    (Nat.lt_succ_self _) hargs hlaid (numberEnd_of_symbol hclose)
    (symbol?_eq_none_of_symbol hmid (by decide)) fun _ => refuses_argument_of_symbol hmid
  obtain ⟨_, heq'⟩ := symbol?_of_begins hmid
  rw [callArguments, heq]
  simp only [heq', reads_ok_iff, and_self]

/-- A name that is no literal, and parentheses. -/
theorem spellsTerm_of_call {t : Term} (h : Reads (call (skip cs)) t rest)
    (hname : ∀ s r, (Token.word s).Begins (skip cs) r → s ∉ literalWords) :
    ∃ ts, SpellsTerm StandsFor t ts ∧ Laid ts cs rest := by
  unfold call at h
  split at h
  · simp at h
  · rename_i name r hr hs
    have hbegins := identifier?_finds_iff.mp ⟨hr, hs⟩
    split at h
    · simp at h
    · rename_i r' hr' hopen
      have hopen := begins_of_symbol? (by decide) hopen
      split at h
      · simp at h
      · rename_i t' r'' hr'' ht
        rw [reads_ok_iff] at h
        obtain ⟨rfl, rfl⟩ := h
        by_cases htype : name = "type"
        · rw [if_pos htype] at ht
          obtain ⟨s, rfl, hlaid⟩ := spellsTerm_of_typeReference ⟨hr'', ht⟩
          refine ⟨_, .typeRef s, laid_cons_iff.mpr ⟨r, htype ▸ hbegins, ?_⟩⟩
          exact laid_cons_iff.mpr ⟨r', hopen, hlaid⟩
        · rw [if_neg htype] at ht
          obtain ⟨args, ts, rfl, hargs, hlaid⟩ := separated_of_callArguments ⟨hr'', ht⟩
          refine ⟨_, .call (hname name r hbegins) htype hargs, ?_⟩
          exact laid_cons_iff.mpr ⟨r, hbegins, laid_cons_iff.mpr ⟨r', hopen, hlaid⟩⟩

theorem spellsTerm_of_term {t : Term} (h : Reads (term cs) t rest) :
    ∃ ts, SpellsTerm StandsFor t ts ∧ Laid ts cs rest := by
  rw [term, reads_within_iff] at h
  split at h
  · rename_i v r hv
    rw [reads_ok_iff] at h
    obtain ⟨rfl, rfl⟩ := h
    obtain ⟨ts, hts, hlaid⟩ := spellsLiteral_of_literal ⟨r.property, hv⟩
    exact ⟨ts, .literal hts, hlaid⟩
  · rename_i f hf
    split at h
    · simp at h
    · rename_i hfatal
      rw [reads_afterSkip_iff] at h
      exact spellsTerm_of_call h fun s r hbegins =>
        not_mem_literalWords_of_refuses hbegins ⟨f, hf, by simpa using hfatal⟩

theorem term_of_name {name : String} {r r' : List Char} {t : Term}
    (hname : (Token.word name).Begins (skip cs) r) (hopen : (Token.symbol '(').Begins (skip r) r')
    (hword : name ∉ literalWords)
    (ht : Reads (if name = "type" then typeReference r' else callArguments name r') t rest) :
    Reads (term cs) t rest := by
  obtain ⟨f, hf, hfatal⟩ := refuses_literal_of_word hname hword
  obtain ⟨_, heq⟩ := identifier?_finds_iff.mpr hname
  obtain ⟨_, heq'⟩ := symbol?_of_begins hopen
  obtain ⟨_, heq''⟩ := ht
  rw [term, reads_within_iff, hf]
  simp only [hfatal, Bool.false_eq_true, if_false]
  rw [reads_afterSkip_iff, call, heq]
  simp only [heq', heq'', reads_ok_iff, and_self]

theorem term_of_laid (hquotes : ∀ s content, quotes s content → StandsFor s content)
    {t : Term} {ts : List Token} (ht : SpellsTerm quotes t ts) (h : Laid ts cs rest)
    (hend : NumberEnd rest) : Reads (term cs) t rest := by
  cases ht with
  | literal hv =>
    obtain ⟨hlen, heq⟩ := literal_of_laid hquotes hv h hend
    rw [term, reads_within_iff, heq]
    exact ⟨hlen, rfl⟩
  | typeRef name =>
    obtain ⟨r, hname, htail⟩ := laid_cons_iff.mp h
    obtain ⟨r', hopen, hlaid⟩ := laid_cons_iff.mp htail
    apply term_of_name hname hopen (by decide)
    rw [if_pos rfl]
    exact typeReference_of_laid hlaid
  | call hword htype hargs =>
    obtain ⟨r, hname, htail⟩ := laid_cons_iff.mp h
    obtain ⟨r', hopen, hlaid⟩ := laid_cons_iff.mp htail
    apply term_of_name hname hopen hword
    rw [if_neg htype]
    exact callArguments_of_laid hquotes hargs hlaid

theorem clauseKind?_eq_some_iff {s : String} {kind : ClauseKind} :
    clauseKind? s = some kind ↔ s = kind.keyword := by
  constructor
  · intro h
    unfold clauseKind? at h
    split at h <;> cases h <;> rfl
  · intro heq
    subst heq
    cases kind <;> rfl

theorem spellsClause_of_clause {c : Clause} (h : Reads (clause cs) c rest) :
    ∃ ts, SpellsClause StandsFor c ts ∧ Laid ts cs rest := by
  rw [clause, reads_afterSkip_iff] at h
  split at h
  · simp at h
  · rename_i s r hr hs
    split at h
    · simp at h
    · rename_i kind hkind
      split at h
      · simp at h
      · rename_i t r' hr' ht
        rw [reads_ok_iff] at h
        obtain ⟨rfl, rfl⟩ := h
        obtain ⟨ts, hts, hlaid⟩ := spellsTerm_of_term ⟨hr', ht⟩
        have hbegins := identifier?_finds_iff.mp ⟨hr, hs⟩
        obtain rfl := clauseKind?_eq_some_iff.mp hkind
        exact ⟨_, .mk hts, laid_cons_iff.mpr ⟨r, hbegins, hlaid⟩⟩

theorem clause_of_laid (hquotes : ∀ s content, quotes s content → StandsFor s content)
    {c : Clause} {ts : List Token} (hc : SpellsClause quotes c ts) (h : Laid ts cs rest)
    (hend : NumberEnd rest) : Reads (clause cs) c rest := by
  obtain @⟨kind, t, ts, ht⟩ := hc
  obtain ⟨r, hkeyword, hlaid⟩ := laid_cons_iff.mp h
  obtain ⟨_, heq⟩ := identifier?_finds_iff.mpr hkeyword
  obtain ⟨_, heq'⟩ := term_of_laid hquotes ht hlaid hend
  rw [clause, reads_afterSkip_iff, heq]
  simp only [clauseKind?_eq_some_iff.mpr rfl, heq', reads_ok_iff, and_self]

theorem refuses_clause_of_word {s : String} (h : (Token.word s).Begins (skip cs) rest)
    (hs : clauseKind? s = none) : Refuses (clause cs) := by
  obtain ⟨_, heq⟩ := identifier?_finds_iff.mpr h
  rw [clause, heq]
  simp only [hs]
  exact refuses_afterSkip (refuses_retry _)

theorem refuses_clause_of_end (h : skip cs = []) : Refuses (clause cs) := by
  have hnone : identifier? (skip cs) = none := identifier?_eq_none (by simp [h])
  rw [clause, hnone]
  exact refuses_afterSkip (refuses_retry _)

theorem laid_of_ruleName {name : Option String} {mid : List Char} {hlen : mid.length ≤ cs.length}
    (h : ruleName cs = (name, ⟨mid, hlen⟩)) : Laid (name.toList.map Token.word) cs mid := by
  unfold ruleName at h
  split at h
  · cases h
    exact .nil cs
  · rename_i s r hr hs
    cases h
    exact laid_singleton_iff.mpr (identifier?_finds_iff.mp ⟨hr, hs⟩)

theorem ruleName_of_laid {name : Option String} {mid : List Char}
    (h : Laid (name.toList.map Token.word) cs mid)
    (hcolon : (Token.symbol ':').Begins (skip mid) rest) :
    ∃ hlen, ruleName cs = (name, ⟨mid, hlen⟩) := by
  cases name with
  | none =>
    cases h
    rw [ruleName, identifier?_eq_none_of_symbol hcolon]
    exact ⟨Nat.le_refl _, rfl⟩
  | some name =>
    obtain ⟨_, heq⟩ := identifier?_finds_iff.mpr (laid_singleton_iff.mp h)
    rw [ruleName, heq]
    exact ⟨_, rfl⟩

theorem spellsRule_of_rule {x : WrittenRule} (h : Reads (rule cs) x rest) :
    ∃ ts, SpellsRule StandsFor x ts ∧ Laid ts cs rest := by
  rw [rule, reads_afterSkip_iff] at h
  split at h
  · simp at h
  · rename_i s r hr hs
    split at h
    · rename_i hrule
      split at h
      rename_i name r₁ hr₁ hname
      split at h
      · simp at h
      · rename_i r₂ hr₂ hcolon
        split at h
        · simp at h
        · rename_i clauses r₃ hr₃ hclauses
          rw [reads_ok_iff] at h
          obtain ⟨rfl, rfl⟩ := h
          obtain ⟨ts, hts, hlaid⟩ :=
            sequence_of_many (fun _ _ _ hc => spellsClause_of_clause hc) ⟨hr₃, hclauses⟩
          have hbegins := identifier?_finds_iff.mp ⟨hr, hs⟩
          have hcolon := begins_of_symbol? (by decide) hcolon
          refine ⟨_, .mk hts, laid_cons_iff.mpr ⟨r, hrule ▸ hbegins, ?_⟩⟩
          refine laid_append_iff.mpr ⟨r₁, laid_of_ruleName hname, ?_⟩
          exact laid_cons_iff.mpr ⟨r₂, hcolon, hlaid⟩
    · simp at h

/-- What may follow the last clause of a rule: a text at which no clause
begins and on which no number runs. -/
def RuleEnd (cs : List Char) : Prop := NumberEnd cs ∧ Refuses (clause cs)

theorem ruleEnd_of_skip (h : skip cs = []) : RuleEnd cs :=
  ⟨numberEnd_of_skip (by simp [h, NumberEnd]), refuses_clause_of_end h⟩

theorem ruleEnd_of_rule {x : WrittenRule} {ts : List Token} (hx : SpellsRule quotes x ts)
    (h : Laid ts cs rest) : RuleEnd cs := by
  obtain @⟨name, clauses, ts, _⟩ := hx
  obtain ⟨r, hrule, _⟩ := laid_cons_iff.mp h
  exact ⟨numberEnd_of_word h, refuses_clause_of_word hrule rfl⟩

theorem rule_of_laid (hquotes : ∀ s content, quotes s content → StandsFor s content)
    {x : WrittenRule} {ts : List Token} (hx : SpellsRule quotes x ts) (h : Laid ts cs rest)
    (hend : RuleEnd rest) : Reads (rule cs) x rest := by
  obtain @⟨name, clauses, ts, hclauses⟩ := hx
  obtain ⟨r, hrule, htail⟩ := laid_cons_iff.mp h
  obtain ⟨r₁, hname, htail⟩ := laid_append_iff.mp htail
  obtain ⟨r₂, hcolon, hlaid⟩ := laid_cons_iff.mp htail
  obtain ⟨_, heq⟩ := identifier?_finds_iff.mpr hrule
  obtain ⟨_, heq₁⟩ := ruleName_of_laid hname hcolon
  obtain ⟨_, heq₂⟩ := symbol?_of_begins hcolon
  have hstart : ∀ {r c us r'}, SpellsClause quotes c us → Laid us r r' → NumberEnd r := by
    intro r c us r' hc hr
    cases hc
    exact numberEnd_of_word hr
  obtain ⟨_, heq₃⟩ := many_of_sequence (fun hc => clause_of_laid hquotes hc) hstart hclauses
    hlaid hend.1 hend.2
  rw [rule, reads_afterSkip_iff]
  split
  · rename_i hnone
    cases heq.symm.trans hnone
  · rename_i hword
    cases heq.symm.trans hword
    rw [if_pos rfl]
    split
    rename_i hname'
    cases heq₁.symm.trans hname'
    simp only [heq₂, heq₃, reads_ok_iff, and_self]

theorem refuses_rule_of_end (h : skip cs = []) : Refuses (rule cs) := by
  have hnone : identifier? (skip cs) = none := identifier?_eq_none (by simp [h])
  rw [rule, hnone]
  exact refuses_afterSkip (refuses_retry _)

end ConversionRules.Spelling
