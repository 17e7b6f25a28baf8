import ConversionRules.Proofs.Document.Repetition

/-!
Literals in both directions. The reader of literals reads every spelling of a
literal that is not followed by a digit or a point, it reads nothing else, and
where no literal begins it lets another part be tried.
-/
namespace ConversionRules.Spelling

open Lexeme Grammar

variable {quotes : String → List Char → Prop} {cs rest : List Char}

theorem spellsLiteral_of_keywordValue? {s : String} {v : Value} (h : keywordValue? s = some v) :
    SpellsLiteral quotes v [.word s] := by
  unfold keywordValue? at h
  split at h
  · cases h; exact .null
  · cases h; exact .bool true
  · cases h; exact .bool false
  · simp at h

theorem keywordValue?_eq_none_iff {s : String} : keywordValue? s = none ↔ s ∉ literalWords := by
  unfold keywordValue? literalWords
  split <;> simp_all

theorem keyword_reads_iff {v : Value} :
    Reads (keyword cs) v rest ↔
      ∃ s, keywordValue? s = some v ∧ (Token.word s).Begins cs rest := by
  unfold keyword
  constructor
  · intro h
    split at h
    · simp at h
    · rename_i s r hs
      split at h
      · simp at h
      · rename_i v' hv
        rw [reads_ok_iff] at h
        obtain ⟨rfl, rfl⟩ := h
        exact ⟨s, hv, identifier?_finds_iff.mp ⟨r.property, hs⟩⟩
  · intro hyp
    rcases hyp with ⟨s, hv, hbegins⟩
    obtain ⟨hlen, hs⟩ := identifier?_finds_iff.mpr hbegins
    rw [hs]
    simp [hv]

theorem refuses_keyword (h : ∀ s r, (Token.word s).Begins cs r → s ∉ literalWords) :
    Refuses (keyword cs) := by
  unfold keyword
  split
  · exact refuses_retry cs
  · rename_i s r hs
    have hword := h s r.val (identifier?_finds_iff.mp ⟨r.property, hs⟩)
    rw [keywordValue?_eq_none_iff.mpr hword]
    exact refuses_retry cs

theorem spellsLiteral_of_number {v : Value} (h : Reads (number cs) v rest) :
    ∃ n, (Token.number n).Begins cs rest ∧ SpellsLiteral quotes v [.number n] := by
  unfold number at h
  split at h
  · simp at h
  · rename_i n r hn
    have hbegins : (Token.number n).Begins cs r.val := begins_of_numeral? ⟨r.property, hn⟩
    split at h
    · rename_i hplaces
      rw [reads_ok_iff] at h
      obtain ⟨rfl, rfl⟩ := h
      rw [toBinary64_eq_nearestValue]
      exact ⟨n, hbegins, .float hplaces⟩
    · rename_i hplaces
      split at h
      · rename_i hrange
        rw [reads_ok_iff] at h
        obtain ⟨rfl, rfl⟩ := h
        refine ⟨n, hbegins, .int (by simpa using hplaces) ?_⟩
        simp only [Bool.and_eq_true, decide_eq_true_eq] at hrange
        rw [← toInt_eq_wholeValue]
        exact (Int64.toInt_ofInt_of_le hrange.1 (Int.lt_add_one_of_le hrange.2)).symm
      · simp at h

theorem number_reads_int {n : NumberWord} {k : Int64} (h : (Token.number n).Begins cs rest)
    (hend : NumberEnd rest) (hplaces : n.places = none) (hk : wholeValue n = k.toInt) :
    Reads (number cs) (.int k) rest := by
  rw [← toInt_eq_wholeValue] at hk
  obtain ⟨hlen, hn⟩ := numeral?_of_begins h hend
  have hrange : Int64.minValue.toInt ≤ k.toInt ∧ k.toInt ≤ Int64.maxValue.toInt :=
    ⟨k.minValue_le_toInt, k.toInt_le⟩
  unfold number
  rw [hn]
  simp only [hplaces, Option.isSome_none, hk, Bool.false_eq_true, if_false, hrange.1, hrange.2,
    decide_true, Bool.and_self, if_true, Int64.ofInt_toInt]
  exact ⟨hlen, rfl⟩

theorem number_reads_float {n : NumberWord} (h : (Token.number n).Begins cs rest)
    (hend : NumberEnd rest) (hplaces : n.places.isSome = true) :
    Reads (number cs) (.float (nearestValue n)) rest := by
  obtain ⟨hlen, hn⟩ := numeral?_of_begins h hend
  unfold number
  rw [hn, ← toBinary64_eq_nearestValue]
  simp only [hplaces, if_true]
  exact ⟨hlen, rfl⟩

theorem number_eq_retry (h : ∀ c ∈ cs.head?, c ≠ '-' ∧ c.isDigit = false) :
    number cs = .error (.retry cs) := by
  rw [number, numeral?_eq_none h]

theorem spellsLiteral_of_atom {v : Value} (h : Reads (atom cs) v rest) :
    ∃ t, t.Begins cs rest ∧ SpellsLiteral StandsFor v [t] := by
  unfold atom at h
  split at h
  · rename_i s r hs
    rw [reads_ok_iff] at h
    obtain ⟨rfl, rfl⟩ := h
    obtain ⟨content, hcontent, hbegins⟩ := quoted?_finds_iff.mp ⟨r.property, hs⟩
    exact ⟨.quoted content, hbegins, .string hcontent⟩
  · split at h
    · rename_i x hx
      have hnumber : Reads (number cs) v rest := by rw [hx]; exact h
      obtain ⟨n, hbegins, hv⟩ := spellsLiteral_of_number hnumber
      exact ⟨.number n, hbegins, hv⟩
    · split at h
      · simp at h
      · obtain ⟨s, hv, hbegins⟩ := keyword_reads_iff.mp h
        exact ⟨.word s, hbegins, spellsLiteral_of_keywordValue? hv⟩

theorem atom_of_quoted {s : String} {content : List Char} (hs : StandsFor s content)
    (h : (Token.quoted content).Begins cs rest) : Reads (atom cs) (.string s) rest := by
  obtain ⟨hlen, heq⟩ := quoted?_finds_iff.mpr ⟨content, hs, h⟩
  rw [atom, heq]
  exact ⟨hlen, rfl⟩

theorem atom_of_number {n : NumberWord} {v : Value} (h : (Token.number n).Begins cs rest)
    (hv : Reads (number cs) v rest) : Reads (atom cs) v rest := by
  have hquoted : quoted? cs = none := by
    apply quoted?_eq_none (h.forall_head _)
    intro c hc
    rcases hc with rfl | hc
    · decide
    · exact ne_of_isDigit hc (by decide)
  obtain ⟨hlen, heq⟩ := hv
  rw [atom, hquoted, heq]
  exact ⟨hlen, rfl⟩

/-- Where neither a text nor a number begins, only a word can be a literal. -/
theorem atom_eq_keyword (hquote : ∀ c ∈ cs.head?, c ≠ '"')
    (hnumber : ∀ c ∈ cs.head?, c ≠ '-' ∧ c.isDigit = false) : atom cs = keyword cs := by
  rw [atom, quoted?_eq_none hquote, number_eq_retry hnumber]
  rfl

theorem atom_of_word {s : String} (h : (Token.word s).Begins cs rest) : atom cs = keyword cs := by
  refine atom_eq_keyword (h.forall_head fun c hc => ?_) (h.forall_head fun c hc => ⟨?_, ?_⟩)
  · exact ne_of_startsIdentifier hc (by decide)
  · exact ne_of_startsIdentifier hc (by decide)
  · exact isDigit_of_startsIdentifier hc

theorem literal_eq_atom (h : ∀ c ∈ (skip cs).head?, c ≠ '[') :
    literal cs = within .literal (afterSkip (atom (skip cs))) := by
  rw [literal, symbol?_eq_none h]

theorem literal_of_number {n : NumberWord} {v : Value}
    (h : (Token.number n).Begins (skip cs) rest) (hv : Reads (number (skip cs)) v rest) :
    Reads (literal cs) v rest := by
  have hbracket : ∀ c ∈ (skip cs).head?, c ≠ '[' := by
    refine h.forall_head fun c hc => ?_
    rcases hc with rfl | hc
    · decide
    · exact ne_of_isDigit hc (by decide)
  rw [literal_eq_atom hbracket, reads_within_iff, reads_afterSkip_iff]
  exact atom_of_number h hv

/-- Where a word begins, the literal is the word or there is none. -/
theorem literal_of_word {s : String} (h : (Token.word s).Begins (skip cs) rest) :
    literal cs = within .literal (afterSkip (keyword (skip cs))) := by
  have hbracket : ∀ c ∈ (skip cs).head?, c ≠ '[' :=
    h.forall_head fun c hc => ne_of_startsIdentifier hc (by decide)
  rw [literal_eq_atom hbracket, atom_of_word h]

theorem literal_reads_word {s : String} {v : Value} (h : (Token.word s).Begins (skip cs) rest)
    (hv : keywordValue? s = some v) : Reads (literal cs) v rest := by
  rw [literal_of_word h, reads_within_iff, reads_afterSkip_iff]
  exact keyword_reads_iff.mpr ⟨s, hv, h⟩

theorem not_mem_literalWords_of_refuses {s : String} (h : (Token.word s).Begins (skip cs) rest)
    (hrefuses : Refuses (literal cs)) : s ∉ literalWords := by
  rw [← keywordValue?_eq_none_iff]
  cases hv : keywordValue? s with
  | none => rfl
  | some v =>
    obtain ⟨f, herror, -⟩ := hrefuses
    have hreads := literal_reads_word h hv
    simp [herror] at hreads

theorem refuses_literal_of_word {s : String} (h : (Token.word s).Begins (skip cs) rest)
    (hs : s ∉ literalWords) : Refuses (literal cs) := by
  rw [literal_of_word h]
  refine refuses_within (refuses_afterSkip (refuses_keyword fun s' r h' => ?_))
  obtain ⟨hlen, heq⟩ := identifier?_finds_iff.mpr h
  obtain ⟨hlen', heq'⟩ := identifier?_finds_iff.mpr h'
  cases heq.symm.trans heq'
  exact hs

/-- No literal begins at a symbol other than the opening bracket. -/
theorem refuses_literal_of_symbol {s : Char} (h : (Token.symbol s).Begins (skip cs) rest)
    (hs : s ≠ '[') : Refuses (literal cs) := by
  have hbracket : ∀ c ∈ (skip cs).head?, c ≠ '[' := h.forall_head fun c hc => hc.1 ▸ hs
  have hquote : ∀ c ∈ (skip cs).head?, c ≠ '"' :=
    h.forall_head fun c hc => (of_mem_symbols hc.2).2.2.2.2
  have hnumber : ∀ c ∈ (skip cs).head?, c ≠ '-' ∧ c.isDigit = false := by
    refine h.forall_head fun c hc => ?_
    obtain ⟨-, hdigit, hminus, -, -⟩ := of_mem_symbols hc.2
    exact ⟨hminus, hdigit⟩
  rw [literal_eq_atom hbracket, atom_eq_keyword hquote hnumber, keyword,
    identifier?_eq_none_of_symbol h]
  exact refuses_within (refuses_afterSkip (refuses_retry _))

/-- What is read as a literal spells it. -/
theorem spellsLiteral_of_literal {cs rest : List Char} {v : Value} (h : Reads (literal cs) v rest) :
    ∃ ts, SpellsLiteral StandsFor v ts ∧ Laid ts cs rest := by
  have ih : ∀ r, r.length < cs.length → ∀ a r', Reads (literal r) a r' →
      ∃ ts, SpellsLiteral StandsFor a ts ∧ Laid ts r r' :=
    fun r hlen a r' hr => spellsLiteral_of_literal hr
  rw [literal, reads_within_iff] at h
  split at h
  · rw [reads_afterSkip_iff] at h
    obtain ⟨t, hbegins, hv⟩ := spellsLiteral_of_atom h
    exact ⟨[t], hv, laid_singleton_iff.mpr hbegins⟩
  · rename_i next hnext hopen
    have hopen := begins_of_symbol? (by decide) hopen
    split at h
    · simp at h
    · rename_i items r hr hitems
      obtain ⟨ts, hts, hlaid⟩ := exists_separated ih ⟨hr, hitems⟩
      split at h
      · simp at h
      · rename_i last hlast hclose
        rw [reads_ok_iff] at h
        obtain ⟨rfl, rfl⟩ := h
        have hclose := begins_of_symbol? (by decide) hclose
        refine ⟨_, .list hts, laid_cons_iff.mpr ⟨next, hopen, ?_⟩⟩
        exact laid_append_iff.mpr ⟨r, hlaid, laid_singleton_iff.mpr hclose⟩
  termination_by cs.length

/-- Every spelling of a literal is read, unless it is a number that goes on. -/
theorem literal_of_laid (hquotes : ∀ s content, quotes s content → StandsFor s content)
    {cs rest : List Char} {v : Value} {ts : List Token} (hv : SpellsLiteral quotes v ts)
    (h : Laid ts cs rest) (hend : NumberEnd rest) : Reads (literal cs) v rest := by
  have ih : ∀ {r a us r'}, r.length < cs.length → SpellsLiteral quotes a us → Laid us r r' →
      NumberEnd r' → Reads (literal r) a r' :=
    fun hlen ha hr hr' => literal_of_laid hquotes ha hr hr'
  cases hv with
  | null => exact literal_reads_word (laid_singleton_iff.mp h) rfl
  | bool b =>
    have hb : keywordValue? (if b then "true" else "false") = some (.bool b) := by
      cases b <;> rfl
    exact literal_reads_word (laid_singleton_iff.mp h) hb
  | int hplaces hk =>
    have hbegins := laid_singleton_iff.mp h
    exact literal_of_number hbegins (number_reads_int hbegins hend hplaces hk)
  | float hplaces =>
    have hbegins := laid_singleton_iff.mp h
    exact literal_of_number hbegins (number_reads_float hbegins hend hplaces)
  | @string s content hs =>
    have hbegins := laid_singleton_iff.mp h
    rw [literal_eq_atom (hbegins.forall_head ?_), reads_within_iff, reads_afterSkip_iff]
    · exact atom_of_quoted (hquotes s content hs) hbegins
    · intro c hc
      rcases hc with rfl
      decide
  | @list items us hitems =>
    obtain ⟨next, hopen, htail⟩ := laid_cons_iff.mp h
    obtain ⟨mid, hlaid, hclose⟩ := laid_append_iff.mp htail
    have hmid := laid_singleton_iff.mp hclose
    obtain ⟨hnext, heq⟩ := symbol?_of_begins hopen
    obtain ⟨hrest, heq'⟩ := symbol?_of_begins hmid
    obtain ⟨hlen, hread⟩ := separated_of_laid (fun hlen => ih hlen) hnext hitems hlaid
      (numberEnd_of_symbol hclose) (symbol?_eq_none_of_symbol hmid (by decide))
      fun _ => refuses_literal_of_symbol hmid (by decide)
    rw [literal, reads_within_iff, heq]
    simp only
    rw [hread]
    simp only
    rw [heq']
    simp
  termination_by cs.length

end ConversionRules.Spelling
