import ConversionRules.Proofs.Document.Tokens

/-!
The readers of identifiers, symbols and quoted texts find a token exactly if
the text begins with it.
-/
namespace ConversionRules.Spelling

open Lexeme

/-- A reader finds a word and leaves the rest of the text. -/
def Finds {α : Type} {p : List Char → Prop} (x : Option (α × { r : List Char // p r })) (a : α)
    (rest : List Char) : Prop :=
  ∃ h, x = some (a, ⟨rest, h⟩)

@[simp] theorem finds_some_iff {α : Type} {p : List Char → Prop} {b a : α}
    {r : { r : List Char // p r }} {rest : List Char} :
    Finds (some (b, r)) a rest ↔ b = a ∧ r.val = rest := by
  constructor
  · intro hyp
    rcases hyp with ⟨h, heq⟩
    cases heq
    exact ⟨rfl, rfl⟩
  · intro hyp
    rcases hyp with ⟨rfl, rfl⟩
    exact ⟨r.property, rfl⟩

@[simp] theorem not_finds_none {α : Type} {p : List Char → Prop} {a : α} {rest : List Char} :
    ¬ Finds (none : Option (α × { r : List Char // p r })) a rest := by
  intro hyp
  rcases hyp with ⟨h, heq⟩
  cases heq

theorem identifier?_finds_iff {cs rest : List Char} {s : String} :
    Finds (identifier? cs) s rest ↔ (Token.word s).Begins cs rest := by
  constructor
  · intro h
    cases cs with
    | nil => simp [identifier?] at h
    | cons c cs =>
      by_cases hc : startsIdentifier c = true
      · simp only [identifier?, if_pos hc, finds_some_iff] at h
        obtain ⟨rfl, rfl⟩ := h
        obtain ⟨hsplit, hall, hstop⟩ := takeWhile_dropWhile_spec continuesIdentifier cs
        refine ⟨⟨c, _, String.toList_ofList, hc, hall⟩, ?_, hstop⟩
        rw [Token.text, String.toList_ofList, List.cons_append, ← hsplit]
      · simp [identifier?, if_neg hc] at h
  · intro hyp
    rcases hyp with ⟨⟨c, more, hs, hc, hall⟩, hcs, hstop⟩
    rw [Token.text, hs, List.cons_append] at hcs
    subst hcs
    obtain ⟨htake, hdrop⟩ := takeWhile_dropWhile_append hall hstop
    simp only [identifier?, if_pos hc, finds_some_iff]
    exact ⟨by rw [htake, ← hs, String.ofList_toList], hdrop⟩

theorem identifier?_eq_none {cs : List Char} (h : ∀ c ∈ cs.head?, startsIdentifier c = false) :
    identifier? cs = none := by
  cases cs with
  | nil => rfl
  | cons c cs =>
    have hc : startsIdentifier c = false := h c rfl
    simp [identifier?, hc]

/-- A symbol is looked for after layout. -/
theorem begins_of_symbol? {c : Char} {cs rest : List Char} {hlen : rest.length < cs.length}
    (hc : c ∈ symbols) (h : Grammar.symbol? c cs = some ⟨rest, hlen⟩) :
    (Token.symbol c).Begins (skip cs) rest := by
  unfold Grammar.symbol? at h
  split at h
  · simp at h
  · rename_i d more hskip
    split at h
    · rename_i hd
      cases h
      exact ⟨hc, by rw [hskip, hd, Token.text, List.singleton_append], trivial⟩
    · simp at h

theorem symbol?_of_begins {c : Char} {cs rest : List Char}
    (h : (Token.symbol c).Begins (skip cs) rest) :
    ∃ hlen, Grammar.symbol? c cs = some ⟨rest, hlen⟩ := by
  obtain ⟨-, hbegin, -⟩ := h
  rw [Token.text, List.singleton_append] at hbegin
  unfold Grammar.symbol?
  split
  · rename_i hskip
    cases hskip.symm.trans hbegin
  · rename_i d more hskip
    cases hskip.symm.trans hbegin
    have hlen := length_skip_le cs
    rw [hskip, List.length_cons] at hlen
    exact ⟨hlen, if_pos rfl⟩

theorem symbol?_eq_none {c : Char} {cs : List Char} (h : ∀ d ∈ (skip cs).head?, d ≠ c) :
    Grammar.symbol? c cs = none := by
  unfold Grammar.symbol?
  split
  · rfl
  · rename_i d more hskip
    exact if_neg (h d (by rw [hskip]; rfl))

theorem identifier?_eq_none_of_symbol {s : Char} {cs rest : List Char}
    (h : (Token.symbol s).Begins cs rest) : identifier? cs = none :=
  identifier?_eq_none (h.forall_head fun _ hc => (of_mem_symbols hc.2).1)

theorem symbol?_eq_none_of_symbol {s c : Char} {cs rest : List Char}
    (h : (Token.symbol s).Begins (skip cs) rest) (hne : s ≠ c) : Grammar.symbol? c cs = none :=
  symbol?_eq_none (h.forall_head fun _ hd => hd.1 ▸ hne)

theorem unescape_of_not_mem {c : Char} (h : c ∉ ['"', '\\', 'n', 't']) :
    unescape c = ['\\', c] := by
  simp only [List.mem_cons, List.not_mem_nil, or_false, not_or] at h
  obtain ⟨hquote, hbackslash, hfeed, htab⟩ := h
  rw [unescape, if_neg hquote, if_neg hbackslash, if_neg hfeed, if_neg htab]

theorem unescapes_pair {c : Char} {content text : List Char} (h : Unescapes content text) :
    Unescapes ('\\' :: c :: content) (unescape c ++ text) := by
  by_cases hmem : c ∈ ['"', '\\', 'n', 't']
  · simp only [List.mem_cons, List.not_mem_nil, or_false] at hmem
    rcases hmem with rfl | rfl | rfl | rfl
    · exact .quote h
    · exact .backslash h
    · exact .feed h
    · exact .tab h
  · rw [unescape_of_not_mem hmem]
    exact .other hmem h

theorem finds_quotedRest?_plain {c : Char} {cs text rest : List Char} (hquote : c ≠ '"')
    (hbackslash : c ≠ '\\') (h : Finds (quotedRest? cs) text rest) :
    Finds (quotedRest? (c :: cs)) (c :: text) rest := by
  obtain ⟨hlen, heq⟩ := h
  rw [quotedRest?.eq_5 c cs hquote (fun h _ => hbackslash h) (fun _ _ h _ => hbackslash h), heq]
  simp

theorem finds_quotedRest?_pair {c : Char} {cs text rest : List Char}
    (h : Finds (quotedRest? cs) text rest) :
    Finds (quotedRest? ('\\' :: c :: cs)) (unescape c ++ text) rest := by
  obtain ⟨hlen, heq⟩ := h
  rw [quotedRest?, heq]
  simp

theorem quotedRest?_finds_iff {cs text rest : List Char} :
    Finds (quotedRest? cs) text rest ↔
      ∃ content, Unescapes content text ∧ cs = content ++ '"' :: rest := by
  constructor
  · intro h
    induction cs using quotedRest?.induct generalizing text with
    | case1 => simp [quotedRest?] at h
    | case2 more =>
      rw [quotedRest?, finds_some_iff] at h
      obtain ⟨rfl, rfl⟩ := h
      exact ⟨[], .nil, rfl⟩
    | case3 => simp [quotedRest?] at h
    | case4 c more hnone => simp [quotedRest?, hnone] at h
    | case5 c more text' r hr hsome ih =>
      simp only [quotedRest?, hsome, finds_some_iff] at h
      obtain ⟨rfl, rfl⟩ := h
      obtain ⟨content, hcontent, rfl⟩ := ih ⟨hr, hsome⟩
      exact ⟨'\\' :: c :: content, unescapes_pair hcontent, rfl⟩
    | case6 c more hquote hlast hpair hnone =>
      rw [quotedRest?.eq_5 c more hquote hlast hpair, hnone] at h
      simp at h
    | case7 c more hquote hlast hpair text' r hr hsome ih =>
      rw [quotedRest?.eq_5 c more hquote hlast hpair, hsome, finds_some_iff] at h
      obtain ⟨rfl, rfl⟩ := h
      obtain ⟨content, hcontent, hmore⟩ := ih ⟨hr, hsome⟩
      have hbackslash : c ≠ '\\' := by
        intro hc
        cases content with
        | nil => exact hpair _ _ hc hmore
        | cons d content => exact hpair _ _ hc hmore
      exact ⟨c :: content, .plain hquote hbackslash hcontent, congrArg (List.cons c) hmore⟩
  · intro hyp
    rcases hyp with ⟨content, h, rfl⟩
    induction h with
    | nil => simp [quotedRest?]
    | plain hquote hbackslash _ ih => exact finds_quotedRest?_plain hquote hbackslash ih
    | quote _ ih => exact finds_quotedRest?_pair ih
    | backslash _ ih => exact finds_quotedRest?_pair ih
    | feed _ ih => exact finds_quotedRest?_pair ih
    | tab _ ih => exact finds_quotedRest?_pair ih
    | @other c content text hmem _ ih =>
      have hpair := finds_quotedRest?_pair ih (c := c)
      rw [unescape_of_not_mem hmem] at hpair
      exact hpair

theorem quoted?_finds_iff {cs rest : List Char} {s : String} :
    Finds (quoted? cs) s rest ↔
      ∃ content, StandsFor s content ∧ (Token.quoted content).Begins cs rest := by
  constructor
  · intro h
    unfold quoted? at h
    split at h
    · rename_i more
      split at h
      · simp at h
      · rename_i text r hr hsome
        rw [finds_some_iff] at h
        obtain ⟨rfl, rfl⟩ := h
        obtain ⟨content, hcontent, rfl⟩ := quotedRest?_finds_iff.mp ⟨hr, hsome⟩
        refine ⟨content, ?_, trivial, by simp [Token.text], trivial⟩
        rw [StandsFor, String.toList_ofList]
        exact hcontent
    · simp at h
  · intro hyp
    rcases hyp with ⟨content, hcontent, -, hcs, -⟩
    rw [Token.text, List.cons_append, List.append_assoc, List.singleton_append] at hcs
    subst hcs
    have hfinds : Finds (quotedRest? (content ++ '"' :: rest)) s.toList rest :=
      quotedRest?_finds_iff.mpr ⟨content, hcontent, rfl⟩
    obtain ⟨hlen, heq⟩ := hfinds
    simp [quoted?, heq, String.ofList_toList]

theorem quoted?_eq_none {cs : List Char} (h : ∀ c ∈ cs.head?, c ≠ '"') : quoted? cs = none := by
  unfold quoted?
  split
  · exact absurd rfl (h _ rfl)
  · rfl

end ConversionRules.Spelling
