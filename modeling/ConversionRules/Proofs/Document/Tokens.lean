import ConversionRules.Proofs.Document.Spelling

/-!
Skipping removes exactly the layout before a text, whatever follows it, and no
token starts with layout. Hence tokens that are laid out in a text are found
one by one: skip, take the text of the token, go on with the rest.
-/
namespace ConversionRules.Spelling

open Lexeme

/-- A text is its longest beginning of one kind of characters and what is left. -/
theorem takeWhile_dropWhile_spec (p : Char → Bool) (cs : List Char) :
    cs = cs.takeWhile p ++ cs.dropWhile p ∧ (∀ c ∈ cs.takeWhile p, p c = true) ∧
      ∀ c ∈ (cs.dropWhile p).head?, p c = false := by
  refine ⟨List.takeWhile_append_dropWhile.symm, fun c hc => ?_, fun c hc => ?_⟩
  · exact List.all_eq_true.mp List.all_takeWhile c hc
  · have hhead := List.head?_dropWhile_not p cs
    rw [Option.mem_def.mp hc] at hhead
    simpa using hhead

/-- The longest beginning ends where a character of another kind stands. -/
theorem takeWhile_dropWhile_append {p : Char → Bool} {xs ys : List Char}
    (hxs : ∀ c ∈ xs, p c = true) (hys : ∀ c ∈ ys.head?, p c = false) :
    (xs ++ ys).takeWhile p = xs ∧ (xs ++ ys).dropWhile p = ys := by
  rw [List.takeWhile_append_of_pos hxs, List.dropWhile_append_of_pos hxs]
  cases ys with
  | nil => simp
  | cons c ys =>
    have hc : p c = false := hys c rfl
    simp [hc]

theorem afterComment?_eq_some_iff {cs rest : List Char} :
    afterComment? cs = some rest ↔
      ∃ text, cs = text ++ rest ∧ (∀ c ∈ text, c ≠ '\r' ∧ c ≠ '\n') ∧ LineEnd rest := by
  constructor
  · intro h
    obtain ⟨hsplit, htext, hstop⟩ :=
      takeWhile_dropWhile_spec (fun c => c != '\r' && c != '\n') cs
    unfold afterComment? at h
    generalize cs.dropWhile (fun c => c != '\r' && c != '\n') = after at h hsplit hstop
    have hend : after = rest ∧ LineEnd after := by
      split at h
      · rename_i more
        split at h
        · rename_i hfeed
          obtain ⟨more, rfl⟩ : ∃ tail, more = '\n' :: tail :=
            List.head?_eq_some_iff.mp hfeed
          exact ⟨Option.some.inj h, .returnFeed more⟩
        · simp at h
      · rename_i hreturn
        refine ⟨Option.some.inj h, ?_⟩
        cases after with
        | nil => exact .endOfText
        | cons c more =>
          have hc := hstop c rfl
          have hc' : c ≠ '\r' := fun hcr => hreturn more (by rw [hcr])
          obtain rfl : c = '\n' := by simpa [hc'] using hc
          exact .feed more
    exact ⟨_, hend.1 ▸ hsplit, by simpa using htext, hend.1 ▸ hend.2⟩
  · intro hyp
    rcases hyp with ⟨text, rfl, htext, hend⟩
    have hstop : ∀ c ∈ rest.head?, (c != '\r' && c != '\n') = false := by
      cases hend <;> simp
    obtain ⟨-, hdrop⟩ := takeWhile_dropWhile_append (by simpa using htext) hstop
    rw [afterComment?, hdrop]
    cases hend <;> simp

theorem skip_of_isSpace {c : Char} (hc : isSpace c = true) (cs : List Char) :
    skip (c :: cs) = skip cs := by
  rw [skip, if_pos hc]

theorem skip_comment {cs rest : List Char} (h : afterComment? cs = some rest) :
    skip ('#' :: cs) = skip rest := by
  rw [skip, if_neg (by decide), if_pos rfl]
  split
  · rename_i rest' h'
    rw [Option.some.inj (h'.symm.trans h)]
  · rename_i h'
    cases h.symm.trans h'

theorem skip_of_solid {cs : List Char} (h : ∀ c ∈ cs.head?, isSpace c = false ∧ c ≠ '#') :
    skip cs = cs := by
  cases cs with
  | nil => rw [skip]
  | cons c cs =>
    obtain ⟨hspace, hsign⟩ := h c rfl
    rw [skip, if_neg (by simp [hspace]), if_neg hsign]

/-- Layout is skipped whatever follows it. -/
theorem skip_layout {gap rest : List Char} (h : Layout gap rest) :
    skip (gap ++ rest) = skip rest := by
  induction h with
  | nothing rest => rfl
  | space hc _ ih => rw [List.cons_append, skip_of_isSpace hc, ih]
  | @comment text gap rest htext hend _ ih =>
    rw [List.cons_append, List.append_assoc,
      skip_comment (afterComment?_eq_some_iff.mpr ⟨text, rfl, htext, hend⟩), ih]

/-- What is skipped is layout. -/
theorem exists_layout_skip (cs : List Char) :
    ∃ gap, cs = gap ++ skip cs ∧ Layout gap (skip cs) := by
  fun_induction skip cs with
  | case1 => exact ⟨[], rfl, .nothing []⟩
  | case2 c cs hc ih =>
    obtain ⟨gap, heq, hgap⟩ := ih
    exact ⟨c :: gap, by rw [List.cons_append, ← heq], .space hc hgap⟩
  | case3 cs rest hafter _ ih =>
    obtain ⟨text, rfl, htext, hend⟩ := afterComment?_eq_some_iff.mp hafter
    obtain ⟨gap, heq, hgap⟩ := ih
    refine ⟨'#' :: (text ++ gap), ?_, .comment htext (heq ▸ hend) hgap⟩
    rw [List.cons_append, List.append_assoc, ← heq]
  | case4 => exact ⟨[], rfl, .nothing _⟩
  | case5 => exact ⟨[], rfl, .nothing _⟩

/-- The text begins with the token. -/
def Token.Begins (t : Token) (cs rest : List Char) : Prop :=
  t.WellFormed ∧ cs = t.text ++ rest ∧ t.EndsBefore rest

/-- Whether a character may be the first of a token of this kind. -/
def Token.StartsWith : Token → Char → Prop
  | .word _, c => startsIdentifier c = true
  | .symbol s, c => c = s ∧ c ∈ symbols
  | .number _, c => c = '-' ∨ c.isDigit = true
  | .quoted _, c => c = '"'

theorem isDigit_of_startsIdentifier {c : Char} (h : startsIdentifier c = true) :
    c.isDigit = false := by
  cases hdigit : c.isDigit with
  | false => rfl
  | true =>
    have hlast : c.toNat ≤ '9'.toNat := (Char.isDigit_iff_toNat.mp hdigit).2
    have hfirst : '9'.toNat < c.toNat := by
      rcases (Bool.or_eq_true _ _).mp h with halpha | hunderscore
      · rcases (Bool.or_eq_true _ _).mp halpha with hupper | hlower
        · have hle : 'A'.val ≤ c.val := (of_decide_eq_true hupper).1
          exact Nat.lt_of_lt_of_le (by decide) (UInt32.le_iff_toNat_le.mp hle)
        · have hle : 'a'.val ≤ c.val :=
            of_decide_eq_true ((Bool.and_eq_true _ _).mp hlower).1
          exact Nat.lt_of_lt_of_le (by decide) (UInt32.le_iff_toNat_le.mp hle)
      · obtain rfl : c = '_' := by simpa using hunderscore
        decide
    omega

theorem ne_of_startsIdentifier {c d : Char} (hc : startsIdentifier c = true)
    (hd : startsIdentifier d = false) : c ≠ d := by
  intro heq
  subst heq
  simp [hc] at hd

theorem ne_of_isDigit {c d : Char} (hc : c.isDigit = true) (hd : d.isDigit = false) : c ≠ d := by
  intro heq
  subst heq
  simp [hc] at hd

theorem Token.not_startsWith_of_mem {t : Token} {c : Char}
    (hc : c ∈ [' ', '\t', '\n', '\x0c', '\r', '#']) : ¬ t.StartsWith c := by
  simp only [List.mem_cons, List.not_mem_nil, or_false] at hc
  rcases hc with rfl | rfl | rfl | rfl | rfl | rfl <;> cases t <;>
    simp [Token.StartsWith, symbols, startsIdentifier]

theorem of_mem_symbols {c : Char} (h : c ∈ symbols) :
    startsIdentifier c = false ∧ c.isDigit = false ∧ c ≠ '-' ∧ c ≠ '.' ∧ c ≠ '"' := by
  simp only [symbols, List.mem_cons, List.not_mem_nil, or_false] at h
  rcases h with rfl | rfl | rfl | rfl | rfl | rfl | rfl <;> decide

/-- No token starts with white space or with the sign of a comment. -/
theorem Token.StartsWith.solid {t : Token} {c : Char} (h : t.StartsWith c) :
    isSpace c = false ∧ c ≠ '#' := by
  constructor
  · cases hc : isSpace c with
    | false => rfl
    | true =>
      simp only [isSpace, Bool.or_eq_true, beq_iff_eq, or_assoc] at hc
      exact absurd h (Token.not_startsWith_of_mem (by grind))
  · intro heq
    subst heq
    exact absurd h (Token.not_startsWith_of_mem (by simp))

theorem Token.exists_startsWith {t : Token} (h : t.WellFormed) :
    ∃ c cs, t.text = c :: cs ∧ t.StartsWith c := by
  cases t with
  | word s =>
    obtain ⟨c, cs, hs, hc, -⟩ := h
    exact ⟨c, cs, hs, hc⟩
  | symbol c => exact ⟨c, [], rfl, rfl, h⟩
  | number n =>
    obtain ⟨⟨hne, hdigits⟩, -⟩ := h
    cases hn : n.negative with
    | true =>
      refine ⟨'-', unsignedText n, ?_, Or.inl rfl⟩
      simp [Token.text, signText, hn]
    | false =>
      obtain ⟨c, cs, hcs⟩ := List.exists_cons_of_ne_nil hne
      refine ⟨c, cs ++ placesText n.places, ?_, Or.inr ?_⟩
      · simp [Token.text, unsignedText, signText, hn, hcs]
      · exact hdigits c (by simp [hcs])
  | quoted content => exact ⟨'"', _, rfl, rfl⟩

theorem Token.Begins.exists_head {t : Token} {cs rest : List Char} (h : t.Begins cs rest) :
    ∃ c more, cs = c :: more ∧ t.StartsWith c := by
  obtain ⟨hwell, rfl, -⟩ := h
  obtain ⟨c, more, htext, hc⟩ := Token.exists_startsWith hwell
  exact ⟨c, more ++ rest, by rw [htext, List.cons_append], hc⟩

theorem Token.Begins.forall_head {t : Token} {cs rest : List Char} {P : Char → Prop}
    (h : t.Begins cs rest) (ht : ∀ c, t.StartsWith c → P c) : ∀ c ∈ cs.head?, P c := by
  obtain ⟨c, more, rfl, hc⟩ := h.exists_head
  intro d hd
  obtain rfl : c = d := by simpa using hd
  exact ht c hc

theorem Token.Begins.skip_eq {t : Token} {cs rest : List Char} (h : t.Begins cs rest) :
    skip cs = cs :=
  skip_of_solid (h.forall_head fun _ hc => hc.solid)

theorem laid_cons_iff {t : Token} {ts : List Token} {cs rest : List Char} :
    Laid (t :: ts) cs rest ↔ ∃ more, t.Begins (skip cs) more ∧ Laid ts more rest := by
  constructor
  · intro h
    cases h with
    | @cons _ _ gap more _ hwell hgap hend hts =>
      have hbegins : t.Begins (t.text ++ more) more := ⟨hwell, rfl, hend⟩
      refine ⟨more, ?_, hts⟩
      rw [skip_layout hgap, hbegins.skip_eq]
      exact hbegins
  · intro hyp
    rcases hyp with ⟨more, ⟨hwell, htext, hend⟩, hts⟩
    obtain ⟨gap, heq, hgap⟩ := exists_layout_skip cs
    rw [htext] at heq hgap
    rw [heq]
    exact .cons hwell hgap hend hts

theorem laid_singleton_iff {t : Token} {cs rest : List Char} :
    Laid [t] cs rest ↔ t.Begins (skip cs) rest := by
  rw [laid_cons_iff]
  constructor
  · intro hyp
    rcases hyp with ⟨more, hbegins, hnil⟩
    cases hnil
    exact hbegins
  · intro h
    exact ⟨rest, h, .nil rest⟩

theorem laid_append_iff {ts us : List Token} {cs rest : List Char} :
    Laid (ts ++ us) cs rest ↔ ∃ mid, Laid ts cs mid ∧ Laid us mid rest := by
  induction ts generalizing cs with
  | nil =>
    constructor
    · intro h
      exact ⟨cs, .nil cs, h⟩
    · intro hyp
      rcases hyp with ⟨mid, hnil, h⟩
      cases hnil
      exact h
  | cons t ts ih =>
    rw [List.cons_append, laid_cons_iff]
    constructor
    · intro hyp
      rcases hyp with ⟨more, hbegins, h⟩
      obtain ⟨mid, hts, hus⟩ := ih.mp h
      exact ⟨mid, laid_cons_iff.mpr ⟨more, hbegins, hts⟩, hus⟩
    · intro hyp
      rcases hyp with ⟨mid, h, hus⟩
      obtain ⟨more, hbegins, hts⟩ := laid_cons_iff.mp h
      exact ⟨more, hbegins, ih.mpr ⟨mid, hts, hus⟩⟩

instance (t : Token) (cs rest : List Char) : Decidable (t.Begins cs rest) :=
  inferInstanceAs (Decidable (t.WellFormed ∧ cs = t.text ++ rest ∧ t.EndsBefore rest))

/-- Whether tokens are laid out in a text can be computed: the length of the
first one tells where the next one is looked for. -/
instance decidableLaid : (ts : List Token) → (cs rest : List Char) → Decidable (Laid ts cs rest)
  | [], cs, rest =>
    decidable_of_iff (cs = rest) ⟨fun h => h ▸ .nil cs, fun h => by cases h; rfl⟩
  | t :: ts, cs, rest =>
    let more := (skip cs).drop t.text.length
    have := decidableLaid ts more rest
    decidable_of_iff (t.Begins (skip cs) more ∧ Laid ts more rest)
      ⟨fun h => laid_cons_iff.mpr ⟨more, h⟩, fun h => by
        obtain ⟨more', hbegins, hts⟩ := laid_cons_iff.mp h
        have hmore : more = more' := by simp [more, hbegins.2.1]
        rw [hmore]
        exact ⟨hbegins, hts⟩⟩

end ConversionRules.Spelling
