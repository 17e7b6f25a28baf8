import ConversionRules.Proofs.Document.Numerals

/-!
Repetitions of a part, in both directions. What a repetition reads are the
spellings of its elements one after another; and it reads such spellings up to
a place at which no element begins. An element may need to know what follows
it, since a number runs on into a digit or a point.
-/
namespace ConversionRules.Spelling

open Lexeme Grammar

section Outcomes

variable {α : Type} {p : List Char → Prop}

/-- Reading succeeds and leaves the rest of the text. -/
def Reads (x : Except Failure (α × { r : List Char // p r })) (a : α) (rest : List Char) : Prop :=
  ∃ h, x = .ok (a, ⟨rest, h⟩)

@[simp] theorem reads_ok_iff {b a : α} {r : { r : List Char // p r }} {rest : List Char} :
    Reads (.ok (b, r)) a rest ↔ b = a ∧ r.val = rest := by
  constructor
  · intro hyp
    rcases hyp with ⟨h, heq⟩
    cases heq
    exact ⟨rfl, rfl⟩
  · intro hyp
    rcases hyp with ⟨rfl, rfl⟩
    exact ⟨r.property, rfl⟩

@[simp] theorem not_reads_error {f : Failure} {a : α} {rest : List Char} :
    ¬ Reads (.error f : Except Failure (α × { r : List Char // p r })) a rest := by
  intro hyp
  rcases hyp with ⟨h, heq⟩
  cases heq

/-- Reading fails but lets another way be tried. -/
def Refuses (x : Except Failure α) : Prop := ∃ f, x = .error f ∧ f.fatal = false

theorem refuses_retry (cs : List Char) : Refuses (.error (.retry cs) : Except Failure α) :=
  ⟨_, rfl, rfl⟩

end Outcomes

section Wrapped

variable {α : Type} {a : α} {cs rest : List Char}

@[simp] theorem reads_afterSkip_iff {x : Reading α (skip cs)} :
    Reads (afterSkip x) a rest ↔ Reads x a rest := by
  unfold afterSkip
  split
  · simp
  · rw [reads_ok_iff, reads_ok_iff]

theorem refuses_afterSkip {x : Reading α (skip cs)} (h : Refuses x) : Refuses (afterSkip x) := by
  obtain ⟨f, rfl, hfatal⟩ := h
  exact ⟨f, rfl, hfatal⟩

@[simp] theorem reads_within_iff {e : Expectation} {x : Reading α cs} :
    Reads (within e x) a rest ↔ Reads x a rest := by
  unfold within
  split
  · simp
  · rfl

theorem refuses_within {e : Expectation} {x : Reading α cs} (h : Refuses x) :
    Refuses (within e x) := by
  obtain ⟨f, rfl, hfatal⟩ := h
  exact ⟨f.within e, rfl, hfatal⟩

end Wrapped

section Elements

variable {α : Type} {spells : α → List Token → Prop}

theorem sequence_of_many {element : (r : List Char) → Reading α r}
    (helement : ∀ r a rest, Reads (element r) a rest → ∃ ts, spells a ts ∧ Laid ts r rest)
    {cs rest : List Char} {as : List α} (h : Reads (many element cs) as rest) :
    ∃ ts, Sequence [] spells as ts ∧ Laid ts cs rest := by
  fun_induction many element cs generalizing as with
  | case1 cs f hf hfatal => simp at h
  | case2 cs f hf hfatal =>
    rw [reads_ok_iff] at h
    obtain ⟨rfl, rfl⟩ := h
    exact ⟨[], .nil, .nil _⟩
  | case3 cs a r hr ha f hf ih => simp at h
  | case4 cs a r hr ha as' r' hr' has ih =>
    rw [reads_ok_iff] at h
    obtain ⟨rfl, rfl⟩ := h
    obtain ⟨ts, hts, hlaid⟩ := helement cs a r ⟨hr, ha⟩
    obtain ⟨us, hus, hlaid'⟩ := ih ⟨hr', has⟩
    refine ⟨_, .cons hts hus, ?_⟩
    rw [List.nil_append]
    exact laid_append_iff.mpr ⟨r, hlaid, hlaid'⟩

/-- A repetition reads elements up to a place at which none begins. -/
theorem many_of_sequence {element : (r : List Char) → Reading α r} {follows : List Char → Prop}
    (helement : ∀ {r a ts rest}, spells a ts → Laid ts r rest → follows rest →
      Reads (element r) a rest)
    (hstart : ∀ {r a ts rest}, spells a ts → Laid ts r rest → follows r)
    {cs rest : List Char} {as : List α} {ts : List Token} (h : Sequence [] spells as ts)
    (hlaid : Laid ts cs rest) (hrest : follows rest) (hstop : Refuses (element rest)) :
    Reads (many element cs) as rest := by
  induction h generalizing cs with
  | nil =>
    cases hlaid
    obtain ⟨f, hf, hfatal⟩ := hstop
    rw [many, hf]
    simp [hfatal]
  | @cons a as ts us hts hus ih =>
    rw [List.nil_append] at hlaid
    obtain ⟨mid, hfirst, hmore⟩ := laid_append_iff.mp hlaid
    have hmid : follows mid := by
      cases hus with
      | nil =>
        cases hmore
        exact hrest
      | cons hts' hus' =>
        rw [List.nil_append] at hmore
        obtain ⟨_, hnext, -⟩ := laid_append_iff.mp hmore
        exact hstart hts' hnext
    obtain ⟨hlen, ha⟩ := helement hts hfirst hmid
    obtain ⟨hlen', has⟩ := ih hmore
    rw [many, ha]
    simp [has]

variable {n : Nat} {element : (r : List Char) → r.length < n → Reading α r}

theorem sequence_of_moreSeparated
    (helement : ∀ r h a rest, Reads (element r h) a rest → ∃ ts, spells a ts ∧ Laid ts r rest)
    {cs rest : List Char} {as : List α} {hn : cs.length < n}
    (h : Reads (moreSeparated element cs hn) as rest) :
    ∃ ts, Sequence [.symbol ','] spells as ts ∧ Laid ts cs rest := by
  fun_induction moreSeparated element cs hn generalizing as with
  | case1 cs hn hcomma =>
    rw [reads_ok_iff] at h
    obtain ⟨rfl, rfl⟩ := h
    exact ⟨[], .nil, .nil _⟩
  | case2 cs hn next hnext hcomma f hf hfatal => simp at h
  | case3 cs hn next hnext hcomma f hf hfatal =>
    rw [reads_ok_iff] at h
    obtain ⟨rfl, rfl⟩ := h
    exact ⟨[], .nil, .nil _⟩
  | case4 cs hn next hnext hcomma a r hr ha f hf ih => simp at h
  | case5 cs hn next hnext hcomma a r hr ha as' r' hr' has ih =>
    rw [reads_ok_iff] at h
    obtain ⟨rfl, rfl⟩ := h
    have hbegins := begins_of_symbol? (by decide) hcomma
    obtain ⟨ts, hts, hlaid⟩ := helement _ _ _ _ ⟨hr, ha⟩
    obtain ⟨us, hus, hlaid'⟩ := ih ⟨hr', has⟩
    refine ⟨_, .cons hts hus, ?_⟩
    rw [List.singleton_append]
    exact laid_cons_iff.mpr ⟨next, hbegins, laid_append_iff.mpr ⟨r, hlaid, hlaid'⟩⟩

/-- Elements after commas may follow a number if what follows them may. -/
theorem numberEnd_of_sequence {cs rest : List Char} {as : List α} {ts : List Token}
    (h : Sequence [.symbol ','] spells as ts) (hlaid : Laid ts cs rest) (hrest : NumberEnd rest) :
    NumberEnd cs := by
  cases h with
  | nil =>
    cases hlaid
    exact hrest
  | cons _ _ => exact numberEnd_of_symbol hlaid

theorem moreSeparated_of_sequence
    (helement : ∀ {r a ts rest} (h : r.length < n), spells a ts → Laid ts r rest →
      NumberEnd rest → Reads (element r h) a rest)
    {cs rest : List Char} {as : List α} {ts : List Token} (hn : cs.length < n)
    (h : Sequence [.symbol ','] spells as ts) (hlaid : Laid ts cs rest) (hrest : NumberEnd rest)
    (hstop : symbol? ',' rest = none) : Reads (moreSeparated element cs hn) as rest := by
  induction h generalizing cs with
  | nil =>
    cases hlaid
    rw [moreSeparated, hstop]
    simp
  | @cons a as ts us hts hus ih =>
    rw [List.singleton_append] at hlaid
    obtain ⟨next, hbegins, htail⟩ := laid_cons_iff.mp hlaid
    obtain ⟨mid, hfirst, hmore⟩ := laid_append_iff.mp htail
    have hmid : NumberEnd mid := numberEnd_of_sequence hus hmore hrest
    obtain ⟨hnext, hcomma⟩ := symbol?_of_begins hbegins
    obtain ⟨hlen, ha⟩ := helement (Nat.lt_trans hnext hn) hts hfirst hmid
    obtain ⟨hlen', has⟩ := ih (Nat.lt_trans hlen (Nat.lt_trans hnext hn)) hmore
    rw [moreSeparated, hcomma]
    simp only
    rw [ha]
    simp [has]

theorem exists_separated
    (helement : ∀ r h a rest, Reads (element r h) a rest → ∃ ts, spells a ts ∧ Laid ts r rest)
    {cs rest : List Char} {as : List α} {hn : cs.length < n}
    (h : Reads (separated element cs hn) as rest) :
    ∃ ts, Separated spells as ts ∧ Laid ts cs rest := by
  unfold separated at h
  split at h
  · split at h
    · simp at h
    · rw [reads_ok_iff] at h
      obtain ⟨rfl, rfl⟩ := h
      exact ⟨[], .nil, .nil _⟩
  · rename_i a r hr ha
    split at h
    · simp at h
    · rename_i as' r' hr' has
      rw [reads_ok_iff] at h
      obtain ⟨rfl, rfl⟩ := h
      obtain ⟨ts, hts, hlaid⟩ := helement _ _ _ _ ⟨hr, ha⟩
      obtain ⟨us, hus, hlaid'⟩ := sequence_of_moreSeparated helement ⟨hr', has⟩
      exact ⟨_, .cons hts hus, laid_append_iff.mpr ⟨r, hlaid, hlaid'⟩⟩

/-- A list reads its elements up to a place at which there is no comma and, for
the empty list, no element begins. -/
theorem separated_of_laid
    (helement : ∀ {r a ts rest} (h : r.length < n), spells a ts → Laid ts r rest →
      NumberEnd rest → Reads (element r h) a rest)
    {cs rest : List Char} {as : List α} {ts : List Token} (hn : cs.length < n)
    (h : Separated spells as ts) (hlaid : Laid ts cs rest) (hrest : NumberEnd rest)
    (hcomma : symbol? ',' rest = none) (hstop : ∀ h : rest.length < n, Refuses (element rest h)) :
    Reads (separated element cs hn) as rest := by
  cases h with
  | nil =>
    cases hlaid
    obtain ⟨f, hf, hfatal⟩ := hstop hn
    rw [separated, hf]
    simp [hfatal]
  | @cons a as ts us hts hus =>
    obtain ⟨mid, hfirst, hmore⟩ := laid_append_iff.mp hlaid
    have hmid : NumberEnd mid := numberEnd_of_sequence hus hmore hrest
    obtain ⟨hlen, ha⟩ := helement hn hts hfirst hmid
    obtain ⟨hlen', has⟩ := moreSeparated_of_sequence helement (Nat.lt_trans hlen hn) hus hmore
      hrest hcomma
    rw [separated, ha]
    simp [has]

end Elements

end ConversionRules.Spelling
