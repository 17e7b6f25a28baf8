import ConversionRules.Proofs.Document.Rules

/-!
Progress of the grammar. Every part that is repeated takes a character at least,
so its loop may be run with a guard against rounds that take nothing and with as
many rounds as there are characters: the guard is never met and the rounds are
never used up. Lists are nested no deeper than there are characters.
-/
namespace ConversionRules.Grammar

open Lexeme Spelling

/-- The rest is what is left of the text once some characters are taken. -/
def Consumes (cs rest : List Char) : Prop := ∃ used, used ≠ [] ∧ cs = used ++ rest

section Consumption

variable {cs rest : List Char}

theorem consumes_of_suffix (h : rest <:+ cs) (hlen : rest.length < cs.length) :
    Consumes cs rest := by
  obtain ⟨used, rfl⟩ := h
  refine ⟨used, ?_, rfl⟩
  rintro rfl
  exact Nat.lt_irrefl _ hlen

theorem suffix_of_laid {ts : List Token} (h : Laid ts cs rest) : rest <:+ cs := by
  induction h with
  | nil rest => exact List.suffix_rfl
  | @cons t ts gap cs rest _ _ _ _ ih =>
    exact ih.trans ((List.suffix_append t.text cs).trans (List.suffix_append gap _))

theorem Consumes.length_lt (h : Consumes cs rest) : rest.length < cs.length := by
  obtain ⟨used, hused, rfl⟩ := h
  have hpos := List.length_pos_iff.mpr hused
  rw [List.length_append]
  omega

/-- What is read is spelled by tokens, and what is left is shorter. -/
theorem consumes_of_reads {α : Type} {x : Reading α cs} {a : α} {spells : List Token → Prop}
    (h : Reads x a rest) (hspells : ∃ ts, spells ts ∧ Laid ts cs rest) : Consumes cs rest := by
  obtain ⟨hlen, _⟩ := h
  obtain ⟨ts, _, hlaid⟩ := hspells
  exact consumes_of_suffix (suffix_of_laid hlaid) hlen

end Consumption

section Layout

/-- A run of white space or a comment, if the text begins with one. -/
def layoutStep? : List Char → Option (List Char)
  | [] => none
  | c :: cs =>
    if isSpace c then some (cs.dropWhile isSpace)
    else if c = '#' then afterComment? cs
    else none

variable {cs rest : List Char}

theorem consumes_of_layoutStep? (h : layoutStep? cs = some rest) : Consumes cs rest := by
  cases cs with
  | nil => cases h
  | cons c cs =>
    have hrest : rest <:+ cs := by
      rw [layoutStep?] at h
      split at h
      · cases h
        exact List.dropWhile_suffix isSpace
      split at h
      · obtain ⟨text, rfl, _⟩ := afterComment?_eq_some_iff.mp h
        exact List.suffix_append text rest
      · cases h
    have hlen := hrest.length_le
    exact consumes_of_suffix (hrest.trans (List.suffix_cons c cs)) (Nat.lt_succ_of_le hlen)

theorem skip_dropWhile (cs : List Char) : skip (cs.dropWhile isSpace) = skip cs := by
  induction cs with
  | nil => rfl
  | cons c cs ih =>
    by_cases hc : isSpace c = true
    · rw [List.dropWhile_cons_of_pos hc, ih, skip_of_isSpace hc]
    · rw [List.dropWhile_cons_of_neg hc]

theorem skip_of_layoutStep? (h : layoutStep? cs = some rest) : skip rest = skip cs := by
  cases cs with
  | nil => cases h
  | cons c cs =>
    rw [layoutStep?] at h
    split at h
    · rename_i hc
      cases h
      rw [skip_dropWhile, skip_of_isSpace hc]
    split at h
    · rename_i hsign
      rw [hsign, skip_comment h]
    · cases h

theorem skip_of_layoutStep?_none (h : layoutStep? cs = none) : skip cs = cs := by
  cases cs with
  | nil => rw [skip]
  | cons c cs =>
    rw [layoutStep?] at h
    split at h
    · cases h
    rename_i hc
    rw [skip, if_neg hc]
    split at h
    · rename_i hsign
      rw [if_pos hsign]
      split
      · rename_i hafter
        cases h.symm.trans hafter
      · rfl
    · rename_i hsign
      rw [if_neg hsign]

end Layout

/-- How a part ends whose loops are guarded: with what it has found and what is
left, with a failure, at a round that has taken nothing, or out of rounds. -/
inductive Ending (α : Type) where
  | found (a : α) (rest : List Char)
  | failed (f : Failure)
  | idle
  | exceeded

namespace Ending

variable {α β : Type}

def map (g : α → β) : Ending α → Ending β
  | found a rest => found (g a) rest
  | failed f => failed f
  | idle => idle
  | exceeded => exceeded

/-- The ending of a part that needs no guard. -/
def of {p : List Char → Prop} (x : Except Failure (α × { r : List Char // p r })) : Ending α :=
  match x with
  | .ok (a, r) => found a r.val
  | .error f => failed f

end Ending

/-- A step over white space or a comment. -/
def layoutRound (cs : List Char) : Ending Unit :=
  match layoutStep? cs with
  | some rest => .found () rest
  | none => .failed (.retry cs)

section Loops

variable {α : Type}

/-- A part repeated for so many rounds, each of which has to take something. -/
def repeatWithin (part : List Char → Ending α) (rounds : Nat) (cs : List Char) :
    Ending (List α) :=
  match part cs with
  | .failed f => if f.fatal then .failed f else .found [] cs
  | .idle => .idle
  | .exceeded => .exceeded
  | .found a r =>
    if r.length = cs.length then .idle
    else
      match rounds with
      | 0 => .exceeded
      | rounds + 1 => (repeatWithin part rounds r).map (a :: ·)

/-- More parts for so many rounds, each after a comma that has to take something. -/
def moreWithin (part : List Char → Ending α) (rounds : Nat) (cs : List Char) :
    Ending (List α) :=
  match symbol? ',' cs with
  | none => .found [] cs
  | some ⟨next, _⟩ =>
    if next.length = cs.length then .idle
    else
      match part next with
      | .failed f => if f.fatal then .failed f else .found [] cs
      | .idle => .idle
      | .exceeded => .exceeded
      | .found a r =>
        match rounds with
        | 0 => .exceeded
        | rounds + 1 => (moreWithin part rounds r).map (a :: ·)

/-- Parts separated by commas, so many at most, or none. -/
def separateWithin (part : List Char → Ending α) (rounds : Nat) (cs : List Char) :
    Ending (List α) :=
  match part cs with
  | .failed f => if f.fatal then .failed f else .found [] cs
  | .idle => .idle
  | .exceeded => .exceeded
  | .found a r =>
    match rounds with
    | 0 => .exceeded
    | rounds + 1 => (moreWithin part rounds r).map (a :: ·)

theorem repeatWithin_succ {part : List Char → Ending α} {a : α} {cs r : List Char}
    (h : part cs = .found a r) (hlen : r.length < cs.length) (rounds : Nat) :
    repeatWithin part (rounds + 1) cs = (repeatWithin part rounds r).map (a :: ·) := by
  rw [repeatWithin, h]
  exact if_neg (Nat.ne_of_lt hlen)

/-- A repetition needs no more rounds than there are characters. -/
theorem repeatWithin_eq {element : (r : List Char) → Reading α r} {rounds : Nat}
    {cs : List Char} (hrounds : cs.length ≤ rounds) :
    repeatWithin (fun r => .of (element r)) rounds cs = .of (many element cs) := by
  fun_induction many element cs generalizing rounds with
  | case1 cs f hf hfatal =>
    rw [repeatWithin, hf]
    exact if_pos hfatal
  | case2 cs f hf hfatal =>
    rw [repeatWithin, hf]
    exact if_neg hfatal
  | case3 cs a r hr ha f hf ih =>
    obtain ⟨rounds, rfl⟩ := Nat.exists_eq_succ_of_ne_zero (by omega : rounds ≠ 0)
    rw [repeatWithin_succ (by rw [ha]; rfl) hr, ih (by omega), hf]
    rfl
  | case4 cs a r hr ha as r' hr' has ih =>
    obtain ⟨rounds, rfl⟩ := Nat.exists_eq_succ_of_ne_zero (by omega : rounds ≠ 0)
    rw [repeatWithin_succ (by rw [ha]; rfl) hr, ih (by omega), has]
    rfl

-- The guard is met by a part that takes nothing, and the rounds can be too few.
example : repeatWithin (fun cs => .found () cs) 3 ['x'] = .idle := rfl

example : repeatWithin layoutRound 0 [' '] = .exceeded := rfl

section Separated

variable {part : List Char → Ending α} {cs next : List Char} {hnext : next.length < cs.length}

theorem moreWithin_failed {f : Failure} (hcomma : symbol? ',' cs = some ⟨next, hnext⟩)
    (h : part next = .failed f) (rounds : Nat) :
    moreWithin part rounds cs = if f.fatal then .failed f else .found [] cs := by
  rw [moreWithin, hcomma]
  simp only [h, if_neg (Nat.ne_of_lt hnext)]

theorem moreWithin_succ {a : α} {r : List Char} (hcomma : symbol? ',' cs = some ⟨next, hnext⟩)
    (h : part next = .found a r) (rounds : Nat) :
    moreWithin part (rounds + 1) cs = (moreWithin part rounds r).map (a :: ·) := by
  rw [moreWithin, hcomma]
  simp only [h, if_neg (Nat.ne_of_lt hnext)]

variable {n : Nat} {element : (r : List Char) → r.length < n → Reading α r}
  (hpart : ∀ r hr, part r = .of (element r hr))

include hpart

/-- After a comma and an element there are fewer characters and one round less. -/
theorem moreWithin_eq {rounds : Nat} (hn : cs.length < n) (hrounds : cs.length ≤ rounds) :
    moreWithin part rounds cs = .of (moreSeparated element cs hn) := by
  fun_induction moreSeparated element cs hn generalizing rounds with
  | case1 cs hn hcomma =>
    rw [moreWithin, hcomma]
    rfl
  | case2 cs hn next hnext hcomma f hf hfatal =>
    rw [moreWithin_failed hcomma (by rw [hpart next (by omega), hf]; rfl), if_pos hfatal]
    rfl
  | case3 cs hn next hnext hcomma f hf hfatal =>
    rw [moreWithin_failed hcomma (by rw [hpart next (by omega), hf]; rfl), if_neg hfatal]
    rfl
  | case4 cs hn next hnext hcomma a r hr ha f hf ih =>
    obtain ⟨rounds, rfl⟩ := Nat.exists_eq_succ_of_ne_zero (by omega : rounds ≠ 0)
    rw [moreWithin_succ hcomma (by rw [hpart next (by omega), ha]; rfl), ih (by omega), hf]
    rfl
  | case5 cs hn next hnext hcomma a r hr ha as r' hr' has ih =>
    obtain ⟨rounds, rfl⟩ := Nat.exists_eq_succ_of_ne_zero (by omega : rounds ≠ 0)
    rw [moreWithin_succ hcomma (by rw [hpart next (by omega), ha]; rfl), ih (by omega), has]
    rfl

theorem separateWithin_eq {rounds : Nat} (hn : cs.length < n) (hrounds : cs.length ≤ rounds) :
    separateWithin part rounds cs = .of (separated element cs hn) := by
  rw [separateWithin, hpart cs hn, separated]
  cases hfirst : element cs hn with
  | error f =>
    by_cases hfatal : f.fatal = true
    · simp only [Ending.of, if_pos hfatal]
    · simp only [Ending.of, if_neg hfatal]
  | ok found =>
    obtain ⟨a, r, hr⟩ := found
    obtain ⟨rounds, rfl⟩ := Nat.exists_eq_succ_of_ne_zero (by omega : rounds ≠ 0)
    have hmore : moreWithin part rounds r = .of (moreSeparated element r (by omega)) :=
      moreWithin_eq hpart (by omega) (by omega)
    simp only [Ending.of, hmore]
    cases moreSeparated element r (by omega) with
    | error f => rfl
    | ok more => rfl

end Separated

end Loops

section Lists

/-- A literal in which the items of a list are read as given. -/
def literalOf (items : List Char → Ending (List Value)) (cs : List Char) : Ending Value :=
  match symbol? '[' cs with
  | none => .of (within .literal (afterSkip (atom (skip cs))))
  | some ⟨rest, _⟩ =>
    match items rest with
    | .failed f => .failed (f.within .literal)
    | .idle => .idle
    | .exceeded => .exceeded
    | .found items r =>
      match symbol? ']' r with
      | none => .failed ((Failure.fail (skip r)).within .literal)
      | some ⟨r', _⟩ => .found (.list items) r'

/-- A literal whose lists are nested no deeper than a bound, with guarded loops
over their items. -/
def literalWithin : Nat → List Char → Ending Value
  | 0 => literalOf fun _ => .exceeded
  | depth + 1 => literalOf fun rest => separateWithin (literalWithin depth) rest.length rest

theorem literalOf_eq {items : List Char → Ending (List Value)} {cs : List Char}
    (h : ∀ rest (hrest : rest.length < cs.length),
      items rest = .of (separated (fun r _ => literal r) rest hrest)) :
    literalOf items cs = .of (literal cs) := by
  rw [literalOf, literal]
  cases hopen : symbol? '[' cs with
  | none => rfl
  | some next =>
    obtain ⟨rest, hrest⟩ := next
    simp only [h rest hrest]
    cases separated (fun r _ => literal r) rest hrest with
    | error f => rfl
    | ok found =>
      obtain ⟨items, r, hr⟩ := found
      simp only [Ending.of]
      cases symbol? ']' r with
      | none => rfl
      | some last => rfl

/-- A list is nested no deeper than it has characters, as its bracket is one. -/
theorem literalWithin_eq {depth : Nat} {cs : List Char} (hdepth : cs.length ≤ depth) :
    literalWithin depth cs = .of (literal cs) := by
  induction depth generalizing cs with
  | zero =>
    rw [literalWithin]
    exact literalOf_eq fun rest hrest => by omega
  | succ depth ih =>
    rw [literalWithin]
    refine literalOf_eq fun rest hrest => ?_
    exact separateWithin_eq (fun r hr => ih (by omega)) hrest (Nat.le_refl _)

end Lists

theorem repeatWithin_layoutRound {rounds : Nat} {cs : List Char} (hrounds : cs.length ≤ rounds) :
    ∃ steps, repeatWithin layoutRound rounds cs = .found steps (skip cs) := by
  induction rounds generalizing cs with
  | zero =>
    obtain rfl := List.length_eq_zero_iff.mp (Nat.le_zero.mp hrounds)
    exact ⟨[], by rw [skip]; rfl⟩
  | succ rounds ih =>
    cases hstep : layoutStep? cs with
    | none =>
      refine ⟨[], ?_⟩
      rw [repeatWithin, layoutRound, hstep, skip_of_layoutStep?_none hstep]
      rfl
    | some rest =>
      have hlen := (consumes_of_layoutStep? hstep).length_lt
      obtain ⟨steps, hsteps⟩ := ih (by omega : rest.length ≤ rounds)
      refine ⟨() :: steps, ?_⟩
      rw [repeatWithin_succ (by rw [layoutRound, hstep]) hlen, hsteps, skip_of_layoutStep? hstep]
      rfl

/-- A document whose loop over the rules is guarded. -/
def documentWithin (rounds : Nat) (cs : List Char) : Ending Document :=
  match repeatWithin (fun r => .of (rule r)) rounds cs with
  | .failed f => .failed f
  | .idle => .idle
  | .exceeded => .exceeded
  | .found rules r => if (skip r).isEmpty then .found ⟨rules⟩ [] else .failed (.fail (skip r))

theorem documentWithin_eq {rounds : Nat} {cs : List Char} (hrounds : cs.length ≤ rounds) :
    documentWithin rounds cs =
      match document cs with
      | .ok d => .found d []
      | .error f => .failed f := by
  rw [documentWithin, repeatWithin_eq hrounds, document]
  cases many rule cs with
  | error f => rfl
  | ok found =>
    obtain ⟨rules, r, hr⟩ := found
    by_cases hend : (skip r).isEmpty = true
    · simp only [Ending.of, if_pos hend]
    · simp only [Ending.of, if_neg hend]

/-- The grammar always progresses. A step over layout, a literal, a parameter, a
clause and a rule each take a character and leave the end of the text. So a loop
over such parts neither meets a round that takes nothing nor needs more rounds
than there are characters, lists are nested no deeper than that, and reading any
text ends with a document or a failure. -/
theorem grammar_progresses :
    ((∀ cs rest, layoutStep? cs = some rest → Consumes cs rest) ∧
      (∀ cs v rest, Reads (literal cs) v rest → Consumes cs rest) ∧
      (∀ cs a rest, Reads (argument cs) a rest → Consumes cs rest) ∧
      (∀ cs c rest, Reads (clause cs) c rest → Consumes cs rest) ∧
      ∀ cs r rest, Reads (rule cs) r rest → Consumes cs rest) ∧
    (∀ cs : List Char,
      (∃ steps, repeatWithin layoutRound cs.length cs = .found steps (skip cs)) ∧
      literalWithin cs.length cs = .of (literal cs) ∧
      separateWithin (fun r => .of (literal r)) cs.length cs =
        .of (separated (fun r _ => literal r) cs (Nat.lt_succ_self _)) ∧
      separateWithin (fun r => .of (argument r)) cs.length cs =
        .of (separated (fun r _ => argument r) cs (Nat.lt_succ_self _)) ∧
      repeatWithin (fun r => .of (clause r)) cs.length cs = .of (many clause cs) ∧
      repeatWithin (fun r => .of (rule r)) cs.length cs = .of (many rule cs)) ∧
    ∀ input : String, documentWithin input.toList.length input.toList =
      match Document.parse input with
      | .ok d => .found d []
      | .error f => .failed f := by
  refine ⟨⟨?_, ?_, ?_, ?_, ?_⟩, fun cs => ⟨?_, ?_, ?_, ?_, ?_, ?_⟩, fun input => ?_⟩
  · intro cs rest h
    exact consumes_of_layoutStep? h
  · intro cs v rest h
    exact consumes_of_reads h (spellsLiteral_of_literal h)
  · intro cs a rest h
    exact consumes_of_reads h (spellsParameter_of_argument h)
  · intro cs c rest h
    exact consumes_of_reads h (spellsClause_of_clause h)
  · intro cs r rest h
    exact consumes_of_reads h (spellsRule_of_rule h)
  · exact repeatWithin_layoutRound (Nat.le_refl _)
  · exact literalWithin_eq (Nat.le_refl _)
  · exact separateWithin_eq (fun _ _ => rfl) (Nat.lt_succ_self _) (Nat.le_refl _)
  · exact separateWithin_eq (fun _ _ => rfl) (Nat.lt_succ_self _) (Nat.le_refl _)
  · exact repeatWithin_eq (Nat.le_refl _)
  · exact repeatWithin_eq (Nat.le_refl _)
  · exact documentWithin_eq (Nat.le_refl _)

/-- A list of lists, which is given to a call. -/
def nestedList : Value := .list [.list [.int 1], .list []]

def nestedArgument : String × Argument := ("of", .literal nestedList)

def nestedClause : Clause := ⟨.thenClause, .call "f" [nestedArgument]⟩

/-- A rule and the parts in it each take what they are read from, from the blank
before it to the innermost list. -/
theorem progress_nestedRule :
    (layoutStep? " rule: then f(of=[[1],[]])".toList = some "rule: then f(of=[[1],[]])".toList ∧
      Consumes " rule: then f(of=[[1],[]])".toList "rule: then f(of=[[1],[]])".toList) ∧
    (Reads (literal "[[1],[]])".toList) nestedList ")".toList ∧
      Consumes "[[1],[]])".toList ")".toList) ∧
    (Reads (argument "of=[[1],[]])".toList) nestedArgument ")".toList ∧
      Consumes "of=[[1],[]])".toList ")".toList) ∧
    (Reads (clause " then f(of=[[1],[]])".toList) nestedClause [] ∧
      Consumes " then f(of=[[1],[]])".toList []) ∧
    Reads (rule " rule: then f(of=[[1],[]])".toList) ⟨none, [nestedClause]⟩ [] ∧
      Consumes " rule: then f(of=[[1],[]])".toList [] := by
  obtain ⟨⟨hlayout, hliteral, hargument, hclause, hrule⟩, _⟩ := grammar_progresses
  have hstep : layoutStep? " rule: then f(of=[[1],[]])".toList =
      some "rule: then f(of=[[1],[]])".toList := rfl
  have hone : SpellsLiteral StandsFor (.int 1) [.number ⟨false, ['1'], none⟩] :=
    .int rfl (by decide)
  have hlist : SpellsLiteral StandsFor nestedList _ :=
    .list (.cons (.list (.cons hone .nil)) (.cons (.list .nil) .nil))
  have hof : SpellsParameter StandsFor nestedArgument _ := .mk (.literal hlist)
  have hthen : SpellsClause StandsFor nestedClause _ :=
    .mk (.call (by decide) (by decide) (.cons hof .nil))
  have hnested : SpellsRule StandsFor ⟨none, [nestedClause]⟩ _ := .mk (.cons hthen .nil)
  have hclosing : NumberEnd ")".toList := by
    rintro c ⟨⟩
    decide
  have hend : RuleEnd [] := ruleEnd_of_skip (by rw [skip])
  have hreadsList : Reads (literal "[[1],[]])".toList) nestedList ")".toList :=
    literal_of_laid (fun _ _ h => h) hlist (by decide +kernel) hclosing
  have hreadsArgument : Reads (argument "of=[[1],[]])".toList) nestedArgument ")".toList :=
    argument_of_laid (fun _ _ h => h) hof (by decide +kernel) hclosing
  have hreadsClause : Reads (clause " then f(of=[[1],[]])".toList) nestedClause [] :=
    clause_of_laid (fun _ _ h => h) hthen (by decide +kernel) hend.1
  have hreadsRule : Reads (rule " rule: then f(of=[[1],[]])".toList) ⟨none, [nestedClause]⟩ [] :=
    rule_of_laid (fun _ _ h => h) hnested (by decide +kernel) hend
  exact ⟨⟨hstep, hlayout _ _ hstep⟩, ⟨hreadsList, hliteral _ _ _ hreadsList⟩,
    ⟨hreadsArgument, hargument _ _ _ hreadsArgument⟩,
    ⟨hreadsClause, hclause _ _ _ hreadsClause⟩, hreadsRule, hrule _ _ _ hreadsRule⟩

end ConversionRules.Grammar
