import ConversionRules.Proofs.Document.Rules
import ConversionRules.Proofs.Document.Writing

/-!
Parsing reads exactly the renderings of documents. A text that is accepted is
tokens and layout that spell the document and nothing besides; and a document
that can be written down is read back from every text that renders it,
whatever stands between the tokens.
-/
namespace ConversionRules

open Spelling Lexeme Grammar

namespace Spelling

theorem skip_eq_nil_iff {cs : List Char} : skip cs = [] ↔ Layout cs [] := by
  constructor
  · intro h
    obtain ⟨gap, heq, hgap⟩ := exists_layout_skip cs
    rw [h, List.append_nil] at heq
    rw [h] at hgap
    exact heq ▸ hgap
  · intro h
    have hskip := skip_layout h
    rw [List.append_nil, skip] at hskip
    exact hskip

theorem exists_rendering_of_document {cs : List Char} {d : Document}
    (h : document cs = .ok d) : ∃ ts, d.Spells StandsFor ts ∧ Rendering ts cs := by
  unfold document at h
  split at h
  · cases h
  · rename_i rules r hr hrules
    split at h
    · rename_i hempty
      cases h
      obtain ⟨ts, hts, hlaid⟩ :=
        sequence_of_many (fun _ _ _ hx => spellsRule_of_rule hx) ⟨hr, hrules⟩
      exact ⟨ts, hts, r, hlaid, skip_eq_nil_iff.mp (List.isEmpty_iff.mp hempty)⟩
    · cases h

theorem document_of_rendering {quotes : String → List Char → Prop}
    (hquotes : ∀ s content, quotes s content → StandsFor s content) {cs : List Char}
    {d : Document} {ts : List Token} (hd : d.Spells quotes ts) (h : Rendering ts cs) :
    document cs = .ok d := by
  obtain ⟨last, hlaid, hlast⟩ := h
  have hskip := skip_eq_nil_iff.mpr hlast
  obtain ⟨_, heq⟩ := many_of_sequence (fun hx => rule_of_laid hquotes hx) ruleEnd_of_rule hd hlaid
    (ruleEnd_of_skip hskip) (refuses_rule_of_end hskip)
  simp only [document, heq, hskip, List.isEmpty_nil, if_true]

/-- The grammar is unambiguous: a text renders at most one document. -/
theorem eq_of_rendering {cs : List Char} {d e : Document} {ts us : List Token}
    (hd : d.Spells StandsFor ts) (hts : Rendering ts cs) (he : e.Spells StandsFor us)
    (hus : Rendering us cs) : d = e := by
  have hdoc := document_of_rendering (fun _ _ hs => hs) hd hts
  rw [document_of_rendering (fun _ _ hs => hs) he hus] at hdoc
  exact (Except.ok.inj hdoc).symm

/-- Escaping quotes and backslashes and nothing else is undone. -/
theorem standsFor_of_escaped {s : String} {content : List Char} (h : Escaped s content) :
    StandsFor s content := by
  rw [Escaped] at h
  rw [h, StandsFor]
  induction s.toList with
  | nil => exact .nil
  | cons c cs ih =>
    rw [List.flatMap_cons, escape]
    by_cases hescape : c = '"' ∨ c = '\\'
    · rw [if_pos hescape]
      rcases hescape with rfl | rfl
      · exact .quote ih
      · exact .backslash ih
    · rw [if_neg hescape]
      rw [not_or] at hescape
      exact .plain hescape.1 hescape.2 ih

end Spelling

namespace Document

/-- A text is accepted exactly if it is tokens and layout, and the tokens spell
the document that is returned. -/
theorem parse_eq_ok_iff (input : String) (d : Document) :
    parse input = .ok d ↔ ∃ ts, d.Spells StandsFor ts ∧ Rendering ts input.toList := by
  constructor
  · exact exists_rendering_of_document
  · intro hyp
    rcases hyp with ⟨ts, hts, h⟩
    exact document_of_rendering (fun _ _ hs => hs) hts h

/-- A document that can be written down has a rendering and is read back from
every one of them. -/
theorem parse_rendering {d : Document} (hd : d.Writable) :
    (∃ ts input, d.Spells Escaped ts ∧ Rendering ts (String.toList input)) ∧
      ∀ ts input, d.Spells Escaped ts → Rendering ts (String.toList input) →
        parse input = .ok d := by
  refine ⟨hd.exists_rendering, fun ts input hts h => ?_⟩
  exact document_of_rendering (fun _ _ => standsFor_of_escaped) hts h

/-- A document whose names begin with words of the grammar. -/
def keywordNames : Document :=
  ⟨[⟨some "ruled", [⟨.ifClause, .call "nullsafe" [("iff", .word "trueish"),
    ("then", .literal (.list [.int (-1), .string "\""]))]⟩]⟩]⟩

theorem writable_keywordNames : keywordNames.Writable := by
  intro r hr
  obtain rfl := List.mem_singleton.mp hr
  refine ⟨by decide, fun c hc => ?_⟩
  obtain rfl := List.mem_singleton.mp hc
  refine .call (by decide) (by decide) (by decide) ?_
  rw [List.forall_mem_cons, List.forall_mem_singleton]
  refine ⟨⟨by decide, .word (by decide) (by decide)⟩, by decide, .literal (.list ?_)⟩
  rw [List.forall_mem_cons, List.forall_mem_singleton]
  exact ⟨.int _, .string _⟩

theorem parse_keywordNames :
    keywordNames.Writable ∧
      parse "rule ruled:# rows\r\nif nullsafe(iff=trueish,then=[-1,\"\\\"\"])" =
        .ok keywordNames := by
  have hint : SpellsLiteral Escaped (.int (-1)) [.number ⟨true, ['1'], none⟩] :=
    .int rfl (by decide)
  have hitems : Separated (SpellsLiteral Escaped) [.int (-1), .string "\""] _ :=
    .cons hint (.cons (.string rfl) .nil)
  have hspells : keywordNames.Spells Escaped _ :=
    .cons (.mk (.cons (.mk (.call (by decide) (by decide) (.cons (.mk (.word (by decide)))
      (.cons (.mk (.literal (.list hitems))) .nil)))) .nil)) .nil
  refine ⟨writable_keywordNames, (parse_rendering writable_keywordNames).2 _ _ hspells ?_⟩
  exact ⟨[], by decide +kernel, .nothing []⟩

end Document

end ConversionRules
