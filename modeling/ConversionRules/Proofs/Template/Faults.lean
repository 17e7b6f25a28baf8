import ConversionRules.Proofs.Template.Segments
import ConversionRules.Proofs.Value.Texts
import ConversionRules.Proofs.Expression.Blame

/-!
What a fault of a template shows. A fault quotes an index, an alignment or a
format as it stands in the template, so the characters of the template are in
it unescaped; beside these it can only name the type of an argument.
-/
namespace ConversionRules

open Text (Shows SingleLine BreaksWithin)

def TemplateFault.texts : TemplateFault → List String
  | .invalidIndex text => [text]
  | .invalidAlignment text => [text]
  | .numberRequired format found => format :: kindTexts found
  | .integerRequired format => [format]
  | .invalidPrecision format => [format]
  | .precisionTooLarge format => [format]
  | .unknownSpecifier format => [format]
  | .unmatchedBrace | .unclosedPlaceholder | .missingArgument _ _ | .alignmentTooWide _ => []

theorem shows_quotation {before after : String} (hbefore : SingleLine before)
    (hafter : SingleLine after) (text : String) : Shows (before ++ text ++ after) [text] :=
  ((Shows.wording hbefore).then_text text).then_wording hafter

theorem TemplateFault.shows_message (fault : TemplateFault) : Shows fault.message fault.texts := by
  cases fault with
  | unmatchedBrace => exact Shows.wording (by decide)
  | unclosedPlaceholder => exact Shows.wording (by decide)
  | invalidIndex text => exact shows_quotation (by decide) (by decide) text
  | missingArgument index given =>
    exact ((((Shows.wording (by decide)).then_wording (singleLine_toString index)).then_wording
      (by decide)).then_wording (singleLine_toString given)).then_wording (by decide)
  | invalidAlignment text => exact shows_quotation (by decide) (by decide) text
  | alignmentTooWide width =>
    exact (((Shows.wording (by decide)).then_wording (singleLine_integer width)).then_wording
      (by decide)).then_wording (by decide)
  | numberRequired format found =>
    exact (shows_quotation (by decide) (by decide) format).append (shows_kindText found)
  | integerRequired format => exact shows_quotation (by decide) (by decide) format
  | invalidPrecision format => exact shows_quotation (by decide) (by decide) format
  | precisionTooLarge format =>
    exact (shows_quotation (by decide) (by decide) format).then_wording (by decide)
  | unknownSpecifier format => exact shows_quotation (by decide) (by decide) format

namespace Template

/-- Every text that the fault shows is made of what is written, or is the name
of the type of an argument. -/
def Quotes (written : List Char) (args : List Value) (fault : TemplateFault) : Prop :=
  ∀ text ∈ fault.texts, text.toList ⊆ written ∨ ∃ v ∈ args, text ∈ kindTexts v.type?

section Quotations

variable {written written' format digits : List Char} {args : List Value} {fault : TemplateFault}

theorem Quotes.mono (h : Quotes written args fault) (hwritten : written ⊆ written') :
    Quotes written' args fault := by
  intro text htext
  exact (h text htext).imp_left fun hsubset => List.Subset.trans hsubset hwritten

theorem quotes_nothing (h : fault.texts = []) : Quotes written args fault := by
  intro text htext
  rw [h] at htext
  cases htext

theorem quotes_written (h : fault.texts = [String.ofList written]) :
    Quotes written args fault := by
  intro text htext
  rw [h] at htext
  rw [List.mem_singleton.mp htext, String.toList_ofList]
  exact Or.inl (List.Subset.refl written)

theorem quotes_precision {default : Nat} (h : precision format default digits = .error fault) :
    Quotes format args fault := by
  unfold precision at h
  split at h
  · cases h
  split at h
  · cases h
    exact quotes_written rfl
  split at h
  · cases h
    exact quotes_written rfl
  · cases h

theorem quotes_specified {v : Value} {n : Binary64} (h : specified format v n = .error fault) :
    Quotes format args fault := by
  unfold specified at h
  split at h
  · cases h
    exact quotes_written rfl
  split at h
  · exact quotes_precision (map_eq_error_iff.mp h)
  · exact quotes_precision (map_eq_error_iff.mp h)
  · exact quotes_precision (map_eq_error_iff.mp h)
  · split at h
    · exact quotes_precision (map_eq_error_iff.mp h)
    · cases h
      exact quotes_written rfl
  · cases h
    exact quotes_written rfl

theorem quotes_formatNumber {v : Value} (hv : v ∈ args)
    (h : formatNumber format v = .error fault) : Quotes format args fault := by
  unfold formatNumber at h
  split at h
  · exact quotes_specified h
  · exact quotes_specified h
  · cases h
    intro text htext
    rcases List.mem_cons.mp htext with rfl | hfound
    · rw [String.toList_ofList]
      exact Or.inl (List.Subset.refl format)
    · exact Or.inr ⟨v, hv, hfound⟩

theorem quotes_argumentText {format : Option (List Char)} {v : Value} (hv : v ∈ args)
    (h : argumentText format v = .error fault) : Quotes (format.getD []) args fault := by
  unfold argumentText at h
  split at h
  · exact quotes_formatNumber hv h
  · cases h

theorem quotes_align {alignment : Option (List Char)} {text : List Char}
    (h : align alignment text = .error fault) : Quotes (alignment.getD []) args fault := by
  unfold align at h
  split at h
  · cases h
  split at h
  · cases h
    exact (quotes_written rfl).mono (Text.trimmed_trim _).subset
  split at h
  · cases h
    exact quotes_nothing rfl
  · cases h

theorem quotes_argument {index : List Char} (h : argument args index = .error fault) :
    Quotes index args fault := by
  unfold argument at h
  split at h
  · cases h
    exact quotes_written rfl
  split at h
  · cases h
    exact quotes_nothing rfl
  · cases h

theorem mem_of_argument {index : List Char} {v : Value} (h : argument args index = .ok v) :
    v ∈ args := by
  obtain ⟨n, _, hv⟩ := argument_eq_ok_iff.mp h
  exact List.mem_of_getElem? hv

/-- Both parts of a text that is cut are made of its characters. -/
theorem cutAt_subset {c : Char} {cs before : List Char} {after : Option (List Char)}
    (h : cutAt c cs = (before, after)) : before ⊆ cs ∧ after.getD [] ⊆ cs := by
  obtain ⟨_, rfl⟩ := cutAt_eq_iff.mp h
  refine ⟨List.subset_append_left _ _, ?_⟩
  cases after with
  | none => exact List.nil_subset _
  | some part =>
    exact List.Subset.trans (List.subset_cons_self c part) (List.subset_append_right before _)

theorem quotes_placeholder {spec : List Char} (h : placeholder args spec = .error fault) :
    Quotes spec args fault := by
  unfold placeholder at h
  rcases hcolon : cutAt ':' spec with ⟨head, format⟩
  rcases hcomma : cutAt ',' head with ⟨index, alignment⟩
  obtain ⟨hhead, hformat⟩ := cutAt_subset hcolon
  obtain ⟨hindex, halignment⟩ := cutAt_subset hcomma
  simp only [hcolon, hcomma] at h
  split at h
  · rename_i fault' hargument
    cases h
    refine (quotes_argument hargument).mono (List.Subset.trans (Text.trimmed_trim index).subset ?_)
    exact List.Subset.trans hindex hhead
  · rename_i v hargument
    split at h
    · rename_i fault' htext
      cases h
      exact (quotes_argumentText (mem_of_argument hargument) htext).mono hformat
    · exact (quotes_align h).mono (List.Subset.trans halignment hhead)

/-- The fault of a part in front of which there is more of the template. -/
theorem Quotes.after (before : List Char) {rest : List Char} (h : Quotes rest args fault) :
    Quotes (before ++ rest) args fault :=
  h.mono (List.subset_append_right before rest)

theorem quotes_expand {cs : List Char} (h : expand args cs = .error fault) :
    Quotes cs args fault := by
  fun_induction expand args cs with
  | case1 => cases h
  | case2 rest ih => exact (ih (map_eq_error_iff.mp h)).after ['\x7b', '\x7b']
  | case3 rest ih => exact (ih (map_eq_error_iff.mp h)).after ['\x7d', '\x7d']
  | case4 =>
    cases h
    exact quotes_nothing rfl
  | case5 =>
    cases h
    exact quotes_nothing rfl
  | case6 rest _ _ _ _ fault' hplaceholder =>
    cases h
    refine ((quotes_placeholder hplaceholder).mono ?_).after ['\x7b']
    exact (List.takeWhile_prefix _).subset
  | case7 rest _ brace more hmore _ _ ih =>
    have hrest : brace :: more <:+ rest := hmore ▸ List.dropWhile_suffix _
    refine ((ih (map_eq_error_iff.mp h)).mono ?_).after ['\x7b']
    exact List.Subset.trans (List.subset_cons_self brace more) hrest.subset
  | case8 c rest _ _ _ _ ih => exact (ih (map_eq_error_iff.mp h)).after [c]

end Quotations

end Template

end ConversionRules
