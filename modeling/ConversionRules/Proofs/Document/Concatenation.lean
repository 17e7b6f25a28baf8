import ConversionRules.Proofs.Document.Denotation
import ConversionRules.Proofs.Document.Parsing

/-!
Two texts on successive lines. What ends the first one, white space or a
comment that keeps to its line, is layout before the second one, so that the
rules of both are read one after the other. Rules are denoted one by one and
checked in their order, hence only a name that both texts use is in the way.
-/
namespace ConversionRules

namespace Spelling

/-- The line of a comment may go on in a text if a line feed comes first. -/
theorem LineEnd.append {cs : List Char} (h : LineEnd cs) (more : List Char) :
    LineEnd (cs ++ '\n' :: more) := by
  cases h with
  | endOfText => exact .feed more
  | feed cs => exact .feed _
  | returnFeed cs => exact .returnFeed _

theorem Layout.append {gap rest : List Char} (h : Layout gap rest) (more : List Char) :
    Layout gap (rest ++ '\n' :: more) := by
  induction h with
  | nothing rest => exact .nothing _
  | space hc _ ih => exact .space hc ih
  | comment htext hend _ ih =>
    have hline := hend.append more
    rw [List.append_assoc] at hline
    exact .comment htext hline ih

theorem Layout.feed {gap rest : List Char} (h : Layout gap ('\n' :: rest)) :
    Layout (gap ++ ['\n']) rest := by
  generalize hnext : '\n' :: rest = next at h
  induction h with
  | nothing _ => exact .space rfl (.nothing rest)
  | space hc _ ih => exact .space hc (ih hnext)
  | @comment text gap next htext hend _ ih =>
    rw [List.cons_append, List.append_assoc]
    refine .comment htext ?_ (ih hnext)
    rw [List.append_assoc, List.singleton_append, hnext]
    exact hend

theorem Token.EndsBefore.append {t : Token} {cs : List Char} (h : t.EndsBefore cs)
    (more : List Char) : t.EndsBefore (cs ++ '\n' :: more) := by
  cases t with
  | word s =>
    intro c hc
    cases cs with
    | nil =>
      obtain rfl : '\n' = c := by simpa using hc
      decide
    | cons d cs => exact h c hc
  | symbol c => trivial
  | number n => trivial
  | quoted content => trivial

theorem Laid.append {ts : List Token} {cs rest : List Char} (h : Laid ts cs rest)
    (more : List Char) : Laid ts (cs ++ '\n' :: more) (rest ++ '\n' :: more) := by
  induction h with
  | nil rest => exact .nil _
  | cons hwell hgap hend _ ih =>
    have hgap' := hgap.append more
    rw [List.append_assoc] at hgap' ⊢
    rw [List.append_assoc]
    exact .cons hwell hgap' (hend.append more) ih

theorem Rendering.after_layout {gap cs : List Char} {ts : List Token} (hgap : Layout gap cs)
    (h : Rendering ts cs) : Rendering ts (gap ++ cs) := by
  obtain ⟨last, hlaid, hlast⟩ := h
  cases ts with
  | nil =>
    cases hlaid
    refine ⟨gap ++ cs, .nil _, skip_eq_nil_iff.mp ?_⟩
    rw [skip_layout hgap]
    exact skip_eq_nil_iff.mpr hlast
  | cons t ts =>
    rw [laid_cons_iff, ← skip_layout hgap, ← laid_cons_iff] at hlaid
    exact ⟨last, hlaid, hlast⟩

theorem Rendering.append {ts us : List Token} {cs ds : List Char} (hts : Rendering ts cs)
    (hus : Rendering us ds) : Rendering (ts ++ us) (cs ++ '\n' :: ds) := by
  obtain ⟨last, hlaid, hlast⟩ := hts
  have hgap : Layout (last ++ ['\n']) ds := (hlast.append ds).feed
  obtain ⟨last', hlaid', hlast'⟩ := hus.after_layout hgap
  rw [List.append_assoc, List.singleton_append] at hlaid'
  exact ⟨last', laid_append_iff.mpr ⟨_, hlaid.append ds, hlaid'⟩, hlast'⟩

theorem Sequence.append {α : Type} {lead : List Token} {spells : α → List Token → Prop}
    {as bs : List α} {ts us : List Token} (has : Sequence lead spells as ts)
    (hbs : Sequence lead spells bs us) : Sequence lead spells (as ++ bs) (ts ++ us) := by
  induction has with
  | nil => exact hbs
  | cons ha _ ih =>
    rw [List.append_assoc, List.append_assoc]
    exact .cons ha ih

end Spelling

open Spelling

theorem Document.parse_append {a b : String} {da db : Document} (ha : parse a = .ok da)
    (hb : parse b = .ok db) : parse (a ++ "\n" ++ b) = .ok ⟨da.rules ++ db.rules⟩ := by
  obtain ⟨ts, hts, hrendering⟩ := exists_rendering_of_document ha
  obtain ⟨us, hus, hrendering'⟩ := exists_rendering_of_document hb
  have hjoined : Rendering (ts ++ us) (a ++ "\n" ++ b).toList := by
    simp only [String.toList_append, List.append_assoc]
    exact hrendering.append hrendering'
  have hspells : Document.Spells StandsFor ⟨da.rules ++ db.rules⟩ (ts ++ us) := hts.append hus
  exact document_of_rendering (fun _ _ hs => hs) hspells hjoined

/-- The names of the rules, in their order. -/
def Converter.names (c : Converter) : List String := c.rules.filterMap Rule.name

theorem inOrder_append_iff (rs ts : List Rule) :
    InOrder (rs ++ ts) ↔ InOrder rs ∧ InOrder ts ∧
      ∀ name ∈ rs.filterMap Rule.name, name ∉ ts.filterMap Rule.name := by
  constructor
  · rintro ⟨hnames, hconditions⟩
    rw [List.filterMap_append, List.nodup_append] at hnames
    obtain ⟨hrs, hts, hdisjoint⟩ := hnames
    refine ⟨⟨hrs, fun r hr => hconditions r (List.mem_append_left _ hr)⟩,
      ⟨hts, fun r hr => hconditions r (List.mem_append_right _ hr)⟩, ?_⟩
    exact fun name hname hname' => hdisjoint name hname name hname' rfl
  · rintro ⟨⟨hrs, hconditions⟩, ⟨hts, hconditions'⟩, hdisjoint⟩
    constructor
    · rw [List.filterMap_append, List.nodup_append]
      refine ⟨hrs, hts, ?_⟩
      rintro name hname _ hname' rfl
      exact hdisjoint name hname hname'
    · intro r hr
      rcases List.mem_append.mp hr with hr | hr
      · exact hconditions r hr
      · exact hconditions' r hr

namespace Converter

/-- Rules in order are passed by; their names are seen afterwards. -/
theorem exists_validateFrom_append {index : Nat} {seen : List String} {rs : List Rule}
    (h : validateFrom index seen rs = .ok ()) (ts : List Rule) :
    ∃ seen', (∀ name, name ∈ seen' ↔ name ∈ rs.filterMap Rule.name ∨ name ∈ seen) ∧
      validateFrom index seen (rs ++ ts) = validateFrom (index + rs.length) seen' ts := by
  induction rs generalizing index seen with
  | nil => exact ⟨seen, by simp, rfl⟩
  | cons r rest ih =>
    obtain ⟨hfresh, hbad, hrest⟩ := (validateFrom_cons index seen r rest).mp h
    obtain ⟨seen', hseen, hpassed⟩ := ih hrest
    have hnew : r.name.filter seen.contains = none := by
      simpa [Option.filter_eq_none_iff] using hfresh
    refine ⟨seen', fun name => ?_, ?_⟩
    · rw [hseen]
      cases hname : r.name with
      | none => rw [List.filterMap_cons_none hname, Option.toList_none, List.nil_append]
      | some first =>
        rw [List.filterMap_cons_some hname, Option.toList_some, List.singleton_append,
          List.mem_cons, List.mem_cons, or_left_comm, or_assoc]
    · rw [List.cons_append, validateFrom, hnew, hbad]
      simp only
      rw [hpassed, List.length_cons, Nat.add_assoc, Nat.add_comm 1]

/-- The first rule whose name stands among the rules before it is reported. -/
theorem ofRules_of_duplicate {rs ts : List Rule} {r : Rule} {name : String} (hrs : InOrder rs)
    (hname : r.name = some name) (hseen : name ∈ rs.filterMap Rule.name) :
    ofRules (rs ++ r :: ts) = .error (.duplicateRule name) := by
  have hvalid : validateFrom 0 [] rs = .ok () := (validate_eq_ok_iff rs).mpr hrs
  obtain ⟨seen, hmem, hpassed⟩ := exists_validateFrom_append hvalid (r :: ts)
  have hfound : name ∈ seen := (hmem name).mpr (.inl hseen)
  have hduplicate : r.name.filter seen.contains = some name := by
    simp [hname, hfound]
  rw [ofRules, validate, hpassed, validateFrom, hduplicate]
  rfl

/-- The first name of a list that satisfies a test belongs to a first rule. -/
theorem exists_rule_of_find? {rules : List Rule} {p : String → Bool} {name : String}
    (h : (rules.filterMap Rule.name).find? p = some name) :
    ∃ before r after, rules = before ++ r :: after ∧ r.name = some name ∧ p name = true ∧
      ∀ other ∈ before.filterMap Rule.name, p other = false := by
  obtain ⟨hp, names, names', hsplit, hbefore⟩ := List.find?_eq_some_iff_append.mp h
  obtain ⟨before, more, rfl, hnames, hmore⟩ := List.filterMap_eq_append_iff.mp hsplit
  obtain ⟨skipped, r, after, rfl, hskipped, hr, -⟩ := List.filterMap_eq_cons_iff.mp hmore
  refine ⟨before ++ skipped, r, after, by rw [List.append_assoc], hr, hp, ?_⟩
  rw [List.filterMap_append, List.filterMap_eq_nil_iff.mpr hskipped, List.append_nil, hnames]
  simpa using hbefore

theorem not_mem_of_find?_eq_none {used others : List String}
    (h : others.find? used.contains = none) : ∀ name ∈ used, name ∉ others := by
  intro name hname hname'
  simpa [hname] using List.find?_eq_none.mp h name hname'

/-- Rules in order that follow rules in order are rejected for the first of
their names that was used before, and for nothing else. -/
theorem ofRules_append {rs ts : List Rule} (hrs : InOrder rs) (hts : InOrder ts) :
    ofRules (rs ++ ts) =
      match (ts.filterMap Rule.name).find? (rs.filterMap Rule.name).contains with
      | none => .ok ⟨rs ++ ts⟩
      | some name => .error (.duplicateRule name) := by
  cases hfirst : (ts.filterMap Rule.name).find? (rs.filterMap Rule.name).contains with
  | none =>
    have hdisjoint := not_mem_of_find?_eq_none hfirst
    exact (ofRules_eq_ok_iff _ _).mpr ⟨(inOrder_append_iff rs ts).mpr ⟨hrs, hts, hdisjoint⟩, rfl⟩
  | some name =>
    obtain ⟨before, r, after, rfl, hname, hshared, hbefore⟩ := exists_rule_of_find? hfirst
    -- up to the rule that is reported all rules are in order
    have hpassed : InOrder (rs ++ before) := by
      refine (inOrder_append_iff _ _).mpr ⟨hrs, ((inOrder_append_iff _ _).mp hts).1, ?_⟩
      intro other hother hother'
      have hnew := hbefore other hother'
      rw [List.contains_iff_mem.mpr hother] at hnew
      cases hnew
    have hseen : name ∈ (rs ++ before).filterMap Rule.name := by
      rw [List.filterMap_append]
      exact List.mem_append_left _ (List.contains_iff_mem.mp hshared)
    rw [← List.append_assoc]
    exact ofRules_of_duplicate hpassed hname hseen

/-- Texts that are accepted apart are accepted on successive lines exactly if
they share no name, and denote the rules of both in turn. Otherwise the first
name of the second text that the first one uses is reported. -/
theorem ofText_append {a b : String} {types : Registry} {ca cb : Converter}
    (ha : ofText a types = .ok ca) (hb : ofText b types = .ok cb) :
    ((∃ c, ofText (a ++ "\n" ++ b) types = .ok c) ↔ ∀ name ∈ ca.names, name ∉ cb.names) ∧
      ofText (a ++ "\n" ++ b) types =
        match cb.names.find? ca.names.contains with
        | none => .ok ⟨ca.rules ++ cb.rules⟩
        | some name => .error (.definition (.duplicateRule name)) := by
  obtain ⟨da, hparse, hdenotes, horder⟩ := (ofText_eq_ok_iff types a ca).mp ha
  obtain ⟨db, hparse', hdenotes', horder'⟩ := (ofText_eq_ok_iff types b cb).mp hb
  have hjoined : Document.Denotes types ⟨da.rules ++ db.rules⟩ (ca.rules ++ cb.rules) :=
    List.rel_append hdenotes hdenotes'
  have hbuilt := ofText_of_denotes types (Document.parse_append hparse hparse') hjoined
  rw [ofRules_append horder horder'] at hbuilt
  rw [hbuilt, names, names]
  cases hfirst : (cb.rules.filterMap Rule.name).find? (ca.rules.filterMap Rule.name).contains with
  | none =>
    have hdisjoint := not_mem_of_find?_eq_none hfirst
    exact ⟨⟨fun _ => hdisjoint, fun _ => ⟨_, rfl⟩⟩, rfl⟩
  | some name =>
    have hshared := List.contains_iff_mem.mp (List.find?_some hfirst)
    have hmem := List.mem_of_find?_eq_some hfirst
    refine ⟨⟨?_, fun hdisjoint => absurd hmem (hdisjoint name hshared)⟩, rfl⟩
    rintro ⟨c, hc⟩
    cases hc

/-- A comment without a line end is the last of the text. -/
def oneText : String := "rule one: then 1 # last"

def twoText : String := "rule two: then 2"

theorem ofText_oneText :
    ofText oneText .empty = .ok ⟨[{ name := some "one", outputs := [.literal (.int 1)] }]⟩ := by
  have hnumber : SpellsLiteral Escaped (.int 1) [.number ⟨false, ['1'], none⟩] :=
    .int rfl (by decide)
  have hspells : Document.Spells Escaped
      ⟨[⟨some "one", [⟨.thenClause, .literal (.int 1)⟩]⟩]⟩ _ :=
    .cons (.mk (.cons (.mk (.literal hnumber)) .nil)) .nil
  have hparse : Document.parse oneText = .ok _ :=
    document_of_rendering (fun _ _ => standsFor_of_escaped) hspells
      ⟨" # last".toList, by decide +kernel, skip_eq_nil_iff.mp (by decide +kernel)⟩
  simp only [ofText, hparse]
  rfl

theorem ofText_twoText :
    ofText twoText .empty = .ok ⟨[{ name := some "two", outputs := [.literal (.int 2)] }]⟩ := by
  have hnumber : SpellsLiteral Escaped (.int 2) [.number ⟨false, ['2'], none⟩] :=
    .int rfl (by decide)
  have hspells : Document.Spells Escaped
      ⟨[⟨some "two", [⟨.thenClause, .literal (.int 2)⟩]⟩]⟩ _ :=
    .cons (.mk (.cons (.mk (.literal hnumber)) .nil)) .nil
  have hparse : Document.parse twoText = .ok _ :=
    document_of_rendering (fun _ _ => standsFor_of_escaped) hspells
      ⟨[], by decide +kernel, .nothing []⟩
  simp only [ofText, hparse]
  rfl

theorem ofText_oneText_append :
    ofText (oneText ++ "\n" ++ twoText) .empty =
        .ok ⟨[{ name := some "one", outputs := [.literal (.int 1)] },
          { name := some "two", outputs := [.literal (.int 2)] }]⟩ ∧
      ofText (oneText ++ "\n" ++ oneText) .empty =
        .error (.definition (.duplicateRule "one")) :=
  ⟨(ofText_append ofText_oneText ofText_twoText).2,
    (ofText_append ofText_oneText ofText_oneText).2⟩

end Converter

end ConversionRules
