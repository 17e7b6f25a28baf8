import Mathlib.Data.List.Forall2
import ConversionRules.Proofs.Expression.Membership
import ConversionRules.Proofs.Template.Placeholders

/-!
Lists of the names of members. A text with a comma is no number, and a flags
type takes it apart at the commas: it is the union of the members that the parts
name, white space around them apart. Any other type takes the text as one name.
-/
namespace ConversionRules

/-- The text without the white space around it. -/
def trimmed (text : String) : String := String.ofList (Text.trim text.toList)

namespace Ordinal

/-- The bits of all ordinals. -/
def union (ordinals : List Int64) : Int64 := ordinals.foldl (fun all n => all ||| n) 0

theorem getLsbD_foldl (i : Nat) (ordinals : List Int64) (all : Int64) :
    (ordinals.foldl (fun all n => all ||| n) all).toBitVec.getLsbD i =
      (all.toBitVec.getLsbD i || ordinals.any fun n => n.toBitVec.getLsbD i) := by
  induction ordinals generalizing all with
  | nil => rw [List.foldl_nil, List.any_nil, Bool.or_false]
  | cons n rest ih =>
    rw [List.foldl_cons, ih, Int64.toBitVec_or, BitVec.getLsbD_or, List.any_cons, Bool.or_assoc]

/-- A bit belongs to the union if it belongs to one of the ordinals. -/
theorem getLsbD_union (i : Nat) (ordinals : List Int64) :
    (union ordinals).toBitVec.getLsbD i = ordinals.any fun n => n.toBitVec.getLsbD i := by
  rw [union, getLsbD_foldl, Int64.toBitVec_zero, BitVec.getLsbD_zero, Bool.false_or]

theorem union_congr {ordinals others : List Int64} (h : ∀ n, n ∈ ordinals ↔ n ∈ others) :
    union ordinals = union others := by
  refine Int64.toBitVec_inj.mp (BitVec.eq_of_getLsbD_eq fun i _ => ?_)
  rw [getLsbD_union, getLsbD_union, Bool.eq_iff_iff, List.any_eq_true, List.any_eq_true]
  simp only [h]

end Ordinal

section Parts

theorem splitOn_append_cons (before after : List Char) :
    (before ++ ',' :: after).splitOn ',' = before.splitOn ',' ++ after.splitOn ',' :=
  List.splitOnP_append_cons before after (beq_self_eq_true ',')

theorem splitOn_of_not_mem {cs : List Char} (h : ',' ∉ cs) : cs.splitOn ',' = [cs] :=
  List.splitOnP_eq_singleton fun _ hc => beq_eq_false_iff_ne.mpr fun heq => h (heq ▸ hc)

theorem not_mem_trimStart {c : Char} {cs : List Char} (h : c ∉ cs) : c ∉ Text.trimStart cs :=
  fun hc => h ((List.dropWhile_suffix Text.isBlank).subset hc)

theorem not_mem_trimEnd {c : Char} {cs : List Char} (h : c ∉ cs) : c ∉ Text.trimEnd cs := by
  have hreverse : c ∉ cs.reverse := fun hc => h (List.mem_reverse.mp hc)
  exact fun hc => not_mem_trimStart hreverse (List.mem_reverse.mp hc)

variable {parts : List (List Char)}

theorem map_trim_splitOn_trimEnd (hne : parts ≠ []) (hparts : ∀ part ∈ parts, ',' ∉ part) :
    ((Text.trimEnd ([','].intercalate parts)).splitOn ',').map Text.trim =
      parts.map Text.trim := by
  induction parts with
  | nil => exact absurd rfl hne
  | cons part rest ih =>
    obtain ⟨hpart, hrest⟩ := List.forall_mem_cons.mp hparts
    cases rest with
    | nil =>
      rw [List.intercalate_singleton, splitOn_of_not_mem (not_mem_trimEnd hpart),
        List.map_singleton, List.map_singleton, Text.trim_trimEnd]
    | cons next rest =>
      rw [List.intercalate_cons_cons, List.append_assoc, List.singleton_append,
        Text.trimEnd_append_cons rfl, splitOn_append_cons, splitOn_of_not_mem hpart,
        List.map_append, ih (List.cons_ne_nil _ _) hrest]
      rfl

/-- White space around a list is white space around its first and its last part. -/
theorem map_trim_splitOn_trim (hne : parts ≠ []) (hparts : ∀ part ∈ parts, ',' ∉ part) :
    ((Text.trim ([','].intercalate parts)).splitOn ',').map Text.trim =
      parts.map Text.trim := by
  cases parts with
  | nil => exact absurd rfl hne
  | cons part rest =>
    obtain ⟨hpart, hrest⟩ := List.forall_mem_cons.mp hparts
    cases rest with
    | nil =>
      rw [List.intercalate_singleton, Text.trim,
        splitOn_of_not_mem (not_mem_trimEnd (not_mem_trimStart hpart)), List.map_singleton,
        List.map_singleton, Text.trim_trimEnd, Text.trim_trimStart]
    | cons next rest =>
      rw [List.intercalate_cons_cons, List.append_assoc, List.singleton_append,
        Text.trim_append_cons rfl, splitOn_append_cons,
        splitOn_of_not_mem (not_mem_trimStart hpart), List.map_append,
        map_trim_splitOn_trimEnd (List.cons_ne_nil _ _) hrest, List.map_singleton,
        Text.trim_trimStart]
      rfl

end Parts

/-- What succeeds at every item gives a list of the results. -/
theorem mapM_eq_some_iff {α β : Type} {f : α → Option β} {xs : List α} {ys : List β} :
    xs.mapM f = some ys ↔ List.Forall₂ (fun x y => f x = some y) xs ys := by
  induction xs generalizing ys with
  | nil => simp [eq_comm]
  | cons x rest ih =>
    rw [List.mapM_cons, List.forall₂_cons_left_iff]
    simp only [Option.bind_eq_bind, Option.bind_eq_some_iff, Option.pure_def, Option.some.injEq, ih]
    constructor
    · rintro ⟨y, hy, ys', hys, rfl⟩
      exact ⟨y, ys', hy, hys, rfl⟩
    · rintro ⟨y, ys', hy, hys, rfl⟩
      exact ⟨y, hy, ys', hys, rfl⟩

namespace EnumType

variable {t : EnumType} {names : List String} {ordinals : List Int64}

/-- The text is the name of a member with the ordinal, white space around it apart. -/
def Names (t : EnumType) (text : String) (n : Int64) : Prop := t.valueOf? (trimmed text) = some n

theorem exists_names_iff {text : String} :
    (∃ n, t.Names text n) ↔ trimmed text ∈ t.members.map Prod.fst := by
  simp only [Names, valueOf?, ← Option.isSome_iff_exists, Option.isSome_map, List.find?_isSome,
    beq_iff_eq, List.mem_map]

theorem exists_forall₂_names_iff :
    (∃ ordinals, List.Forall₂ t.Names names ordinals) ↔
      ∀ name ∈ names, trimmed name ∈ t.members.map Prod.fst := by
  simp only [← exists_names_iff]
  induction names with
  | nil => exact iff_of_true ⟨[], .nil⟩ nofun
  | cons name rest ih =>
    rw [List.forall_mem_cons, ← ih]
    constructor
    · rintro ⟨_, hnames⟩
      cases hnames with
      | cons hname hrest => exact ⟨⟨_, hname⟩, ⟨_, hrest⟩⟩
    · rintro ⟨⟨n, hname⟩, ⟨ordinals, hrest⟩⟩
      exact ⟨n :: ordinals, .cons hname hrest⟩

/-- Names have ordinals in common if they have a name in common. -/
theorem mem_ordinals_iff (h : List.Forall₂ t.Names names ordinals) (n : Int64) :
    n ∈ ordinals ↔ some n ∈ (names.map trimmed).map t.valueOf? := by
  have hmap : (names.map trimmed).map t.valueOf? = ordinals.map some := by
    rw [List.map_map, ← List.forall₂_eq_eq_eq, List.forall₂_map_left_iff,
      List.forall₂_map_right_iff]
    exact h
  simp only [hmap, List.mem_map, Option.some.injEq, exists_eq_right]

/-- The union depends on which members are named, and on nothing else. -/
theorem exists_same_union {others : List String} (h : List.Forall₂ t.Names names ordinals)
    (hsame : ∀ name, name ∈ names.map trimmed ↔ name ∈ others.map trimmed) :
    ∃ ordinals', List.Forall₂ t.Names others ordinals' ∧
      Ordinal.union ordinals = Ordinal.union ordinals' := by
  have hdeclared : ∀ name ∈ names.map trimmed, name ∈ t.members.map Prod.fst :=
    List.forall_mem_map.mpr (exists_forall₂_names_iff.mp ⟨ordinals, h⟩)
  obtain ⟨ordinals', h'⟩ := exists_forall₂_names_iff.mpr fun name hname =>
    hdeclared (trimmed name) ((hsame _).mpr (List.mem_map_of_mem hname))
  refine ⟨ordinals', h', Ordinal.union_congr fun n => ?_⟩
  rw [mem_ordinals_iff h, mem_ordinals_iff h', List.mem_map, List.mem_map]
  simp only [hsame]

theorem exists_union_congr {others : List String}
    (hsame : ∀ name, name ∈ names.map trimmed ↔ name ∈ others.map trimmed) (p : Int64 → Prop) :
    (∃ ordinals, List.Forall₂ t.Names names ordinals ∧ p (Ordinal.union ordinals)) ↔
      ∃ ordinals, List.Forall₂ t.Names others ordinals ∧ p (Ordinal.union ordinals) := by
  constructor
  · rintro ⟨ordinals, h, hp⟩
    obtain ⟨ordinals', h', hunion⟩ := exists_same_union h hsame
    exact ⟨ordinals', h', hunion ▸ hp⟩
  · rintro ⟨ordinals, h, hp⟩
    obtain ⟨ordinals', h', hunion⟩ := exists_same_union h fun name => (hsame name).symm
    exact ⟨ordinals', h', hunion ▸ hp⟩

/-- White space around the parts makes no difference to their union. -/
theorem union?_congr {parts others : List (List Char)}
    (h : parts.map Text.trim = others.map Text.trim) : t.union? parts = t.union? others := by
  have hmap (ps : List (List Char)) : t.union? ps =
      ((ps.map Text.trim).mapM fun p => t.valueOf? (String.ofList p)).map Ordinal.union := by
    rw [union?, List.mapM_map]
    rfl
  rw [hmap, hmap, h]

theorem union?_eq_some_iff {n : Int64} :
    t.union? (names.map String.toList) = some n ↔
      ∃ ordinals, List.Forall₂ t.Names names ordinals ∧ Ordinal.union ordinals = n := by
  rw [union?, List.mapM_map, Option.map_eq_some_iff]
  simp only [mapM_eq_some_iff]
  rfl

section Commas

theorem parse?_string (text : String) :
    t.parse? (.string text) = (t.ordinalOfText? (Text.trim text.toList)).map t.enumValue := rfl

/-- A text with a comma is not read as a number. -/
theorem ordinalOfText?_of_comma {cs : List Char} (hcomma : ',' ∈ cs) :
    t.ordinalOfText? (Text.trim cs) =
      if t.flags then t.union? ((Text.trim cs).splitOn ',')
      else t.valueOf? (String.ofList (Text.trim cs)) := by
  have hread : Numeral.readInt64? (Text.trim cs) = none := by
    cases hread : Numeral.readInt64? (Text.trim cs) with
    | none => rfl
    | some n =>
      have hsigned := Numeral.isSigned_iff.mpr ⟨n, hread, rfl⟩
      exact absurd hcomma
        (Template.separates_comma.not_mem_of_isSigned (Text.trimmed_trim cs) hsigned)
  have hkept : (Text.trim cs).contains ',' = true :=
    List.contains_iff_mem.mpr
      (((Text.trimmed_trim cs).blank_or_mem hcomma).resolve_left (by decide))
  rw [ordinalOfText?, hread, hkept, Bool.and_true]

theorem parse?_name (hflags : t.flags = false) {text : String} (hcomma : ',' ∈ text.toList)
    {x : EnumValue} :
    t.parse? (.string text) = some x ↔ ∃ n, t.Names text n ∧ t.enumValue n = x := by
  rw [parse?_string, ordinalOfText?_of_comma hcomma, hflags, if_neg Bool.false_ne_true,
    Option.map_eq_some_iff]
  rfl

/-- At least two names, which are told apart in a list by the commas between them. -/
structure Listed (names : List String) : Prop where
  several : 2 ≤ names.length
  no_comma : ∀ name ∈ names, ',' ∉ name.toList

theorem toList_intercalate_comma (names : List String) :
    (",".intercalate names).toList = [','].intercalate (names.map String.toList) :=
  String.toList_intercalate

theorem Listed.comma_mem (h : Listed names) : ',' ∈ (",".intercalate names).toList := by
  match names, h.several with
  | first :: second :: rest, _ =>
    rw [toList_intercalate_comma, List.map_cons, List.map_cons, List.intercalate_cons_cons]
    exact List.mem_append_left _ (List.mem_append_right _ List.mem_cons_self)

theorem parse?_listed (hflags : t.flags = true) (hnames : Listed names) {x : EnumValue} :
    t.parse? (.string (",".intercalate names)) = some x ↔
      ∃ ordinals, List.Forall₂ t.Names names ordinals ∧
        t.enumValue (Ordinal.union ordinals) = x := by
  have hparts : ∀ part ∈ names.map String.toList, ',' ∉ part :=
    List.forall_mem_map.mpr hnames.no_comma
  have hne : names.map String.toList ≠ [] := by
    intro h
    have hseveral := hnames.several
    rw [List.map_eq_nil_iff.mp h] at hseveral
    cases hseveral
  rw [parse?_string, ordinalOfText?_of_comma hnames.comma_mem, hflags, if_pos rfl,
    toList_intercalate_comma, union?_congr (map_trim_splitOn_trim hne hparts),
    Option.map_eq_some_iff]
  simp only [union?_eq_some_iff, exists_exists_and_eq_and]

end Commas

end EnumType

section Evaluation

variable {e : Enumeration} {t : EnumType} {v : Value} {s : Scope}

open EnumType (Listed)

section Names

variable (htarget : e.target s.types = .ok t)

include htarget

theorem evaluate_listed (hflags : t.flags = true) {names : List String} (hnames : Listed names)
    (hsource : e.value.getD v = .string (",".intercalate names)) (x : Value) :
    (Expression.enum e).evaluate v s = (.ok x, s) ↔
      ∃ ordinals, List.Forall₂ t.Names names ordinals ∧
        .enum (t.enumValue (Ordinal.union ordinals)) = x := by
  simp only [Expression.evaluate_enum_eq_ok_iff htarget, hsource,
    EnumType.parse?_listed hflags hnames, exists_exists_and_eq_and, true_and]

theorem evaluate_singleName (hflags : t.flags = false) {text : String} (hcomma : ',' ∈ text.toList)
    (hsource : e.value.getD v = .string text) (x : Value) :
    (Expression.enum e).evaluate v s = (.ok x, s) ↔
      ∃ n, t.Names text n ∧ .enum (t.enumValue n) = x := by
  simp only [Expression.evaluate_enum_eq_ok_iff htarget, hsource,
    EnumType.parse?_name hflags hcomma, exists_exists_and_eq_and, true_and]

end Names

/-- A list of names is converted by a flags type if each of them, white space
around it apart, is the name of a member, and gives the union of these members.
So it does not matter in which order and how often they are named. Another type
converts a text with a comma only if the whole of it is the name of a member. -/
theorem evaluate_memberNames (htarget : e.target s.types = .ok t) :
    (t.flags = true → ∀ names v, Listed names →
      e.value.getD v = .string (",".intercalate names) →
      ((∃ x, (Expression.enum e).evaluate v s = (.ok x, s)) ↔
        ∀ name ∈ names, trimmed name ∈ t.members.map Prod.fst) ∧
      (∀ ordinals, List.Forall₂ t.Names names ordinals →
        (Expression.enum e).evaluate v s =
          (.ok (.enum (t.enumValue (Ordinal.union ordinals))), s)) ∧
      ∀ others w, Listed others → e.value.getD w = .string (",".intercalate others) →
        (∀ name, name ∈ names.map trimmed ↔ name ∈ others.map trimmed) →
        ∀ x, (Expression.enum e).evaluate v s = (.ok x, s) ↔
          (Expression.enum e).evaluate w s = (.ok x, s)) ∧
    (t.flags = false → ∀ text v, ',' ∈ text.toList → e.value.getD v = .string text →
      ((∃ x, (Expression.enum e).evaluate v s = (.ok x, s)) ↔
        trimmed text ∈ t.members.map Prod.fst) ∧
      ∀ n, t.Names text n → (Expression.enum e).evaluate v s = (.ok (.enum (t.enumValue n)), s)) := by
  refine ⟨fun hflags names v hnames hsource => ?_, fun hflags text v hcomma hsource => ?_⟩
  · have hlisted := evaluate_listed htarget hflags hnames hsource
    refine ⟨?_, fun ordinals hordinals => (hlisted _).mpr ⟨ordinals, hordinals, rfl⟩, ?_⟩
    · simp only [hlisted, ← EnumType.exists_forall₂_names_iff]
      exact ⟨fun ⟨_, ordinals, h, _⟩ => ⟨ordinals, h⟩, fun ⟨ordinals, h⟩ => ⟨_, ordinals, h, rfl⟩⟩
    · intro others w hothers hw hsame x
      rw [hlisted, evaluate_listed htarget hflags hothers hw]
      exact EnumType.exists_union_congr hsame fun n => Value.enum (t.enumValue n) = x
  · have hname := evaluate_singleName htarget hflags hcomma hsource
    refine ⟨?_, fun n hn => (hname _).mpr ⟨n, hn, rfl⟩⟩
    simp only [hname, ← EnumType.exists_names_iff]
    exact ⟨fun ⟨_, n, h, _⟩ => ⟨n, h⟩, fun ⟨n, h⟩ => ⟨_, n, h, rfl⟩⟩

end Evaluation

/-- A flags type with members that overlap, a negative ordinal and a name that is empty. -/
def accessFlags : EnumType :=
  ⟨"Access", [("read", 1), ("edit", 3), ("hidden", -8), ("", 4)], true⟩

/-- A type that is no flags type, with a comma in the name of a member. -/
def shadeType : EnumType := ⟨"Shade", [("red", 1), ("red, blue", 5)], false⟩

def accessNames : List String := [" edit", "hidden\t", "", "edit "]

theorem listed_accessNames : EnumType.Listed accessNames := ⟨by decide, by decide⟩

/-- The list ends in a comma in one order of the names, and a number is no name. -/
theorem evaluate_accessNames :
    EnumType.Listed accessNames ∧
    List.Forall₂ accessFlags.Names accessNames [3, -8, 4, 3] ∧
    (Expression.enum { definition := some accessFlags }).evaluate
      (.string (",".intercalate accessNames)) (.seeded .empty 0) =
        (.ok (.enum ⟨"Access", none, -1⟩), .seeded .empty 0) ∧
    (Expression.enum { definition := some accessFlags }).evaluate (.string "hidden,edit,")
      (.seeded .empty 0) = (.ok (.enum ⟨"Access", none, -1⟩), .seeded .empty 0) ∧
    (¬ ∃ x, (Expression.enum { definition := some accessFlags }).evaluate (.string "edit,8")
      (.seeded .empty 0) = (.ok x, .seeded .empty 0)) ∧
    (Expression.enum { definition := some shadeType }).evaluate (.string " red, blue ")
      (.seeded .empty 0) = (.ok (.enum (shadeType.enumValue 5)), .seeded .empty 0) ∧
    ¬ ∃ x, (Expression.enum { definition := some shadeType }).evaluate (.string "red,red")
      (.seeded .empty 0) = (.ok x, .seeded .empty 0) := by
  have hnames : List.Forall₂ accessFlags.Names accessNames [3, -8, 4, 3] :=
    .cons rfl (.cons rfl (.cons rfl (.cons rfl .nil)))
  have hunion : accessFlags.enumValue (Ordinal.union [3, -8, 4, 3]) = ⟨"Access", none, -1⟩ := by
    decide +kernel
  have hothers : EnumType.Listed ["hidden", "edit", ""] := ⟨by decide, by decide⟩
  have hnumber : EnumType.Listed ["edit", "8"] := ⟨by decide, by decide⟩
  obtain ⟨hflags, _⟩ := evaluate_memberNames (e := { definition := some accessFlags })
    (t := accessFlags) (s := .seeded .empty 0) rfl
  obtain ⟨_, hplain⟩ := evaluate_memberNames (e := { definition := some shadeType })
    (t := shadeType) (s := .seeded .empty 0) rfl
  obtain ⟨_, hvalue, hsame⟩ := hflags rfl accessNames _ listed_accessNames rfl
  have hfirst := hvalue _ hnames
  rw [hunion] at hfirst
  refine ⟨listed_accessNames, hnames, hfirst, ?_, ?_, ?_, ?_⟩
  · have hset : ∀ name, name ∈ accessNames.map trimmed ↔
        name ∈ ["hidden", "edit", ""].map trimmed := by
      have hleft : accessNames.map trimmed = ["edit", "hidden", "", "edit"] := by decide +kernel
      have hright : ["hidden", "edit", ""].map trimmed = ["hidden", "edit", ""] := by
        decide +kernel
      rw [hleft, hright]
      grind
    exact (hsame _ _ hothers rfl hset _).mp hfirst
  · rw [(hflags rfl ["edit", "8"] (.string "edit,8") hnumber rfl).1]
    decide +kernel
  · exact (hplain rfl " red, blue " _ (by decide) rfl).2 5 rfl
  · rw [(hplain rfl "red,red" _ (by decide) rfl).1]
    decide +kernel

end ConversionRules
