import ConversionRules.Proofs.Call.Arguments

/-!
What parameters admit and what their arguments mean, said without an order of
the arguments. A parameter has a value if it is given, the one its argument
stands for, and if names are distinct this is what reading it returns. The word
of each option is stated here, and the tables of options are proved to hold it.
-/
namespace ConversionRules.Call

inductive IsNumber : Argument → Binary64 → Prop
  | int (n : Int64) : IsNumber (.literal (.int n)) (.ofInt n.toInt)
  | float (x : Binary64) : IsNumber (.literal (.float x)) x

inductive IsInteger : Argument → Int64 → Prop
  | int (n : Int64) : IsInteger (.literal (.int n)) n

inductive IsIndex : Argument → UInt64 → Prop
  | int {n : Int64} (hn : 0 ≤ n) : IsIndex (.literal (.int n)) n.toUInt64

inductive IsText : Argument → String → Prop
  | string (s : String) : IsText (.literal (.string s)) s

/-- The word by which an operation of a lookup is given. -/
def lookupWord : LookupOperation → String
  | .count => "count"
  | .first => "first"
  | .last => "last"
  | .max => "max"
  | .min => "min"

def checkWord : CheckOperation → String
  | .nullOrEmpty => "null_or_empty"
  | .nullOrWhitespace => "null_or_whitespace"
  | .lowerCase => "lower_case"
  | .upperCase => "upper_case"

def trimWord : TrimMode → String
  | .whole => "whole"
  | .atStart => "start"
  | .atEnd => "end"

def caseWord : CaseMode → String
  | .default => "default"
  | .invariant => "invariant"

/-- An option is given as its word. -/
inductive IsOption {α : Type} (word : α → String) : Argument → α → Prop
  | word (x : α) : IsOption word (.word (word x)) x

inductive IsType (types : Registry) : Argument → ValueType → Prop
  | word {w : String} {t : ValueType} (hw : types.resolve? w = some t) : IsType types (.word w) t

inductive IsEnumType (types : Registry) : Argument → ValueType → Prop
  | word {w name : String} (hw : types.resolve? w = some (.enum name)) :
      IsEnumType types (.word w) (.enum name)

inductive IsValue : Argument → Value → Prop
  | literal (v : Value) : IsValue (.literal v) v
  | word (w : String) : IsValue (.word w) (.string w)

/-- What a parameter admits. -/
inductive Shape where
  | number
  | integer
  | index
  | text
  | option (words : List String)
  | type
  | enumType
  | value

def Shape.Admits (types : Registry) : Shape → Argument → Prop
  | .number, a => ∃ x, IsNumber a x
  | .integer, a => ∃ n, IsInteger a n
  | .index, a => ∃ i, IsIndex a i
  | .text, a => ∃ s, IsText a s
  | .option words, a => ∃ w ∈ words, a = .word w
  | .type, a => ∃ t, IsType types a t
  | .enumType, a => ∃ t, IsEnumType types a t
  | .value, a => ∃ v, IsValue a v

/-- Every argument that is given for the parameter has the shape. -/
def Fits (types : Registry) (args : List (String × Argument)) (parameter : String)
    (shape : Shape) : Prop :=
  ∀ a, (parameter, a) ∈ args → shape.Admits types a

variable {α β : Type}

/-- The value of a parameter: none if it is not given, else one that its
argument stands for. -/
def Given (args : List (String × Argument)) (parameter : String) (stands : Argument → α → Prop) :
    Option α → Prop
  | none => ∀ a, (parameter, a) ∉ args
  | some x => ∃ a, (parameter, a) ∈ args ∧ stands a x

/-- The enum type that a call names: by its type or, if it gives none, by the text of a name. -/
inductive NamesEnumType : Option ValueType → Option String → String → Prop
  | type (name : String) (typeName : Option String) :
      NamesEnumType (some (.enum name)) typeName name
  | text (name : String) : NamesEnumType none (some name) name

/-- The definition of the enum type that a call names, if it is registered. -/
def IsDefinition (types : Registry) (enumType : Option ValueType) (typeName : Option String)
    (definition : Option EnumType) : Prop :=
  ∀ t, definition = some t ↔
    ∃ name, NamesEnumType enumType typeName name ∧ types.find? name = some t

/-- A table that gives every value by its word, and no word twice. -/
structure Lists {α : Type} (choices : List (String × α)) (word : α → String) : Prop where
  distinct : (choices.map Prod.fst).Nodup
  mem_iff : ∀ w x, (w, x) ∈ choices ↔ w = word x

section Options

theorem lists_lookupOperations : Lists lookupOperations lookupWord := by
  refine ⟨by decide, fun w x => ?_⟩
  cases x <;> simp [lookupOperations, lookupWord]

theorem lists_checkOperations : Lists checkOperations checkWord := by
  refine ⟨by decide, fun w x => ?_⟩
  cases x <;> simp [checkOperations, checkWord]

theorem lists_trimModes : Lists trimModes trimWord := by
  refine ⟨by decide, fun w x => ?_⟩
  cases x <;> simp [trimModes, trimWord]

theorem lists_caseModes : Lists caseModes caseWord := by
  refine ⟨by decide, fun w x => ?_⟩
  cases x <;> simp [caseModes, caseWord]

variable {choices : List (String × α)} {word : α → String}

theorem Lists.lookup_eq_some_iff (h : Lists choices word) (w : String) (x : α) :
    choices.lookup w = some x ↔ w = word x :=
  (Call.lookup_eq_some_iff h.distinct w x).trans (h.mem_iff w x)

end Options

theorem isDefinition_iff (types : Registry) (enumType : Option ValueType)
    (typeName : Option String) (definition : Option EnumType) :
    IsDefinition types enumType typeName definition ↔
      definition = definition? types enumType typeName := by
  have hfound : IsDefinition types enumType typeName (definition? types enumType typeName) := by
    intro t
    constructor
    · intro h
      unfold definition? at h
      split at h
      · exact ⟨_, .type _ _, h⟩
      · exact ⟨_, .text _, h⟩
      · cases h
    · rintro ⟨name, hnames, h⟩
      cases hnames with
      | type => exact h
      | text => exact h
  constructor
  · intro h
    exact Option.ext fun t => (h t).trans (hfound t).symm
  · rintro rfl
    exact hfound

theorem bind_eq_ok_iff {ε : Type} {x : Except ε α} {f : α → Except ε β} {b : β} :
    x >>= f = .ok b ↔ ∃ a, x = .ok a ∧ f a = .ok b := by
  cases x with
  | error e => simp [Bind.bind, Except.bind]
  | ok a => simp [Bind.bind, Except.bind]

section Reading

variable {c : Call} (hargs : Distinct c.args)

include hargs

theorem Given.of_lookup {parameter : String} {stands : Argument → α → Prop} {a : Argument}
    (ha : c.args.lookup parameter = some a) (o : Option α) :
    Given c.args parameter stands o ↔ ∃ x, stands a x ∧ o = some x := by
  have hmem : (parameter, a) ∈ c.args := (lookup_eq_some_iff hargs parameter a).mp ha
  cases o with
  | none =>
    constructor
    · intro h
      exact absurd hmem (h a)
    · rintro ⟨x, _, hx⟩
      cases hx
  | some x =>
    constructor
    · rintro ⟨a', hmem', hx⟩
      have hsame : some a = some a' := ha ▸ (lookup_eq_some_iff hargs parameter a').mpr hmem'
      cases hsame
      exact ⟨x, hx, rfl⟩
    · rintro ⟨x', hx, heq⟩
      cases heq
      exact ⟨a, hmem, hx⟩

theorem Given.of_lookup_none {parameter : String} {stands : Argument → α → Prop}
    (hnone : c.args.lookup parameter = none) (o : Option α) :
    Given c.args parameter stands o ↔ o = none := by
  have habsent := (lookup_eq_none_iff hargs parameter).mp hnone
  cases o with
  | none => exact ⟨fun _ => rfl, fun _ => habsent⟩
  | some x =>
    constructor
    · rintro ⟨a, hmem, _⟩
      exact absurd hmem (habsent a)
    · intro hx
      cases hx

theorem read_eq_ok_iff {parameter : String} {f : Argument → Except DefinitionError α}
    {stands : Argument → α → Prop} (hf : ∀ a x, f a = .ok x ↔ stands a x) (o : Option α) :
    c.read parameter f = .ok o ↔ Given c.args parameter stands o := by
  unfold read
  cases ha : c.args.lookup parameter with
  | none =>
    rw [Given.of_lookup_none hargs ha]
    simp [eq_comm]
  | some a =>
    rw [Given.of_lookup hargs ha]
    cases hx : f a with
    | error e => simp [← hf, hx, Except.map]
    | ok x => simp [← hf, hx, Except.map, eq_comm]

/-- A parameter has a value if its argument, when it is given, stands for one. -/
theorem exists_given_iff (parameter : String) (stands : Argument → α → Prop) :
    (∃ o, Given c.args parameter stands o) ↔
      ∀ a, (parameter, a) ∈ c.args → ∃ x, stands a x := by
  cases ha : c.args.lookup parameter with
  | none =>
    have habsent := (lookup_eq_none_iff hargs parameter).mp ha
    constructor
    · intro _ a hmem
      exact absurd hmem (habsent a)
    · intro _
      exact ⟨none, habsent⟩
  | some a =>
    have hmem : (parameter, a) ∈ c.args := (lookup_eq_some_iff hargs parameter a).mp ha
    constructor
    · rintro ⟨o, ho⟩ a' hmem'
      obtain ⟨x, hx, _⟩ := (Given.of_lookup hargs ha o).mp ho
      have hsame : some a = some a' := ha ▸ (lookup_eq_some_iff hargs parameter a').mpr hmem'
      cases hsame
      exact ⟨x, hx⟩
    · intro h
      obtain ⟨x, hx⟩ := h a hmem
      exact ⟨some x, a, hmem, hx⟩

theorem readShape_eq_ok_iff {parameter : String} {expected : ParameterShape}
    {f : Argument → Option α} {stands : Argument → α → Prop}
    (hf : ∀ a x, f a = some x ↔ stands a x) (o : Option α) :
    c.readShape parameter expected f = .ok o ↔ Given c.args parameter stands o := by
  refine read_eq_ok_iff hargs (fun a x => ?_) o
  rw [← hf]
  cases f a with
  | none => simp
  | some y => simp

theorem number_eq_ok_iff (parameter : String) (o : Option Binary64) :
    c.number parameter = .ok o ↔ Given c.args parameter IsNumber o := by
  refine readShape_eq_ok_iff hargs (fun a x => ?_) o
  constructor
  · intro h
    split at h
    · cases h
      exact IsNumber.int _
    · cases h
      exact IsNumber.float _
    · cases h
  · intro h
    cases h with
    | int n => rfl
    | float x => rfl

theorem integer_eq_ok_iff (parameter : String) (o : Option Int64) :
    c.integer parameter = .ok o ↔ Given c.args parameter IsInteger o := by
  refine readShape_eq_ok_iff hargs (fun a x => ?_) o
  constructor
  · intro h
    split at h
    · cases h
      exact IsInteger.int _
    · cases h
  · rintro ⟨n⟩
    rfl

theorem index_eq_ok_iff (parameter : String) (o : Option UInt64) :
    c.index parameter = .ok o ↔ Given c.args parameter IsIndex o := by
  refine readShape_eq_ok_iff hargs (fun a x => ?_) o
  constructor
  · intro h
    split at h
    · split at h
      · cases h
      · rename_i hn
        cases h
        exact IsIndex.int (Int64.not_lt.mp hn)
    · cases h
  · rintro ⟨hn⟩
    exact if_neg (Int64.not_lt.mpr hn)

theorem text_eq_ok_iff (parameter : String) (o : Option String) :
    c.text parameter = .ok o ↔ Given c.args parameter IsText o := by
  refine readShape_eq_ok_iff hargs (fun a x => ?_) o
  constructor
  · intro h
    split at h
    · cases h
      exact IsText.string _
    · cases h
  · rintro ⟨s⟩
    rfl

theorem choice_eq_ok_iff {choices : List (String × α)} {word : α → String}
    (hchoices : Lists choices word) (parameter : String) (o : Option α) :
    c.choice parameter choices = .ok o ↔ Given c.args parameter (IsOption word) o := by
  refine read_eq_ok_iff hargs (fun a x => ?_) o
  constructor
  · intro h
    split at h
    · split at h
      · rename_i hw
        cases h
        rw [(hchoices.lookup_eq_some_iff _ _).mp hw]
        exact IsOption.word x
      · cases h
    · cases h
  · rintro ⟨x⟩
    simp only [(hchoices.lookup_eq_some_iff _ x).mpr rfl]

theorem value_eq_ok_iff (parameter : String) (o : Option Value) :
    c.value parameter = .ok o ↔ Given c.args parameter IsValue o := by
  refine read_eq_ok_iff hargs (fun a x => ?_) o
  constructor
  · intro h
    split at h
    · cases h
      exact IsValue.literal _
    · cases h
      exact IsValue.word _
  · intro h
    cases h with
    | literal v => rfl
    | word w => rfl

theorem typeName_eq_ok_iff (parameter : String) (types : Registry) (o : Option ValueType) :
    c.typeName parameter types = .ok o ↔ Given c.args parameter (IsType types) o := by
  refine read_eq_ok_iff hargs (fun a x => ?_) o
  constructor
  · intro h
    split at h
    · unfold resolve at h
      split at h
      · rename_i hw
        cases h
        exact IsType.word hw
      · cases h
    · cases h
  · rintro ⟨hw⟩
    simp only [resolve, hw]

theorem enumTypeName_eq_ok_iff (parameter : String) (types : Registry) (o : Option ValueType) :
    c.enumTypeName parameter types = .ok o ↔ Given c.args parameter (IsEnumType types) o := by
  refine read_eq_ok_iff hargs (fun a x => ?_) o
  constructor
  · intro h
    split at h
    · split at h
      · rename_i name hresolve
        unfold resolve at hresolve
        split at hresolve
        · rename_i hw
          cases hresolve
          cases h
          exact IsEnumType.word hw
        · cases hresolve
      · cases h
      · cases h
    · cases h
  · rintro ⟨hw⟩
    simp only [resolve, hw]

end Reading

end ConversionRules.Call
