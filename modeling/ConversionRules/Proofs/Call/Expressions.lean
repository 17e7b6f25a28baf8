import ConversionRules.Proofs.Call.Parameters

/-!
Which calls are expressions, and which expressions they are. The arguments are
compared with a table of the parameters of each kind, and the fields of the
expression with the parameters of their names, in no order.
-/
namespace ConversionRules.Call

/-- The name by which a kind is called. -/
def callName : ExpressionKind → String
  | .arithmetic => "arithmetic"
  | .compare => "compare"
  | .count => "count"
  | .lookup => "lookup"
  | .double => "double"
  | .enum => "enum"
  | .negate => "negate"
  | .percentage => "percentage"
  | .random => "random"
  | .check => "check"
  | .format => "format"
  | .transform => "transform"
  | .typeOf => "typeof"

def boundSignature : List (String × Shape) :=
  [("is_equal_to", .number), ("is_not_equal_to", .number), ("is_greater_than", .number),
    ("is_greater_or_equal_to", .number), ("is_lesser_than", .number),
    ("is_lesser_or_equal_to", .number)]

/-- What the parameters of a kind admit. -/
def signature : ExpressionKind → List (String × Shape)
  | .arithmetic =>
    [("multiply", .number), ("divide", .number), ("modulo", .number), ("add", .number),
      ("subtract", .number)]
  | .compare => boundSignature
  | .count => boundSignature
  | .lookup =>
    [("index", .index), ("operation", .option ["count", "first", "last", "max", "min"])]
  | .double => [("value", .number)]
  | .enum => [("type", .enumType), ("type_name", .text), ("value", .value)]
  | .negate => []
  | .percentage => [("of", .number)]
  | .random => [("lower_bound", .integer), ("upper_bound", .integer)]
  | .check =>
    [("operation",
        .option ["null_or_empty", "null_or_whitespace", "lower_case", "upper_case"]),
      ("starts_with", .text), ("ends_with", .text), ("contains", .text)]
  | .format => [("template", .text)]
  | .transform =>
    [("trim", .option ["whole", "start", "end"]), ("substring_start", .index),
      ("substring_end", .index), ("insert_text", .text), ("insert_index", .index),
      ("to_lower", .option ["default", "invariant"]),
      ("to_upper", .option ["default", "invariant"]), ("split_by", .text)]
  | .typeOf => [("type", .type), ("name", .text)]

def DenotesBounds (args : List (String × Argument)) (b : Bounds) : Prop :=
  Given args "is_equal_to" IsNumber b.equalTo ∧
    Given args "is_not_equal_to" IsNumber b.notEqualTo ∧
    Given args "is_greater_than" IsNumber b.greaterThan ∧
    Given args "is_greater_or_equal_to" IsNumber b.atLeast ∧
    Given args "is_lesser_than" IsNumber b.lessThan ∧
    Given args "is_lesser_or_equal_to" IsNumber b.atMost

/-- Each field of an expression is the value of its parameter. -/
def Denotes (types : Registry) (args : List (String × Argument)) : Expression → Prop
  | .arithmetic o =>
    Given args "multiply" IsNumber o.multiply ∧ Given args "divide" IsNumber o.divide ∧
      Given args "modulo" IsNumber o.modulo ∧ Given args "add" IsNumber o.add ∧
      Given args "subtract" IsNumber o.subtract
  | .compare b => DenotesBounds args b
  | .count b => DenotesBounds args b
  | .lookup l =>
    Given args "index" IsIndex l.index ∧
      ∃ operation, Given args "operation" (IsOption lookupWord) operation ∧
        l.operation = operation.getD .count
  | .double value => Given args "value" IsNumber value
  | .enum e =>
    Given args "type" (IsEnumType types) e.enumType ∧
      Given args "type_name" IsText e.typeName ∧ Given args "value" IsValue e.value ∧
      IsDefinition types e.enumType e.typeName e.definition
  | .negate => True
  | .percentage whole => Given args "of" IsNumber whole
  | .random range =>
    Given args "lower_bound" IsInteger range.lower ∧
      Given args "upper_bound" IsInteger range.upper
  | .check t =>
    Given args "operation" (IsOption checkWord) t.operation ∧
      Given args "starts_with" IsText t.startsWith ∧ Given args "ends_with" IsText t.endsWith ∧
      Given args "contains" IsText t.contains
  | .format template => Given args "template" IsText template
  | .transform t =>
    Given args "trim" (IsOption trimWord) t.trim ∧
      Given args "substring_start" IsIndex t.substringStart ∧
      Given args "substring_end" IsIndex t.substringEnd ∧
      Given args "insert_text" IsText t.insertText ∧
      Given args "insert_index" IsIndex t.insertIndex ∧
      Given args "to_lower" (IsOption caseWord) t.toLower ∧
      Given args "to_upper" (IsOption caseWord) t.toUpper ∧
      Given args "split_by" IsText t.splitBy
  | .typeOf q => Given args "type" (IsType types) q.type ∧ Given args "name" IsText q.name

theorem kind?_eq_some_iff (name : String) (kind : ExpressionKind) :
    kind? name = some kind ↔ name = callName kind := by
  constructor
  · intro h
    unfold kind? at h
    split at h <;> cases h <;> rfl
  · intro h
    subst h
    cases kind <;> rfl

theorem signature_names (kind : ExpressionKind) :
    (signature kind).map Prod.fst = parameters kind := by
  cases kind <;> rfl

theorem signature_distinct (kind : ExpressionKind) :
    ((signature kind).map Prod.fst).Nodup := by
  rw [signature_names]
  cases kind <;> decide

/-- An option admits a word if the word gives one of its values. -/
theorem admits_option_iff {α : Type} {choices : List (String × α)} {word : α → String}
    (hchoices : Lists choices word) (types : Registry) (a : Argument) :
    (Shape.option (choices.map Prod.fst)).Admits types a ↔ ∃ x, IsOption word a x := by
  constructor
  · rintro ⟨w, hw, rfl⟩
    obtain ⟨⟨w, x⟩, hmem, rfl⟩ := List.mem_map.mp hw
    rw [(hchoices.mem_iff w x).mp hmem]
    exact ⟨x, IsOption.word x⟩
  · rintro ⟨x, ⟨x⟩⟩
    have hmem : (word x, x) ∈ choices := (hchoices.mem_iff _ x).mpr rfl
    exact ⟨word x, List.mem_map_of_mem hmem, rfl⟩

/-- A reader succeeds if and only if every argument fits its parameter. -/
def Requires {α : Type} (types : Registry) (args : List (String × Argument))
    (signature : List (String × Shape)) (x : Except DefinitionError α) : Prop :=
  (∃ a, x = .ok a) ↔ ∀ q ∈ signature, Fits types args q.1 q.2

namespace Requires

variable {α β : Type} {types : Registry} {args : List (String × Argument)}

theorem pure (a : α) : Requires types args [] (pure a) := by
  constructor
  · intro _ q hq
    cases hq
  · intro _
    exact ⟨a, rfl⟩

theorem map {signature : List (String × Shape)} {x : Except DefinitionError α} (f : α → β)
    (hx : Requires types args signature x) :
    Requires types args signature (x >>= fun a => Pure.pure (f a)) := by
  constructor
  · rintro ⟨b, hb⟩
    obtain ⟨a, ha, _⟩ := bind_eq_ok_iff.mp hb
    exact hx.mp ⟨a, ha⟩
  · intro hfits
    obtain ⟨a, ha⟩ := hx.mpr hfits
    exact ⟨f a, bind_eq_ok_iff.mpr ⟨a, ha, rfl⟩⟩

theorem bind {parameter : String} {shape : Shape} {rest : List (String × Shape)}
    {x : Except DefinitionError α} {f : α → Except DefinitionError β}
    (hx : Requires types args [(parameter, shape)] x)
    (hf : ∀ a, Requires types args rest (f a)) :
    Requires types args ((parameter, shape) :: rest) (x >>= f) := by
  constructor
  · rintro ⟨b, hb⟩
    obtain ⟨a, ha, hb⟩ := bind_eq_ok_iff.mp hb
    have hfirst := hx.mp ⟨a, ha⟩ (parameter, shape) List.mem_cons_self
    exact List.forall_mem_cons.mpr ⟨hfirst, (hf a).mp ⟨b, hb⟩⟩
  · intro hfits
    obtain ⟨hfirst, hrest⟩ := List.forall_mem_cons.mp hfits
    obtain ⟨a, ha⟩ := hx.mpr (List.forall_mem_singleton.mpr hfirst)
    obtain ⟨b, hb⟩ := (hf a).mpr hrest
    exact ⟨b, bind_eq_ok_iff.mpr ⟨a, ha, hb⟩⟩

end Requires

section Reading

variable {c : Call} (hargs : Distinct c.args) (types : Registry)

include hargs

theorem bounds_eq_ok_iff (b : Bounds) : c.bounds = .ok b ↔ DenotesBounds c.args b := by
  simp only [bounds, bind_eq_ok_iff, number_eq_ok_iff hargs]
  constructor
  · rintro ⟨_, hequal, _, hunequal, _, hgreater, _, hatLeast, _, hless, _, hatMost, hb⟩
    cases hb
    exact ⟨hequal, hunequal, hgreater, hatLeast, hless, hatMost⟩
  · rintro ⟨hequal, hunequal, hgreater, hatLeast, hless, hatMost⟩
    exact ⟨_, hequal, _, hunequal, _, hgreater, _, hatLeast, _, hless, _, hatMost, rfl⟩

/-- What is read in their order are the values of the parameters. -/
theorem denotes_of_expressionOf {kind : ExpressionKind} {e : Expression}
    (h : c.expressionOf types kind = .ok e) : e.kind = kind ∧ Denotes types c.args e := by
  cases kind with
  | arithmetic =>
    simp only [expressionOf, bind_eq_ok_iff, number_eq_ok_iff hargs] at h
    obtain ⟨_, hmultiply, _, hdivide, _, hmodulo, _, hadd, _, hsubtract, he⟩ := h
    cases he
    exact ⟨rfl, hmultiply, hdivide, hmodulo, hadd, hsubtract⟩
  | compare =>
    simp only [expressionOf, bind_eq_ok_iff, bounds_eq_ok_iff hargs] at h
    obtain ⟨_, hbounds, he⟩ := h
    cases he
    exact ⟨rfl, hbounds⟩
  | count =>
    simp only [expressionOf, bind_eq_ok_iff, bounds_eq_ok_iff hargs] at h
    obtain ⟨_, hbounds, he⟩ := h
    cases he
    exact ⟨rfl, hbounds⟩
  | lookup =>
    simp only [expressionOf, bind_eq_ok_iff, index_eq_ok_iff hargs,
      choice_eq_ok_iff hargs lists_lookupOperations] at h
    obtain ⟨_, hindex, operation, hoperation, he⟩ := h
    cases he
    exact ⟨rfl, hindex, operation, hoperation, rfl⟩
  | double =>
    simp only [expressionOf, bind_eq_ok_iff, number_eq_ok_iff hargs] at h
    obtain ⟨_, hvalue, he⟩ := h
    cases he
    exact ⟨rfl, hvalue⟩
  | enum =>
    simp only [expressionOf, bind_eq_ok_iff, enumTypeName_eq_ok_iff hargs, text_eq_ok_iff hargs,
      value_eq_ok_iff hargs] at h
    obtain ⟨_, htype, _, hname, _, hvalue, he⟩ := h
    cases he
    exact ⟨rfl, htype, hname, hvalue, (isDefinition_iff _ _ _ _).mpr rfl⟩
  | negate =>
    cases h
    exact ⟨rfl, trivial⟩
  | percentage =>
    simp only [expressionOf, bind_eq_ok_iff, number_eq_ok_iff hargs] at h
    obtain ⟨_, hwhole, he⟩ := h
    cases he
    exact ⟨rfl, hwhole⟩
  | random =>
    simp only [expressionOf, bind_eq_ok_iff, integer_eq_ok_iff hargs] at h
    obtain ⟨_, hlower, _, hupper, he⟩ := h
    cases he
    exact ⟨rfl, hlower, hupper⟩
  | check =>
    simp only [expressionOf, bind_eq_ok_iff, text_eq_ok_iff hargs,
      choice_eq_ok_iff hargs lists_checkOperations] at h
    obtain ⟨_, hoperation, _, hstarts, _, hends, _, hcontains, he⟩ := h
    cases he
    exact ⟨rfl, hoperation, hstarts, hends, hcontains⟩
  | format =>
    simp only [expressionOf, bind_eq_ok_iff, text_eq_ok_iff hargs] at h
    obtain ⟨_, htemplate, he⟩ := h
    cases he
    exact ⟨rfl, htemplate⟩
  | transform =>
    simp only [expressionOf, bind_eq_ok_iff, text_eq_ok_iff hargs, index_eq_ok_iff hargs,
      choice_eq_ok_iff hargs lists_trimModes, choice_eq_ok_iff hargs lists_caseModes] at h
    obtain ⟨_, htrim, _, hstart, _, hend, _, htext, _, hindex, _, hlower, _, hupper, _, hsplit,
      he⟩ := h
    cases he
    exact ⟨rfl, htrim, hstart, hend, htext, hindex, hlower, hupper, hsplit⟩
  | typeOf =>
    simp only [expressionOf, bind_eq_ok_iff, typeName_eq_ok_iff hargs, text_eq_ok_iff hargs] at h
    obtain ⟨_, htype, _, hname, he⟩ := h
    cases he
    exact ⟨rfl, htype, hname⟩

theorem expressionOf_of_denotes {e : Expression} (h : Denotes types c.args e) :
    c.expressionOf types e.kind = .ok e := by
  cases e with
  | arithmetic o =>
    obtain ⟨hmultiply, hdivide, hmodulo, hadd, hsubtract⟩ := h
    simp only [Expression.kind, expressionOf, bind_eq_ok_iff, number_eq_ok_iff hargs]
    exact ⟨_, hmultiply, _, hdivide, _, hmodulo, _, hadd, _, hsubtract, rfl⟩
  | compare b =>
    simp only [Expression.kind, expressionOf, bind_eq_ok_iff, bounds_eq_ok_iff hargs]
    exact ⟨b, h, rfl⟩
  | count b =>
    simp only [Expression.kind, expressionOf, bind_eq_ok_iff, bounds_eq_ok_iff hargs]
    exact ⟨b, h, rfl⟩
  | lookup l =>
    obtain ⟨hindex, operation, hoperation, hdefault⟩ := h
    simp only [Expression.kind, expressionOf, bind_eq_ok_iff, index_eq_ok_iff hargs,
      choice_eq_ok_iff hargs lists_lookupOperations]
    exact ⟨_, hindex, operation, hoperation, hdefault ▸ rfl⟩
  | double value =>
    simp only [Expression.kind, expressionOf, bind_eq_ok_iff, number_eq_ok_iff hargs]
    exact ⟨value, h, rfl⟩
  | enum e =>
    obtain ⟨htype, hname, hvalue, hdefinition⟩ := h
    simp only [Expression.kind, expressionOf, bind_eq_ok_iff, enumTypeName_eq_ok_iff hargs,
      text_eq_ok_iff hargs, value_eq_ok_iff hargs]
    exact ⟨_, htype, _, hname, _, hvalue, (isDefinition_iff _ _ _ _).mp hdefinition ▸ rfl⟩
  | negate => rfl
  | percentage whole =>
    simp only [Expression.kind, expressionOf, bind_eq_ok_iff, number_eq_ok_iff hargs]
    exact ⟨whole, h, rfl⟩
  | random range =>
    obtain ⟨hlower, hupper⟩ := h
    simp only [Expression.kind, expressionOf, bind_eq_ok_iff, integer_eq_ok_iff hargs]
    exact ⟨_, hlower, _, hupper, rfl⟩
  | check t =>
    obtain ⟨hoperation, hstarts, hends, hcontains⟩ := h
    simp only [Expression.kind, expressionOf, bind_eq_ok_iff, text_eq_ok_iff hargs,
      choice_eq_ok_iff hargs lists_checkOperations]
    exact ⟨_, hoperation, _, hstarts, _, hends, _, hcontains, rfl⟩
  | format template =>
    simp only [Expression.kind, expressionOf, bind_eq_ok_iff, text_eq_ok_iff hargs]
    exact ⟨template, h, rfl⟩
  | transform t =>
    obtain ⟨htrim, hstart, hend, htext, hindex, hlower, hupper, hsplit⟩ := h
    simp only [Expression.kind, expressionOf, bind_eq_ok_iff, text_eq_ok_iff hargs,
      index_eq_ok_iff hargs, choice_eq_ok_iff hargs lists_trimModes,
      choice_eq_ok_iff hargs lists_caseModes]
    exact ⟨_, htrim, _, hstart, _, hend, _, htext, _, hindex, _, hlower, _, hupper, _, hsplit,
      rfl⟩
  | typeOf q =>
    obtain ⟨htype, hname⟩ := h
    simp only [Expression.kind, expressionOf, bind_eq_ok_iff, typeName_eq_ok_iff hargs,
      text_eq_ok_iff hargs]
    exact ⟨_, htype, _, hname, rfl⟩

theorem requires_of_given {α : Type} {parameter : String} {shape : Shape}
    {x : Except DefinitionError (Option α)} {stands : Argument → α → Prop}
    (hx : ∀ o, x = .ok o ↔ Given c.args parameter stands o)
    (hshape : ∀ a, shape.Admits types a ↔ ∃ y, stands a y) :
    Requires types c.args [(parameter, shape)] x := by
  unfold Requires
  rw [List.forall_mem_singleton]
  simp only [hx, exists_given_iff hargs, Fits, hshape]

theorem requires_number (parameter : String) :
    Requires types c.args [(parameter, .number)] (c.number parameter) :=
  requires_of_given hargs types (number_eq_ok_iff hargs parameter) fun _ => Iff.rfl

theorem requires_integer (parameter : String) :
    Requires types c.args [(parameter, .integer)] (c.integer parameter) :=
  requires_of_given hargs types (integer_eq_ok_iff hargs parameter) fun _ => Iff.rfl

theorem requires_index (parameter : String) :
    Requires types c.args [(parameter, .index)] (c.index parameter) :=
  requires_of_given hargs types (index_eq_ok_iff hargs parameter) fun _ => Iff.rfl

theorem requires_text (parameter : String) :
    Requires types c.args [(parameter, .text)] (c.text parameter) :=
  requires_of_given hargs types (text_eq_ok_iff hargs parameter) fun _ => Iff.rfl

theorem requires_choice {α : Type} {choices : List (String × α)} {word : α → String}
    (hchoices : Lists choices word) (parameter : String) :
    Requires types c.args [(parameter, .option (choices.map Prod.fst))]
      (c.choice parameter choices) :=
  requires_of_given hargs types (choice_eq_ok_iff hargs hchoices parameter)
    (admits_option_iff hchoices types)

theorem requires_value (parameter : String) :
    Requires types c.args [(parameter, .value)] (c.value parameter) :=
  requires_of_given hargs types (value_eq_ok_iff hargs parameter) fun _ => Iff.rfl

theorem requires_typeName (parameter : String) :
    Requires types c.args [(parameter, .type)] (c.typeName parameter types) :=
  requires_of_given hargs types (typeName_eq_ok_iff hargs parameter types) fun _ => Iff.rfl

theorem requires_enumTypeName (parameter : String) :
    Requires types c.args [(parameter, .enumType)] (c.enumTypeName parameter types) :=
  requires_of_given hargs types (enumTypeName_eq_ok_iff hargs parameter types) fun _ => Iff.rfl

theorem requires_bounds : Requires types c.args boundSignature c.bounds :=
  (requires_number hargs types _).bind fun _ => (requires_number hargs types _).bind fun _ =>
    (requires_number hargs types _).bind fun _ => (requires_number hargs types _).bind fun _ =>
      (requires_number hargs types _).bind fun _ => (requires_number hargs types _).bind fun _ =>
        Requires.pure _

theorem requires_expressionOf (kind : ExpressionKind) :
    Requires types c.args (signature kind) (c.expressionOf types kind) := by
  have number := requires_number hargs types
  have integer := requires_integer hargs types
  have index := requires_index hargs types
  have text := requires_text hargs types
  cases kind with
  | arithmetic =>
    exact (number _).bind fun _ => (number _).bind fun _ => (number _).bind fun _ =>
      (number _).bind fun _ => (number _).bind fun _ => Requires.pure _
  | compare => exact (requires_bounds hargs types).map _
  | count => exact (requires_bounds hargs types).map _
  | lookup =>
    exact (index _).bind fun _ =>
      (requires_choice hargs types lists_lookupOperations _).bind fun _ => Requires.pure _
  | double => exact (number _).map _
  | enum =>
    exact (requires_enumTypeName hargs types _).bind fun _ => (text _).bind fun _ =>
      (requires_value hargs types _).map _
  | negate => exact Requires.pure _
  | percentage => exact (number _).map _
  | random => exact (integer _).bind fun _ => (integer _).map _
  | check =>
    exact (requires_choice hargs types lists_checkOperations _).bind fun _ =>
      (text _).bind fun _ => (text _).bind fun _ => (text _).map _
  | format => exact (text _).map _
  | transform =>
    exact (requires_choice hargs types lists_trimModes _).bind fun _ => (index _).bind fun _ =>
      (index _).bind fun _ => (text _).bind fun _ => (index _).bind fun _ =>
        (requires_choice hargs types lists_caseModes _).bind fun _ =>
          (requires_choice hargs types lists_caseModes _).bind fun _ => (text _).map _
  | typeOf => exact (requires_typeName hargs types _).bind fun _ => (text _).map _

end Reading

theorem Given.perm_iff {args args' : List (String × Argument)} (h : args.Perm args')
    {α : Type} (parameter : String) (stands : Argument → α → Prop) (o : Option α) :
    Given args parameter stands o ↔ Given args' parameter stands o := by
  cases o with
  | none => simp only [Given, h.mem_iff]
  | some x => simp only [Given, h.mem_iff]

theorem DenotesBounds.perm_iff {args args' : List (String × Argument)} (h : args.Perm args')
    (b : Bounds) : DenotesBounds args b ↔ DenotesBounds args' b := by
  simp only [DenotesBounds, Given.perm_iff h]

theorem Denotes.perm_iff {args args' : List (String × Argument)} (h : args.Perm args')
    (types : Registry) (e : Expression) : Denotes types args e ↔ Denotes types args' e := by
  cases e <;> simp only [Denotes, Given.perm_iff h, DenotesBounds.perm_iff h]

section Compilation

variable (c : Call) (types : Registry) (rule : String)

/-- The stages that a call passes, once its kind is known. -/
theorem expression_eq_ok_iff_stages (e : Expression) :
    c.expression types rule = .ok e ↔
      duplicate? [] c.args = none ∧ ∃ kind, kind? c.name = some kind ∧
        c.expressionOf types kind = .ok e ∧ leftOver (parameters kind) c.args = [] := by
  unfold expression
  cases duplicate? [] c.args with
  | some parameter => simp
  | none =>
    cases kind? c.name with
    | none => simp
    | some kind =>
      cases hread : c.expressionOf types kind with
      | error _ => simp [hread]
      | ok e' =>
        cases hleft : leftOver (parameters kind) c.args with
        | nil => simp [hread, hleft]
        | cons a rest => simp [hread, hleft]

/-- The expressions of a call, with no mention of an order of its arguments. -/
theorem expression_eq_ok_iff (e : Expression) :
    c.expression types rule = .ok e ↔
      Distinct c.args ∧ c.name = callName e.kind ∧ (∀ a ∈ c.args, a.1 ∈ parameters e.kind) ∧
        Denotes types c.args e := by
  rw [expression_eq_ok_iff_stages, duplicate?_eq_none_iff]
  constructor
  · rintro ⟨hargs, kind, hkind, hread, hleft⟩
    obtain ⟨rfl, hdenotes⟩ := denotes_of_expressionOf hargs types hread
    exact ⟨hargs, (kind?_eq_some_iff _ _).mp hkind,
      (leftOver_eq_nil_iff _ hargs).mp hleft, hdenotes⟩
  · rintro ⟨hargs, hname, hknown, hdenotes⟩
    exact ⟨hargs, e.kind, (kind?_eq_some_iff _ _).mpr hname,
      expressionOf_of_denotes hargs types hdenotes,
      (leftOver_eq_nil_iff _ hargs).mpr hknown⟩

theorem exists_expression_iff :
    (∃ e, c.expression types rule = .ok e) ↔
      Distinct c.args ∧ ∃ kind, c.name = callName kind ∧
        (∀ a ∈ c.args, a.1 ∈ parameters kind) ∧
          ∀ q ∈ signature kind, Fits types c.args q.1 q.2 := by
  simp only [expression_eq_ok_iff_stages, duplicate?_eq_none_iff]
  constructor
  · rintro ⟨e, hargs, kind, hkind, hread, hleft⟩
    exact ⟨hargs, kind, (kind?_eq_some_iff _ _).mp hkind,
      (leftOver_eq_nil_iff _ hargs).mp hleft,
      (requires_expressionOf hargs types kind).mp ⟨e, hread⟩⟩
  · rintro ⟨hargs, kind, hname, hknown, hfits⟩
    obtain ⟨e, hread⟩ := (requires_expressionOf hargs types kind).mpr hfits
    exact ⟨e, hargs, kind, (kind?_eq_some_iff _ _).mpr hname, hread,
      (leftOver_eq_nil_iff _ hargs).mpr hknown⟩

end Compilation

/-- A parameter has one shape, so that a list of arguments can be checked
argument by argument instead of parameter by parameter. -/
theorem known_and_fits_iff (types : Registry) (args : List (String × Argument))
    (kind : ExpressionKind) :
    ((∀ a ∈ args, a.1 ∈ parameters kind) ∧ ∀ q ∈ signature kind, Fits types args q.1 q.2) ↔
      ∀ a ∈ args, ∃ shape, (a.1, shape) ∈ signature kind ∧ shape.Admits types a.2 := by
  constructor
  · rintro ⟨hknown, hfits⟩ a ha
    have hmem : a.1 ∈ (signature kind).map Prod.fst := by
      rw [signature_names]
      exact hknown a ha
    obtain ⟨⟨name, shape⟩, hq, hname⟩ := List.mem_map.mp hmem
    cases hname
    exact ⟨shape, hq, hfits _ hq a.2 ha⟩
  · intro h
    constructor
    · intro a ha
      obtain ⟨shape, hq, _⟩ := h a ha
      rw [← signature_names]
      exact List.mem_map.mpr ⟨_, hq, rfl⟩
    · intro q hq a ha
      obtain ⟨shape, hq', hadmits⟩ := h _ ha
      -- both shapes are listed for this name, so they are one
      have hq := (lookup_eq_some_iff (signature_distinct kind) q.1 q.2).mpr hq
      have hq' := (lookup_eq_some_iff (signature_distinct kind) q.1 shape).mpr hq'
      cases hq.symm.trans hq'
      exact hadmits

/-- A call is an expression if and only if its arguments have distinct names
and each is one that a parameter of the called kind admits. The fields are the
values of the parameters, however the arguments are arranged. -/
theorem expression_specified (c : Call) (types : Registry) (rule : String) :
    ((∃ e, c.expression types rule = .ok e) ↔
      Distinct c.args ∧ ∃ kind, c.name = callName kind ∧
        ∀ a ∈ c.args, ∃ shape, (a.1, shape) ∈ signature kind ∧ shape.Admits types a.2) ∧
    ∀ e, c.expression types rule = .ok e →
      c.name = callName e.kind ∧ Denotes types c.args e ∧
        ∀ args, c.args.Perm args → (Call.mk c.name args).expression types rule = .ok e := by
  constructor
  · rw [exists_expression_iff]
    simp only [known_and_fits_iff]
  · intro e he
    obtain ⟨hargs, hname, hknown, hdenotes⟩ := (expression_eq_ok_iff c types rule e).mp he
    refine ⟨hname, hdenotes, fun args hperm => ?_⟩
    have hknown' : ∀ a ∈ args, a.1 ∈ parameters e.kind := by
      intro a ha
      exact hknown a (hperm.mem_iff.mpr ha)
    exact (expression_eq_ok_iff _ types rule e).mpr
      ⟨hargs.perm hperm, hname, hknown', (Denotes.perm_iff hperm types e).mp hdenotes⟩

def inkTypes : Registry := .ofList [⟨"Ink", [("black", 0), ("blue", 7)], false⟩]

def inkExpression : Expression :=
  .enum
    { definition := some ⟨"Ink", [("black", 0), ("blue", 7)], false⟩
      enumType := some (.enum "Ink")
      value := some (.string "blue") }

/-- Two options among the arguments of a transform. -/
def clipArgs : List (String × Argument) :=
  [("to_upper", .word "invariant"), ("insert_index", .literal (.int 2)), ("trim", .word "end"),
    ("insert_text", .literal (.string "-"))]

def clipExpression : Expression :=
  .transform
    { trim := some .atEnd
      insertText := some "-"
      insertIndex := some 2
      toUpper := some .invariant }

theorem expression_inkCalls :
    ((Call.mk "enum" [("type", .word "Ink"), ("value", .word "blue")]).expression
        inkTypes "ink" = .ok inkExpression ∧
      Denotes inkTypes [("type", .word "Ink"), ("value", .word "blue")] inkExpression ∧
      (Call.mk "enum" [("value", .word "blue"), ("type", .word "Ink")]).expression
        inkTypes "ink" = .ok inkExpression) ∧
    ((Call.mk "transform" clipArgs).expression inkTypes "ink" = .ok clipExpression ∧
      Denotes inkTypes clipArgs clipExpression ∧
      (Call.mk "transform" clipArgs.reverse).expression inkTypes "ink" = .ok clipExpression) ∧
    (Call.mk "lookup" [("operation", .word "max")]).expression inkTypes "ink" =
        .ok (.lookup { operation := .max }) ∧
      Denotes inkTypes [("operation", .word "max")] (.lookup { operation := .max }) := by
  have hink : (Call.mk "enum" [("type", .word "Ink"), ("value", .word "blue")]).expression
      inkTypes "ink" = .ok inkExpression := by rfl
  have hclip : (Call.mk "transform" clipArgs).expression inkTypes "ink" =
      .ok clipExpression := by rfl
  have hmax : (Call.mk "lookup" [("operation", .word "max")]).expression inkTypes "ink" =
      .ok (.lookup { operation := .max }) := by rfl
  obtain ⟨_, hblue, hswapped⟩ := (expression_specified _ inkTypes "ink").2 inkExpression hink
  obtain ⟨_, htrimmed, hreversed⟩ := (expression_specified _ inkTypes "ink").2 clipExpression hclip
  obtain ⟨_, hgreatest, _⟩ := (expression_specified _ inkTypes "ink").2 _ hmax
  exact ⟨⟨hink, hblue, hswapped _ (List.Perm.swap _ _ _)⟩,
    ⟨hclip, htrimmed, hreversed _ (List.reverse_perm clipArgs).symm⟩, hmax, hgreatest⟩

end ConversionRules.Call
