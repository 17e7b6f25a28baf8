import Mathlib.Data.List.Forall2
import ConversionRules.Proofs.Call.Expressions

/-!
The unknown argument that a call is refused for. Each argument that is taken is
replaced by the last of those that are left, so the one in front at the end is
the first written if that is unknown, and else one that came from the end.
-/
namespace ConversionRules.Call

/-- An argument that stands in its own place or came from the end. -/
def Moved (back : List (String × Argument)) (a written : String × Argument) : Prop :=
  a = written ∨ a ∈ back

section Taking

variable {args front back : List (String × Argument)} {name : String}

theorem remove_of_not_mem (h : name ∉ args.map Prod.fst) : remove name args = args := by
  induction args with
  | nil => rfl
  | cons a rest ih =>
    rw [List.map_cons, List.mem_cons, not_or] at h
    rw [remove, if_neg (Ne.symm h.1), ih h.2]

/-- The last argument takes the place of the one in front. -/
theorem remove_front (front : String × Argument) (rest : List (String × Argument))
    (a : String × Argument) : remove front.1 (front :: (rest ++ [a])) = a :: rest := by
  rw [remove, if_pos rfl, List.getLast?_concat]
  dsimp only
  rw [List.dropLast_concat]

/-- One more argument from the end is moved to a place before it, unless it is taken. -/
theorem moved_remove {z : String × Argument} (h : List.Forall₂ (Moved back) args (front ++ [z]))
    (hname : name ∈ args.map Prod.fst) :
    List.Forall₂ (Moved (z :: back)) (remove name args) front := by
  have hlater : ∀ {a written : String × Argument}, Moved back a written →
      Moved (z :: back) a written := fun hmoved => hmoved.imp_right (List.mem_cons_of_mem z)
  induction args generalizing front with
  | nil => cases hname
  | cons a rest ih =>
    cases front with
    | nil =>
      obtain ⟨_, hrest⟩ := List.forall₂_cons.mp h
      obtain rfl := List.forall₂_nil_right_iff.mp hrest
      have hfirst : a.1 = name := (List.mem_singleton.mp hname).symm
      rw [remove, if_pos hfirst]
      exact .nil
    | cons written front =>
      obtain ⟨hfirst, hrest⟩ := List.forall₂_cons.mp h
      by_cases hsame : a.1 = name
      · obtain ⟨before, last, rfl⟩ : ∃ before last, rest = before ++ [last] := by
          refine (List.eq_nil_or_concat' rest).resolve_left ?_
          rintro rfl
          exact absurd hrest.length_eq (by simp)
        have hlength : before.length = front.length := by
          simpa using hrest.length_eq
        have hbefore := List.forall₂_take_append _ _ _ hrest
        have hlast := List.forall₂_drop_append _ _ _ hrest
        rw [List.take_left' hlength] at hbefore
        rw [List.drop_left' hlength] at hlast
        rw [← hsame, remove_front]
        refine .cons (Or.inr ?_) (hbefore.imp fun _ _ => hlater)
        rcases (List.forall₂_cons.mp hlast).1 with rfl | hback
        · exact List.mem_cons_self
        · exact List.mem_cons_of_mem z hback
      · have hrestName : name ∈ rest.map Prod.fst :=
          (List.mem_cons.mp hname).resolve_left fun heq => hsame heq.symm
        rw [remove, if_neg hsame]
        exact .cons (hlater hfirst) (ih hrest hrestName)

/-- What is left, one by one in the first of the places, is what was written there or later. -/
theorem moved_leftOver (names : List String)
    (h : List.Forall₂ (Moved back) args front) :
    ∃ kept gone, front = kept ++ gone ∧
      List.Forall₂ (Moved (gone ++ back)) (leftOver names args) kept := by
  induction names generalizing args front back with
  | nil => exact ⟨front, [], (List.append_nil _).symm, h⟩
  | cons name names ih =>
    by_cases hname : name ∈ args.map Prod.fst
    · obtain ⟨before, z, rfl⟩ : ∃ before z, front = before ++ [z] := by
        refine (List.eq_nil_or_concat' front).resolve_left ?_
        rintro rfl
        rw [List.forall₂_nil_right_iff.mp h] at hname
        cases hname
      obtain ⟨kept, gone, rfl, hkept⟩ := ih (moved_remove h hname)
      refine ⟨kept, gone ++ [z], (List.append_assoc _ _ _), ?_⟩
      rw [List.append_assoc]
      exact hkept
    · have hsame : leftOver (name :: names) args = leftOver names args := by
        rw [leftOver, List.foldl_cons, remove_of_not_mem hname, leftOver]
      rw [hsame]
      exact ih h

/-- An argument in front that is none of those taken stays there. -/
theorem leftOver_cons {a : String × Argument} {names : List String} (ha : a.1 ∉ names)
    (args : List (String × Argument)) : leftOver names (a :: args) = a :: leftOver names args := by
  induction names generalizing args with
  | nil => rfl
  | cons name names ih =>
    rw [List.mem_cons, not_or] at ha
    have hfirst : remove name (a :: args) = a :: remove name args := by
      rw [remove, if_neg ha.1]
    rw [leftOver, List.foldl_cons, hfirst]
    exact ih ha.2 _

/-- A parameter is taken that stands in front, while `a` is the last of what is left. -/
def TakesFront (names : List String) (args : List (String × Argument)) (a : String × Argument) :
    Prop :=
  ∃ before name after front rest, names = before ++ name :: after ∧
    leftOver before args = front :: (rest ++ [a]) ∧ front.1 = name

theorem leftOver_append (names more : List String) (args : List (String × Argument)) :
    leftOver (names ++ more) args = leftOver more (leftOver names args) := List.foldl_append

/-- What comes to the front comes from the end. -/
theorem head_remove {name : String} {a : String × Argument}
    (h : (remove name args).head? = some a) :
    args.head? = some a ∨ ∃ front rest, args = front :: (rest ++ [a]) ∧ front.1 = name := by
  cases args with
  | nil => cases h
  | cons front rest =>
    by_cases hname : front.1 = name
    · rcases List.eq_nil_or_concat' rest with rfl | ⟨before, last, rfl⟩
      · rw [remove, if_pos hname] at h
        cases h
      · rw [← hname, remove_front] at h
        cases h
        exact Or.inr ⟨front, before, rfl, hname⟩
    · rw [remove, if_neg hname] at h
      exact Or.inl h

/-- An argument that is not taken is in front at the end if it is written in front or
takes the place of one in front. -/
theorem head_leftOver_iff {names : List String} {a : String × Argument} (ha : a.1 ∉ names) :
    (leftOver names args).head? = some a ↔ args.head? = some a ∨ TakesFront names args a := by
  constructor
  · intro h
    induction names generalizing args with
    | nil => exact Or.inl h
    | cons name names ih =>
      rw [List.mem_cons, not_or] at ha
      rcases ih ha.2 h with hfirst | ⟨before, next, after, front, rest, rfl, hleft, hfront⟩
      · rcases head_remove hfirst with hsame | ⟨front, rest, hargs, hfront⟩
        · exact Or.inl hsame
        · exact Or.inr ⟨[], name, names, front, rest, rfl, hargs, hfront⟩
      · exact Or.inr ⟨name :: before, next, after, front, rest, rfl, hleft, hfront⟩
  · rintro (h | ⟨before, name, after, front, rest, rfl, hleft, rfl⟩)
    · obtain ⟨rest, rfl⟩ := List.head?_eq_some_iff.mp h
      rw [leftOver_cons ha, List.head?_cons]
    · have hafter : a.1 ∉ after := fun hmem =>
        ha (List.mem_append_right _ (List.mem_cons_of_mem _ hmem))
      have hstep : leftOver (front.1 :: after) (front :: (rest ++ [a])) = leftOver after (a :: rest) := by
        rw [leftOver, List.foldl_cons, remove_front, leftOver]
      rw [leftOver_append, hleft, hstep, leftOver_cons hafter, List.head?_cons]

end Taking

section Unknown

variable {c : Call} {types : Registry} {kind : ExpressionKind}

/-- The arguments of a list that are no parameters of a kind. -/
def unknowns (kind : ExpressionKind) (args : List (String × Argument)) : List (String × Argument) :=
  args.filter fun a => a.1 ∉ parameters kind

theorem expression_eq_unknownParameter (hargs : Distinct c.args) (hname : c.name = callName kind)
    (hfits : ∀ q ∈ signature kind, Fits types c.args q.1 q.2) {a : String × Argument}
    (hfirst : (leftOver (parameters kind) c.args).head? = some a) (rule : String) :
    c.expression types rule = .error (.unknownParameter c.name a.1) := by
  obtain ⟨e, he⟩ := (requires_expressionOf hargs types kind).mpr hfits
  unfold expression
  rw [(duplicate?_eq_none_iff _).mpr hargs, (kind?_eq_some_iff _ _).mpr hname]
  dsimp only
  rw [he]
  dsimp only
  rw [hfirst]

/-- In front at the end is the first argument written or one that came from the end. -/
theorem head_leftOver (hargs : Distinct c.args) {first a : String × Argument}
    (hfirst : c.args.head? = some first)
    (ha : (leftOver (parameters kind) c.args).head? = some a) :
    a = first ∨ a ∈ c.args.drop (unknowns kind c.args).length := by
  have hself : List.Forall₂ (Moved []) c.args c.args :=
    List.forall₂_same.mpr fun x _ => Or.inl rfl
  obtain ⟨kept, gone, hsplit, hmoved⟩ := moved_leftOver (parameters kind) hself
  have hlength : (unknowns kind c.args).length = kept.length :=
    (leftOver_perm (parameters kind) hargs).length_eq.symm.trans hmoved.length_eq
  obtain ⟨left, hleft⟩ := List.head?_eq_some_iff.mp ha
  rw [hleft] at hmoved
  cases hmoved with
  | @cons _ written _ kept hfront _ =>
    rw [hsplit, List.cons_append, List.head?_cons] at hfirst
    rw [hlength, hsplit, List.drop_left]
    cases hfirst
    rw [Moved, List.append_nil] at hfront
    exact hfront

/-- A call of a known kind whose parameters are in order and that has unknown arguments too is
refused for one of these. It is the first of them exactly if that is the first argument of all or
takes the place of a parameter in front. If it is not the first argument of all, and there are n
unknown arguments, then none of the first n arguments is reported. -/
theorem expression_unknown (hargs : Distinct c.args) (hname : c.name = callName kind)
    (hfits : ∀ q ∈ signature kind, Fits types c.args q.1 q.2) {a : String × Argument}
    (ha : (unknowns kind c.args).head? = some a) (rule : String) :
    ∃ b ∈ unknowns kind c.args, c.expression types rule = .error (.unknownParameter c.name b.1) ∧
      (b = a ↔ c.args.head? = some a ∨ TakesFront (parameters kind) c.args a) ∧
      (c.args.head? ≠ some a → b ∈ c.args.drop (unknowns kind c.args).length) := by
  have hperm := leftOver_perm (parameters kind) hargs
  have hnew : a.1 ∉ parameters kind :=
    of_decide_eq_true (List.mem_filter.mp (List.mem_of_head? ha)).2
  cases hleft : leftOver (parameters kind) c.args with
  | nil =>
    rw [hleft] at hperm
    rw [unknowns, ← hperm.nil_eq] at ha
    cases ha
  | cons b left =>
    have hhead : (leftOver (parameters kind) c.args).head? = some b := by
      rw [hleft, List.head?_cons]
    have hmem : b ∈ unknowns kind c.args := hperm.mem_iff.mp (hleft ▸ List.mem_cons_self)
    refine ⟨b, hmem, expression_eq_unknownParameter hargs hname hfits hhead rule, ?_, ?_⟩
    · rw [← head_leftOver_iff hnew, hhead, Option.some.injEq]
    · intro hother
      obtain ⟨first, rest, hfirst⟩ : ∃ first rest, c.args = first :: rest :=
        List.exists_cons_of_ne_nil fun hnone => by simp [unknowns, hnone] at ha
      refine (head_leftOver hargs (hfirst ▸ List.head?_cons) hhead).resolve_left ?_
      rintro rfl
      -- An unknown argument that is written first of all is the first unknown one.
      have hunknown := (List.mem_filter.mp hmem).2
      rw [unknowns, hfirst, List.filter_cons, if_pos hunknown, List.head?_cons] at ha
      exact hother (by rw [hfirst, List.head?_cons, ha])

end Unknown

section Shares

/-- A parameter before two arguments that are unknown. -/
def sharesCall : Call :=
  ⟨"percentage",
    [("of", .literal (.int 2)), ("first", .literal (.int 1)), ("second", .literal (.int 3))]⟩

theorem distinct_sharesCall : Distinct sharesCall.args := by
  unfold Distinct
  decide

theorem fits_sharesCall (types : Registry) :
    ∀ q ∈ signature .percentage, Fits types sharesCall.args q.1 q.2 := by
  refine List.forall_mem_singleton.mpr fun a ha => ?_
  have hof : ("of", a) = ("of", Argument.literal (.int 2)) := by
    simpa [sharesCall] using ha
  cases hof
  exact ⟨_, .int 2⟩

theorem head_unknowns_sharesCall :
    (unknowns .percentage sharesCall.args).head? = some ("first", .literal (.int 1)) := rfl

/-- The last argument takes the place of the parameter and is reported. -/
theorem expression_unknown_shares :
    Distinct sharesCall.args ∧ sharesCall.name = callName .percentage ∧
      (∀ q ∈ signature .percentage, Fits (.ofList []) sharesCall.args q.1 q.2) ∧
      (unknowns .percentage sharesCall.args).head? = some ("first", .literal (.int 1)) ∧
      sharesCall.expression (.ofList []) "shares" = .error (.unknownParameter "percentage" "second") := by
  have hname : sharesCall.name = callName .percentage := rfl
  obtain ⟨b, _, hrefused, _, hplace⟩ := expression_unknown distinct_sharesCall hname
    (fits_sharesCall (.ofList [])) head_unknowns_sharesCall "shares"
  have hlast : b ∈ [("second", Argument.literal (.int 3))] := hplace (by simp [sharesCall])
  rw [List.mem_singleton.mp hlast] at hrefused
  exact ⟨distinct_sharesCall, hname, fits_sharesCall _, head_unknowns_sharesCall, hrefused⟩

/-- What is reported need not be the first unknown argument. -/
theorem expression_unknown_passedOver :
    ¬ ∀ (c : Call) (types : Registry) (rule : String) (kind : ExpressionKind)
        (a : String × Argument), Distinct c.args → c.name = callName kind →
      (∀ q ∈ signature kind, Fits types c.args q.1 q.2) → (unknowns kind c.args).head? = some a →
      c.expression types rule = .error (.unknownParameter c.name a.1) := by
  intro h
  have hfirst := h sharesCall (.ofList []) "shares" .percentage ("first", .literal (.int 1))
    distinct_sharesCall rfl (fits_sharesCall _) head_unknowns_sharesCall
  have hsecond : sharesCall.expression (.ofList []) "shares" =
      .error (.unknownParameter "percentage" "second") := rfl
  rw [hsecond] at hfirst
  injection hfirst with hnames
  injection hnames with _ hname
  exact absurd hname (by decide)

end Shares

end ConversionRules.Call
