import TypedQuery.Proofs.Errors.Fitting
import TypedQuery.Rendering.Operation

/-!
# Errors of operations

An operation with as many arguments as its operator accepts fails only for a missing template or an
argument that cannot be used, however it is rewritten: every rewriting makes an operation whose
arguments are again as many as its operator accepts.
-/

namespace TypedQuery

/-- The errors that a well-formed statement may meet. -/
def Error.isExpected : Error → Bool
  | missingTemplate .. | unsupported .. | missingRoot | invalidArgument _ => true
  | invalidTemplate .. | arity .. | unboundParam _ | notAPredicate | endlessExpansion => false

namespace Rendering

/-- Only expected errors arise. -/
def IsSafe (r : Rendering) : Prop := ∀ scope e, r scope = .error e → e.isExpected = true

variable {a b r : Rendering}

theorem isSafe_fail {e : Error} (h : e.isExpected = true) : (fail e).IsSafe := by
  rintro _ e' he
  obtain rfl := Except.error.inj he
  exact h

theorem IsSafe.append (ha : a.IsSafe) (hb : b.IsSafe) : (a ++ b).IsSafe := by
  intro scope e h
  rw [append_apply] at h
  cases hbefore : a scope with
  | error e' =>
      rw [hbefore] at h
      exact Except.error.inj h ▸ ha scope e' hbefore
  | ok before =>
      rw [hbefore] at h
      cases hbehind : b scope with
      | error e' =>
          rw [hbehind] at h
          exact Except.error.inj h ▸ hb scope e' hbehind
      | ok behind =>
          rw [hbehind] at h
          cases h

theorem isClosed_isSafe : IsClosed IsSafe where
  empty _ _ h := nomatch h
  text _ _ _ h := nomatch h
  placeholder _ _ _ _ h := nomatch h
  append := IsSafe.append

theorem isSafe_empty : empty.IsSafe := isClosed_isSafe.empty

theorem isSafe_text (t : String) : (text t).IsSafe := isClosed_isSafe.text t

theorem IsSafe.between (h : r.IsSafe) (before behind : String) :
    (r.between before behind).IsSafe := isClosed_isSafe.between before behind h

theorem IsSafe.within (h : r.IsSafe) (change : Scope → Scope) : (r.within change).IsSafe :=
  fun scope ↦ h (change scope)

end Rendering

open Rendering

/-- An operand that is safe to write, with safe operands inside. -/
inductive Operand.IsSafe : Operand → Prop
  | leaf {e : Expr} {r : Rendering} (h : r.IsSafe) : IsSafe (.leaf e r)
  | operation {e : Expr} {operator : Operator} {args : List Operand} {r : Rendering}
      (hargs : ∀ a ∈ args, IsSafe a) (h : r.IsSafe) : IsSafe (.operation e operator args r)
  | subQuery {e : Expr} {select : Option String → Rendering}
      (h : ∀ projection, (select projection).IsSafe) : IsSafe (.subQuery e select)

theorem Operand.IsSafe.render {a : Operand} (h : a.IsSafe) : a.render.IsSafe := by
  cases h with
  | leaf h | operation _ h => exact h
  | subQuery h => exact (h none).between "(" ")"

namespace Setup

variable {s : Setup} {args : List Operand} {a x y : Operand}

/-! ## Templates -/

theorem isSafe_entry (hs : s.profile.IsFitting) {operation : Op → List Operand → Operand}
    {operator : Operator} (hop : operator ∈ slotOperators ∨ Keeps IsSafe operation)
    (harity : operator.arity.all (·.accepts args.length) = true)
    (hargs : ∀ a ∈ args, a.render.IsSafe) : (s.entry operation operator args).IsSafe := by
  unfold entry
  split
  · exact isSafe_fail rfl
  · rename_i e he
    have hfits := hs.registry operator e he
    -- the arity has been checked when the expression was built
    rw [hfits.arity]
    refine isClosed_isSafe.concat fun r hr ↦ ?_
    obtain ⟨slot, hslot, rfl⟩ := List.mem_map.mp hr
    have hwithin := List.all_eq_true.mp (hfits.isWithin _ harity) slot hslot
    refine element_of_isClosed isClosed_isSafe (hop.imp_left fun hop ↦ ?_) (.inl hwithin) hargs _
    exact List.all_eq_true.mp (hfits.isPlain hop) slot hslot

/-- The operators that slots apply have no such slots themselves, so that one step is enough. -/
theorem keeps_textOperation (hs : s.profile.IsFitting) (depth : Nat) :
    Keeps IsSafe (s.textOperation (depth + 1)) where
  lower ha := (isSafe_entry hs (.inl (by decide)) rfl (by simpa using ha)).within _
  upper ha := (isSafe_entry hs (.inl (by decide)) rfl (by simpa using ha)).within _
  concat ha hb := (isSafe_entry hs (.inl (by decide)) rfl (by simpa using ⟨ha, hb⟩)).within _

theorem isSafe_apply (hs : s.profile.IsFitting) {t : Template}
    (hwithin : t.isWithin args.length = true) (precedence : Int)
    (hargs : ∀ a ∈ args, a.render.IsSafe) : (s.apply t precedence args).IsSafe := by
  refine isClosed_isSafe.concat fun r hr ↦ ?_
  obtain ⟨slot, hslot, rfl⟩ := List.mem_map.mp hr
  exact element_of_isClosed isClosed_isSafe (.inr (keeps_textOperation hs 3))
    (.inl (List.all_eq_true.mp hwithin slot hslot)) hargs precedence

theorem isSafe_plain (hs : s.profile.IsFitting) {operator : Operator}
    (harity : operator.arity.all (·.accepts args.length) = true)
    (hargs : ∀ a ∈ args, a.render.IsSafe) : (s.plain operator args).IsSafe :=
  isSafe_entry hs (.inr (keeps_textOperation hs 3)) harity hargs

theorem isSafe_plain_pair (hs : s.profile.IsFitting) {op : Op} (harity : op.arity = .exact 2)
    (hx : x.render.IsSafe) (hy : y.render.IsSafe) : (s.plain (.op op) [x, y]).IsSafe :=
  isSafe_plain hs (by simp [Operator.arity, harity, Arity.accepts]) (by simpa using ⟨hx, hy⟩)

theorem isSafe_value (v : Value) : (s.value v).render.IsSafe := value_of_isClosed isClosed_isSafe v

theorem isSafe_constant (c : Constant) : (s.constant c).IsSafe :=
  .leaf (isClosed_isSafe.constant _ _)

/-! ## Paths -/

theorem isSafe_step (hs : s.profile.IsFitting) (p : Path)
    (harity : p.kind.arity.accepts args.length = true) (hargs : ∀ a ∈ args, a.render.IsSafe) :
    (s.step p args).IsSafe := by
  refine .leaf ?_
  split
  · exact isSafe_fail rfl
  · rename_i e he
    have hwithin := (hs.registry _ e he).isWithin args.length harity
    have hbody := (isSafe_apply hs hwithin e.precedence hargs).within
      ({ · with wrapElements := false })
    intro scope error h
    dsimp only at h
    split at h
    · exact hbody.between "elements(" ")" scope error h
    · exact hbody scope error h

theorem isSafe_rootStep (hs : s.profile.IsFitting) (type : ValueType) (name : String) :
    (s.rootStep type name).IsSafe := by
  refine isSafe_step hs _ rfl fun a ha ↦ ?_
  obtain rfl := List.mem_singleton.mp ha
  exact isSafe_value _

theorem isSafe_propertyStep (hs : s.profile.IsFitting) (type : ValueType) (owner : Path)
    {parent : Operand} (h : parent.render.IsSafe) (name : String) :
    (s.propertyStep type owner parent name).IsSafe :=
  isSafe_step hs _ rfl (by simpa using ⟨h, isSafe_value _⟩)

/-! ## Rewritings -/

theorem isSafe_normalizeNumbers (hargs : ∀ a ∈ args, a.render.IsSafe) :
    ∀ a ∈ s.normalizeNumbers args, a.render.IsSafe := by
  intro b hb
  unfold normalizeNumbers at hb
  split at hb
  · exact hargs b hb
  · obtain ⟨a, ha, rfl⟩ := List.mem_map.mp hb
    split
    · exact (isSafe_constant _).render
    · exact hargs a ha

theorem length_normalizeNumbers (s : Setup) (args : List Operand) :
    (s.normalizeNumbers args).length = args.length := by
  unfold normalizeNumbers
  split
  · rfl
  · exact List.length_map _

theorem isSafe_unchanged (hs : s.profile.IsFitting) {op : Op}
    (harity : op.arity.accepts args.length = true) (hargs : ∀ a ∈ args, a.render.IsSafe) :
    (s.unchanged op args).IsSafe := by
  unfold unchanged
  split
  · refine isSafe_plain hs ?_ (isSafe_normalizeNumbers hargs)
    rw [length_normalizeNumbers]
    exact harity
  · exact isSafe_plain hs harity hargs

theorem isSafe_encoded (collection : Path) (h : a.render.IsSafe) :
    (s.encoded collection a).render.IsSafe := by
  unfold encoded
  split
  · exact h
  · split
    · split
      · exact isSafe_value _
      · exact isSafe_value _
    · exact h

theorem exists_of_mapM_error {α β : Type} {f : α → Except Error β} {xs : List α} {e : Error}
    (h : xs.mapM f = .error e) : ∃ x ∈ xs, f x = .error e := by
  induction xs with
  | nil => cases h
  | cons x xs ih =>
      rw [List.mapM_cons] at h
      cases hx : f x with
      | error e' =>
          rw [hx] at h
          exact ⟨x, List.mem_cons_self, hx.trans (congrArg Except.error (Except.error.inj h))⟩
      | ok y =>
          rw [hx] at h
          cases hxs : xs.mapM f with
          | error e' =>
              rw [hxs] at h
              obtain rfl := Except.error.inj h
              obtain ⟨z, hz, hfail⟩ := ih hxs
              exact ⟨z, List.mem_cons_of_mem _ hz, hfail⟩
          | ok ys =>
              rw [hxs] at h
              cases h

theorem isExpected_of_identifiers {identify : Value → Option Value} {entities : List Value}
    {e : Error} (h : identifiers identify entities = .error e) : e.isExpected = true := by
  have hmap : ∀ {result : Except Error (List Value)}, distinctValues <$> result = .error e →
      result = .error e := by
    rintro (e' | ids) hresult
    · exact congrArg Except.error (Except.error.inj hresult)
    · cases hresult
  obtain ⟨entity, _, hentity⟩ := exists_of_mapM_error (hmap h)
  split at hentity
  · cases hentity
  · exact Except.error.inj hentity ▸ rfl

theorem isSafe_entityIn (hs : s.profile.IsFitting) {op : Op} (harity : op.arity = .exact 2)
    (p : Path) (c : Constant) (hx : x.render.IsSafe) (hy : y.render.IsSafe) :
    (s.entityIn op p c x y).IsSafe := by
  have hplain := isSafe_plain_pair hs harity hx hy
  unfold entityIn
  split
  · split
    · exact hplain
    · split
      · exact isSafe_plain_pair hs harity (isSafe_propertyStep hs _ p hx _).render (isSafe_value _)
      · rename_i e he
        exact isSafe_fail (isExpected_of_identifiers he)
  · exact hplain

theorem isSafe_membership (hs : s.profile.IsFitting) {op member : Op}
    (hop : op.arity = .exact 2) (hmember : member.arity = .exact 2) (hx : x.render.IsSafe)
    (hy : y.render.IsSafe) : (s.membership op member x y).IsSafe := by
  unfold membership
  split
  · exact isSafe_plain_pair hs hmember (isSafe_encoded _ hx) hy
  · exact isSafe_entityIn hs hop _ _ hx hy
  · exact isSafe_plain_pair hs hop hx hy

theorem isSafe_quantified (hs : s.profile.IsFitting) {op member : Op}
    (hop : op.arity = .exact 2) (hmember : member.arity = .exact 2) (hx : x.render.IsSafe)
    (hargs : ∀ a ∈ args, a.render.IsSafe) : (s.quantified op member x args).IsSafe := by
  unfold quantified
  split
  · exact isSafe_fail rfl
  · exact (isSafe_membership hs hop hmember hx (hargs _ List.mem_cons_self)).within _

theorem isSafe_instanceTest (hs : s.profile.IsFitting) (hx : x.render.IsSafe)
    (hy : y.render.IsSafe) : (s.instanceTest x y).IsSafe := by
  unfold instanceTest
  split
  · exact isSafe_plain_pair hs rfl hx (isSafe_value _)
  · exact isSafe_plain_pair hs rfl hx hy

theorem isSafe_numericCast (hs : s.profile.IsFitting) (hx : x.render.IsSafe) (target : Operand) :
    (s.numericCast x target).IsSafe := by
  unfold numericCast
  split
  · exact isSafe_plain_pair hs rfl hx (isSafe_value _)
  · exact isSafe_fail rfl

theorem isSafe_likeTest (hs : s.profile.IsFitting) (hx : x.render.IsSafe)
    (hy : y.render.IsSafe) : (s.likeTest x y).IsSafe := by
  unfold likeTest
  split
  · exact isSafe_plain_pair hs rfl hx (isSafe_value _)
  · exact isSafe_plain_pair hs rfl hx hy

theorem isSafe_lowered (hs : s.profile.IsFitting) (h : a.render.IsSafe) :
    (s.lowered a).render.IsSafe := by
  unfold lowered
  split
  · exact isSafe_value _
  · exact (keeps_textOperation hs _).lower h

theorem regexAsLike_cases (h : a.render.IsSafe) :
    (∃ like, s.regexAsLike a = .ok like ∧ like.render.IsSafe) ∨
      ∃ e, s.regexAsLike a = .error e ∧ e.isExpected = true := by
  unfold regexAsLike
  split
  · exact .inl ⟨a, rfl, h⟩
  · split
    · exact .inl ⟨_, rfl, isSafe_value _⟩
    · exact .inr ⟨_, rfl, rfl⟩

theorem isSafe_regexTest (hs : s.profile.IsFitting) {op : Op} (hop : op.arity = .exact 2)
    (hx : x.render.IsSafe) (hy : y.render.IsSafe) : (s.regexTest op x y).IsSafe := by
  unfold regexTest
  split
  · exact isSafe_plain_pair hs hop hx hy
  · rcases regexAsLike_cases (s := s) hy with ⟨like, hlike, hsafe⟩ | ⟨e, he, hexpected⟩
    · rw [hlike]
      dsimp only
      split
      · exact isSafe_plain_pair hs rfl ((keeps_textOperation hs _).lower hx)
          (isSafe_lowered hs hsafe)
      · exact isSafe_plain_pair hs rfl hx hsafe
    · rw [he]
      exact isSafe_fail hexpected

theorem isSafe_jpqlOperation (hs : s.profile.IsFitting) {op : Op}
    (harity : op.arity.accepts args.length = true) (hargs : ∀ a ∈ args, a.IsSafe) :
    (s.jpqlOperation op args).IsSafe := by
  have hrender : ∀ a ∈ args, a.render.IsSafe := fun a ha ↦ (hargs a ha).render
  have hinner : ∀ {e : Expr} {operator : Operator} {values : List Operand} {r : Rendering},
      .operation e operator values r ∈ args → ∀ v ∈ values, v.render.IsSafe := by
    intro e operator values r hmem
    cases hargs _ hmem with
    | operation hvalues _ => exact fun v hv ↦ (hvalues v hv).render
  unfold jpqlOperation
  -- whatever is rewritten becomes an operator of two arguments with two operands
  split
  · exact isSafe_quantified hs rfl rfl (hrender _ (by simp))
      (hinner (List.mem_cons_of_mem _ List.mem_cons_self))
  · exact isSafe_quantified hs rfl rfl (hrender _ (by simp))
      (hinner (List.mem_cons_of_mem _ List.mem_cons_self))
  · exact isSafe_membership hs rfl rfl (hrender _ (by simp)) (hrender _ (by simp))
  · exact isSafe_membership hs rfl rfl (hrender _ (by simp)) (hrender _ (by simp))
  · exact isSafe_instanceTest hs (hrender _ (by simp)) (hrender _ (by simp))
  · exact isSafe_numericCast hs (hrender _ (by simp)) _
  · rename_i e select
    cases hargs (.subQuery e select) (by simp) with
    | subQuery h => exact (h _).between "exists (" ")"
  · exact isSafe_regexTest hs rfl (hrender _ (by simp)) (hrender _ (by simp))
  · exact isSafe_regexTest hs rfl (hrender _ (by simp)) (hrender _ (by simp))
  · exact isSafe_likeTest hs (hrender _ (by simp)) (hrender _ (by simp))
  · exact isSafe_unchanged hs harity hrender

theorem isSafe_listTest (hs : s.profile.IsFitting) {op : Op} (hop : op.arity = .exact 2)
    (decided : String) (hx : x.render.IsSafe) (hy : y.render.IsSafe) :
    (s.listTest op decided x y).IsSafe := by
  unfold listTest
  split
  · exact isSafe_text decided
  · exact isSafe_plain_pair hs hop hx hy

theorem isSafe_sqlOperation (hs : s.profile.IsFitting) {op : Op}
    (harity : op.arity.accepts args.length = true) (hargs : ∀ a ∈ args, a.render.IsSafe) :
    (s.sqlOperation op args).IsSafe := by
  unfold sqlOperation
  split
  · exact isSafe_listTest hs rfl _ (hargs _ (by simp)) (hargs _ (by simp))
  · exact isSafe_listTest hs rfl _ (hargs _ (by simp)) (hargs _ (by simp))
  · exact isSafe_numericCast hs (hargs _ (by simp)) _
  · exact isSafe_likeTest hs (hargs _ (by simp)) (hargs _ (by simp))
  · exact isSafe_unchanged hs harity hargs

theorem isSafe_operation (hs : s.profile.IsFitting) (type : ValueType) {operator : Operator}
    (harity : operator.arity.all (·.accepts args.length) = true)
    (hargs : ∀ a ∈ args, a.IsSafe) : (s.operation type operator args).IsSafe := by
  have hrender : ∀ a ∈ args, a.render.IsSafe := fun a ha ↦ (hargs a ha).render
  refine .operation hargs ?_
  unfold operationRendering
  split
  · refine IsSafe.within ?_ _
    split
    · exact isSafe_jpqlOperation hs harity hargs
    · exact isSafe_sqlOperation hs harity hrender
  · exact isSafe_plain hs harity hrender

/-! ## Templates and rows -/

theorem isSafe_template (hs : s.profile.IsFitting) (type : ValueType) {t : Template}
    (hwithin : t.isWithin args.length = true) (hargs : ∀ a ∈ args, a.render.IsSafe) :
    (s.template type t args).IsSafe :=
  .leaf (isSafe_apply hs hwithin (-1) hargs)

theorem isSafe_factory (type : ValueType) (maker : Factory) (hargs : ∀ a ∈ args, a.render.IsSafe) :
    (factory type maker args).IsSafe := by
  have hitems : (commas (args.map Operand.render)).IsSafe := by
    refine isClosed_isSafe.separated ", " fun r hr ↦ ?_
    obtain ⟨a, ha, rfl⟩ := List.mem_map.mp hr
    exact hargs a ha
  refine .leaf fun scope e h ↦ ?_
  split at h
  · exact hitems scope e h
  · exact hitems.between "(" ")" scope e h

end Setup

end TypedQuery
