import Mathlib.Data.List.ModifyLast
import TypedQuery.Proofs.JoinOrder

/-!
# The conditions and flags of joins

A condition or a fetch flag goes to the join at the end of the list. While sources are only listed,
this is the last added one. Behind an explicit join it is the last explicit one: what is attached to
a source that is listed there goes to the explicit join in front of it.
-/

namespace TypedQuery

/-! ## Attachments -/

/-- What is added to a join that is there already. -/
inductive Attachment
  | condition (e : Expr)
  | fetch
  | fetchAll

namespace Attachment

def condition? : Attachment → Option Expr
  | condition e => some e
  | _ => none

def isFetch : Attachment → Bool
  | fetch => true
  | _ => false

def isFetchAll : Attachment → Bool
  | fetchAll => true
  | _ => false

end Attachment

namespace Join

def attach (j : Join Expr) : Attachment → Join Expr
  | .condition e => { j with condition := Query.conjoin j.condition e }
  | .fetch => { j with fetch := true }
  | .fetchAll => { j with fetchAll := true }

/-- A source with its attachments: the conditions joined by AND in their order, and the flags. -/
def ofSource (source : JoinKind × Expr) (attached : List Attachment) : Join Expr where
  kind := source.1
  target := source.2
  condition := (attached.filterMap Attachment.condition?).foldl Query.conjoin none
  fetch := attached.any Attachment.isFetch
  fetchAll := attached.any Attachment.isFetchAll

variable {source : JoinKind × Expr}

@[simp] theorem source_ofSource (attached : List Attachment) :
    (ofSource source attached).source = source := rfl

theorem ofSource_snoc (attached : List Attachment) (a : Attachment) :
    ofSource source (attached ++ [a]) = (ofSource source attached).attach a := by
  cases a <;>
    simp [ofSource, attach, List.filterMap_cons, Attachment.condition?, Attachment.isFetch,
      Attachment.isFetchAll]

theorem attach_ne_bare (j : Join Expr) (a : Attachment) : j.attach a ≠ ofSource source [] := by
  intro h
  cases a with
  | condition e =>
      have hcondition : Query.conjoin j.condition e = none := congrArg Join.condition h
      unfold Query.conjoin at hcondition
      split at hcondition <;> cases hcondition
  | fetch => cases congrArg Join.fetch h
  | fetchAll => cases congrArg Join.fetchAll h

theorem ofSource_eq_bare_iff {attached : List Attachment} :
    ofSource source attached = ofSource source [] ↔ attached = [] := by
  refine ⟨fun h ↦ ?_, fun h ↦ by rw [h]⟩
  rcases attached.eq_nil_or_concat with rfl | ⟨before, a, rfl⟩
  · rfl
  · rw [List.concat_eq_append, ofSource_snoc] at h
    exact absurd h (attach_ne_bare _ a)

end Join

namespace QueryCall

/-- What a call attaches to a join. -/
def attachment? : QueryCall → Option Attachment
  | joinCondition condition => some (.condition condition)
  | fetch => some .fetch
  | fetchAll => some .fetchAll
  | _ => none

def adds (p : JoinKind × Expr → Bool) (call : QueryCall) : Bool := call.source?.any p

/-- What calls attach before one of them adds a source of some kind. -/
def attachedBefore (p : JoinKind × Expr → Bool) (calls : List QueryCall) : List Attachment :=
  (calls.takeWhile (!·.adds p)).filterMap attachment?

/-- The sources of some kind, each with what is attached before the next one of this kind. -/
def windows (p : JoinKind × Expr → Bool) : List QueryCall → List (Join Expr)
  | [] => []
  | call :: calls =>
      match call.source?.filter p with
      | some source => .ofSource source (attachedBefore p calls) :: windows p calls
      | none => windows p calls

section Cons

variable {p : JoinKind × Expr → Bool} {call : QueryCall} {source : JoinKind × Expr}

theorem adds_of_source (h : call.source? = some source) : call.adds p = p source := by
  simp [adds, h]

theorem adds_of_none (h : call.source? = none) : call.adds p = false := by
  simp [adds, h]

theorem attachedBefore_cons_of_adds (h : call.adds p = true) (calls : List QueryCall) :
    attachedBefore p (call :: calls) = [] := by
  simp [attachedBefore, h]

theorem attachedBefore_cons (h : call.adds p = false) (calls : List QueryCall) :
    attachedBefore p (call :: calls) = call.attachment?.toList ++ attachedBefore p calls := by
  cases ha : call.attachment? <;> simp [attachedBefore, h, ha]

theorem windows_cons_of_adds (h : call.source? = some source) (hp : p source = true)
    (calls : List QueryCall) :
    windows p (call :: calls) = .ofSource source (attachedBefore p calls) :: windows p calls := by
  have hsome : call.source?.filter p = some source := by simp [h, Option.filter, hp]
  simp [windows, hsome]

theorem windows_cons (h : call.adds p = false) (calls : List QueryCall) :
    windows p (call :: calls) = windows p calls := by
  have hnone : call.source?.filter p = none := by
    cases hsource : call.source? <;> simp_all [adds]
  simp [windows, hnone]

theorem attachedBefore_append {rest : List QueryCall} (h : attachedBefore p rest = [])
    (calls : List QueryCall) : attachedBefore p (calls ++ rest) = attachedBefore p calls := by
  induction calls with
  | nil => exact h
  | cons call calls ih =>
      rw [List.cons_append]
      cases hadds : call.adds p with
      | true => rw [attachedBefore_cons_of_adds hadds, attachedBefore_cons_of_adds hadds]
      | false => rw [attachedBefore_cons hadds, attachedBefore_cons hadds, ih]

theorem windows_append {rest : List QueryCall} (h : attachedBefore p rest = [])
    (calls : List QueryCall) : windows p (calls ++ rest) = windows p calls ++ windows p rest := by
  induction calls with
  | nil => rfl
  | cons call calls ih =>
      rw [List.cons_append]
      cases hfilter : call.source?.filter p with
      | none => simp [windows, hfilter, ih]
      | some source => simp [windows, hfilter, ih, attachedBefore_append h]

end Cons

end QueryCall

namespace Query

open Join (ofSource)
open QueryCall (attachedBefore windows)

variable {q : Query Expr} {call : QueryCall} {calls : List QueryCall}

/-! ## One call -/

theorem joins_after_of_attachment {a : Attachment} (h : call.attachment? = some a) :
    (q.after call).joins = q.joins.modifyLast (·.attach a) := by
  have hlast : ∀ change : Join Expr → Join Expr,
      ((q.updateLastJoin change).toOption.getD q).joins = q.joins.modifyLast change := by
    intro change
    unfold updateLastJoin updateLastJoin?
    rcases q.joins.eq_nil_or_concat with hjoins | ⟨before, last, hjoins⟩
    · rw [hjoins]
      exact hjoins
    · rw [hjoins, List.concat_eq_append, List.modifyLast_concat, List.reverse_append]
      simp [Except.toOption]
  cases call with
  | joinCondition | fetch | fetchAll =>
      cases h
      exact hlast _
  | _ => cases h

theorem joins_after_of_none (hsource : call.source? = none) (h : call.attachment? = none) :
    (q.after call).joins = q.joins := by
  cases call with
  | join => cases hsource
  | joinCondition | fetch | fetchAll => cases h
  | flag f => exact joins_addFlag f
  | _ => rfl

theorem after_of_source {source : JoinKind × Expr} (h : call.source? = some source) :
    q.after call = q.addJoin source.1 source.2 := by
  cases call with
  | join => cases h; rfl
  | _ => cases h

def isExplicit (source : JoinKind × Expr) : Bool := !isListed source

/-- What a call does to joins: it adds a source of one of the two kinds, or it attaches something,
or it has nothing to do with them. -/
inductive Effect (call : QueryCall) : Prop
  | listed (source : JoinKind × Expr) (hsource : call.source? = some source)
      (hlisted : isListed source = true) (hattached : call.attachment? = none)
  | explicit (source : JoinKind × Expr) (hsource : call.source? = some source)
      (hexplicit : isExplicit source = true)
  | attachment (a : Attachment) (ha : call.attachment? = some a)
      (hadds : ∀ p, call.adds p = false)
  | nothing (hsource : call.source? = none) (hattached : call.attachment? = none)
      (hadds : ∀ p, call.adds p = false)

theorem effect (call : QueryCall) : Effect call := by
  cases hsource : call.source? with
  | none =>
      have hadds : ∀ p, call.adds p = false := fun p ↦ QueryCall.adds_of_none hsource
      cases ha : call.attachment? with
      | none => exact .nothing hsource ha hadds
      | some a => exact .attachment a ha hadds
  | some source =>
      cases hkind : isListed source with
      | true =>
          have hattached : call.attachment? = none := by
            cases call with
            | join => rfl
            | _ => cases hsource
          exact .listed source hsource hkind hattached
      | false => exact .explicit source hsource (by simp [isExplicit, hkind])

theorem joins_after_of_explicit {source : JoinKind × Expr} (h : call.source? = some source)
    (hexplicit : isExplicit source = true) :
    (q.after call).joins = q.joins ++ [ofSource source []] := by
  obtain ⟨kind, target⟩ := source
  rw [after_of_source h]
  cases kind with
  | listed => cases hexplicit
  | _ => rfl

theorem joins_after_of_listed {source : JoinKind × Expr} (h : call.source? = some source)
    (hsource : isListed source = true) {listed explicit : List (Join Expr)}
    (hq : q.joins = listed ++ explicit) (hlisted : ∀ j ∈ listed, j.kind = .listed)
    (hexplicit : ∀ j ∈ explicit, j.kind ≠ .listed) :
    (q.after call).joins = listed ++ ofSource source [] :: explicit := by
  obtain ⟨kind, target⟩ := source
  obtain rfl : kind = .listed := by simpa [isListed] using hsource
  rw [after_of_source h]
  exact joins_addJoin_listed hq hlisted hexplicit target

variable {listed before : List (Join Expr)} {source added : JoinKind × Expr}
  {done : List Attachment}

/-- Whether all sources are listed ones, with what is attached to the last of them so far. -/
structure EndsListed (q : Query Expr) (before : List (Join Expr)) (source : JoinKind × Expr)
    (done : List Attachment) : Prop where
  joins : q.joins = before ++ [ofSource source done]
  allListed : ∀ j ∈ before, j.kind = .listed
  lastListed : isListed source = true

/-- Whether there are explicit joins behind the listed ones, with what is attached to the last of
them so far. -/
structure EndsExplicit (q : Query Expr) (listed before : List (Join Expr))
    (source : JoinKind × Expr) (done : List Attachment) : Prop where
  joins : q.joins = listed ++ (before ++ [ofSource source done])
  allListed : ∀ j ∈ listed, j.kind = .listed
  allExplicit : ∀ j ∈ before, j.kind ≠ .listed
  lastExplicit : isExplicit source = true

theorem forall_listed_snoc (done : List Attachment)
    (hbefore : ∀ j ∈ before, j.kind = .listed) (hsource : isListed source = true) :
    ∀ j ∈ before ++ [ofSource source done], j.kind = .listed := by
  rw [List.forall_mem_append, List.forall_mem_singleton]
  exact ⟨hbefore, by simpa [isListed, ofSource] using hsource⟩

theorem forall_explicit_snoc (done : List Attachment)
    (hbefore : ∀ j ∈ before, j.kind ≠ .listed) (hsource : isExplicit source = true) :
    ∀ j ∈ before ++ [ofSource source done], j.kind ≠ .listed := by
  rw [List.forall_mem_append, List.forall_mem_singleton]
  exact ⟨hbefore, by simpa [isExplicit, isListed, ofSource] using hsource⟩

namespace EndsListed

theorem after_listed (hq : q.EndsListed before source done) (h : call.source? = some added)
    (hadded : isListed added = true) :
    (q.after call).EndsListed (before ++ [ofSource source done]) added [] := by
  have hall := forall_listed_snoc done hq.allListed hq.lastListed
  have hjoins : q.joins = (before ++ [ofSource source done]) ++ [] := by
    rw [hq.joins, List.append_nil]
  exact ⟨joins_after_of_listed h hadded hjoins hall (by simp), hall, hadded⟩

theorem after_explicit (hq : q.EndsListed before source done) (h : call.source? = some added)
    (hadded : isExplicit added = true) :
    (q.after call).EndsExplicit (before ++ [ofSource source done]) [] added [] where
  joins := by rw [joins_after_of_explicit h hadded, hq.joins, List.nil_append]
  allListed := forall_listed_snoc done hq.allListed hq.lastListed
  allExplicit := List.forall_mem_nil _
  lastExplicit := hadded

theorem after_attachment (hq : q.EndsListed before source done) {a : Attachment}
    (h : call.attachment? = some a) : (q.after call).EndsListed before source (done ++ [a]) where
  joins := by
    rw [joins_after_of_attachment h, hq.joins, List.modifyLast_concat, Join.ofSource_snoc]
  allListed := hq.allListed
  lastListed := hq.lastListed

theorem after_none (hq : q.EndsListed before source done) (hsource : call.source? = none)
    (h : call.attachment? = none) : (q.after call).EndsListed before source done :=
  ⟨(joins_after_of_none hsource h).trans hq.joins, hq.allListed, hq.lastListed⟩

end EndsListed

namespace EndsExplicit

/-- A listed source goes in front of the explicit joins. -/
theorem after_listed (hq : q.EndsExplicit listed before source done)
    (h : call.source? = some added) (hadded : isListed added = true) :
    (q.after call).EndsExplicit (listed ++ [ofSource added []]) before source done where
  joins := by
    have hall := forall_explicit_snoc done hq.allExplicit hq.lastExplicit
    rw [joins_after_of_listed h hadded hq.joins hq.allListed hall, List.append_assoc,
      List.singleton_append]
  allListed := forall_listed_snoc [] hq.allListed hadded
  allExplicit := hq.allExplicit
  lastExplicit := hq.lastExplicit

theorem after_explicit (hq : q.EndsExplicit listed before source done)
    (h : call.source? = some added) (hadded : isExplicit added = true) :
    (q.after call).EndsExplicit listed (before ++ [ofSource source done]) added [] where
  joins := by rw [joins_after_of_explicit h hadded, hq.joins, List.append_assoc]
  allListed := hq.allListed
  allExplicit := forall_explicit_snoc done hq.allExplicit hq.lastExplicit
  lastExplicit := hadded

theorem after_attachment (hq : q.EndsExplicit listed before source done) {a : Attachment}
    (h : call.attachment? = some a) :
    (q.after call).EndsExplicit listed before source (done ++ [a]) where
  joins := by
    rw [joins_after_of_attachment h, hq.joins, ← List.append_assoc, List.modifyLast_concat,
      ← Join.ofSource_snoc, List.append_assoc]
  allListed := hq.allListed
  allExplicit := hq.allExplicit
  lastExplicit := hq.lastExplicit

theorem after_none (hq : q.EndsExplicit listed before source done)
    (hsource : call.source? = none) (h : call.attachment? = none) :
    (q.after call).EndsExplicit listed before source done :=
  ⟨(joins_after_of_none hsource h).trans hq.joins, hq.allListed, hq.allExplicit, hq.lastExplicit⟩

end EndsExplicit

/-! ## All calls -/

/-- The listed sources that calls add, as joins to which nothing is attached. -/
def bareListed (calls : List QueryCall) : List (Join Expr) :=
  ((calls.filterMap QueryCall.source?).filter isListed).map (ofSource · [])

theorem bareListed_cons_of_listed (h : call.source? = some source)
    (hsource : isListed source = true) (calls : List QueryCall) :
    bareListed (call :: calls) = ofSource source [] :: bareListed calls := by
  simp [bareListed, h, hsource]

theorem bareListed_cons (h : call.adds isListed = false) (calls : List QueryCall) :
    bareListed (call :: calls) = bareListed calls := by
  cases hsource : call.source? <;> simp_all [bareListed, QueryCall.adds]

theorem adds_of_listed (h : call.source? = some source) (hlisted : isListed source = true) :
    call.adds isListed = true ∧ call.adds isExplicit = false := by
  rw [QueryCall.adds_of_source h, QueryCall.adds_of_source h, isExplicit, hlisted]
  simp

theorem adds_of_explicit (h : call.source? = some source) (hexplicit : isExplicit source = true) :
    call.adds isListed = false ∧ call.adds isExplicit = true := by
  rw [QueryCall.adds_of_source h, QueryCall.adds_of_source h]
  exact ⟨by simpa [isExplicit] using hexplicit, hexplicit⟩

/-- Behind an explicit join, everything goes to the last explicit one. -/
theorem EndsExplicit.afterAll_joins (hq : q.EndsExplicit listed before source done)
    (calls : List QueryCall) :
    (q.afterAll calls).joins = listed ++ (bareListed calls ++
      (before ++ ofSource source (done ++ attachedBefore isExplicit calls) ::
        windows isExplicit calls)) := by
  induction calls generalizing q listed before source done with
  | nil => simpa [afterAll, bareListed, attachedBefore, windows] using hq.joins
  | cons call calls ih =>
      have hcons : q.afterAll (call :: calls) = (q.after call).afterAll calls := rfl
      rw [hcons]
      cases effect call with
      | listed added hadded hlisted hattached =>
          have hadds := (adds_of_listed hadded hlisted).2
          rw [ih (hq.after_listed hadded hlisted), bareListed_cons_of_listed hadded hlisted,
            QueryCall.attachedBefore_cons hadds, QueryCall.windows_cons hadds, hattached]
          simp
      | explicit added hadded hexplicit =>
          obtain ⟨hbare, hadds⟩ := adds_of_explicit hadded hexplicit
          rw [ih (hq.after_explicit hadded hexplicit), bareListed_cons hbare,
            QueryCall.attachedBefore_cons_of_adds hadds,
            QueryCall.windows_cons_of_adds hadded hexplicit]
          simp
      | attachment a ha hadds =>
          rw [ih (hq.after_attachment ha), bareListed_cons (hadds _),
            QueryCall.attachedBefore_cons (hadds _), QueryCall.windows_cons (hadds _), ha,
            Option.toList_some, List.append_assoc]
      | nothing hnone hattached hadds =>
          rw [ih (hq.after_none hnone hattached), bareListed_cons (hadds _),
            QueryCall.attachedBefore_cons (hadds _), QueryCall.windows_cons (hadds _), hattached]
          rfl

/-- The calls in front of the first explicit join. -/
def listedPart (calls : List QueryCall) : List QueryCall := calls.takeWhile (!·.adds isExplicit)

/-- The calls from the first explicit join on. -/
def explicitPart (calls : List QueryCall) : List QueryCall := calls.dropWhile (!·.adds isExplicit)

theorem parts_cons_of_adds (h : call.adds isExplicit = true) (calls : List QueryCall) :
    listedPart (call :: calls) = [] ∧ explicitPart (call :: calls) = call :: calls := by
  simp [listedPart, explicitPart, h]

theorem parts_cons (h : call.adds isExplicit = false) (calls : List QueryCall) :
    listedPart (call :: calls) = call :: listedPart calls ∧
      explicitPart (call :: calls) = explicitPart calls := by
  simp [listedPart, explicitPart, h]

def anySource (_ : JoinKind × Expr) : Bool := true

/-- While sources are only listed, everything goes to the last one. -/
theorem EndsListed.afterAll_joins (hq : q.EndsListed before source done)
    (calls : List QueryCall) :
    (q.afterAll calls).joins =
      before ++ ofSource source (done ++ attachedBefore anySource (listedPart calls)) ::
        (windows anySource (listedPart calls) ++
          (bareListed (explicitPart calls) ++ windows isExplicit (explicitPart calls))) := by
  induction calls generalizing q before source done with
  | nil => simpa [afterAll, bareListed, attachedBefore, windows, listedPart, explicitPart]
      using hq.joins
  | cons call calls ih =>
      have hcons : q.afterAll (call :: calls) = (q.after call).afterAll calls := rfl
      rw [hcons]
      cases effect call with
      | listed added hadded hlisted _ =>
          have hany : call.adds anySource = true := QueryCall.adds_of_source hadded
          obtain ⟨hlistedPart, hexplicitPart⟩ := parts_cons (adds_of_listed hadded hlisted).2 calls
          rw [ih (hq.after_listed hadded hlisted), hlistedPart, hexplicitPart,
            QueryCall.attachedBefore_cons_of_adds hany,
            QueryCall.windows_cons_of_adds hadded rfl]
          simp
      | explicit added hadded hexplicit =>
          obtain ⟨hbare, hadds⟩ := adds_of_explicit hadded hexplicit
          obtain ⟨hlistedPart, hexplicitPart⟩ := parts_cons_of_adds hadds calls
          rw [(hq.after_explicit hadded hexplicit).afterAll_joins, hlistedPart, hexplicitPart,
            bareListed_cons hbare, QueryCall.windows_cons_of_adds hadded hexplicit]
          simp [attachedBefore, windows]
      | attachment a ha hadds =>
          obtain ⟨hlistedPart, hexplicitPart⟩ := parts_cons (hadds _) calls
          rw [ih (hq.after_attachment ha), hlistedPart, hexplicitPart,
            QueryCall.attachedBefore_cons (hadds _), QueryCall.windows_cons (hadds _), ha,
            Option.toList_some, List.append_assoc]
      | nothing hnone hattached hadds =>
          obtain ⟨hlistedPart, hexplicitPart⟩ := parts_cons (hadds _) calls
          rw [ih (hq.after_none hnone hattached), hlistedPart, hexplicitPart,
            QueryCall.attachedBefore_cons (hadds _), QueryCall.windows_cons (hadds _), hattached]
          rfl

/-- What is attached in front of the first source is refused. -/
theorem joins_afterAll_of_nil (hq : q.joins = []) (calls : List QueryCall) :
    (q.afterAll calls).joins = windows anySource (listedPart calls) ++
      (bareListed (explicitPart calls) ++ windows isExplicit (explicitPart calls)) := by
  induction calls generalizing q with
  | nil => simpa [afterAll, bareListed, windows, listedPart, explicitPart] using hq
  | cons call calls ih =>
      have hcons : q.afterAll (call :: calls) = (q.after call).afterAll calls := rfl
      rw [hcons]
      cases effect call with
      | listed added hadded hlisted _ =>
          obtain ⟨hlistedPart, hexplicitPart⟩ := parts_cons (adds_of_listed hadded hlisted).2 calls
          have hnil : q.joins = [] ++ [] := hq
          have hjoins : (q.after call).joins = [] ++ [ofSource added []] :=
            joins_after_of_listed hadded hlisted hnil (by simp) (by simp)
          have hends : (q.after call).EndsListed [] added [] :=
            ⟨hjoins, List.forall_mem_nil _, hlisted⟩
          rw [hends.afterAll_joins, hlistedPart, hexplicitPart,
            QueryCall.windows_cons_of_adds hadded rfl]
          simp
      | explicit added hadded hexplicit =>
          obtain ⟨hbare, hadds⟩ := adds_of_explicit hadded hexplicit
          obtain ⟨hlistedPart, hexplicitPart⟩ := parts_cons_of_adds hadds calls
          have hjoins : (q.after call).joins = [] ++ ([] ++ [ofSource added []]) := by
            rw [joins_after_of_explicit hadded hexplicit, hq]
            rfl
          have hends : (q.after call).EndsExplicit [] [] added [] :=
            ⟨hjoins, List.forall_mem_nil _, List.forall_mem_nil _, hexplicit⟩
          rw [hends.afterAll_joins, hlistedPart, hexplicitPart, bareListed_cons hbare,
            QueryCall.windows_cons_of_adds hadded hexplicit]
          simp [windows]
      | attachment a ha hadds =>
          have hafter : (q.after call).joins = [] := by
            rw [joins_after_of_attachment ha, hq]
            rfl
          obtain ⟨hlistedPart, hexplicitPart⟩ := parts_cons (hadds _) calls
          rw [ih hafter, hlistedPart, hexplicitPart, QueryCall.windows_cons (hadds _)]
      | nothing hnone hattached hadds =>
          obtain ⟨hlistedPart, hexplicitPart⟩ := parts_cons (hadds _) calls
          rw [ih ((joins_after_of_none hnone hattached).trans hq), hlistedPart, hexplicitPart,
            QueryCall.windows_cons (hadds _)]

/-! ## The last added source -/

/-- Whether nothing is attached to a listed source before the next source is added. -/
def SparesListed (calls : List QueryCall) : Prop :=
  ∀ call rest, call :: rest <:+ calls → call.adds isListed = true →
    attachedBefore anySource rest = []

theorem sparesListed_cons : SparesListed (call :: calls) ↔
    (call.adds isListed = true → attachedBefore anySource calls = []) ∧ SparesListed calls := by
  constructor
  · intro h
    exact ⟨h call calls List.suffix_rfl,
      fun other rest hrest ↦ h other rest (hrest.trans (List.suffix_cons call calls))⟩
  · rintro ⟨hcall, hcalls⟩ other rest hrest
    rcases List.suffix_cons_iff.mp hrest with heq | hrest
    · obtain ⟨rfl, rfl⟩ := List.cons.inj heq
      exact hcall
    · exact hcalls other rest hrest

/-- Without anything attached to listed sources, explicit joins get what follows them directly. -/
theorem attachedBefore_isExplicit (h : SparesListed calls) :
    attachedBefore isExplicit calls = attachedBefore anySource calls := by
  induction calls with
  | nil => rfl
  | cons call calls ih =>
      obtain ⟨hcall, hcalls⟩ := sparesListed_cons.mp h
      cases effect call with
      | listed added hadded hlisted hattached =>
          have hany : call.adds anySource = true := QueryCall.adds_of_source hadded
          obtain ⟨hbare, hadds⟩ := adds_of_listed hadded hlisted
          rw [QueryCall.attachedBefore_cons_of_adds hany, QueryCall.attachedBefore_cons hadds,
            hattached, ih hcalls, hcall hbare]
          rfl
      | explicit added hadded hexplicit =>
          have hany : call.adds anySource = true := QueryCall.adds_of_source hadded
          rw [QueryCall.attachedBefore_cons_of_adds hany,
            QueryCall.attachedBefore_cons_of_adds (adds_of_explicit hadded hexplicit).2]
      | attachment _ _ hadds | nothing _ _ hadds =>
          rw [QueryCall.attachedBefore_cons (hadds _), QueryCall.attachedBefore_cons (hadds _),
            ih hcalls]

/-- Sources with what follows them directly, the listed ones first. -/
theorem filter_windows_iff (calls : List QueryCall) :
    (bareListed calls = (windows anySource calls).filter (isListed ·.source) ∧
      windows isExplicit calls = (windows anySource calls).filter (isExplicit ·.source)) ↔
        SparesListed calls := by
  induction calls with
  | nil => simp [bareListed, windows, SparesListed]
  | cons call calls ih =>
      rw [sparesListed_cons]
      cases effect call with
      | listed added hadded hlisted _ =>
          obtain ⟨hbare, hadds⟩ := adds_of_listed hadded hlisted
          have hexplicit : isExplicit added = false := by simp [isExplicit, hlisted]
          rw [bareListed_cons_of_listed hadded hlisted, QueryCall.windows_cons hadds,
            QueryCall.windows_cons_of_adds hadded rfl]
          simp only [List.filter_cons, Join.source_ofSource, hlisted, hexplicit, hbare,
            Bool.false_eq_true, ↓reduceIte, List.cons.injEq, forall_const]
          rw [← ih, eq_comm, Join.ofSource_eq_bare_iff, and_assoc]
      | explicit added hadded hexplicit =>
          obtain ⟨hbare, hadds⟩ := adds_of_explicit hadded hexplicit
          have hlisted : isListed added = false := by simpa [isExplicit] using hexplicit
          rw [bareListed_cons hbare, QueryCall.windows_cons_of_adds hadded hexplicit,
            QueryCall.windows_cons_of_adds hadded rfl]
          simp only [List.filter_cons, Join.source_ofSource, hlisted, hexplicit, hbare,
            Bool.false_eq_true, ↓reduceIte, List.cons.injEq, false_implies, true_and]
          constructor
          · rintro ⟨hrest, _, hwindows⟩
            exact ih.mp ⟨hrest, hwindows⟩
          · intro hspares
            obtain ⟨hrest, hwindows⟩ := ih.mpr hspares
            exact ⟨hrest, by rw [attachedBefore_isExplicit hspares], hwindows⟩
      | attachment _ _ hadds | nothing _ _ hadds =>
          rw [bareListed_cons (hadds _), QueryCall.windows_cons (hadds _),
            QueryCall.windows_cons (hadds _), hadds, ih]
          simp

theorem attachedBefore_explicitPart (calls : List QueryCall) :
    attachedBefore anySource (explicitPart calls) = [] := by
  induction calls with
  | nil => rfl
  | cons call calls ih =>
      cases hadds : call.adds isExplicit with
      | true =>
          have hany : call.adds anySource = true := by
            cases hsource : call.source? <;> simp_all [QueryCall.adds, anySource]
          rw [(parts_cons_of_adds hadds calls).2, QueryCall.attachedBefore_cons_of_adds hany]
      | false => rw [(parts_cons hadds calls).2, ih]

theorem isListed_of_mem_windows (calls : List QueryCall) :
    ∀ j ∈ windows anySource (listedPart calls), isListed j.source = true := by
  induction calls with
  | nil => simp [listedPart, windows]
  | cons call calls ih =>
      cases hadds : call.adds isExplicit with
      | true => simp [(parts_cons_of_adds hadds calls).1, windows]
      | false =>
          rw [(parts_cons hadds calls).1]
          cases hsource : call.source? with
          | none => rwa [QueryCall.windows_cons (QueryCall.adds_of_none hsource)]
          | some source =>
              rw [QueryCall.adds_of_source hsource, isExplicit, Bool.not_eq_false'] at hadds
              rw [QueryCall.windows_cons_of_adds hsource rfl]
              exact List.forall_mem_cons.mpr ⟨hadds, ih⟩

/-- Every source has what follows it. -/
theorem map_source_windows (calls : List QueryCall) :
    (windows anySource calls).map Join.source = calls.filterMap QueryCall.source? := by
  induction calls with
  | nil => rfl
  | cons call calls ih =>
      cases hsource : call.source? with
      | none =>
          rw [QueryCall.windows_cons (QueryCall.adds_of_none hsource), ih,
            List.filterMap_cons_none hsource]
      | some source =>
          rw [QueryCall.windows_cons_of_adds hsource rfl, List.map_cons, ih,
            List.filterMap_cons_some hsource]
          rfl

theorem length_bareListed (calls : List QueryCall) :
    (bareListed calls).length =
      ((windows anySource calls).filter (isListed ·.source)).length := by
  rw [bareListed, List.length_map, ← map_source_windows, List.filter_map, List.length_map]
  rfl

/-- After any calls on an empty query, each source that was listed in front of the first explicit
join has what was attached before the next source, later listed sources have nothing, and each
explicit join has what was attached before the next explicit join: the conditions joined by AND in
their order, and the flags. So each source has what was attached directly behind it just when
nothing was attached directly behind a listed source that is behind an explicit join. -/
theorem joins_afterAll_eq (calls : List QueryCall) :
    (({} : Query Expr).afterAll calls).joins =
        windows anySource (listedPart calls) ++
          (bareListed (explicitPart calls) ++ windows isExplicit (explicitPart calls)) ∧
      ((({} : Query Expr).afterAll calls).joins =
          (windows anySource calls).filter (isListed ·.source) ++
            (windows anySource calls).filter (isExplicit ·.source) ↔
        SparesListed (explicitPart calls)) := by
  have hjoins := joins_afterAll_of_nil (q := {}) rfl calls
  refine ⟨hjoins, ?_⟩
  have hparts : windows anySource calls =
      windows anySource (listedPart calls) ++ windows anySource (explicitPart calls) := by
    rw [← QueryCall.windows_append (attachedBefore_explicitPart calls), listedPart, explicitPart,
      List.takeWhile_append_dropWhile]
  have hlisted := isListed_of_mem_windows calls
  have hall : (windows anySource (listedPart calls)).filter (isListed ·.source) =
      windows anySource (listedPart calls) := List.filter_eq_self.mpr hlisted
  have hnone : (windows anySource (listedPart calls)).filter (isExplicit ·.source) = [] :=
    List.filter_eq_nil_iff.mpr fun j hj ↦ by simp [isExplicit, hlisted j hj]
  rw [hjoins, hparts, List.filter_append, List.filter_append, hall, hnone, List.nil_append,
    List.append_assoc, List.append_cancel_left_eq, ← filter_windows_iff]
  exact ⟨fun h ↦ List.append_inj h (length_bareListed _), fun h ↦ by rw [h.1, h.2]⟩

/-- The condition behind a source that is listed behind an explicit join goes to this join. -/
theorem joins_conditionBehindListed :
    let cat := fun name ↦ Expr.path (.root (.entity "Cat") name)
    let calls : List QueryCall :=
      [.join .inner (cat "b"), .join .listed (cat "a"), .joinCondition (cat "a")]
    (({} : Query Expr).afterAll calls).joins =
        [{ kind := .listed, target := cat "a" },
          { kind := .inner, target := cat "b", condition := some (cat "a") }] ∧
      windows anySource calls =
        [{ kind := .inner, target := cat "b" },
          { kind := .listed, target := cat "a", condition := some (cat "a") }] :=
  ⟨rfl, rfl⟩

end Query

end TypedQuery
