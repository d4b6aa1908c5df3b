import TypedQuery.Proofs.Reading.Arithmetic

/-!
# Calls with arithmetic in their arguments

The grammar of the texts that templates are made of: calls, literals behind the name of their type,
and binary operators, all grouped from the left. Of these the comma is the loosest, then come sums
and products, and the joining of texts is the tightest. Slots stand for operands that are filled in
later. A machine that looks at one token after the other finds the tree of every derivation, so that
no text has two of them.
-/

namespace TypedQuery

namespace Calls

open Reading (ArithOp)

inductive Token
  | opening
  | closing
  | word (s : String)
  | slot (i : Nat)
deriving DecidableEq

deriving instance DecidableEq for ArithOp

inductive Infix
  | comma
  | arith (o : ArithOp)
  | concat
deriving DecidableEq

namespace Infix

def word : Infix → String
  | comma => ","
  | arith o => o.word
  | concat => "||"

def ofWord? (s : String) : Option Infix :=
  if s = "," then some comma
  else if s = "||" then some concat
  else (ArithOp.ofWord? s).map arith

/-- How tight an operator binds, the comma being the loosest. -/
def level : Infix → Nat
  | comma => 0
  | arith o => if o.isTight then 2 else 1
  | concat => 3

@[simp] theorem ofWord?_word (o : Infix) : ofWord? o.word = some o := by
  rcases o with _ | (_ | _ | _ | _) | _ <;> rfl

end Infix

inductive Term
  | slot (i : Nat)
  | word (s : String)
  /-- A literal behind the name of its type. -/
  | typed (type literal : String)
  | call (f : String) (args : Term)
  | binary (o : Infix) (l r : Term)
deriving DecidableEq

/-- The level of whole expressions. Only the arguments of a call are looser. -/
def expressionLevel : Nat := 1

/-- Derivations of terms whose outermost operator is at least as tight as a level, unless it is in
parentheses. -/
inductive Derives : Nat → List Token → Term → Prop
  | slot {k i : Nat} : Derives k [.slot i] (.slot i)
  | word {k : Nat} {s : String} (h : Infix.ofWord? s = none) : Derives k [.word s] (.word s)
  | typed {k : Nat} {type literal : String} (htype : Infix.ofWord? type = none)
      (hliteral : Infix.ofWord? literal = none) :
      Derives k [.word type, .word literal] (.typed type literal)
  | parens {k : Nat} {ts : List Token} {t : Term} (h : Derives expressionLevel ts t) :
      Derives k (.opening :: ts ++ [.closing]) t
  | call {k : Nat} {f : String} (hf : Infix.ofWord? f = none) {ts : List Token} {t : Term}
      (h : Derives 0 ts t) : Derives k (.word f :: .opening :: ts ++ [.closing]) (.call f t)
  | binary {k : Nat} {o : Infix} (hk : k ≤ o.level) {ls rs : List Token} {l r : Term}
      (hl : Derives o.level ls l) (hr : Derives (o.level + 1) rs r) :
      Derives k (ls ++ .word o.word :: rs) (.binary o l r)

theorem Derives.mono {j k : Nat} {ts : List Token} {t : Term} (h : Derives k ts t) (hjk : j ≤ k) :
    Derives j ts t := by
  cases h with
  | slot => exact .slot
  | word h => exact .word h
  | typed htype hliteral => exact .typed htype hliteral
  | parens h => exact .parens h
  | call hf h => exact .call hf h
  | binary hk hl hr => exact .binary (hjk.trans hk) hl hr

/-! ## The machine -/

/-- What waits for the term that is read next. -/
inductive Frame
  | binary (o : Infix) (l : Term)
  | opening
  | call (f : String)

/-- The frames that wait, and the term behind them if one has been read. -/
abbrev Machine := List Frame × Option Term

namespace Machine

/-- Lets the operators of a level and tighter ones that wait on top take a term. -/
def reduce (k : Nat) : List Frame → Term → List Frame × Term
  | .binary o l :: frames, t =>
      if k ≤ o.level then reduce k frames (.binary o l t) else (.binary o l :: frames, t)
  | frames, t => (frames, t)

def step : Machine → Token → Option Machine
  | (frames, none), .opening => some (.opening :: frames, none)
  | (frames, none), .slot i => some (frames, some (.slot i))
  | (frames, none), .word s =>
      if (Infix.ofWord? s).isSome then none else some (frames, some (.word s))
  | (frames, some (.word f)), .opening => some (.call f :: frames, none)
  | (frames, some t), .word s =>
      match Infix.ofWord? s, t with
      | some o, t =>
          some (.binary o (reduce o.level frames t).2 :: (reduce o.level frames t).1, none)
      | none, .word type => some (frames, some (.typed type s))
      | none, _ => none
  | (frames, some t), .closing =>
      match reduce 0 frames t with
      | (.opening :: frames, t) => some (frames, some t)
      | (.call f :: frames, t) => some (frames, some (.call f t))
      | _ => none
  | _, _ => none

def run (m : Machine) (ts : List Token) : Option Machine := ts.foldlM step m

@[simp] theorem run_nil (m : Machine) : run m [] = some m := rfl

@[simp] theorem run_cons (m : Machine) (t : Token) (ts : List Token) :
    run m (t :: ts) = (step m t).bind fun m ↦ run m ts := rfl

theorem run_append (m : Machine) (ts us : List Token) :
    run m (ts ++ us) = (run m ts).bind fun m ↦ run m us := by
  simp only [run, List.foldlM_append]
  rfl

theorem step_infix (frames : List Frame) (t : Term) (o : Infix) :
    step (frames, some t) (.word o.word) =
      some (.binary o (reduce o.level frames t).2 :: (reduce o.level frames t).1, none) := by
  simp only [step, Infix.ofWord?_word]

/-- Whether no operator of a level or a tighter one waits on top. -/
def IsStable (k : Nat) : List Frame → Prop
  | .binary o _ :: _ => o.level < k
  | _ => True

theorem IsStable.mono {j k : Nat} {frames : List Frame} (h : IsStable j frames) (hjk : j ≤ k) :
    IsStable k frames := by
  match frames with
  | .binary o l :: rest => exact Nat.lt_of_lt_of_le h hjk
  | [] | .opening :: _ | .call _ :: _ => trivial

theorem IsStable.reduce_eq {k : Nat} {frames : List Frame} (h : IsStable k frames) (t : Term) :
    reduce k frames t = (frames, t) := by
  match frames with
  | .binary o l :: rest => rw [reduce, if_neg (Nat.not_le.mpr h)]
  | [] | .opening :: _ | .call _ :: _ => rfl

/-- What a machine has done when it has read a derivation: operators of the derivation may still
wait, but those of the level and looser ones get the same term as if its tree stood there. -/
def Reads (k : Nat) (ts : List Token) (t : Term) : Prop :=
  ∀ frames, IsStable k frames → ∃ behind u, run (frames, none) ts = some (behind, some u) ∧
    ∀ j ≤ k, reduce j behind u = reduce j frames t

theorem reads_of_derives {k : Nat} {ts : List Token} {t : Term} (h : Derives k ts t) :
    Reads k ts t := by
  induction h with
  | slot => exact fun frames _ ↦ ⟨frames, _, rfl, fun _ _ ↦ rfl⟩
  | word h => exact fun frames _ ↦ ⟨frames, _, by simp [step, h], fun _ _ ↦ rfl⟩
  | typed htype hliteral =>
      exact fun frames _ ↦ ⟨frames, _, by simp [step, htype, hliteral], fun _ _ ↦ rfl⟩
  | @parens k ts t h ih =>
      intro frames _
      obtain ⟨behind, u, hrun, hreduce⟩ := ih (.opening :: frames) trivial
      have hbehind : reduce 0 behind u = (.opening :: frames, t) := hreduce 0 (Nat.zero_le _)
      have hopening : step (frames, none) .opening = some (.opening :: frames, none) := rfl
      refine ⟨frames, t, ?_, fun _ _ ↦ rfl⟩
      rw [List.cons_append, run_cons, hopening, Option.bind_some, run_append, hrun,
        Option.bind_some, run_cons]
      simp [step, hbehind]
  | @call k f hf ts t h ih =>
      intro frames _
      obtain ⟨behind, u, hrun, hreduce⟩ := ih (.call f :: frames) trivial
      have hbehind : reduce 0 behind u = (.call f :: frames, t) := hreduce 0 (Nat.zero_le _)
      have hname : step (frames, none) (.word f) = some (frames, some (.word f)) := by
        simp [step, hf]
      have hopening : step (frames, some (.word f)) .opening = some (.call f :: frames, none) := rfl
      refine ⟨frames, .call f t, ?_, fun _ _ ↦ rfl⟩
      rw [List.cons_append, List.cons_append, run_cons, hname, Option.bind_some, run_cons, hopening,
        Option.bind_some, run_append, hrun, Option.bind_some, run_cons]
      simp [step, hbehind]
  | @binary k o hk ls rs l r hl hr ihl ihr =>
      -- The operator takes the left operand as a whole, and waits while the right one is read.
      intro frames hstable
      have hframes := hstable.mono hk
      obtain ⟨behind, u, hrun, hreduce⟩ := ihl frames hframes
      have hleft : reduce o.level behind u = (frames, l) :=
        (hreduce o.level (Nat.le_refl _)).trans (hframes.reduce_eq l)
      obtain ⟨after, v, hrun', hreduce'⟩ := ihr (.binary o l :: frames) (Nat.lt_succ_self _)
      refine ⟨after, v, ?_, fun j hj ↦ ?_⟩
      · rw [run_append, hrun, Option.bind_some, run_cons, step_infix, hleft]
        exact hrun'
      · have hlevel := hj.trans hk
        rw [hreduce' j (by omega), reduce, if_pos hlevel]

end Machine

/-- No list of tokens is derived as two terms. -/
theorem derives_unique {ts : List Token} {t u : Term} (ht : Derives expressionLevel ts t)
    (hu : Derives expressionLevel ts u) : t = u := by
  obtain ⟨frames, a, hrun, hreduce⟩ := Machine.reads_of_derives ht [] trivial
  obtain ⟨frames', b, hrun', hreduce'⟩ := Machine.reads_of_derives hu [] trivial
  rw [hrun, Option.some.injEq, Prod.mk.injEq, Option.some.injEq] at hrun'
  obtain ⟨rfl, rfl⟩ := hrun'
  have hsame := (hreduce 0 (Nat.zero_le _)).symm.trans (hreduce' 0 (Nat.zero_le _))
  exact (Prod.mk.inj hsame).2

end Calls

end TypedQuery
