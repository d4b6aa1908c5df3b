import Mathlib.Data.List.Basic

/-!
# Grammars of two levels

A grammar has binary operators of two levels, a tight and a loose one, both grouped from the left,
a unary operator that is tighter than all of them, and parentheses. A machine that looks at one
token after the other finds the tree of every derivation, so that no text has two of them.
-/

namespace TypedQuery

namespace Reading

inductive Token
  | opening
  | closing
  | word (s : String)
deriving DecidableEq

/-- Operations on atoms: a unary operator and the binary operators `ω`. -/
inductive OpTree (ω α : Type)
  | atom (a : α)
  | unary (t : OpTree ω α)
  | binary (op : ω) (l r : OpTree ω α)

namespace OpTree

variable {ω α β : Type}

def map (f : α → β) : OpTree ω α → OpTree ω β
  | atom a => atom (f a)
  | unary t => unary (t.map f)
  | binary op l r => binary op (l.map f) (r.map f)

def atoms : OpTree ω α → List α
  | atom a => [a]
  | unary t => t.atoms
  | binary _ l r => l.atoms ++ r.atoms

@[simp] theorem atoms_map (f : α → β) (t : OpTree ω α) : (t.map f).atoms = t.atoms.map f := by
  induction t with
  | atom a => rfl
  | unary t ih => exact ih
  | binary op l r ihl ihr => simp [map, atoms, ihl, ihr]

end OpTree

/-- The words of the operators, and which of the binary ones are tight. -/
structure Grammar (ω : Type) where
  word : ω → String
  tight : ω → Bool
  unaryWord : String
  operator? : String → Option ω
  operator?_word : ∀ op, operator? (word op) = some op

inductive Level
  | factor
  | product
  | sum

variable {ω : Type}

inductive Derives (G : Grammar ω) : Level → List Token → OpTree ω String → Prop
  | atom {s : String} (hop : G.operator? s = none) (hunary : s ≠ G.unaryWord) :
      Derives G .factor [.word s] (.atom s)
  | unary {ts : List Token} {t : OpTree ω String} (h : Derives G .factor ts t) :
      Derives G .factor (.word G.unaryWord :: ts) (.unary t)
  | parens {ts : List Token} {t : OpTree ω String} (h : Derives G .sum ts t) :
      Derives G .factor (.opening :: ts ++ [.closing]) t
  | factor {ts : List Token} {t : OpTree ω String} (h : Derives G .factor ts t) :
      Derives G .product ts t
  | product {op : ω} (hop : G.tight op = true) {ls rs : List Token} {l r : OpTree ω String}
      (hl : Derives G .product ls l) (hr : Derives G .factor rs r) :
      Derives G .product (ls ++ .word (G.word op) :: rs) (.binary op l r)
  | term {ts : List Token} {t : OpTree ω String} (h : Derives G .product ts t) :
      Derives G .sum ts t
  | sum {op : ω} (hop : G.tight op = false) {ls rs : List Token} {l r : OpTree ω String}
      (hl : Derives G .sum ls l) (hr : Derives G .product rs r) :
      Derives G .sum (ls ++ .word (G.word op) :: rs) (.binary op l r)

/-! ## The machine -/

/-- What waits for the operand that is read next. -/
inductive Frame (ω : Type)
  | unary
  | binary (op : ω) (l : OpTree ω String)
  | opening

/-- The frames that wait, and the operand behind them if one has been read. -/
abbrev Machine (ω : Type) := List (Frame ω) × Option (OpTree ω String)

namespace Machine

/-- Puts a factor behind frames. Unary and tight operators take it at once. -/
def deliver (G : Grammar ω) : List (Frame ω) → OpTree ω String → Machine ω
  | .unary :: frames, t => deliver G frames (.unary t)
  | .binary op l :: frames, t =>
      if G.tight op then (frames, some (.binary op l t)) else (.binary op l :: frames, some t)
  | frames, t => (frames, some t)

/-- Lets the binary operator that waits on top take an operand. -/
def reduce : List (Frame ω) → OpTree ω String → List (Frame ω) × OpTree ω String
  | .binary op l :: frames, t => (frames, .binary op l t)
  | frames, t => (frames, t)

def step (G : Grammar ω) : Machine ω → Token → Option (Machine ω)
  | (frames, none), .opening => some (.opening :: frames, none)
  | (frames, none), .word s =>
      if s = G.unaryWord then some (.unary :: frames, none)
      else if (G.operator? s).isSome then none
      else some (deliver G frames (.atom s))
  | (frames, some t), .word s =>
      match G.operator? s with
      | some op =>
          if G.tight op then some (.binary op t :: frames, none)
          else some (.binary op (reduce frames t).2 :: (reduce frames t).1, none)
      | none => none
  | (frames, some t), .closing =>
      match reduce frames t with
      | (.opening :: frames, t) => some (deliver G frames t)
      | _ => none
  | _, _ => none

def run (G : Grammar ω) (m : Machine ω) (ts : List Token) : Option (Machine ω) :=
  ts.foldlM (step G) m

/-- The tree of a machine that has read a whole sum. -/
def result? : Machine ω → Option (OpTree ω String)
  | (frames, some t) =>
      match reduce frames t with
      | ([], t) => some t
      | _ => none
  | (_, none) => none

variable {G : Grammar ω}

@[simp] theorem run_nil (m : Machine ω) : run G m [] = some m := rfl

@[simp] theorem run_cons (m : Machine ω) (t : Token) (ts : List Token) :
    run G m (t :: ts) = (step G m t).bind fun m ↦ run G m ts := rfl

theorem run_append (m : Machine ω) (ts us : List Token) :
    run G m (ts ++ us) = (run G m ts).bind fun m ↦ run G m us := by
  simp only [run, List.foldlM_append]
  rfl

theorem step_operator (frames : List (Frame ω)) (t : OpTree ω String) {op : ω} :
    step G (frames, some t) (.word (G.word op)) =
      if G.tight op then some (.binary op t :: frames, none)
      else some (.binary op (reduce frames t).2 :: (reduce frames t).1, none) := by
  simp only [step, G.operator?_word]

theorem exists_step_operator (frames : List (Frame ω)) (l : OpTree ω String) (op : ω) :
    ∃ behind, step G (frames, some l) (.word (G.word op)) = some (behind, none) := by
  rw [step_operator]
  split <;> exact ⟨_, rfl⟩

/-- What a machine has done when it has read a derivation of some level: a factor is delivered, a
product stands behind frames that do not take it, and a sum may wait for its last product. -/
def Reads (G : Grammar ω) : Level → List Token → OpTree ω String → Prop
  | .factor, ts, t => ∀ frames, run G (frames, none) ts = some (deliver G frames t)
  | .product, ts, t => ∀ frames, (∀ u, deliver G frames u = (frames, some u)) →
      run G (frames, none) ts = some (frames, some t)
  | .sum, ts, t => ∀ frames, (frames = [] ∨ ∃ rest, frames = .opening :: rest) →
      ∃ behind u, run G (frames, none) ts = some (behind, some u) ∧ reduce behind u = (frames, t)

theorem reads_of_derives {level : Level} {ts : List Token} {t : OpTree ω String}
    (h : Derives G level ts t) : Reads G level ts t := by
  induction h with
  | @atom s hop hunary =>
      intro frames
      simp [step, hunary, hop]
  | unary h ih =>
      intro frames
      simpa [step, deliver] using ih (.unary :: frames)
  | @parens ts t h ih =>
      intro frames
      obtain ⟨behind, u, hrun, hreduce⟩ := ih (.opening :: frames) (.inr ⟨frames, rfl⟩)
      have hopening : step G (frames, none) .opening = some (.opening :: frames, none) := rfl
      rw [List.cons_append, run_cons, hopening, Option.bind_some, run_append, hrun,
        Option.bind_some, run_cons]
      simp [step, hreduce]
  | factor h ih =>
      intro frames hframes
      rw [ih frames, hframes]
  | @product op hop ls rs l r hl hr ihl ihr =>
      intro frames hframes
      rw [run_append, ihl frames hframes, Option.bind_some, run_cons, step_operator, if_pos hop,
        Option.bind_some, ihr, deliver, if_pos hop]
  | @term ts t h ih =>
      -- Neither the bottom of the stack nor an opening parenthesis takes a product.
      intro frames hframes
      have hsettled : ∀ u, deliver G frames u = (frames, some u) := by
        rcases hframes with rfl | ⟨rest, rfl⟩ <;> intro u <;> rfl
      refine ⟨frames, t, ih frames hsettled, ?_⟩
      rcases hframes with rfl | ⟨rest, rfl⟩ <;> rfl
  | @sum op hop ls rs l r hl hr ihl ihr =>
      intro frames hframes
      obtain ⟨behind, u, hrun, hreduce⟩ := ihl frames hframes
      have hsettled : ∀ u, deliver G (.binary op l :: frames) u =
          (.binary op l :: frames, some u) := by
        intro u
        simp [deliver, hop]
      refine ⟨.binary op l :: frames, r, ?_, rfl⟩
      rw [run_append, hrun, Option.bind_some, run_cons, step_operator, hreduce, hop]
      exact ihr _ hsettled

theorem result?_of_derives {ts : List Token} {t : OpTree ω String} (h : Derives G .sum ts t) :
    (run G ([], none) ts).bind result? = some t := by
  obtain ⟨behind, u, hrun, hreduce⟩ := reads_of_derives h [] (.inl rfl)
  rw [hrun, Option.bind_some]
  simp only [result?, hreduce]

theorem exists_deliver (frames : List (Frame ω)) (t : OpTree ω String) :
    ∃ behind u, deliver G frames t = (behind, some u) := by
  induction frames generalizing t with
  | nil => exact ⟨[], t, rfl⟩
  | cons frame frames ih =>
      cases frame with
      | unary => exact ih (.unary t)
      | opening => exact ⟨_, t, rfl⟩
      | binary op l =>
          by_cases hop : G.tight op = true
          · exact ⟨frames, .binary op l t, by rw [deliver, if_pos hop]⟩
          · exact ⟨.binary op l :: frames, t, by rw [deliver, if_neg hop]⟩

theorem exists_run_of_factor {ts : List Token} {t : OpTree ω String} (h : Derives G .factor ts t)
    (frames : List (Frame ω)) :
    ∃ behind u, run G (frames, none) ts = some (behind, some u) := by
  obtain ⟨behind, u, hdeliver⟩ := exists_deliver (G := G) frames t
  exact ⟨behind, u, (reads_of_derives h frames).trans (congrArg some hdeliver)⟩

/-- Behind any frames, the machine has an operand when it has read a derivation. -/
theorem exists_run_of_derives {level : Level} {ts : List Token} {t : OpTree ω String}
    (h : Derives G level ts t) (frames : List (Frame ω)) :
    ∃ behind u, run G (frames, none) ts = some (behind, some u) := by
  induction h generalizing frames with
  | atom hop hunary => exact exists_run_of_factor (.atom hop hunary) frames
  | unary h _ => exact exists_run_of_factor (.unary h) frames
  | parens h _ => exact exists_run_of_factor (.parens h) frames
  | factor _ ih | term _ ih => exact ih frames
  | @product op _ ls rs l r _ _ ihl ihr | @sum op _ ls rs l r _ _ ihl ihr =>
      obtain ⟨behind, u, hrun⟩ := ihl frames
      obtain ⟨after, hstep⟩ := exists_step_operator (G := G) behind u op
      rw [run_append, hrun, Option.bind_some, run_cons, hstep, Option.bind_some]
      exact ihr after

end Machine

/-- No list of tokens is derived as two trees. -/
theorem derives_unique {G : Grammar ω} {ts : List Token} {t u : OpTree ω String}
    (ht : Derives G .sum ts t) (hu : Derives G .sum ts u) : t = u :=
  Option.some.inj ((Machine.result?_of_derives ht).symm.trans (Machine.result?_of_derives hu))

end Reading

end TypedQuery
