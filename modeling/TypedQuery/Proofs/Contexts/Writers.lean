import TypedQuery.Proofs.Contexts.Frames

/-!
# Writers

A writer takes a context and returns it with more text, or fails. Writers are run one behind the
other, so that each meets the flags that the one before it has left. They set the flags for what
they write inside, and set them back behind it. A rendering that is put into a context as a whole is
a writer too, and writers made of such renderings are renderings that are put in as a whole.
-/

namespace TypedQuery

abbrev Writer := Context → Except Error Context

namespace Writer

def empty : Writer := .ok

def text (text : String) : Writer := fun c ↦ .ok (c.write text)

def fail (e : Error) : Writer := fun _ ↦ .error e

def append (a b : Writer) : Writer := fun c ↦ a c >>= b

instance : Append Writer := ⟨append⟩

def concat : List Writer → Writer
  | [] => empty
  | w :: ws => w ++ concat ws

def separated (separator : String) : List Writer → Writer
  | [] => empty
  | [w] => w
  | w :: ws => w ++ text separator ++ separated separator ws

def commas (ws : List Writer) : Writer := separated ", " ws

def between (before behind : String) (w : Writer) : Writer := text before ++ w ++ text behind

def parenthesized (w : Writer) : Writer := between "(" ")" w

/-- The arguments of an operator, for which elements may be meant by collections. -/
def inside (wraps : Bool) (w : Writer) : Writer := fun c ↦ do
  let old := c.wrapElements
  let c ← w { c with wrapElements := wraps }
  pure { c with wrapElements := old }

/-- A step of a path. A collection whose elements are meant stands in parentheses, and no elements
are meant by the path in front of the step. -/
def step (isCollection : Bool) (w : Writer) : Writer := fun c ↦ do
  let wrap := c.wrapElements && isCollection
  let old := c.wrapElements
  let c := { c with wrapElements := false }
  let c ← w (if wrap then c.write "elements(" else c)
  let c := { c with wrapElements := old }
  pure (if wrap then c.write ")" else c)

/-- The items of a row, in parentheses outside of a projection. -/
def row (items : Writer) : Writer := fun c ↦ do
  let wrap := !c.inProjection
  let c ← items (if wrap then c.write "(" else c)
  pure (if wrap then c.write ")" else c)

/-- A select from its flags at the start, its projection and its rest. It stands outside of the
operators around it, and only the projection stands in a projection. -/
def select (start projection rest : Writer) : Writer := fun c ↦ do
  let oldProjection := c.inProjection
  let oldWrap := c.wrapElements
  let c ← start { c with wrapElements := false }
  let c ← projection { c with inProjection := true }
  let c ← rest { c with inProjection := false }
  pure { c with inProjection := oldProjection, wrapElements := oldWrap }

theorem step_apply (w : Writer) (isCollection : Bool) (c : Context) :
    w.step isCollection c =
      if c.wrapElements && isCollection then (w.inside false).between "elements(" ")" c
      else w.inside false c := by
  unfold step
  cases c.wrapElements && isCollection with
  | false => rfl
  | true =>
      let opened : Context := { c.write "elements(" with wrapElements := false }
      show (w opened >>= fun c' ↦ .ok ({ c' with wrapElements := c.wrapElements }.write ")")) =
        (w opened >>= fun c' ↦ .ok { c' with wrapElements := c.wrapElements }) >>= text ")"
      cases w opened <;> rfl

theorem row_apply (items : Writer) (c : Context) :
    items.row c = if c.inProjection then items c else items.parenthesized c := by
  unfold row
  cases c.inProjection with
  | true =>
      show (items c >>= fun c' ↦ .ok c') = items c
      cases items c <;> rfl
  | false => rfl

end Writer

namespace Rendering

variable {style : PlaceholderStyle} {r t : Rendering}

/-- The writer that puts the chunks of a rendering into a context. -/
def writer (style : PlaceholderStyle) (r : Rendering) : Writer :=
  fun c ↦ (r c.toScope).map (c.puts style)

theorem writer_of_ok {c : Context} {chunks : List Chunk} (h : r c.toScope = .ok chunks) :
    r.writer style c = .ok (c.puts style chunks) := by
  rw [writer, h]
  rfl

theorem writer_of_error {c : Context} {e : Error} (h : r c.toScope = .error e) :
    r.writer style c = .error e := by
  rw [writer, h]
  rfl

@[simp] theorem writer_empty : empty.writer style = .empty := rfl

@[simp] theorem writer_text (text : String) : (Rendering.text text).writer style = .text text := rfl

@[simp] theorem writer_fail (e : Error) : (fail e).writer style = .fail e := rfl

@[simp] theorem writer_append (r t : Rendering) :
    (r ++ t).writer style = r.writer style ++ t.writer style := by
  funext c
  show (r ++ t).writer style c = r.writer style c >>= t.writer style
  cases hr : r c.toScope with
  | error e =>
      rw [writer_of_error hr, writer_of_error (append_of_error hr)]
      rfl
  | ok before =>
      rw [writer_of_ok hr]
      show _ = t.writer style (c.puts style before)
      have hscope := Context.toScope_puts style c before
      cases ht : t c.toScope with
      | error e =>
          have herror : (r ++ t) c.toScope = .error e := by
            rw [append_apply, hr, ht]
            rfl
          rw [writer_of_error herror, writer_of_error (hscope.symm ▸ ht)]
      | ok behind =>
          have hok : (r ++ t) c.toScope = .ok (before ++ behind) := by
            rw [append_apply, hr, ht]
            rfl
          rw [writer_of_ok hok, writer_of_ok (hscope.symm ▸ ht), Context.puts_append]

@[simp] theorem writer_concat (rs : List Rendering) :
    (concat rs).writer style = .concat (rs.map (writer style)) := by
  induction rs with
  | nil => rfl
  | cons r rs ih => simp [concat, Writer.concat, ih]

@[simp] theorem writer_separated (separator : String) (rs : List Rendering) :
    (separated separator rs).writer style = .separated separator (rs.map (writer style)) := by
  induction rs with
  | nil => rfl
  | cons r rs ih =>
      cases rs with
      | nil => rfl
      | cons r' rs =>
          rw [List.map_cons] at ih
          simp only [separated, writer_append, writer_text, ih, List.map_cons, Writer.separated]

@[simp] theorem writer_commas (rs : List Rendering) :
    (commas rs).writer style = .commas (rs.map (writer style)) :=
  writer_separated ", " rs

@[simp] theorem writer_between (before behind : String) (r : Rendering) :
    (r.between before behind).writer style = (r.writer style).between before behind := by
  simp [between, Writer.between]

@[simp] theorem writer_parenthesized (r : Rendering) :
    r.parenthesized.writer style = (r.writer style).parenthesized :=
  writer_between "(" ")" r

/-! ## Flags -/

theorem writer_under (r : Rendering) (scope : Scope) (c : Context) :
    r.writer style (c.under scope) =
      (r scope).map fun chunks ↦ (c.puts style chunks).under scope := by
  unfold writer
  rw [Context.toScope_under]
  congr 1
  funext chunks
  exact Context.puts_under style c scope chunks

theorem writer_inside (wraps : Bool) (r : Rendering) :
    (r.within ({ · with wrapElements := wraps })).writer style = (r.writer style).inside wraps := by
  funext c
  have hinside : (r.writer style).inside wraps c =
      r.writer style (c.under { c.toScope with wrapElements := wraps }) >>= fun c' ↦
        .ok (c'.under { c'.toScope with wrapElements := c.wrapElements }) := rfl
  rw [hinside, writer_under, writer, within]
  cases r { c.toScope with wrapElements := wraps } with
  | error e => rfl
  | ok chunks =>
      show Except.ok (c.puts style chunks) = _
      rw [← Context.under_puts style c chunks]
      rfl

theorem writer_choose (choice : Scope → Bool) (r t : Rendering) (c : Context) :
    Rendering.writer style (fun scope ↦ if choice scope then r scope else t scope) c =
      if choice c.toScope then r.writer style c else t.writer style c := by
  cases hchoice : choice c.toScope <;> simp [writer, hchoice]

theorem writer_step (isCollection : Bool) (r : Rendering) :
    Rendering.writer style (fun scope ↦
        let body := r.within ({ · with wrapElements := false })
        if scope.wrapElements && isCollection then body.between "elements(" ")" scope
        else body scope) =
      (r.writer style).step isCollection := by
  funext c
  rw [writer_choose (fun scope ↦ scope.wrapElements && isCollection), writer_between,
    writer_inside, Writer.step_apply]

theorem writer_row (items : Rendering) :
    Rendering.writer style (fun scope ↦
        if scope.inProjection then items scope else items.parenthesized scope) =
      (items.writer style).row := by
  funext c
  rw [writer_choose Scope.inProjection, writer_parenthesized, Writer.row_apply]

/-- Where its parts set the flags one after the other, a select has each part under flags of its
own, whatever the part before has left. -/
theorem writer_select (start projection rest : Rendering) :
    Rendering.writer style (start.within ({ · with wrapElements := false }) ++
        projection.within (fun _ ↦ ⟨true, false⟩) ++ rest.within (fun _ ↦ ⟨false, false⟩)) =
      .select (start.writer style) (projection.writer style) (rest.writer style) := by
  funext c
  have hselect : Writer.select (start.writer style) (projection.writer style)
      (rest.writer style) c = (do
        let first ← start.writer style (c.under ⟨c.inProjection, false⟩)
        let second ← projection.writer style (first.under ⟨true, first.wrapElements⟩)
        let third ← rest.writer style (second.under ⟨false, second.wrapElements⟩)
        .ok (third.under c.toScope)) := rfl
  rw [hselect, writer, append_apply, append_apply]
  simp only [within, writer_under]
  cases start ⟨c.inProjection, false⟩ with
  | error e => rfl
  | ok first =>
      cases hprojection : projection ⟨true, false⟩ with
      | error e => simp [bind, Except.bind, Except.map, hprojection]
      | ok second =>
          cases hrest : rest ⟨false, false⟩ with
          | error e => simp [bind, Except.bind, Except.map, hprojection, hrest]
          | ok third =>
              simp [bind, Except.bind, Except.map, hprojection, hrest,
                ← Context.puts_append, Context.under_puts]

end Rendering

end TypedQuery
