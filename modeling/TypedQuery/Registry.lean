import TypedQuery.Error

/-!
# Registries of templates

A registry is a stack of named layers. Registration goes to the top layer, look-up takes the topmost
entry. A template is checked against the arity of its operator when it is registered, so that
rendering never meets a slot without an argument.
-/

namespace TypedQuery

/-- A registered template. The arity is that of a custom operator. -/
structure TemplateEntry where
  template : Template
  precedence : Int
  arity : Option Arity
deriving DecidableEq, Repr

structure Layer where
  name : String
  entries : List (Operator × TemplateEntry)
deriving DecidableEq, Repr

/-- The layers of a registry, the top one first. -/
structure Registry where
  layers : List Layer
deriving DecidableEq, Repr, Inhabited

namespace Layer

/-- The newest entry of an operator comes first. -/
def register (l : Layer) (operator : Operator) (entry : TemplateEntry) : Layer :=
  { l with entries := (operator, entry) :: l.entries.filter (·.1 != operator) }

def get? (l : Layer) (operator : Operator) : Option TemplateEntry := l.entries.lookup operator

end Layer

/-- Whether all slots of a template have an argument whenever the arity is met. -/
def Template.fits (t : Template) : Arity → Bool
  | .exact n => !t.hasAll && t.maxIndex.all (· < n)
  | .atLeast _ => true

namespace Registry

def empty : Registry := ⟨[]⟩

/-- Starts a new layer on top. -/
def layer (r : Registry) (name : String) : Registry := ⟨⟨name, []⟩ :: r.layers⟩

/-- The names of the layers from the bottom up. -/
def layerNames (r : Registry) : List String := (r.layers.map Layer.name).reverse

/-- Puts an entry into the top layer, the first one of an empty registry being called `base`. -/
def insert (r : Registry) (operator : Operator) (entry : TemplateEntry) : Registry :=
  match r.layers with
  | [] => ⟨[Layer.register ⟨"base", []⟩ operator entry]⟩
  | top :: below => ⟨top.register operator entry :: below⟩

/-- Reads a pattern for an operator of the given arity. -/
def readFor (arity : Option Arity) (pattern : String) : Except Error Template := do
  let template ← Template.parse pattern
  if arity.all template.fits then pure template
  else throw (.invalidTemplate pattern .outsideArity)

def registerWith (r : Registry) (operator : Operator) (pattern : String) (precedence : Int) :
    Except Error Registry := do
  let template ← readFor operator.arity pattern
  pure (r.insert operator ⟨template, precedence, none⟩)

def register (r : Registry) (operator : Operator) (pattern : String) : Except Error Registry :=
  r.registerWith operator pattern operator.precedence

def registerCustom (r : Registry) (name : String) (arity : Arity) (pattern : String)
    (precedence : Int) : Except Error Registry := do
  let template ← readFor (some arity) pattern
  pure (r.insert (.custom name) ⟨template, precedence, some arity⟩)

def get? (r : Registry) (operator : Operator) : Option TemplateEntry :=
  r.layers.findSome? (·.get? operator)

def contains (r : Registry) (operator : Operator) : Bool := (r.get? operator).isSome

/-- Fails at the first operator without a template. -/
def require (r : Registry) (dialect : String) (operators : List Operator) : Except Error Unit :=
  match operators.find? (!r.contains ·) with
  | some operator => throw (.missingTemplate operator dialect)
  | none => pure ()

/-- The precedence that an operator renders at. -/
def precedence (r : Registry) (operator : Operator) : Int :=
  match r.get? operator with
  | some entry => entry.precedence
  | none => operator.precedence

end Registry

end TypedQuery
