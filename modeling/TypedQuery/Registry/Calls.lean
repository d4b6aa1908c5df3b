import TypedQuery.Registry

/-!
# Building a registry call by call

A registry is built by calls, one after the other, that start a layer or register a template. Each
call changes the registry in place, and one that fails leaves behind what it has done until then.
-/

namespace TypedQuery

/-- A call that builds a registry up. -/
inductive RegistryCall
  | layer (name : String)
  | register (operator : Operator) (pattern : String)
  | registerWith (operator : Operator) (pattern : String) (precedence : Int)
  | registerCustom (name : String) (arity : Arity) (pattern : String) (precedence : Int)

/-- What is registered. The arity is the one that comes with a custom operator. -/
structure Registration where
  operator : Operator
  pattern : String
  precedence : Int
  arity : Option Arity
deriving DecidableEq, Repr

namespace Registration

/-- The arity that the template is checked against. -/
def declaredArity (g : Registration) : Option Arity := g.operator.arity.or g.arity

def entry (g : Registration) : Except Error TemplateEntry :=
  (Registry.readFor g.declaredArity g.pattern).map (⟨·, g.precedence, g.arity⟩)

end Registration

/-- A computation that changes a registry in place, and that can fail at any step. -/
abbrev RegistryEdit := ExceptT Error (StateM Registry)

/-- Reads a pattern, checks its slots against an arity, and puts the template into the registry. -/
def RegistryEdit.enter (operator : Operator) (checked : Option Arity) (pattern : String)
    (precedence : Int) (arity : Option Arity) : RegistryEdit Unit := do
  let template ← Template.parse pattern
  unless checked.all template.fits do throw (.invalidTemplate pattern .outsideArity)
  modify (·.insert operator ⟨template, precedence, arity⟩)

namespace RegistryCall

/-- The registry that a call gives back. -/
def apply (r : Registry) : RegistryCall → Except Error Registry
  | layer name => pure (r.layer name)
  | register operator pattern => r.register operator pattern
  | registerWith operator pattern precedence => r.registerWith operator pattern precedence
  | registerCustom name arity pattern precedence => r.registerCustom name arity pattern precedence

/-- What a call does to the registry that it is made on. -/
def edit : RegistryCall → RegistryEdit Unit
  | layer name => modify (·.layer name)
  | register operator pattern => .enter operator operator.arity pattern operator.precedence none
  | registerWith operator pattern precedence =>
      .enter operator operator.arity pattern precedence none
  | registerCustom name arity pattern precedence =>
      .enter (.custom name) (some arity) pattern precedence (some arity)

/-- The registration that a call asks for. -/
def registration? : RegistryCall → Option Registration
  | layer _ => none
  | register operator pattern => some ⟨operator, pattern, operator.precedence, none⟩
  | registerWith operator pattern precedence => some ⟨operator, pattern, precedence, none⟩
  | registerCustom name arity pattern precedence =>
      some ⟨.custom name, pattern, precedence, some arity⟩

end RegistryCall

namespace Registry

/-- How a call ends, and the registry that it leaves behind either way. -/
def outcome (r : Registry) (call : RegistryCall) : Except Error Unit × Registry :=
  Id.run (call.edit.run.run r)

/-- A registry after one more call. -/
def after (r : Registry) (call : RegistryCall) : Registry := (r.outcome call).2

/-- A registry after calls, from the first to the last. -/
def afterAll (r : Registry) (calls : List RegistryCall) : Registry := calls.foldl after r

/-- The registration that a call makes. -/
def made? (r : Registry) (call : RegistryCall) : Option Registration :=
  if (r.outcome call).1.isOk then call.registration? else none

/-- The registrations that calls make, from the first to the last. -/
def made (r : Registry) : List RegistryCall → List Registration
  | [] => []
  | call :: calls => (r.made? call).toList ++ (r.after call).made calls

end Registry

end TypedQuery
