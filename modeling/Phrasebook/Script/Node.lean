import Phrasebook.Literal

/-!
# Syntax trees of scripts

A tree keeps what the search for calls needs: names, string literals, member accesses and calls
have constructors of their own, every other form is a `form` of some kind with its parts. Parts
stand in the order in which calls inside them are reported, which is not always the order of the
text: the test of a `do` loop comes before its body, and the members of a class before its
superclass.
-/

namespace Phrasebook.Script

/-- Forms that mean the same expression as what they enclose. -/
inductive Wrapper where
  | parentheses
  /-- A type follows after `as`. -/
  | typed
  /-- `as const`. -/
  | constant
  /-- A type follows after `satisfies`. -/
  | satisfying
  /-- A postfix `!`. -/
  | nonNull
  deriving DecidableEq, Repr

/-- The kind of a form. Kinds matter where an expression turns out to be a pattern and where an
operator may not follow. -/
inductive Kind where
  | this
  | super
  | import
  /-- A literal other than a string. -/
  | literal
  | taggedTemplate
  | array
  /-- A missing array element. -/
  | hole
  | spread
  | object
  /-- `key: value` in an object. -/
  | entry
  /-- A name alone in an object. -/
  | shorthand
  /-- `name = value` in an object, which only a pattern may hold. -/
  | shorthandDefault
  /-- A method, getter or setter in an object. -/
  | method
  | function
  | classBody
  | arrow
  | unary
  | update
  | binary
  /-- A binary expression with `&&` or `||`. -/
  | logical
  | conditional
  | sequence
  /-- An assignment with `=`. -/
  | assignment
  /-- An assignment with another operator. -/
  | compoundAssignment
  | await
  | yield
  /-- `new` with arguments, or without. -/
  | new (withArguments : Bool)
  | metaProperty
  /-- `<T>x`. -/
  | typeAssertion
  /-- An expression with type arguments and no call. -/
  | instantiation
  /-- A member access on an optional chain. -/
  | optionalMember
  /-- A call on an optional chain. -/
  | optionalCall
  | privateName
  /-- `[expression]` as a name. -/
  | computed
  | markup
  /-- An expression that was given up. -/
  | invalid
  /-- A parameter of a constructor that declares a property. -/
  | property
  /-- A constructor with a body. -/
  | constructor
  /-- Patterns, statements, declarations and types. -/
  | other
  deriving DecidableEq, Repr

/-- A syntax tree. -/
inductive Node where
  | name (text : String)
  /-- Without a value, the literal holds half of a surrogate pair. -/
  | string (value : Option String) (quote : Quote)
  /-- A template without a tag. With a value, it has no substitutions. -/
  | template (value : Option String) (substitutions : List Node)
  | wrapped (wrapper : Wrapper) (inner : Node) (types : List Node)
  | member (object property : Node)
  /-- A call with the offsets of its ends. -/
  | call (start stop : Nat) (callee : Node) (arguments types : List Node)
  | form (kind : Kind) (parts : List Node)
  deriving Inhabited

namespace Node

/-- A form given up. -/
def invalid : Node := .form .invalid []

/-- A form of no particular kind. -/
def group (parts : List Node) : Node := .form .other parts

/-- The kind of a form. -/
def kind? : Node → Option Kind
  | .form kind _ => some kind
  | _ => none

/-- An arrow function. No operator may follow one. -/
def isArrow (node : Node) : Bool := node.kind? == some .arrow

/-- The expression inside wrappers. -/
def unwrapped : Node → Node
  | .wrapped _ inner _ => inner.unwrapped
  | node => node

/-- A link of an optional chain. -/
def isOptional : Node → Bool
  | .form .optionalMember _ => true
  | .form .optionalCall _ => true
  | _ => false

/-- An optional chain, possibly with postfix `!`. -/
def isOptionalChain : Node → Bool
  | .wrapped .nonNull inner _ => inner.isOptionalChain
  | node => node.isOptional

/-- A binary expression with any operator. -/
def isBinary : Node → Bool
  | .form .binary _ => true
  | .form .logical _ => true
  | _ => false

/-- The expressions that `=` and the other assignment operators may stand after: names, members,
optional chains, and what wrappers and type arguments enclose. -/
def isAssignable : Node → Bool
  | .name _ => true
  | .member _ _ => true
  | .wrapped .constant _ _ => false
  | .wrapped _ _ _ => true
  | .form .typeAssertion _ => true
  | .form .instantiation _ => true
  | .form .invalid _ => true
  | node => node.isOptional

/-- The expressions whose value can be set: names other than `eval` and `arguments`, and members,
also inside wrappers. -/
def isSettable : Node → Bool
  | .name text => text != "eval" && text != "arguments"
  | .member _ _ => true
  | .wrapped .constant _ _ => false
  | .wrapped _ inner _ => inner.isSettable
  | .form .typeAssertion (inner :: _) => inner.isSettable
  | .form .instantiation (inner :: _) => inner.isSettable
  | _ => false

/-- The expressions that an increment may not stand before. Where types are read, only what is
surely no variable counts. -/
def refusesIncrement (typed : Bool) : Node → Bool
  | .wrapped .parentheses inner _ => inner.refusesIncrement typed
  | .string _ _ => !typed
  | .form .literal _ => !typed
  | .call .. => !typed
  | node => !(typed && node.isBinary) && !node.isSettable

/-- A member, possibly in parentheses. Only members are deleted. -/
def isMember : Node → Bool
  | .wrapped .parentheses inner _ => inner.isMember
  | .member _ _ => true
  | .form .optionalMember _ => true
  | _ => false

end Node

/-! ## Expressions that turn out to be patterns -/

/-- What a pattern is for. -/
inductive PatternRole where
  /-- The left side of an assignment. -/
  | target
  /-- A part of one. -/
  | targetElement
  /-- A parameter. -/
  | binding
  /-- A part of one. -/
  | bindingElement
  deriving DecidableEq, Repr

namespace PatternRole

/-- The role of the parts. -/
def element : PatternRole → PatternRole
  | .target => .targetElement
  | .targetElement => .targetElement
  | .binding => .bindingElement
  | .bindingElement => .bindingElement

end PatternRole

namespace Node

/-- The expressions that stay as they are inside a destructuring assignment. -/
def staysAsTarget : Node → Bool
  | .member _ _ => true
  | .call .. => true
  | .name _ => true
  | .string _ _ => true
  | .template _ _ => true
  | .wrapped _ _ _ => true
  | .form .literal _ => true
  | .form .function _ => true
  | .form .classBody _ => true
  | .form (.new _) _ => true
  | .form .typeAssertion _ => true
  | .form .instantiation _ => true
  | _ => false

mutual

/-- The expression read as a pattern. What cannot be part of a pattern is given up, with the calls
inside it; `none` if an object holds a method. -/
def toPattern : PatternRole → Node → Option Node
  | role, .form .object properties => do
    pure (.form .object (← propertiesToPattern role properties))
  | role, .form .array elements => do
    pure (.form .array (← elementsToPattern role elements))
  | .target, node => some node
  | role, node =>
    if role = .targetElement ∧ node.staysAsTarget then some node
    else
      match node with
      | .name text => some (.name text)
      | .form .assignment [left, value] => do
        if left.kind? = some .object ∨ left.kind? = some .array then some node
        else pure (.form .assignment [← toPattern role left, value])
      | _ => some invalid

/-- The properties of an object read as a pattern. -/
def propertiesToPattern : PatternRole → List Node → Option (List Node)
  | _, [] => some []
  | role, .form .entry [key, value] :: rest => do
    let value ← toPattern role.element value
    pure (.form .entry [key, value] :: (← propertiesToPattern role rest))
  | role, .form .spread [inner] :: rest => do
    let inner ←
      match role.element, inner with
      | .bindingElement, .name text => some (.name text)
      | .bindingElement, _ => some invalid
      | element, inner => toPattern element inner
    pure (.form .spread [inner] :: (← propertiesToPattern role rest))
  | role, node :: rest =>
    if node.kind? = some .method then none
    else do pure (node :: (← propertiesToPattern role rest))

/-- The elements of an array read as a pattern. A spread element that others follow is dropped. -/
def elementsToPattern : PatternRole → List Node → Option (List Node)
  | _, [] => some []
  | role, .form .spread [inner] :: rest => do
    if rest.isEmpty then pure [.form .spread [← toPattern role.element inner]]
    else elementsToPattern role rest
  | role, .form .hole parts :: rest => do
    pure (.form .hole parts :: (← elementsToPattern role rest))
  | role, node :: rest => do
    pure ((← toPattern role.element node) :: (← elementsToPattern role rest))

end

end Node

end Phrasebook.Script
