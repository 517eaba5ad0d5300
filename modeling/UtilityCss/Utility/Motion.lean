import UtilityCss.Utility.Entry
import UtilityCss.Utility.Rule

/-!
# Transitions and movement

A transition sets what changes, how and how long. A movement along one axis writes a variable of that
axis and composes the shift from both.
-/
namespace UtilityCss.Utility

def transitionDefault : String :=
  "color, background-color, border-color, text-decoration-color, fill, stroke, opacity, " ++
    "box-shadow, transform, translate, scale, rotate, filter, -webkit-backdrop-filter, " ++
    "backdrop-filter"

/-- Named lists of properties. -/
def transitionProperties : Aliases :=
  [("all", "all"),
   ("colors", "color, background-color, border-color, text-decoration-color, fill, stroke"),
   ("opacity", "opacity"), ("shadow", "box-shadow"),
   ("transform", "transform, translate, scale, rotate")]

def easings : Aliases :=
  [("in", "var(--ease-in)"), ("out", "var(--ease-out)"), ("in-out", "var(--ease-in-out)")]

/-- The value with its unit; a time without unit is in milliseconds. -/
def withTimeUnit (t : Token) : String := t.value ++ (if t.unit.isEmpty then "ms" else t.unit)

/-- The properties that change, with timing and duration as configured. -/
def propertyList (t : Token) : List Declaration :=
  let properties :=
    if t.value.isEmpty then transitionDefault
    else (transitionProperties.lookup t.value).getD t.value
  [⟨"transition-property", properties⟩,
   ⟨"transition-timing-function", "var(--default-transition-timing-function)"⟩,
   ⟨"transition-duration", "var(--default-transition-duration)"⟩]

def transitionBehavior (t : Token) : List Declaration :=
  [⟨"transition-behavior", if t.value == "discrete" then "allow-discrete" else t.value⟩]

def transitionDuration (t : Token) : List Declaration :=
  [⟨"transition-duration", if t.value == "initial" then "initial" else withTimeUnit t⟩]

def transitionDelay (t : Token) : List Declaration :=
  [⟨"transition-delay", if Value.isTime t.joined then t.joined else withTimeUnit t⟩]

def transitionRules : List (Rule (Token → List Declaration)) :=
  [⟨"property", fun t => t.value.isEmpty || (transitionProperties.lookup t.value).isSome,
    propertyList⟩,
   ⟨"behavior", fun t => ["normal", "discrete"].contains t.value, transitionBehavior⟩,
   ⟨"duration", fun t => t.value == "initial" || Value.isNumber t.value, transitionDuration⟩,
   ⟨"delay", keyedOnly, transitionDelay⟩]

/-- The keys that need a value. -/
def valueKeys : List String := ["behavior", "duration", "delay"]

/-- What no rule accepts is a whole transition. -/
def transitionDeclarations (t : Token) : Option (List Declaration) :=
  if t.value.isEmpty && valueKeys.contains t.key then none
  else
    some (match firstMatch transitionRules t with
      | some render => render t
      | none => [⟨"transition", t.joined⟩])

def transition : Entry := .compute fun t _ => transitionDeclarations t

def ease : Entry := .property "transitionTimingFunction" (.alias easings)

/-- A time on its own. -/
def timeEntry (property : String) : Entry :=
  .property property (.computed fun t _ => if t.value.isEmpty then none else some (withTimeUnit t))

def duration : Entry := timeEntry "transitionDuration"

def delay : Entry := timeEntry "transitionDelay"

/-- A shift along both axes; without a second value both are the same. -/
def moveValue (t : Token) (context : Context) : Option String :=
  if t.value.isEmpty then none
  else
    let first := Value.scaleSizing t.value t.unit context.sizing
    let second :=
      if t.secondValue.isEmpty then first
      else Value.scaleSizing t.secondValue t.secondUnit context.sizing
    some (first ++ " " ++ second)

def move : Entry := .property "translate" (.computed moveValue)

/-- A shift along one axis, composed with the other. -/
def axisDeclarations (axis : String) (t : Token) (context : Context) : Option (List Declaration) :=
  if t.value.isEmpty then none
  else
    some [⟨"--tui-move-" ++ axis, Value.scaleSizing t.value t.unit context.sizing⟩,
      ⟨"translate", "var(--tui-move-x) var(--tui-move-y)"⟩]

def moveX : Entry := .compute (axisDeclarations "x")

def moveY : Entry := .compute (axisDeclarations "y")

end UtilityCss.Utility
