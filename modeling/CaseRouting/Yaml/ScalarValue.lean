import CaseRouting.Json.Value
import CaseRouting.Text.Digits
import CaseRouting.Yaml.Node

/-!
# What scalars mean

A plain scalar without a tag is null, a boolean, a number or a text by its form. An integer may have
a sign and the prefix of a base; a run of decimal digits with a needless zero in front is a text,
such as a postal code. Integers outside the 64-bit ranges that still fit 128 bits are refused;
beyond them a decimal integer is a floating-point number. A tag of the core schema says what the
form must be, and any other scalar is a text.
-/

namespace CaseRouting.Yaml

open Text (digitRun digitsValue radixNumber?)

/-- Whether a text is one of the given words, in exactly the letters of the word. -/
def isAmong (words : List String) (text : List Char) : Bool :=
  words.any fun word => word.toList = text

/-- A word for null. Small letters, capitals and a capital in front are words, but no other mixture
is. -/
def isNullWord : List Char → Bool := isAmong ["null", "Null", "NULL", "~"]

/-- A word for true or false; other words that YAML once had for them are texts. -/
def boolean? (text : List Char) : Option Bool :=
  if isAmong ["true", "True", "TRUE"] text then some true
  else if isAmong ["false", "False", "FALSE"] text then some false
  else none

/-- Decimal digits with a needless zero in front, which make a text and no number. -/
def hasNeedlessZero : List Char → Bool
  | '0' :: c :: rest => (c :: rest).all Char.isDigit
  | _ => false

/-- The text behind its sign, if it has one; what the sign says is looked up by others. -/
def behindSign : List Char → List Char
  | '+' :: rest => rest
  | '-' :: rest => rest
  | cs => cs

/-- A number without a sign, its digits to a base, of which there must be at least one. -/
def based? (radix : Nat) (digits : List Char) : Option Nat :=
  if digits = [] then none else radixNumber? radix 0 digits

/-- An integer without a sign, with the prefix of a base or in decimal. -/
def magnitude? : List Char → Option Nat
  | '0' :: 'x' :: digits => based? 16 digits
  | '0' :: 'o' :: digits => based? 8 digits
  | '0' :: 'b' :: digits => based? 2 digits
  | digits => if hasNeedlessZero digits then none else based? 10 digits

/-- An integer as the answer of a scalar: none if it does not fit 64 bits. A negative zero is not an
integer. -/
def boundedInteger? (negative : Bool) (magnitude : Nat) : Option Json :=
  if negative then
    if magnitude = 0 then some (.number (.decimal (-0.0)))
    else if magnitude ≤ Json.maxNegative then some (.number (.integer (-(magnitude : Int))))
    else none
  else if magnitude ≤ Json.maxInteger then some (.number (.integer magnitude))
  else none

/-- Whether an integer is no integer for being too long, and then counts as a floating-point number
if it is decimal. -/
def isBeyondIntegers (negative : Bool) (magnitude : Nat) : Bool :=
  if negative then 0x80000000000000000000000000000000 < magnitude
  else 0xFFFFFFFFFFFFFFFFFFFFFFFFFFFFFFFF < magnitude

/-- The integer of a scalar; the inner result is none if it is refused. -/
def integer? (text : List Char) : Option (Option Json) := do
  let negative := text.head? = some '-'
  let magnitude ← magnitude? (behindSign text)
  if isBeyondIntegers negative magnitude then none
  else some (boundedInteger? negative magnitude)

/-- A number in decimal: its digits and the power of ten they are scaled by, without a sign. -/
structure DecimalForm where
  digits : Nat
  exponent : Int

/-- The exponent at the end of a number, if there is one; without one it is zero, and with anything
else the text is no number. -/
def exponentForm? : List Char → Option Int
  | [] => some 0
  | mark :: rest =>
    if mark = 'e' ∨ mark = 'E' then
      match digitRun (behindSign rest) with
      | ([], _) => none
      | (digits, []) =>
        some (if rest.head? = some '-' then -(digitsValue digits : Int) else digitsValue digits)
      | _ => none
    else none

/-- A number without a sign: digits with a point anywhere or nowhere, and perhaps an exponent. There
must be a digit somewhere. -/
def decimalForm? (text : List Char) : Option DecimalForm := do
  let (whole, rest) := digitRun text
  let (fraction, rest) := match rest with
    | '.' :: rest => digitRun rest
    | _ => ([], rest)
  if whole = [] ∧ fraction = [] then none
  else
    let exponent ← exponentForm? rest
    some ⟨digitsValue (whole ++ fraction), exponent - fraction.length⟩

/-- The floating-point number next to a decimal, if it is finite. Exponents far out of range are
decided before any power is computed. -/
def DecimalForm.float? (form : DecimalForm) : Option Float :=
  let places : Int := (Nat.toDigits 10 form.digits).length + form.exponent
  if form.digits = 0 then some 0
  else if 400 < places then none
  else if places < -400 then some 0
  else
    let x := Float.ofScientific form.digits (form.exponent < 0) form.exponent.natAbs
    if x.isInf then none else some x

/-- The floating-point number of a scalar, of which also infinities and what is no number have
words. -/
def float? (text : List Char) : Option Float :=
  let unsigned := behindSign text
  let negative := text.head? = some '-'
  if isAmong [".nan", ".NaN", ".NAN"] text then some (0 / 0)
  else do
    let x ← if isAmong [".inf", ".Inf", ".INF"] unsigned then some (1 / 0)
      else (← decimalForm? unsigned).float?
    some (if negative then -x else x)

/-- The value of a plain scalar without a tag; none if it is refused. The forms are tried in a fixed
order, and what has none of them is a text. -/
def untagged? (text : List Char) : Option Json :=
  if text = [] ∨ isNullWord text then some .null
  else
    match boolean? text, integer? text with
    | some b, _ => some (.boolean b)
    | none, some number => number
    | none, none =>
      if hasNeedlessZero (behindSign text) then some (.text (String.ofList text))
      else
        match float? text with
        | some x => some (.number (.decimal x))
        | none => some (.text (String.ofList text))

/-- A tag of the core schema, by its last part. -/
def coreTag (name : String) : List Char := "tag:yaml.org,2002:".toList ++ name.toList

/-- The tag of null, which a scalar may have only if it is a word for it. -/
def nullTag : List Char := coreTag "null"

/-- The tag of booleans, which makes also a scalar in quotation marks one. -/
def booleanTag : List Char := coreTag "bool"

/-- A tag of the document's own, which names a variant; its octets must be a text. -/
def isLocalTag (tag : List Char) : Bool :=
  tag.head? = some '!' &&
    (String.fromUTF8? ⟨(tag.map fun c => c.toNat.toUInt8).toArray⟩).isSome

/-- Whether a node is tagged as a variant, which nothing that is decoded here can be. -/
def Properties.isVariant (properties : Properties) : Bool := properties.tag.any isLocalTag

/-- The value of a scalar where any value may stand: by its form if it is plain, by its tag if it
has one, and as a text otherwise. -/
def scalarValue? (properties : Properties) (style : Style) (text : List Char) : Option Json :=
  let asText : Json := .text (String.ofList text)
  match properties.tag with
  | none => if style = .plain then untagged? text else some asText
  | some tag =>
    if isLocalTag tag then none
    else if tag = booleanTag then Json.boolean <$> boolean? text
    else if tag = coreTag "int" then (integer? text).join
    else if tag = coreTag "float" then (fun x => Json.number (.decimal x)) <$> float? text
    else if tag = nullTag then if isNullWord text then some .null else none
    else if tag.head? = some '!' ∧ style = .plain then untagged? text
    else some asText

end CaseRouting.Yaml
