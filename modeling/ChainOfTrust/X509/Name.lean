import ChainOfTrust.Der.Value
import ChainOfTrust.Text.LowerCase

/-!
# Names

A name is a sequence of sets of attributes, each a type and a value.

- `Name.ofElement?`: reading; the attributes of one set stand in the order of their octets, and no
  two are the same;
- `Attribute.form`: what matters of an attribute when names are compared. A value of one of the
  string types `PrintableString`, `UTF8String`, `IA5String` is text, in matching form; any other
  value is its tag and its octets;
- `Name.forms`, `Name.agrees`: a name agrees with another when both have the same forms, each as often,
  whatever their order and grouping;
- `Name.hashInto`: what a hasher makes of a name, which it is fed form by form.
-/

namespace ChainOfTrust.X509

set_option autoImplicit false

open Der (Element)

/-! ## Attributes -/

structure Attribute where
  type : Oid
  value : Element
  deriving DecidableEq

def Attribute.ofElement? (e : Element) : Option Attribute := do
  match ← e.sequence? with
  | [type, value] => some ⟨← type.oid?, value⟩
  | _ => none

def isPrintable (b : UInt8) : Bool :=
  let n := b.toNat
  (0x41 ≤ n && n ≤ 0x5A) || (0x61 ≤ n && n ≤ 0x7A) || (0x30 ≤ n && n ≤ 0x39) ||
    (Bytes.ofAscii " '()+,-./:=?").contains b

/-- The text of a value of one of the three string types that names are matched by. -/
def matchedText? (e : Element) : Option String :=
  if e.tag = Der.Tag.printableString then
    if e.content.all isPrintable then Bytes.ascii? e.content else none
  else if e.tag = Der.Tag.utf8String then Bytes.utf8? e.content
  else if e.tag = Der.Tag.ia5String then Bytes.ascii? e.content
  else none

/-! ## Forms -/

inductive FormValue where
  | text (s : String)
  | raw (tag : UInt8) (content : Bytes)
  deriving DecidableEq, Hashable

/-- Text before anything else, both in lexicographic order. -/
def FormValue.le : FormValue → FormValue → Bool
  | .text a, .text b => !(b < a)
  | .text _, .raw .. => true
  | .raw .., .text _ => false
  | .raw t a, .raw u b => !(u :: b < t :: a)

/-- An attribute as names are matched by it; `type` is the dotted text of its identifier. -/
structure Form where
  type : String
  value : FormValue
  deriving DecidableEq, Hashable

def Form.le (a b : Form) : Bool := if a.type = b.type then a.value.le b.value else a.type < b.type

def Attribute.form (a : Attribute) : Form where
  type := a.type.text
  value := match matchedText? a.value with
    | some s => .text (Text.normalize s)
    | none => .raw a.value.tag a.value.content

/-! ## Names -/

/-- Sets of attributes, in the order they are written. -/
structure Name where
  sets : List (List Attribute)
  deriving DecidableEq

namespace Name

/-- The attributes of a set, in the order of their octets. -/
def set? (e : Element) : Option (List Attribute) := do
  let members ← e.expect? Der.Tag.set >>= Element.all?
  let members := members.mergeSort fun a b => !(b.encode < a.encode)
  if members.Nodup then members.mapM Attribute.ofElement? else none

def ofElement? (e : Element) : Option Name := do
  return ⟨← (← e.sequence?).mapM set?⟩

def attributes (n : Name) : List Attribute := n.sets.flatten

def isEmpty (n : Name) : Bool := n.attributes.isEmpty

def forms (n : Name) : List Form := (n.attributes.map Attribute.form).mergeSort Form.le

/-- Both names have the same forms, each as often. -/
def agrees (a b : Name) : Bool := a.forms = b.forms

end Name

/-! ## Hashing -/

/-- What a hasher is fed with at a time. -/
inductive HashItem where
  | length (n : Nat)
  | variant (n : Nat)
  | text (s : String)
  | octets (b : Bytes)
  deriving DecidableEq, Hashable

def FormValue.hashItems : FormValue → List HashItem
  | .text s => [.variant 0, .text s]
  | .raw tag content => [.variant 1, .length (content.length + 1), .octets (tag :: content)]

def Form.hashItems (f : Form) : List HashItem := .text f.type :: f.value.hashItems

def Name.hashItems (n : Name) : List HashItem :=
  .length n.forms.length :: n.forms.flatMap Form.hashItems

/-- The state of a hasher after a name, `feed` being what it does with one item. -/
def Name.hashInto {σ : Type} (feed : σ → HashItem → σ) (start : σ) (n : Name) : σ :=
  n.hashItems.foldl feed start

end ChainOfTrust.X509
