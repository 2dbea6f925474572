/-
  Taking a YAML tree apart.

  What is expected decides what a scalar is: where a text is expected every scalar is one, whatever
  its quotes and tag; where a number is expected the scalar has to be its numeral.  Nothing at all
  reads as an empty list, as a record without fields, and as an absent text.  The fields of a record
  are handed over one by one, in the order of the text, and those that the layout does not name are
  passed over; the first fault ends the reading.
-/
import QuorumRescue.Decoding
import QuorumRescue.Yaml.Node
import QuorumRescue.Yaml.Plain

namespace QuorumRescue.Yaml

/-! ## Tags -/

/-- The tag of the null value. -/
def nullTag : List Char := "tag:yaml.org,2002:null".toList

/-- The tag of integers. -/
def integerTag : List Char := "tag:yaml.org,2002:int".toList

/-- The word of a tag that belongs to the application: the rest after a leading mark. -/
def applicationWord : Option (List Char) → Option (List Char)
  | some ['!'] => some ['!']
  | some ('!' :: word) => some word
  | _ => none

namespace Node

/-- A fault for everything that has no better name. -/
def malformed {α : Type} : Except DecodeFault α := .error .malformed

/-- The node that an alias stands for; other nodes are their own. -/
def follow : Node → Node
  | .alias target => target.follow
  | node => node

/-- Whether a scalar of this kind stands where nothing is written. -/
def isBlank (style : Style) (text : List Char) : Bool := style == .plain && text.isEmpty

/-! ## Scalars -/

/-- The characters of a scalar. -/
def toChars (node : Node) : Except DecodeFault (List Char) :=
  match node.follow with
  | .scalar _ _ text => .ok text
  | _ => malformed

def toText (node : Node) : Except DecodeFault String := node.toChars.map String.ofList

/-- A text that may be absent.  An empty or null plain scalar is absent; one with the null tag has to
be a null word, and one with another tag is always there. -/
def toOptionalText (node : Node) : Except DecodeFault (Option String) :=
  match node.follow with
  | .scalar tag style text =>
      if style ≠ .plain then .ok (some (String.ofList text))
      else
        match tag with
        | none =>
            .ok (if text.isEmpty || isNullWord text then none else some (String.ofList text))
        | some tag =>
            if tag = nullTag then (if isNullWord text then .ok none else malformed)
            else .ok (some (String.ofList text))
  | _ => malformed

/-- A natural number below a bound.  Besides plain scalars, a literal block with the integer tag is
read as a numeral. -/
def toNatural (bound : Nat) (node : Node) : Except DecodeFault Nat :=
  match node.follow with
  | .scalar tag style text =>
      if style = .plain ∨ (style = .literal ∧ tag = some integerTag) then
        match natural text with
        | some n => if n < bound then .ok n else malformed
        | none => malformed
      else malformed
  | _ => malformed

/-- A number of 64 bits. -/
def toWord (node : Node) : Except DecodeFault UInt64 :=
  (node.toNatural UInt64.size).map UInt64.ofNat

/-- A number of 16 bits. -/
def toWord16 (node : Node) : Except DecodeFault UInt16 :=
  (node.toNatural UInt16.size).map UInt16.ofNat

/-! ## Words of a fixed choice -/

/-- Whether a node adds nothing to a word that its tag already gave. -/
def addsNothing : Node → Bool
  | .scalar _ style text => style == .plain && (text.isEmpty || isNullWord text)
  | _ => false

/-- The value that a word stands for. -/
def ofWord {α : Type} (read : String → Option α) (word : List Char) : Except DecodeFault α :=
  match read (String.ofList word) with
  | some value => .ok value
  | none => .error (.unknownVariant (String.ofList word))

/-- One of a fixed choice of words.  The word is the scalar's text, or its tag if the tag belongs to
the application; then nothing else may be there. -/
def toChoice {α : Type} (read : String → Option α) (node : Node) : Except DecodeFault α :=
  let tagged (word : List Char) (node : Node) :=
    match ofWord read word with
    | .error fault => .error fault
    | .ok value => if node.addsNothing then .ok value else malformed
  match node.follow with
  | .scalar tag style text =>
      match applicationWord tag with
      | some word => tagged word (.scalar tag style text)
      | none => ofWord read text
  | .sequence tag items =>
      match applicationWord tag with
      | some word => tagged word (.sequence tag items)
      | none => malformed
  | .mapping tag parts =>
      match applicationWord tag with
      | some word => tagged word (.mapping tag parts)
      | none => malformed
  | .around tag =>
      match applicationWord tag with
      | some word => tagged word (.around tag)
      | none => malformed
  | _ => malformed

/-! ## Lists -/

/-- Reads the items in order. -/
def readAll {α : Type} (read : Node → Except DecodeFault α) : List Node → Except DecodeFault (List α)
  | [] => .ok []
  | item :: rest =>
      match read item with
      | .error fault => .error fault
      | .ok value =>
          match readAll read rest with
          | .error fault => .error fault
          | .ok values => .ok (value :: values)

/-- A list whose items are all of one kind. -/
def toList {α : Type} (read : Node → Except DecodeFault α) (node : Node) :
    Except DecodeFault (List α) :=
  match node.follow with
  | .sequence _ items => readAll read items
  | .scalar _ style text => if isBlank style text then .ok [] else malformed
  | _ => malformed

/-! ## Layouts -/

/-- Hands over the values whose keys the layout names, and passes over the others. -/
def foldParts {σ : Type} (names : List String) (take : σ → String → Node → Except DecodeFault σ) :
    σ → List Node → Except DecodeFault σ
  | state, [] => .ok state
  | _, [_] => malformed
  | state, key :: value :: rest =>
      match key.toText with
      | .error fault => .error fault
      | .ok name =>
          if names.contains name then
            match take state name value with
            | .error fault => .error fault
            | .ok state => foldParts names take state rest
          else if value.intact then foldParts names take state rest
          else malformed

/-- Hands over the fields of a layout in the order of the text. -/
def foldFields {σ : Type} (names : List String) (take : σ → String → Node → Except DecodeFault σ)
    (state : σ) (node : Node) : Except DecodeFault σ :=
  match node.follow with
  | .mapping _ parts => foldParts names take state parts
  | .scalar _ style text => if isBlank style text then .ok state else malformed
  | _ => malformed

end Node

/-! ## Whole texts -/

/-- Reads a whole text of one layout. -/
def decodeText {α : Type} (read : Node → Except DecodeFault α) (text : List Char) :
    Except DecodeFault α :=
  let document := Document.read text
  match read document.root with
  | .error fault => .error fault
  | .ok value => if document.sound then .ok value else .error .malformed

/-- Reads the bytes of a whole text of one layout. -/
def decode {α : Type} (read : Node → Except DecodeFault α) (bytes : ByteArray) :
    Except DecodeFault α :=
  match String.fromUTF8? bytes with
  | some text => decodeText read text.toList
  | none => .error .malformed

example : Node.toNatural 100 (.scalar none .plain ['0', 'x', '1', '0']) = .ok 16 := rfl
example : Node.toOptionalText (.scalar none .plain ['~']) = .ok none := rfl
example : Node.toOptionalText (.scalar none .singleQuoted []) = .ok (some "") := rfl

end QuorumRescue.Yaml
