/-
  YAML documents as trees.

  Tokens make up nodes: scalars, sequences and mappings, written as blocks or in flow style, and aliases
  for nodes that were given a name before.  A mapping is kept as the list of its parts, keys and values
  in turn.  What a text leaves out, between a dash and the next one or after a key, is an empty plain
  scalar.

  1. **Faults.** As with other formats, the first fault in the order of the text is what counts.  So
     where the tokens break off, or make no sense, the tree has a `broken` node, and every collection
     around it ends there.

  2. **Names.** A name may be given to a node and used behind it.  An alias stands for the node that was
     given the name last, and one whose name was never given is broken.  Inside a collection its own
     name is known, too, but says only that the collection is around.

  3. **Fuel.** The readers of nodes and of lists call each other.  Each call takes a unit of fuel, of
     which there are more than tokens, so it never runs out before the tokens do.
-/
import QuorumRescue.Yaml.Lexer

namespace QuorumRescue.Yaml

/-- A node, as far as it makes sense. -/
inductive Node
  | scalar (tag : Option (List Char)) (style : Style) (text : List Char)
  | sequence (tag : Option (List Char)) (items : List Node)
  | mapping (tag : Option (List Char)) (parts : List Node)
  | alias (target : Node)
  | around (tag : Option (List Char))
  | broken

namespace Node

/-- The node that stands where nothing is written. -/
def nothing : Node := .scalar none .plain []

mutual

/-- Whether a node is free of broken places; an alias stands for a node that was read before. -/
def intact : Node → Bool
  | .broken => false
  | .sequence _ items => allIntact items
  | .mapping _ parts => allIntact parts
  | _ => true

def allIntact : List Node → Bool
  | [] => true
  | node :: rest => node.intact && allIntact rest

end

end Node

/-! ## The reader's state -/

/-- A node with a name.  While a collection is being read it stands under its name as `around`. -/
structure Named where
  name : List Char
  node : Node

/-- The tokens that are left, the names given so far, latest first, and the meanings of handles. -/
structure Reader where
  tokens : List Token
  named : List Named
  handles : List (List Char × List Char)

/-- What reading comes to: a result, and a reader to go on with, unless the text broke off. -/
abbrev Reading (α : Type) := α × Option Reader

namespace Reader

/-- Goes on behind the first token. -/
def skip (r : Reader) : Reader := { r with tokens := r.tokens.drop 1 }

/-- Gives a node a name, if there is one to give. -/
def name (r : Reader) (name : Option (List Char)) (node : Node) : Reader :=
  match name with
  | some name => { r with named := ⟨name, node⟩ :: r.named }
  | none => r

/-- Puts a finished collection in the place of the one being read; `before` names were given before
it. -/
def settle (r : Reader) (name : Option (List Char)) (before : Nat) (node : Node) : Reader :=
  match name with
  | none => r
  | some name =>
      let later := r.named.length - (before + 1)
      { r with named := r.named.take later ++ ⟨name, node⟩ :: r.named.drop (later + 1) }

/-- The node with a name. -/
def find (r : Reader) (name : List Char) : Option Node :=
  (r.named.find? fun n => n.name = name).map (·.node)

/-- The full tag for a handle and a suffix. -/
def resolve (r : Reader) (handle suffix : List Char) : Option (List Char) :=
  if handle.isEmpty then some suffix
  else (r.handles.find? fun h => h.1 = handle).map fun h => h.2 ++ suffix

end Reader

/-- The handles that every document knows. -/
def standardHandles : List (List Char × List Char) :=
  [(['!'], ['!']), (['!', '!'], "tag:yaml.org,2002:".toList)]

/-- What may stand before a node: a name and a tag. -/
structure Props where
  name : Option (List Char)
  tag : Option (List Char)

/-- Reads a name and a tag, in either order, each at most once. -/
def readProps (r : Reader) : Option (Props × Reader) :=
  match r.tokens with
  | .anchor name :: .tag handle suffix :: rest =>
      (r.resolve handle suffix).map fun tag => (⟨some name, some tag⟩, { r with tokens := rest })
  | .tag handle suffix :: .anchor name :: rest =>
      (r.resolve handle suffix).map fun tag => (⟨some name, some tag⟩, { r with tokens := rest })
  | .anchor name :: rest => some (⟨some name, none⟩, { r with tokens := rest })
  | .tag handle suffix :: rest =>
      (r.resolve handle suffix).map fun tag => (⟨none, some tag⟩, { r with tokens := rest })
  | _ => some (⟨none, none⟩, r)

/-! ## Nodes -/

/-- Finishes a collection: gives it its parts, and its name its meaning. -/
def closeNode (props : Props) (before : Nat) (make : List Node → Node) (parts : Reading (List Node)) :
    Reading Node :=
  let node := make parts.1
  (node, parts.2.map fun r => r.settle props.name before node)

/-- Whether a block's item or key is left out before a token. -/
def leavesOut (ends : List Token) (token : Token) : Bool := ends.contains token

/-- Puts a part in front of the parts that follow, if the text goes on. -/
def andThen (part : Reading Node) (next : Reader → Reading (List Node)) : Reading (List Node) :=
  match part with
  | (node, none) => ([node], none)
  | (node, some r) =>
      let (more, r) := next r
      (node :: more, r)

/-- A place where the text breaks off. -/
def breaksOff : Reading (List Node) := ([.broken], none)

mutual

/-- Reads a node.  `block` says whether a block may start here, and `bare` whether a sequence may
stand at the indentation of the mapping around it. -/
def readNode : (fuel : Nat) → (block bare : Bool) → Reader → Reading Node
  | 0, _, _, _ => (.broken, none)
  | fuel + 1, block, bare, r =>
      match r.tokens with
      | .alias name :: _ =>
          match r.find name with
          | some node => (.alias node, some r.skip)
          | none => (.broken, none)
      | _ =>
          match readProps r with
          | none => (.broken, none)
          | some (props, r) =>
              let before := r.named.length
              let around := r.name props.name (.around props.tag)
              match r.tokens with
              | [] => (.broken, none)
              | .scalar style text :: _ =>
                  let node := Node.scalar props.tag style text
                  (node, some (r.name props.name node).skip)
              | .sequenceOpen :: _ =>
                  closeNode props before (.sequence props.tag) (readFlowItems fuel true around.skip)
              | .mappingOpen :: _ =>
                  closeNode props before (.mapping props.tag) (readFlowParts fuel true around.skip)
              | token :: _ =>
                  if bare && token == .dash then
                    closeNode props before (.sequence props.tag) (readBareItems fuel around)
                  else if block && token == .sequenceBlock then
                    closeNode props before (.sequence props.tag) (readItems fuel around.skip)
                  else if block && token == .mappingBlock then
                    closeNode props before (.mapping props.tag) (readParts fuel around.skip)
                  else if props.name.isSome || props.tag.isSome then
                    let node := Node.scalar props.tag .plain []
                    (node, some (r.name props.name node))
                  else (.broken, none)

/-- Reads a node, unless one of the given tokens shows that it is left out. -/
def readUnless : (fuel : Nat) → (ends : List Token) → (block bare : Bool) → Reader → Reading Node
  | 0, _, _, _, _ => (.broken, none)
  | fuel + 1, ends, block, bare, r =>
      match r.tokens with
      | [] => (.broken, none)
      | token :: _ =>
          if leavesOut ends token then (.nothing, some r) else readNode fuel block bare r

/-- The items of a sequence block. -/
def readItems : (fuel : Nat) → Reader → Reading (List Node)
  | 0, _ => breaksOff
  | fuel + 1, r =>
      match r.tokens with
      | .dash :: _ =>
          andThen (readUnless fuel [.dash, .blockEnd] true false r.skip) (readItems fuel)
      | .blockEnd :: _ => ([], some r.skip)
      | _ => breaksOff

/-- The items of a sequence that stands at the indentation of the mapping around it. -/
def readBareItems : (fuel : Nat) → Reader → Reading (List Node)
  | 0, _ => breaksOff
  | fuel + 1, r =>
      match r.tokens with
      | [] => breaksOff
      | .dash :: _ =>
          andThen (readUnless fuel [.dash, .key, .value, .blockEnd] true false r.skip)
            (readBareItems fuel)
      | _ => ([], some r)

/-- The keys and values of a mapping block, from a key on. -/
def readParts : (fuel : Nat) → Reader → Reading (List Node)
  | 0, _ => breaksOff
  | fuel + 1, r =>
      match r.tokens with
      | .key :: _ =>
          andThen (readUnless fuel [.key, .value, .blockEnd] true true r.skip) (readBlockValue fuel)
      | .blockEnd :: _ => ([], some r.skip)
      | _ => breaksOff

/-- The keys and values of a mapping block, from a value on. -/
def readBlockValue : (fuel : Nat) → Reader → Reading (List Node)
  | 0, _ => breaksOff
  | fuel + 1, r =>
      match r.tokens with
      | [] => breaksOff
      | .value :: _ =>
          andThen (readUnless fuel [.key, .value, .blockEnd] true true r.skip) (readParts fuel)
      | _ => andThen (.nothing, some r) (readParts fuel)

/-- The items of a flow sequence; a key among them starts a mapping with this one key. -/
def readFlowItems : (fuel : Nat) → (first : Bool) → Reader → Reading (List Node)
  | 0, _, _ => breaksOff
  | fuel + 1, first, r =>
      match r.tokens with
      | .sequenceClose :: _ => ([], some r.skip)
      | token :: _ =>
          if !first && token != .comma then breaksOff
          else
            let r := if first then r else r.skip
            match r.tokens with
            | [] => breaksOff
            | .sequenceClose :: _ => ([], some r.skip)
            | .key :: _ =>
                let (parts, next) := readFlowPair fuel r.skip
                andThen (.mapping none parts, next) (readFlowItems fuel false)
            | _ => andThen (readNode fuel false false r) (readFlowItems fuel false)
      | [] => breaksOff

/-- The one key of a mapping inside a flow sequence, and its value. -/
def readFlowPair : (fuel : Nat) → Reader → Reading (List Node)
  | 0, _ => breaksOff
  | fuel + 1, r =>
      match r.tokens with
      | [] => breaksOff
      | token :: _ =>
          if leavesOut [.value, .comma, .sequenceClose] token then
            andThen (.nothing, some r.skip) (readFlowPairValue fuel)
          else andThen (readNode fuel false false r) (readFlowPairValue fuel)

/-- The value of the one key. -/
def readFlowPairValue : (fuel : Nat) → Reader → Reading (List Node)
  | 0, _ => breaksOff
  | fuel + 1, r =>
      match r.tokens with
      | [] => breaksOff
      | .value :: _ =>
          let (node, next) := readUnless fuel [.comma, .sequenceClose] false false r.skip
          ([node], next)
      | _ => ([.nothing], some r)

/-- The keys and values of a flow mapping, from a key on. -/
def readFlowParts : (fuel : Nat) → (first : Bool) → Reader → Reading (List Node)
  | 0, _, _ => breaksOff
  | fuel + 1, first, r =>
      match r.tokens with
      | .mappingClose :: _ => ([], some r.skip)
      | token :: _ =>
          if !first && token != .comma then breaksOff
          else
            let r := if first then r else r.skip
            match r.tokens with
            | [] => breaksOff
            | .mappingClose :: _ => ([], some r.skip)
            | .key :: _ =>
                andThen (readUnless fuel [.value, .comma, .mappingClose] false false r.skip)
                  (readFlowValue fuel)
            | _ =>
                andThen (readNode fuel false false r) fun r =>
                  andThen (.nothing, some r) (readFlowParts fuel false)
      | [] => breaksOff

/-- The keys and values of a flow mapping, from a value on. -/
def readFlowValue : (fuel : Nat) → Reader → Reading (List Node)
  | 0, _ => breaksOff
  | fuel + 1, r =>
      match r.tokens with
      | [] => breaksOff
      | .value :: _ =>
          andThen (readUnless fuel [.comma, .mappingClose] false false r.skip)
            (readFlowParts fuel false)
      | _ => andThen (.nothing, some r) (readFlowParts fuel false)

end

/-! ## Documents -/

/-- A text as one document: its node, and whether nothing else is in the text and all of it makes
sense. -/
structure Document where
  root : Node
  sound : Bool

/-- Reads directives up to the line that starts the document. -/
def readDirectives : (versionSeen : Bool) → (handles : List (List Char × List Char)) → List Token →
    Option (List (List Char × List Char) × List Token)
  | _, handles, .documentStart :: rest => some (handles, rest)
  | versionSeen, handles, .version major minor :: rest =>
      if versionSeen ∨ major ≠ 1 ∨ (minor ≠ 1 ∧ minor ≠ 2) then none
      else readDirectives true handles rest
  | versionSeen, handles, .tagDirective handle lead :: rest =>
      if handles.any fun h => h.1 == handle then none
      else readDirectives versionSeen (handles ++ [(handle, lead)]) rest
  | _, _, _ => none

/-- Whether a document has no content before a token. -/
def endsContent : Token → Bool
  | .version .. | .tagDirective .. | .documentStart | .documentEnd | .streamEnd => true
  | _ => false

/-- Whether the tokens after a document are the end of the text. -/
def endsText (tokens : List Token) : Bool :=
  tokens.dropWhile (· == .documentEnd) == [.streamEnd]

/-- Reads the content of a document. -/
def readContent (handles : List (List Char × List Char)) (tokens : List Token) : Document :=
  let r : Reader := ⟨tokens, [], handles ++ standardHandles⟩
  match readNode (4 * tokens.length + 4) true false r with
  | (node, some r) => ⟨node, endsText r.tokens⟩
  | (node, none) => ⟨node, false⟩

/-- The document that tokens make up. -/
def Document.ofTokens (tokens : List Token) : Document :=
  match tokens with
  | [] => ⟨.broken, false⟩
  | [.streamEnd] => ⟨.nothing, true⟩
  | .version .. :: _ | .tagDirective .. :: _ | .documentStart :: _ =>
      match readDirectives false [] tokens with
      | none => ⟨.broken, false⟩
      | some (handles, rest) =>
          match rest with
          | [] => ⟨.broken, false⟩
          | token :: _ =>
              if endsContent token then ⟨.nothing, endsText rest⟩ else readContent handles rest
  | _ => readContent [] tokens

/-- Reads a text as one document. -/
def Document.read (text : List Char) : Document := .ofTokens (tokens text).1

end QuorumRescue.Yaml
