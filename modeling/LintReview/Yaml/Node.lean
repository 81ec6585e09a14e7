import LintReview.Yaml.Token
import LintReview.Yaml.Resolution

/-!
# A document as nodes

Tokens are read as a tree of scalars, sequences and mappings. Every node has a tag; a
scalar without one gets the tag of what it looks like. An alias stands for the node that
has its anchor, which must come before it, and no anchor is used twice. A text holds at
most one document.
-/

namespace LintReview.Yaml

/-- A node of a document. -/
inductive Node where
  | scalar (tag : String) (text : List Char)
  | sequence (tag : String) (items : List Node)
  | mapping (tag : String) (entries : List (Node × Node))

/-- What is known while tokens are read. -/
structure Reading where
  tokens : List Token
  /-- The nodes that have an anchor. A node that is still being read has none yet. -/
  anchors : List (List Char × Option Node) := []
  handles : List (List Char × List Char) := []

/-- What stands in front of a node. -/
structure Properties where
  anchor : Option (List Char) := none
  tag : Option TagText := none

/-- The reading without its next token. -/
def Reading.drop (reading : Reading) : Reading := { reading with tokens := reading.tokens.tail }

/-- Reads the anchor and the tag of a node, in either order. -/
def Reading.properties (reading : Reading) : Properties × Reading :=
  match reading.tokens with
  | .anchor name :: .tag text :: rest => (⟨some name, some text⟩, { reading with tokens := rest })
  | .tag text :: .anchor name :: rest => (⟨some name, some text⟩, { reading with tokens := rest })
  | .anchor name :: rest => (⟨some name, none⟩, { reading with tokens := rest })
  | .tag text :: rest => (⟨none, some text⟩, { reading with tokens := rest })
  | _ => ({}, reading)

/-- The tag that a written one stands for: `none` inside if it leaves the choice to the
    node, and no result if its handle is unknown. -/
def Reading.resolve (reading : Reading) (tag : Option TagText) : Option (Option String) :=
  match tag with
  | none => some none
  | some text =>
    let full :=
      match text.handle with
      | none => some text.suffix
      | some handle => (reading.handles.lookup handle).map (· ++ text.suffix)
    full.map fun tag => if tag = ['!'] then none else some (String.ofList tag)

/-- Begins a node with an anchor, which must be new. -/
def Reading.begin (reading : Reading) (anchor : Option (List Char)) : Option Reading :=
  match anchor with
  | none => some reading
  | some name =>
    if (reading.anchors.lookup name).isSome then none
    else some { reading with anchors := (name, none) :: reading.anchors }

/-- Ends a node with an anchor. -/
def Reading.finish (reading : Reading) (anchor : Option (List Char)) (node : Node) :
    Node × Reading :=
  match anchor with
  | none => (node, reading)
  | some name => (node, { reading with anchors := (name, some node) :: reading.anchors })

/-- The node that an absent one counts as. -/
def emptyNode : Node := .scalar (plainTag []) []

/-- Where a node stands. -/
inductive Position where
  /-- Inside brackets. -/
  | flow
  /-- In block style. -/
  | block
  /-- In block style, where entries with dashes need no indentation. -/
  | blockEntry
  deriving Repr, DecidableEq

/-- A token that ends an entry of a sequence without indentation. -/
def endsIndentless : Token → Bool
  | .blockEntry | .key | .value | .blockEnd => true
  | _ => false

/-- A token that ends a key or a value in block style. -/
def endsBlockPart : Token → Bool
  | .key | .value | .blockEnd => true
  | _ => false

/-- No node comes before a token of the given kind. -/
def Reading.isEmptyBefore (reading : Reading) (ending : Token → Bool) : Bool :=
  reading.tokens.head?.any ending

mutual

/-- Reads a node. At most `fuel` steps are made. -/
def Reading.node (reading : Reading) (position : Position) : Nat → Option (Node × Reading)
  | 0 => none
  | fuel + 1 =>
    match reading.tokens with
    | .alias name :: _ =>
      (reading.anchors.lookup name).map fun known => (known.getD emptyNode, reading.drop)
    | _ => do
      let (properties, afterProperties) := reading.properties
      let tag ← afterProperties.resolve properties.tag
      let start ← afterProperties.begin properties.anchor
      let finish (result : Node × Reading) : Node × Reading :=
        result.2.finish properties.anchor result.1
      let sequence (result : List Node × Reading) : Node × Reading :=
        finish (.sequence (tag.getD sequenceTag) result.1, result.2)
      let mapping (result : List (Node × Node) × Reading) : Node × Reading :=
        finish (.mapping (tag.getD mappingTag) result.1, result.2)
      match start.tokens with
      | .scalar plain text :: _ =>
        let isPlain := (plain && properties.tag.isNone) || (properties.tag.isSome && tag.isNone)
        let found := tag.getD (if isPlain then plainTag text else textTag)
        return finish (.scalar found text, start.drop)
      | .flowSequenceStart :: _ => (start.drop.flowItems true fuel).map sequence
      | .flowMappingStart :: _ => (start.drop.flowEntries true fuel).map mapping
      | .blockEntry :: _ =>
        if position = .blockEntry then (start.indentlessItems fuel).map sequence
        else start.absent properties tag
      | .blockSequenceStart :: _ =>
        if position = .flow then start.absent properties tag
        else (start.drop.blockItems fuel).map sequence
      | .blockMappingStart :: _ =>
        if position = .flow then start.absent properties tag
        else (start.drop.blockEntries fuel).map mapping
      | _ => start.absent properties tag

/-- Reads a node of which nothing but an anchor or a tag is written. -/
def Reading.absent (reading : Reading) (properties : Properties) (tag : Option String) :
    Option (Node × Reading) :=
  if properties.anchor.isNone && properties.tag.isNone then none
  else
    let node : Node := .scalar (tag.getD (plainTag [])) []
    some (reading.finish properties.anchor node)

/-- Reads the entries of a block sequence. -/
def Reading.blockItems (reading : Reading) : Nat → Option (List Node × Reading)
  | 0 => none
  | fuel + 1 =>
    match reading.tokens with
    | .blockEntry :: _ => do
      let next := reading.drop
      let (item, after) ←
        if next.isEmptyBefore fun token => token = .blockEntry || token = .blockEnd then
          some (emptyNode, next)
        else next.node .block fuel
      let (others, ending) ← after.blockItems fuel
      return (item :: others, ending)
    | .blockEnd :: _ => some ([], reading.drop)
    | _ => none

/-- Reads the entries of a sequence that is not indented. -/
def Reading.indentlessItems (reading : Reading) : Nat → Option (List Node × Reading)
  | 0 => none
  | fuel + 1 =>
    match reading.tokens with
    | .blockEntry :: _ => do
      let next := reading.drop
      let (item, after) ←
        if next.isEmptyBefore endsIndentless then some (emptyNode, next)
        else next.node .block fuel
      let (others, ending) ← after.indentlessItems fuel
      return (item :: others, ending)
    | _ => some ([], reading)

/-- Reads the entries of a block mapping. -/
def Reading.blockEntries (reading : Reading) : Nat → Option (List (Node × Node) × Reading)
  | 0 => none
  | fuel + 1 =>
    match reading.tokens with
    | .blockEnd :: _ => some ([], reading.drop)
    | .key :: _ => do
      let next := reading.drop
      let (key, afterKey) ←
        if next.isEmptyBefore endsBlockPart then some (emptyNode, next)
        else next.node .blockEntry fuel
      let (value, afterValue) ← afterKey.blockValue fuel
      let (others, ending) ← afterValue.blockEntries fuel
      return ((key, value) :: others, ending)
    | _ => none

/-- Reads the value of an entry of a block mapping, which may be absent. -/
def Reading.blockValue (reading : Reading) : Nat → Option (Node × Reading)
  | 0 => none
  | fuel + 1 =>
    match reading.tokens with
    | .value :: _ =>
      let next := reading.drop
      if next.isEmptyBefore endsBlockPart then some (emptyNode, next)
      else next.node .blockEntry fuel
    | _ => some (emptyNode, reading)

/-- Reads the items of a sequence in brackets. -/
def Reading.flowItems (reading : Reading) (first : Bool) : Nat → Option (List Node × Reading)
  | 0 => none
  | fuel + 1 =>
    match reading.tokens with
    | .flowSequenceEnd :: _ => some ([], reading.drop)
    | tokens => do
      let next ←
        if first then some reading
        else if tokens.head? = some .flowEntry then some reading.drop
        else none
      match next.tokens with
      | .flowSequenceEnd :: _ => return ([], next.drop)
      | .key :: _ => do
        let ends (token : Token) : Bool := token = .flowEntry || token = .flowSequenceEnd
        let inside := next.drop
        let (key, afterKey) ←
          if inside.isEmptyBefore fun token => token = .value || ends token then
            some (emptyNode, inside)
          else inside.node .flow fuel
        let (value, afterValue) ← afterKey.flowValue ends fuel
        let (others, ending) ← afterValue.flowItems false fuel
        return (.mapping mappingTag [(key, value)] :: others, ending)
      | _ => do
        let (item, after) ← next.node .flow fuel
        let (others, ending) ← after.flowItems false fuel
        return (item :: others, ending)

/-- Reads the value of an entry in brackets, which may be absent. -/
def Reading.flowValue (reading : Reading) (ends : Token → Bool) : Nat → Option (Node × Reading)
  | 0 => none
  | fuel + 1 =>
    match reading.tokens with
    | .value :: _ =>
      let next := reading.drop
      if next.isEmptyBefore ends then some (emptyNode, next) else next.node .flow fuel
    | _ => some (emptyNode, reading)

/-- Reads the entries of a mapping in braces. -/
def Reading.flowEntries (reading : Reading) (first : Bool) :
    Nat → Option (List (Node × Node) × Reading)
  | 0 => none
  | fuel + 1 =>
    match reading.tokens with
    | .flowMappingEnd :: _ => some ([], reading.drop)
    | tokens => do
      let next ←
        if first then some reading
        else if tokens.head? = some .flowEntry then some reading.drop
        else none
      let ends (token : Token) : Bool := token = .flowEntry || token = .flowMappingEnd
      match next.tokens with
      | .flowMappingEnd :: _ => return ([], next.drop)
      | .key :: _ => do
        let inside := next.drop
        let (key, afterKey) ←
          if inside.isEmptyBefore fun token => token = .value || ends token then
            some (emptyNode, inside)
          else inside.node .flow fuel
        let (value, afterValue) ← afterKey.flowValue ends fuel
        let (others, ending) ← afterValue.flowEntries false fuel
        return ((key, value) :: others, ending)
      | _ => do
        let (key, after) ← next.node .flow fuel
        let (others, ending) ← after.flowEntries false fuel
        return ((key, emptyNode) :: others, ending)

end

/-- The handles that every document knows. -/
def initialHandles : List (List Char × List Char) :=
  [(['!'], ['!']), (['!', '!'], standardPrefix.toList)]

/-- Reads the directives of a document: the handles it declares. A version is given at
    most once, and so is the meaning of a handle. -/
def directives (versioned : Bool) (handles : List (List Char × List Char)) :
    List Token → Option (List (List Char × List Char) × List Token)
  | .directive found :: rest =>
    match found with
    | .version major => if versioned || major ≠ 1 then none else directives true handles rest
    | .handle name meaning =>
      if (handles.lookup name).isSome then none
      else directives versioned ((name, meaning) :: handles) rest
    | .other => directives versioned handles rest
  | rest => some (handles ++ initialHandles, rest)

/-- Reads the content of a document that is opened by a mark. -/
def Reading.content (reading : Reading) (fuel : Nat) : Option (Node × Reading) :=
  match reading.tokens with
  | [] | .directive _ :: _ | .documentStart :: _ | .documentEnd :: _ => some (emptyNode, reading)
  | _ => reading.node .block fuel

/-- Reads tokens that hold at most one document. -/
def Node.ofTokens? (tokens : List Token) : Option (Option Node) := do
  let fuel := 4 * (tokens.length + 2)
  let atEnd (tokens : List Token) : Bool := (tokens.dropWhile (· = .documentEnd)).isEmpty
  match tokens with
  | [] => some none
  | .directive _ :: _ | .documentStart :: _ => opened tokens fuel atEnd
  | _ => do
    let (node, after) ← (Reading.mk tokens [] initialHandles).node .block fuel
    if atEnd after.tokens then some (some node) else none
where
  /-- Reads a document that is opened by a mark. -/
  opened (tokens : List Token) (fuel : Nat) (atEnd : List Token → Bool) : Option (Option Node) := do
    let (handles, rest) ← directives false [] tokens
    match rest with
    | .documentStart :: content =>
      let (node, after) ← (Reading.mk content [] handles).content fuel
      if atEnd after.tokens then some (some node) else none
    | _ => none

end LintReview.Yaml
