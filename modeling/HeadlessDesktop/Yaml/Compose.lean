import HeadlessDesktop.Yaml.Node
import HeadlessDesktop.Yaml.TokenStream

/-! The first document of a token stream. -/

namespace HeadlessDesktop.Yaml

structure Composer where
  scanner : Scanner
  handles : List (String × String) := [("!", "!"), ("!!", coreTagSpace)]
  anchors : List (String × Nat) := []
  anchored : List (Nat × Node) := []
  aliases : Nat := 0
  slots : Nat := 0

abbrev Compose (α : Type) := StateT Composer Option α

namespace Compose

def peek : Compose Token := fun composer => do
  let (token, scanner) ← composer.scanner.peek
  pure (token, { composer with scanner })

def advance : Compose Unit :=
  modify fun composer => { composer with scanner := composer.scanner.advance }

def fail {α : Type} : Compose α := fun _ => none

/-- An anchor may be used before its node is complete, but not before it is seen. -/
def declare (name : Option String) : Compose (Option Nat) := fun composer =>
  match name with
  | none => some (none, composer)
  | some name =>
    some (some composer.slots,
      { composer with
        slots := composer.slots + 1
        anchors := (name, composer.slots) :: composer.anchors })

def define (slot : Option Nat) (node : Node) : Compose Node := fun composer =>
  match slot with
  | none => some (node, composer)
  | some slot => some (node, { composer with anchored := (slot, node) :: composer.anchored })

def aliasNode (line : Nat) (name : String) : Compose Node := fun composer => do
  let slot ← composer.anchors.lookup name
  pure (.alias line name slot composer.aliases, { composer with aliases := composer.aliases + 1 })

def expandTag (handle suffix : String) : Compose String := fun composer =>
  if handle = "" then some (suffix, composer)
  else do
    let expansion ← composer.handles.lookup handle
    let tag := expansion ++ suffix
    if tag = "" then none else some (tag, composer)

structure Properties where
  start : Mark
  anchor : Option String := none
  tag : String := ""

def readAnchor (properties : Properties) : Compose Properties := do
  match (← peek).kind with
  | .anchor name => advance; return { properties with anchor := some name }
  | _ => return properties

def readTag (properties : Properties) : Compose Properties := do
  match (← peek).kind with
  | .tag handle suffix =>
    advance
    -- The next token is looked at before the handle is.
    let _ ← peek
    return { properties with tag := ← expandTag handle suffix }
  | _ => return properties

def properties : Compose Properties := do
  let token ← peek
  let start : Properties := { start := token.start }
  match token.kind with
  | .tag _ _ => readAnchor (← readTag start)
  | _ => readTag (← readAnchor start)

def tagOr (properties : Properties) (default : String) : String :=
  if properties.tag = "" || properties.tag = "!" then default else shortTag properties.tag

def scalarNode (properties : Properties) (text : String) (style : Style) : Node :=
  let default := if style = .plain then (if text = "<<" then mergeTag else "") else strTag
  .scalar (properties.start.line + 1) (tagOr properties default) style text

def emptyScalar (mark : Mark) : Node := .scalar (mark.line + 1) "" .plain ""

def isOneOf (kinds : List Token.Kind) (token : Token) : Bool := kinds.contains token.kind

mutual

/-- A node. Blocks may start only where `block` says so, and a sequence without indentation
of its own only where `indentless` does. -/
def node (block indentless : Bool) : (steps : Nat) → Compose Node
  | 0 => fail
  | steps + 1 => do
    let first ← peek
    match first.kind with
    | .alias name =>
      advance
      aliasNode (first.start.line + 1) name
    | _ =>
      let properties ← properties
      let token ← peek
      let slot ← declare properties.anchor
      let line := properties.start.line + 1
      match token.kind with
      | .scalar text style =>
        advance
        define slot (scalarNode properties text style)
      | .flowSequenceStart =>
        advance
        define slot (.sequence line (tagOr properties seqTag) (← flowItems true steps))
      | .flowMappingStart =>
        advance
        define slot (.mapping line (tagOr properties mapTag) (← flowEntries true steps))
      | .blockEntry =>
        if indentless then
          define slot (.sequence line (tagOr properties seqTag) (← indentlessItems steps))
        else emptyNode slot properties
      | .blockSequenceStart =>
        if block then
          advance
          define slot (.sequence line (tagOr properties seqTag) (← blockItems steps))
        else emptyNode slot properties
      | .blockMappingStart =>
        if block then
          advance
          define slot (.mapping line (tagOr properties mapTag) (← blockEntries steps))
        else emptyNode slot properties
      | _ => emptyNode slot properties

def emptyNode (slot : Option Nat) (properties : Properties) : Compose Node :=
  if properties.anchor.isSome || properties.tag ≠ "" then
    define slot (scalarNode properties "" .plain)
  else fail

def blockItems : (steps : Nat) → Compose (List Node)
  | 0 => fail
  | steps + 1 => do
    let token ← peek
    match token.kind with
    | .blockEntry =>
      advance
      let item ←
        if isOneOf [.blockEntry, .blockEnd] (← peek) then pure (emptyScalar token.stop)
        else node true false steps
      return item :: (← blockItems steps)
    | .blockEnd => advance; return []
    | _ => fail

def indentlessItems : (steps : Nat) → Compose (List Node)
  | 0 => fail
  | steps + 1 => do
    let token ← peek
    match token.kind with
    | .blockEntry =>
      advance
      let item ←
        if isOneOf [.blockEntry, .key, .value, .blockEnd] (← peek) then
          pure (emptyScalar token.stop)
        else node true false steps
      return item :: (← indentlessItems steps)
    | _ => return []

def blockEntries : (steps : Nat) → Compose (List (Node × Node))
  | 0 => fail
  | steps + 1 => do
    let token ← peek
    match token.kind with
    | .key =>
      advance
      let key ←
        if isOneOf [.key, .value, .blockEnd] (← peek) then pure (emptyScalar token.stop)
        else node true true steps
      let value ← blockValue steps
      return (key, value) :: (← blockEntries steps)
    | .blockEnd => advance; return []
    | _ => fail

def blockValue : (steps : Nat) → Compose Node
  | 0 => fail
  | steps + 1 => do
    let token ← peek
    match token.kind with
    | .value =>
      advance
      if isOneOf [.key, .value, .blockEnd] (← peek) then return emptyScalar token.stop
      else node true true steps
    | _ => return emptyScalar token.start

def flowItems (first : Bool) : (steps : Nat) → Compose (List Node)
  | 0 => fail
  | steps + 1 => do
    if (← peek).kind = .flowSequenceEnd then advance; return []
    if !first then
      if (← peek).kind = .flowEntry then advance else fail
    let token ← peek
    match token.kind with
    | .flowSequenceEnd => advance; return []
    | .key =>
      advance
      let item ← flowPair token.start steps
      return item :: (← flowItems false steps)
    | _ =>
      let item ← node false false steps
      return item :: (← flowItems false steps)

def flowPair (start : Mark) : (steps : Nat) → Compose Node
  | 0 => fail
  | steps + 1 => do
    let token ← peek
    let key ←
      if isOneOf [.value, .flowEntry, .flowSequenceEnd] token then
        advance
        pure (emptyScalar token.stop)
      else node false false steps
    let value ← flowValue .flowSequenceEnd steps
    return .mapping (start.line + 1) mapTag [(key, value)]

def flowValue (closing : Token.Kind) : (steps : Nat) → Compose Node
  | 0 => fail
  | steps + 1 => do
    let token ← peek
    match token.kind with
    | .value =>
      advance
      let next ← peek
      if isOneOf [.flowEntry, closing] next then return emptyScalar next.start
      else node false false steps
    | _ => return emptyScalar token.start

def flowEntries (first : Bool) : (steps : Nat) → Compose (List (Node × Node))
  | 0 => fail
  | steps + 1 => do
    if (← peek).kind = .flowMappingEnd then advance; return []
    if !first then
      if (← peek).kind = .flowEntry then advance else fail
    let token ← peek
    match token.kind with
    | .flowMappingEnd => advance; return []
    | .key =>
      advance
      let next ← peek
      let key ←
        if isOneOf [.value, .flowEntry, .flowMappingEnd] next then pure (emptyScalar next.start)
        else node false false steps
      let value ← flowValue .flowMappingEnd steps
      return (key, value) :: (← flowEntries false steps)
    | _ =>
      let key ← node false false steps
      let value := emptyScalar (← peek).start
      return (key, value) :: (← flowEntries false steps)

end

def directives (versioned : Bool) (declared : List String) : (steps : Nat) → Compose Unit
  | 0 => fail
  | steps + 1 => do
    match (← peek).kind with
    | .versionDirective major minor =>
      if versioned || major ≠ 1 || minor ≠ 1 then fail
      advance
      directives true declared steps
    | .tagDirective handle expansion =>
      if declared.contains handle then fail
      advance
      modify fun composer => { composer with handles := (handle, expansion) :: composer.handles }
      directives versioned (handle :: declared) steps
    | _ => return ()

/-- The root node, if there is a document. What follows the root is looked at but may be
anything. -/
def document (steps : Nat) : Compose (Option Node) := do
  let _ ← peek
  advance
  match (← peek).kind with
  | .streamEnd => return none
  | .versionDirective _ _ | .tagDirective _ _ | .documentStart =>
    directives false [] steps
    if (← peek).kind ≠ .documentStart then fail
    advance
    let token ← peek
    let root ← match token.kind with
      | .versionDirective _ _ | .tagDirective _ _ | .documentStart | .documentEnd | .streamEnd =>
        pure (emptyScalar token.start)
      | _ => node true false steps
    let _ ← peek
    return some root
  | _ =>
    let root ← node true false steps
    let _ ← peek
    return some root

end Compose

/-- The first document of a text, `some none` if there is none, `none` if the text is not
well formed as far as it has to be read. -/
def parse (text : String) : Option (Option Document) := do
  let scanner ← Scanner.ofText text.toList
  let (root, composer) ← (Compose.document (16 * scanner.cursor.bound + 64)).run { scanner }
  pure (root.map fun root => { root, anchored := composer.anchored })

end HeadlessDesktop.Yaml
