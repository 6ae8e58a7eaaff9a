/-
YAML documents.

* `Yaml.Node` — scalars, lists and maps, with their tags.
* `Yaml.Node.ofText?` — the document of a text: nothing inside when the text holds none,
  and nothing at all when the text makes no sense or holds several.

Design notes: an alias is replaced by the node of its name as soon as it is met, so a node
holds no names.  The readers take the tokens and answer what is left of them.
-/
import AgentWorkflow.Table
import AgentWorkflow.Yaml.Token

namespace AgentWorkflow.Yaml

inductive Node where
  | scalar (text : String) (isPlain : Bool) (tag : Option String)
  | list (items : List Node)
  | map (pairs : List (Node × Node))
  deriving Inhabited

namespace Node

/-- A scalar of which nothing is written. -/
def empty : Node := .scalar "" true none

def setTag (tag : Option String) : Node → Node
  | .scalar text isPlain _ => .scalar text isPlain tag
  | other => other

/-- What is left of the tokens, and the nodes with names. -/
structure Reading where
  tokens : List Token
  names : Table Node
  /-- What the handles of tags stand for. -/
  handles : List (String × String)

namespace Reading

def next (r : Reading) : Reading := { r with tokens := r.tokens.tail }

def peek? (r : Reading) : Option Token := r.tokens.head?

/-- Whether one of a few tokens comes next, or none. -/
def stopsAt (r : Reading) (stops : List Token) : Bool :=
  match r.peek? with
  | none => true
  | some t => stops.contains t

/-- Takes a token that has to come next. -/
def expect (r : Reading) (t : Token) : Option Reading :=
  if r.peek? = some t then some r.next else none

end Reading

/-! ### Anchors and tags -/

/-- What the handles stand for where nothing else is said. -/
def standardHandles : List (String × String) := [("!", "!"), ("!!", "tag:yaml.org,2002:")]

/-- The tag that is meant. -/
def fullTag (r : Reading) (handle suffix : String) : Option String :=
  if handle.isEmpty then some suffix
  else (r.handles.lookup handle).map fun front => front ++ suffix

/-- The name and the tag before a node. -/
structure Properties where
  anchor : Option String
  tag : Option String

/-- Takes the name and the tag before a node, in either order. -/
def properties : Nat → Properties → Reading → Option (Properties × Reading)
  | 0, p, r => some (p, r)
  | fuel + 1, p, r =>
    match r.peek? with
    | some (.anchor name) =>
      if p.anchor.isSome then some (p, r) else properties fuel { p with anchor := some name } r.next
    | some (.tag handle suffix) =>
      if p.tag.isSome then some (p, r)
      else
        match fullTag r handle suffix with
        | none => none
        | some tag => properties fuel { p with tag := some tag } r.next
    | _ => some (p, r)

/-- Gives a node its name and its tag. -/
def finish (p : Properties) (n : Node) (r : Reading) : Node × Reading :=
  let n := n.setTag p.tag
  match p.anchor with
  | none => (n, r)
  | some name => (n, { r with names := Table.insert r.names name n })

/-! ### Nodes -/

mutual

/-- A node.  `inLines` tells whether it may be a collection of lines, and `dashes`
whether that may be a list that is not indented. -/
def node : Nat → Bool → Bool → Reading → Option (Node × Reading)
  | 0, _, _, _ => none
  | fuel + 1, inLines, dashes, r =>
    match r.peek? with
    | some (.alias name) => (Table.get? r.names name).map fun n => (n, r.next)
    | _ => do
      let (p, r) ← properties 2 ⟨none, none⟩ r
      let (n, r) ← content fuel inLines dashes (p.anchor.isSome || p.tag.isSome) r
      some (finish p n r)

/-- What follows the name and the tag of a node; after these there may be nothing. -/
def content : Nat → Bool → Bool → Bool → Reading → Option (Node × Reading)
  | 0, _, _, _, _ => none
  | fuel + 1, inLines, dashes, mayBeEmpty, r =>
    let nothing := if mayBeEmpty then some (empty, r) else none
    match r.peek? with
    | some (.scalar text isPlain) => some (.scalar text isPlain none, r.next)
    | some .openList => (flowItems fuel true r.next).map fun (items, r) => (.list items, r)
    | some .openMap => (flowPairs fuel true r.next).map fun (pairs, r) => (.map pairs, r)
    | some .dash =>
      if dashes then (looseItems fuel r).map fun (items, r) => (.list items, r) else nothing
    | some .blockList =>
      if inLines then (blockItems fuel r.next).map fun (items, r) => (.list items, r) else nothing
    | some .blockMap =>
      if inLines then (blockPairs fuel r.next).map fun (pairs, r) => (.map pairs, r) else nothing
    | _ => nothing

/-- A node, or nothing before one of a few tokens. -/
def nodeUnless : Nat → Bool → Bool → List Token → Reading → Option (Node × Reading)
  | 0, _, _, _, _ => none
  | fuel + 1, inLines, dashes, stops, r =>
    if r.stopsAt stops then some (empty, r) else node fuel inLines dashes r

/-- The items of a list of lines up to its end. -/
def blockItems : Nat → Reading → Option (List Node × Reading)
  | 0, _ => none
  | fuel + 1, r =>
    match r.peek? with
    | some .blockEnd => some ([], r.next)
    | some .dash => do
      let (n, r) ← nodeUnless fuel true false [.dash, .blockEnd] r.next
      let (more, r) ← blockItems fuel r
      some (n :: more, r)
    | _ => none

/-- The items of a list that is not indented. -/
def looseItems : Nat → Reading → Option (List Node × Reading)
  | 0, _ => none
  | fuel + 1, r =>
    match r.peek? with
    | some .dash => do
      let (n, r) ← nodeUnless fuel true false [.dash, .key, .colon, .blockEnd] r.next
      let (more, r) ← looseItems fuel r
      some (n :: more, r)
    | _ => some ([], r)

/-- The pairs of a map of lines up to its end. -/
def blockPairs : Nat → Reading → Option (List (Node × Node) × Reading)
  | 0, _ => none
  | fuel + 1, r =>
    match r.peek? with
    | some .blockEnd => some ([], r.next)
    | some .key => do
      let stops := [Token.key, .colon, .blockEnd]
      let (k, r) ← nodeUnless fuel true true stops r.next
      let (v, r) ←
        if r.peek? = some .colon then nodeUnless fuel true true stops r.next else some (empty, r)
      let (more, r) ← blockPairs fuel r
      some ((k, v) :: more, r)
    | _ => none

/-- A pair in brackets behind its key.  `close` is the bracket at the end. -/
def flowValue : Nat → Token → Reading → Option (Node × Reading)
  | 0, _, _ => none
  | fuel + 1, close, r =>
    if r.peek? = some .colon then nodeUnless fuel false false [.comma, close] r.next
    else some (empty, r)

/-- The items of a list in brackets up to its end. -/
def flowItems : Nat → Bool → Reading → Option (List Node × Reading)
  | 0, _, _ => none
  | fuel + 1, isFirst, r =>
    match r.peek? with
    | some .closeList => some ([], r.next)
    | _ => do
      let r ← if isFirst then some r else r.expect .comma
      match r.peek? with
      | some .closeList => some ([], r.next)
      | some .key => do
        let (k, r) ← nodeUnless fuel false false [.colon, .comma, .closeList] r.next
        let (v, r) ← flowValue fuel .closeList r
        let (more, r) ← flowItems fuel false r
        some (.map [(k, v)] :: more, r)
      | _ => do
        let (n, r) ← node fuel false false r
        let (more, r) ← flowItems fuel false r
        some (n :: more, r)

/-- The pairs of a map in braces up to its end. -/
def flowPairs : Nat → Bool → Reading → Option (List (Node × Node) × Reading)
  | 0, _, _ => none
  | fuel + 1, isFirst, r =>
    match r.peek? with
    | some .closeMap => some ([], r.next)
    | _ => do
      let r ← if isFirst then some r else r.expect .comma
      match r.peek? with
      | some .closeMap => some ([], r.next)
      | some .key => do
        let (k, r) ← nodeUnless fuel false false [.colon, .comma, .closeMap] r.next
        let (v, r) ← flowValue fuel .closeMap r
        let (more, r) ← flowPairs fuel false r
        some ((k, v) :: more, r)
      | _ => do
        let (k, r) ← node fuel false false r
        let (more, r) ← flowPairs fuel false r
        some ((k, empty) :: more, r)

end

/-! ### Documents -/

/-- Takes the directives before a document.  The flag says whether there were any. -/
def directives : Nat → Reading → Option (Bool × Reading)
  | 0, r => some (false, r)
  | fuel + 1, r =>
    match r.peek? with
    | some (.directive "YAML" [version]) =>
      if version = "1.1" || version = "1.2" then
        (directives fuel r.next).map fun (_, r) => (true, r)
      else none
    | some (.directive "TAG" [handle, front]) =>
      let r := { r.next with handles := (handle, front) :: r.handles }
      (directives fuel r).map fun (_, r) => (true, r)
    | some (.directive _ _) => none
    | _ => some (false, r)

/-- The tokens behind marks that end a document. -/
def skipEnds (r : Reading) : Reading :=
  { r with tokens := r.tokens.dropWhile (· = .documentEnd) }

/-- The node of a document behind its mark. -/
def documentNode (r : Reading) : Option (Node × Reading) :=
  let isEmpty := match r.peek? with
    | none | some .documentStart | some .documentEnd | some (.directive _ _) => true
    | _ => false
  if isEmpty then some (empty, r) else node (4 * r.tokens.length + 4) true false r

/-- The document that the tokens spell. -/
def ofTokens? (tokens : List Token) : Option (Option Node) := do
  let (given, r) ← directives tokens.length ⟨tokens, [], standardHandles⟩
  match r.peek? with
  | none => if given then none else some none
  | some t => do
    let (n, r) ←
      if t = .documentStart then documentNode r.next
      else if given then none
      else if t = .documentEnd then
        (if (skipEnds r).tokens.isEmpty then some (empty, r) else none)
      else node (4 * r.tokens.length + 4) true false r
    if (skipEnds r).tokens.isEmpty then some (some n) else none

def ofText? (s : String) : Option (Option Node) := (Token.ofText? s).bind ofTokens?

end Node

end AgentWorkflow.Yaml
