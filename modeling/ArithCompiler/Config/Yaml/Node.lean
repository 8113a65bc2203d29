import ArithCompiler.Config.Yaml.Token

/-!
# The tree of a document

Tokens form a tree of scalars, lists and tables. The value of an alias is found
while the tree is built: it is the latest value before the alias with the anchor
of that name. A value that is still open when its alias is met would contain
itself.
-/

namespace ArithCompiler.Config.Yaml

inductive Node where
  /-- A scalar without a tag is implicit if it was written without quotes. -/
  | scalar (line : Nat) (tag : String) (isImplicit : Bool) (text : String)
  | list (line : Nat) (items : List Node)
  | table (line : Nat) (entries : List (Node × Node))
  /-- An alias without a value stands inside the value of its anchor. -/
  | alias (name : String) (target : Option Node)

/-- A scalar that is left out. -/
def Node.empty (line : Nat) : Node := .scalar line "" true ""

/-- What an anchor names. -/
inductive Anchored where
  | done (n : Node)
  /-- A value under construction, by the number of those before it. -/
  | underway (number : Nat)

/-- What is left to build a tree from. -/
structure Feed where
  tokens : List Token
  /-- The fault behind the tokens. -/
  fault : Option Fault
  /-- What the handles of tags stand for. -/
  handles : List (String × String)
  /-- Latest first. -/
  anchors : List (String × Anchored)
  /-- The number of anchors of lists and tables so far. -/
  begun : Nat

abbrev Build := StateT Feed (Except Fault)

namespace Build

/-! ### Tokens -/

def fail {α : Type} (e : Fault) : Build α := throw e

def peek : Build Token := do
  let f ← get
  match f.tokens with
  | t :: _ => pure t
  | [] => fail (f.fault.getD (.form 0 .noContent))

def advance : Build Unit := modify fun f => { f with tokens := f.tokens.tail }

/-- Passes the present token and shows the next one. -/
def next : Build Token := do
  advance
  peek

/-! ### Anchors and tags -/

def nameNode (anchor : Option String) (n : Node) : Build Unit :=
  match anchor with
  | some name => modify fun f => { f with anchors := (name, .done n) :: f.anchors }
  | none => pure ()

/-- Builds a value that its own anchor names from the start. -/
def named (anchor : Option String) (build : Build Node) : Build Node :=
  match anchor with
  | none => build
  | some name => do
    let number := (← get).begun
    modify fun f => { f with anchors := (name, .underway number) :: f.anchors, begun := number + 1 }
    let n ← build
    modify fun f => { f with
      anchors := f.anchors.map fun (name, a) =>
        match a with
        | .underway k => (name, if k = number then .done n else a)
        | .done _ => (name, a) }
    pure n

def aliasNode (name : String) : Build Node := do
  match (← get).anchors.lookup name with
  | some (.done n) => pure (.alias name (some n))
  | some (.underway _) => pure (.alias name none)
  | none => fail (.unknownAnchor name)

/-- The full text of a tag. -/
def resolveTag (t : Tag) (begun line : Nat) : Build String := do
  if t.handle = "" then pure t.suffix
  else
    match (← get).handles.lookup t.handle with
    | some expansion => pure (expansion ++ t.suffix)
    | none => fail (.ofGrammar .undefinedHandle begun line)

/-- The anchor and the tag in front of a value, in either order. -/
def properties : Build (Option String × String) := do
  let t ← peek
  match t.kind with
  | .anchor name =>
    let u ← next
    match u.kind with
    | .tag tag =>
      advance
      pure (some name, ← resolveTag tag t.line u.line)
    | _ => pure (some name, "")
  | .tag tag =>
    let u ← next
    match u.kind with
    | .anchor name =>
      advance
      pure (some name, ← resolveTag tag t.line t.line)
    | _ => pure (none, ← resolveTag tag t.line t.line)
  | _ => pure (none, "")

/-! ### Values -/

/-- A token that no value of a block starts with. -/
def endsEntry : Token.Kind → Bool
  | .key | .value | .blockEnd => true
  | _ => false

mutual

/-- A value. `inBlock` says whether it may have block form, and `bare` whether it
may be a list whose dashes stand in the column of its key. -/
def node (inBlock bare : Bool) : (fuel : Nat) → Build Node
  | 0 => fail (.form 0 .noContent)
  | fuel + 1 => do
    let start ← peek
    match start.kind with
    | .alias name =>
      advance
      aliasNode name
    | _ =>
      let line := start.line
      let (anchor, tag) ← properties
      let t ← peek
      match t.kind with
      | .scalar text isPlain =>
        advance
        let n := Node.scalar line tag ((tag = "" && isPlain) || tag = "!") text
        nameNode anchor n
        pure n
      | .flowList =>
        advance
        named anchor (.list line <$> flowItems t.line true fuel)
      | .flowTable =>
        advance
        named anchor (.table line <$> flowEntries t.line true fuel)
      | k =>
        if bare && k = .item then named anchor (.list line <$> bareItems fuel)
        else if inBlock && k = .blockList then
          advance
          named anchor (.list line <$> blockItems t.line fuel)
        else if inBlock && k = .blockTable then
          advance
          named anchor (.table line <$> blockEntries t.line fuel)
        else if anchor.isSome || tag ≠ "" then
          let n := Node.scalar line tag (tag = "") ""
          nameNode anchor n
          pure n
        else fail (.ofGrammar .noContent line t.line)
termination_by structural fuel => fuel

/-- The items of a list in block form. -/
def blockItems (begun : Nat) : (fuel : Nat) → Build (List Node)
  | 0 => fail (.form 0 .noItem)
  | fuel + 1 => do
    let t ← peek
    match t.kind with
    | .item =>
      let u ← next
      let n ← if u.kind = .item || u.kind = .blockEnd then pure (Node.empty t.line)
        else node true false fuel
      let rest ← blockItems begun fuel
      pure (n :: rest)
    | .blockEnd =>
      advance
      pure []
    | _ => fail (.ofGrammar .noItem begun t.line)
termination_by structural fuel => fuel

/-- The items of a list in the column of its key. -/
def bareItems : (fuel : Nat) → Build (List Node)
  | 0 => fail (.form 0 .noItem)
  | fuel + 1 => do
    let t ← peek
    if t.kind = .item then
      let u ← next
      let n ← if u.kind = .item || endsEntry u.kind then pure (Node.empty t.line)
        else node true false fuel
      let rest ← bareItems fuel
      pure (n :: rest)
    else pure []
termination_by structural fuel => fuel

/-- The entries of a table in block form. A key may lack its value. -/
def blockEntries (begun : Nat) : (fuel : Nat) → Build (List (Node × Node))
  | 0 => fail (.form 0 .noKey)
  | fuel + 1 => do
    let t ← peek
    match t.kind with
    | .key =>
      let u ← next
      let key ← if endsEntry u.kind then pure (Node.empty t.line) else node true true fuel
      let v ← peek
      let value ← if v.kind = .value then do
          let w ← next
          if endsEntry w.kind then pure (Node.empty v.line) else node true true fuel
        else pure (Node.empty v.line)
      let rest ← blockEntries begun fuel
      pure ((key, value) :: rest)
    | .blockEnd =>
      advance
      pure []
    | _ => fail (.ofGrammar .noKey begun t.line)
termination_by structural fuel => fuel

/-- The items of a list in brackets. `isFirst` says that no comma comes before. -/
def flowItems (begun : Nat) (isFirst : Bool) : (fuel : Nat) → Build (List Node)
  | 0 => fail (.form 0 .noListEnd)
  | fuel + 1 => do
    let t ← peek
    if t.kind = .flowListEnd then
      advance
      pure []
    else
      let t ← if isFirst then pure t
        else if t.kind = .separator then next
        else fail (.ofGrammar .noListEnd begun t.line)
      if t.kind = .flowListEnd then
        advance
        pure []
      else
        let n ← if t.kind = .key then pairItem t.line fuel else node false false fuel
        let rest ← flowItems begun false fuel
        pure (n :: rest)
termination_by structural fuel => fuel

/-- An item that is a table of one entry without braces. A key that is left out
takes the token behind it along. -/
def pairItem (line : Nat) : (fuel : Nat) → Build Node
  | 0 => fail (.form 0 .noContent)
  | fuel + 1 => do
    let t ← next
    let key ← if t.kind = .value || t.kind = .separator || t.kind = .flowListEnd then do
        advance
        pure (Node.empty t.line)
      else node false false fuel
    let v ← peek
    let value ← if v.kind = .value then do
        let w ← next
        if w.kind = .separator || w.kind = .flowListEnd then pure (Node.empty w.line)
        else node false false fuel
      else pure (Node.empty v.line)
    pure (.table line [(key, value)])
termination_by structural fuel => fuel

/-- The entries of a table in braces. -/
def flowEntries (begun : Nat) (isFirst : Bool) : (fuel : Nat) → Build (List (Node × Node))
  | 0 => fail (.form 0 .noTableEnd)
  | fuel + 1 => do
    let t ← peek
    if t.kind = .flowTableEnd then
      advance
      pure []
    else
      let t ← if isFirst then pure t
        else if t.kind = .separator then next
        else fail (.ofGrammar .noTableEnd begun t.line)
      if t.kind = .flowTableEnd then
        advance
        pure []
      else
        let entry ← if t.kind = .key then flowEntry fuel
          else do
            let key ← node false false fuel
            pure (key, Node.empty t.line)
        let rest ← flowEntries begun false fuel
        pure (entry :: rest)
termination_by structural fuel => fuel

/-- An entry of a table in braces, from its key on. -/
def flowEntry : (fuel : Nat) → Build (Node × Node)
  | 0 => fail (.form 0 .noTableEnd)
  | fuel + 1 => do
    let t ← next
    let key ← if t.kind = .value || t.kind = .separator || t.kind = .flowTableEnd
      then pure (Node.empty t.line) else node false false fuel
    let v ← peek
    let value ← if v.kind = .value then do
        let w ← next
        if w.kind = .separator || w.kind = .flowTableEnd then pure (Node.empty w.line)
        else node false false fuel
      else pure (Node.empty v.line)
    pure (key, value)
termination_by structural fuel => fuel

end

/-! ### Documents -/

/-- What handles stand for if no directive says so. -/
def standardHandles : List (String × String) := [("!", "!"), ("!!", "tag:yaml.org,2002:")]

/-- The directives in front of a document. -/
def directives (hasVersion : Bool) (handles : List (String × String)) :
    (fuel : Nat) → Build (List (String × String))
  | 0 => pure handles
  | fuel + 1 => do
    let t ← peek
    match t.kind with
    | .directive (.version major minor) =>
      if hasVersion then fail (.ofGrammar .repeatedVersion 0 t.line)
      else if major ≠ 1 || minor ≠ 1 then fail (.ofGrammar .incompatibleVersion 0 t.line)
      else
        advance
        directives true handles fuel
    | .directive (.handle name expansion) =>
      if (handles.lookup name).isSome then fail (.ofGrammar .repeatedHandle 0 t.line)
      else
        advance
        directives hasVersion (handles ++ [(name, expansion)]) fuel
    | _ => pure handles

/-- A document behind its marker. -/
def markedDocument (fuel : Nat) : Build Node := do
  let handles ← directives false [] fuel
  modify fun f => { f with handles := handles ++ standardHandles }
  let t ← peek
  if t.kind ≠ .documentStart then fail (.ofGrammar .noDocumentStart 0 t.line)
  let u ← next
  match u.kind with
  | .directive _ | .documentStart | .documentEnd | .textEnd => pure (.empty u.line)
  | _ => node true false fuel

/-- The first document, if there is one. The token behind it is looked at, but may
be any. -/
def document (fuel : Nat) : Build (Option Node) := do
  let t ← peek
  match t.kind with
  | .textEnd => pure none
  | .directive _ | .documentStart =>
    let n ← markedDocument fuel
    discard peek
    pure (some n)
  | _ =>
    let n ← node true false fuel
    discard peek
    pure (some n)

end Build

/-- The tree of the first document of a text. -/
def Node.ofChars (cs : List Char) : Except Fault (Option Node) :=
  let (tokens, fault) := scan cs
  let fuel := 4 * tokens.length + 8
  ((Build.document fuel).run ⟨tokens, fault, Build.standardHandles, [], 0⟩).map (·.1)

end ArithCompiler.Config.Yaml
