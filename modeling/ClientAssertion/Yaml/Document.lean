/-
**YAML documents.**

* `nodeWithin?` reads a node from words: a collection or a text, which may have an anchor for aliases
  behind it, or an alias;
* `documents?` are the nodes of all documents of a text;
* `Yaml.ofText?` is the value of the only document of a text.
-/

import ClientAssertion.Yaml.Node
import ClientAssertion.Yaml.Token

namespace ClientAssertion.Yaml

/-! ### Anchors -/

/-- The nodes with anchors. -/
structure Anchors where
  /-- Which anchor a name stands for. -/
  names : List (String × Nat)
  /-- The nodes of anchors, as far as they are complete. -/
  nodes : List (Nat × Node)
  count : Nat
  /-- What handles stand for. -/
  handles : List (String × String)

namespace Anchors

/-- No anchors. -/
def none : Anchors := ⟨[], [], 0, []⟩

/-- The anchors with a new one. -/
def add (anchors : Anchors) (name : String) : Anchors :=
  { anchors with names := (name, anchors.count) :: anchors.names, count := anchors.count + 1 }

/-- The anchors with the node of one of them. -/
def complete (anchors : Anchors) (anchor : Option Nat) (node : Node) : Anchors :=
  match anchor with
  | some number => { anchors with nodes := (number, node) :: anchors.nodes }
  | .none => anchors

/-- The node that an alias stands for. -/
def node? (anchors : Anchors) (name : String) : Option Node :=
  (anchors.names.lookup name).map fun number => (anchors.nodes.lookup number).getD .bad

/-- The tag of a handle and a suffix.  Two exclamation marks stand for the core schema unless a
directive says otherwise; another handle between exclamation marks has to be declared. -/
def tag? (anchors : Anchors) (handle suffix : String) : Option (String × String) :=
  match anchors.handles.lookup handle with
  | some meaning => some (meaning, suffix)
  | .none =>
    if handle = "!!" then some (Node.core, suffix)
    else if 2 ≤ handle.length ∧ handle.endsWith "!" then .none
    else some (handle, suffix)

end Anchors

/-! ### Nodes -/

/-- The anchor and the tag before a node, and the words behind them. -/
def properties? (anchors : Anchors) (tokens : List Token) :
    Option (Option Nat × Option (String × String) × Anchors × List Token) :=
  match tokens with
  | .anchor name _ :: .tag handle suffix _ :: rest => do
    return (anchors.count, ← anchors.tag? handle suffix, anchors.add name, rest)
  | .tag handle suffix _ :: .anchor name _ :: rest => do
    return (anchors.count, ← anchors.tag? handle suffix, anchors.add name, rest)
  | .anchor name _ :: rest => some (some anchors.count, none, anchors.add name, rest)
  | .tag handle suffix _ :: rest => do return (none, ← anchors.tag? handle suffix, anchors, rest)
  | tokens => some (none, none, anchors, tokens)

/-- A word that ends an entry of a block mapping. -/
def endsEntry (tokens : List Token) : Bool :=
  match tokens with
  | .key :: _ | .value :: _ | .blockEnd :: _ => true
  | _ => false

/-- A word that ends an item of a block sequence. -/
def endsItem (tokens : List Token) : Bool :=
  match tokens with
  | .item :: _ | .blockEnd :: _ => true
  | _ => false

/-- A word that ends an entry of a flow collection. -/
def endsFlowEntry (tokens : List Token) : Bool :=
  match tokens with
  | .comma :: _ | .flowMappingEnd :: _ | .flowSequenceEnd :: _ => true
  | _ => false

/-- What stands before a collection. -/
structure Properties where
  anchor : Option Nat
  tag : Option (String × String)

/-- What has been read, with the anchors and words behind it. -/
abbrev Reading (α : Type) := α × Anchors × List Token

mutual

/-- The node at the start of words, in which no more than `fuel` nodes are nested or follow each
other.  A block collection may stand there or not, and so may the items of a sequence that is not
indented. -/
def nodeWithin? : (fuel : Nat) → (mayBlock mayItems : Bool) → Anchors → List Token → Option (Reading Node)
  | 0, _, _, _, _ => none
  | fuel + 1, mayBlock, mayItems, anchors, tokens => do
    match tokens with
    | .alias name :: rest => return (← anchors.node? name, anchors, rest)
    | tokens =>
      let (anchor, tag, anchors, tokens) ← properties? anchors tokens
      let (node, anchors, rest) ← contentWithin? fuel mayBlock mayItems ⟨anchor, tag⟩ anchors tokens
      return (node, anchors.complete anchor node, rest)

/-- The content of a node behind its properties; without content these make an empty text. -/
def contentWithin? : (fuel : Nat) → (mayBlock mayItems : Bool) → Properties → Anchors → List Token →
    Option (Reading Node)
  | 0, _, _, _, _, _ => none
  | fuel + 1, mayBlock, mayItems, properties, anchors, tokens => do
    match tokens, mayBlock, mayItems with
    | .item :: _, _, true =>
      let (items, anchors, rest) ← itemsWithin? fuel false anchors tokens
      return (.list items, anchors, rest)
    | .scalar isPlain text :: rest, _, _ => return (.ofScalar isPlain properties.tag text, anchors, rest)
    | .flowSequence :: rest, _, _ =>
      let (items, anchors, rest) ← flowItemsWithin? fuel true anchors rest
      return (.list items, anchors, rest)
    | .flowMapping :: rest, _, _ =>
      let (nodes, anchors, rest) ← flowEntriesWithin? fuel true anchors rest
      return (← Node.ofEntries? [] nodes, anchors, rest)
    | .blockSequence :: rest, true, _ =>
      let (items, anchors, rest) ← itemsWithin? fuel true anchors rest
      return (.list items, anchors, rest)
    | .blockMapping :: rest, true, _ =>
      let (nodes, anchors, rest) ← entriesWithin? fuel anchors rest
      return (← Node.ofEntries? [] nodes, anchors, rest)
    | tokens, _, _ =>
      if properties.anchor.isSome ∨ properties.tag.isSome then
        return (.ofScalar true properties.tag "", anchors, tokens)
      else none

/-- The items of a block sequence, which ends with a mark of its own if it is indented. -/
def itemsWithin? : (fuel : Nat) → (isIndented : Bool) → Anchors → List Token → Option (Reading (List Node))
  | 0, _, _, _ => none
  | fuel + 1, isIndented, anchors, tokens => do
    match tokens with
    | .item :: rest =>
      let isEmpty := endsItem rest || (!isIndented && endsEntry rest)
      let (item, anchors, rest) ←
        if isEmpty then some (.nothing, anchors, rest) else nodeWithin? fuel true false anchors rest
      let (items, anchors, rest) ← itemsWithin? fuel isIndented anchors rest
      return (item :: items, anchors, rest)
    | .blockEnd :: rest => return ([], anchors, if isIndented then rest else tokens)
    | tokens => if isIndented then none else return ([], anchors, tokens)

/-- The keys and values of a block mapping in turn, up to its end. -/
def entriesWithin? : (fuel : Nat) → Anchors → List Token → Option (Reading (List Node))
  | 0, _, _ => none
  | fuel + 1, anchors, tokens => do
    let entry (anchors : Anchors) (rest : List Token) : Option (Reading Node) :=
      if endsEntry rest then some (.nothing, anchors, rest) else nodeWithin? fuel true true anchors rest
    match tokens with
    | .blockEnd :: rest => return ([], anchors, rest)
    | .key :: rest =>
      let (key, anchors, rest) ← entry anchors rest
      let (value, anchors, rest) ←
        match rest with
        | .value :: rest => entry anchors rest
        | rest => some (.nothing, anchors, rest)
      let (nodes, anchors, rest) ← entriesWithin? fuel anchors rest
      return (key :: value :: nodes, anchors, rest)
    | .value :: rest =>
      let (value, anchors, rest) ← entry anchors rest
      let (nodes, anchors, rest) ← entriesWithin? fuel anchors rest
      return (.nothing :: value :: nodes, anchors, rest)
    | _ => none

/-- The items of a flow sequence up to its end, with commas between them. -/
def flowItemsWithin? : (fuel : Nat) → (isFirst : Bool) → Anchors → List Token → Option (Reading (List Node))
  | 0, _, _, _ => none
  | fuel + 1, isFirst, anchors, tokens => do
    let tokens ←
      match tokens, isFirst with
      | .flowSequenceEnd :: _, _ => some tokens
      | .comma :: rest, false => some rest
      | _, false => none
      | tokens, true => some tokens
    match tokens with
    | .flowSequenceEnd :: rest => return ([], anchors, rest)
    | .key :: rest =>
      let (nodes, anchors, rest) ← pairWithin? fuel anchors rest
      let (items, anchors, rest) ← flowItemsWithin? fuel false anchors rest
      return ((← Node.ofEntries? [] nodes) :: items, anchors, rest)
    | tokens =>
      let (item, anchors, rest) ← nodeWithin? fuel false false anchors tokens
      let (items, anchors, rest) ← flowItemsWithin? fuel false anchors rest
      return (item :: items, anchors, rest)

/-- The key and the value of one entry of a flow collection, behind the mark of the key. -/
def pairWithin? : (fuel : Nat) → Anchors → List Token → Option (Reading (List Node))
  | 0, _, _ => none
  | fuel + 1, anchors, tokens => do
    let (key, anchors, rest) ←
      match tokens with
      | .value :: _ => some (.nothing, anchors, tokens)
      | tokens =>
        if endsFlowEntry tokens then some (.nothing, anchors, tokens)
        else nodeWithin? fuel false false anchors tokens
    match rest with
    | .value :: rest =>
      let (value, anchors, rest) ←
        if endsFlowEntry rest then some (.nothing, anchors, rest)
        else nodeWithin? fuel false false anchors rest
      return ([key, value], anchors, rest)
    | rest => return ([key, .nothing], anchors, rest)

/-- The keys and values of a flow mapping in turn, up to its end, with commas between the entries. -/
def flowEntriesWithin? : (fuel : Nat) → (isFirst : Bool) → Anchors → List Token → Option (Reading (List Node))
  | 0, _, _, _ => none
  | fuel + 1, isFirst, anchors, tokens => do
    let tokens ←
      match tokens, isFirst with
      | .flowMappingEnd :: _, _ => some tokens
      | .comma :: rest, false => some rest
      | _, false => none
      | tokens, true => some tokens
    match tokens with
    | .flowMappingEnd :: rest => return ([], anchors, rest)
    | tokens =>
      let (pair, anchors, rest) ←
        match tokens with
        | .key :: rest => pairWithin? fuel anchors rest
        | .value :: _ => pairWithin? fuel anchors tokens
        | tokens =>
          (nodeWithin? fuel false false anchors tokens).map fun (key, anchors, rest) =>
            ([key, .nothing], anchors, rest)
      let (nodes, anchors, rest) ← flowEntriesWithin? fuel false anchors rest
      return (pair ++ nodes, anchors, rest)

end

/-! ### Documents -/

/-- What handles stand for by the directives before a document, and the words behind these.  The
version is given once. -/
def directives? (hasVersion : Bool) (handles : List (String × String)) :
    List Token → Option (List (String × String) × List Token)
  | .version :: tokens => if hasVersion then none else directives? true handles tokens
  | .handle name meaning :: tokens =>
    directives? hasVersion (if name = "" then handles else (name, meaning) :: handles) tokens
  | tokens => some (handles, tokens)

/-- A document begins here with a mark of its own or a directive. -/
def beginsExplicitly (tokens : List Token) : Bool :=
  match tokens with
  | .version :: _ | .handle _ _ :: _ | .documentStart :: _ => true
  | _ => false

/-- A document that has been begun is empty. -/
def isEmptyDocument (tokens : List Token) : Bool :=
  match tokens with
  | [] | .documentEnd :: _ => true
  | tokens => beginsExplicitly tokens

/-- The nodes of the documents at the start of words, of which no more than `fuel` are read.  Only
behind the end of a document may one begin without a mark. -/
def documentsWithin? (mayBegin : Bool) : (fuel : Nat) → List Token → Option (List Node)
  | 0, _ => none
  | fuel + 1, tokens => do
    match tokens with
    | [] => return []
    | .documentEnd :: rest => documentsWithin? mayBegin fuel rest
    | tokens =>
      let (handles, begun) ← directives? false [] tokens
      let (node, rest) ←
        match begun with
        | .documentStart :: rest =>
          if isEmptyDocument rest then some (.nothing, rest)
          else
            (nodeWithin? (4 * rest.length + 4) true false { Anchors.none with handles } rest).map
              fun (node, _, rest) => (node, rest)
        | rest =>
          if mayBegin ∧ !beginsExplicitly tokens then
            (nodeWithin? (4 * rest.length + 4) true false Anchors.none rest).map
              fun (node, _, rest) => (node, rest)
          else none
      match rest with
      | .documentEnd :: rest => return node :: (← documentsWithin? true fuel rest)
      | .version :: _ | .handle _ _ :: _ => none
      | rest => return node :: (← documentsWithin? false fuel rest)

/-- The nodes of the documents of a text. -/
def documents? (text : String) : Option (List Node) := do
  let tokens ← tokens? text
  documentsWithin? true (tokens.length + 2) tokens

/-- The value of the only document of a text, an empty table if there is none. -/
def ofText? (text : String) : Option Data := do
  match ← documents? text with
  | [] => some (.table [])
  | [node] => node.data?
  | _ => none

end ClientAssertion.Yaml
