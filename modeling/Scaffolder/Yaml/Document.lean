import Scaffolder.Yaml.Node
import Scaffolder.Yaml.Scan

/-!
# Documents

A list of tokens as a tree of nodes. A text holds at most one document; a text without any is a
document without a root.

An alias stands for the node that carries its anchor. Anchors are numbered in the order in which
their nodes start: a node's number is the count of the names used before it, so a name used again
takes over the number of the next new name. An alias means the last node of its number.

`Document.parse?` reads a text.
-/

namespace Scaffolder.Yaml

/-- A document. -/
structure Document where
  /-- The node that all others are part of. -/
  root : Option Node
  /-- The node of every number that an alias may stand for. -/
  anchored : List (Nat × Node)

/-- The state of reading nodes. -/
structure Reading where
  /-- The tokens not yet read. -/
  tokens : List Token
  /-- The tag handles. -/
  handles : List (TagText × TagText) := standardHandles
  /-- The number that each anchor name stands for now. -/
  names : List (List Char × Nat) := []
  /-- For each number the anchored nodes that had it, the last first. Nodes are counted from the
  first anchored one. -/
  holders : List (Nat × Nat) := []
  /-- The anchored nodes read to their end, with their count. -/
  finished : List (Nat × Node) := []

/-- An operation on the state, which may refuse. -/
abbrev Read (α : Type) := StateT Reading Option α

namespace Read

/-- The next token. -/
def peek : Read Token := fun s => (s.tokens.head?.getD .streamEnd, s)

/-- Passes over a token. -/
def skip : Read Unit := fun s => ((), { s with tokens := s.tokens.tail })

/-- Passes over the next token if it is the given one, and tells whether it was. -/
def accept (t : Token) : Read Bool := do
  if (← peek) = t then
    skip
    pure true
  else pure false

/-- Whether the next token is one of some. -/
def atOneOf (ts : List Token) : Read Bool := do
  pure (ts.contains (← peek))

/-- The number of an anchor name. -/
def numberOf (name : List Char) : Read Nat := do
  match (← get).names.lookup name with
  | some number => pure number
  | none => failure

/-- Starts an anchored node, and gives back its count. -/
def startAnchored (name : List Char) : Read Nat := fun s =>
  let number := s.names.length
  let count := s.holders.length
  some (count, { s with
    names := (name, number) :: s.names.filter fun n => n.1 ≠ name
    holders := (number, count) :: s.holders })

/-- Ends an anchored node. -/
def endAnchored (count : Nat) (node : Node) : Read Unit :=
  modify fun s => { s with finished := (count, node) :: s.finished }

/-! ## Properties -/

/-- The anchor that is written here, if one is. -/
def anchor? : Read (Option (List Char)) := do
  match ← peek with
  | .anchor name =>
      skip
      pure (some name)
  | _ => pure none

/-- The tag that is written here, if one is. -/
def tag? : Read (Option TagText) := do
  match ← peek with
  | .tag tag =>
      skip
      match tag.resolve? (← get).handles with
      | some tag => pure (some tag)
      | none => failure
  | _ => pure none

/-- The anchor and the tag that are written here, in either order. -/
def properties : Read (Option (List Char) × Option TagText) := do
  match ← anchor? with
  | some name => pure (some name, ← tag?)
  | none =>
      let tag ← tag?
      if tag.isSome then pure (← anchor?, tag) else pure (none, none)

/-! ## Nodes -/

mutual

/-- A node. `inLines` holds where lists and mappings of lines may start, `dashes` where a list
may start without being indented. -/
def node (inLines dashes : Bool) : Nat → Read Node
  | 0 => failure
  | n + 1 => do
      match ← peek with
      | .alias name =>
          skip
          pure (.alias (← numberOf name))
      | _ => do
          let (anchor, tag) ← properties
          let count ←
            match anchor with
            | some name => some <$> startAnchored name
            | none => pure none
          let made ←
            match ← peek with
            | .scalar style text => do
                skip
                pure (.scalar tag style text)
            | .flowSequenceStart => do
                skip
                pure (.list tag (← flowItems true n))
            | .flowMappingStart => do
                skip
                pure (.record tag (← flowEntries true n))
            | .blockEntry =>
                if dashes then pure (.list tag (← dashedItems n))
                else if anchor.isSome || tag.isSome then pure (.scalar tag .plain [])
                else failure
            | t =>
                if inLines && t = .blockSequenceStart then do
                  skip
                  pure (.list tag (← blockItems n))
                else if inLines && t = .blockMappingStart then do
                  skip
                  pure (.record tag (← blockEntries n))
                else if anchor.isSome || tag.isSome then pure (.scalar tag .plain [])
                else failure
          if let some count := count then endAnchored count made
          pure made

/-- A node, or a blank one where one of some tokens follows. -/
def nodeUnless (stops : List Token) (inLines dashes : Bool) : Nat → Read Node
  | 0 => failure
  | n + 1 => do
      if ← atOneOf stops then pure .blank else node inLines dashes n

/-- The items of an indented list of lines. -/
def blockItems : Nat → Read (List Node)
  | 0 => failure
  | n + 1 => do
      if ← accept .blockEntry then
        let item ← nodeUnless [.blockEntry, .blockEnd] true false n
        pure (item :: (← blockItems n))
      else if ← accept .blockEnd then pure []
      else failure

/-- The items of a list of lines that is not indented. -/
def dashedItems : Nat → Read (List Node)
  | 0 => failure
  | n + 1 => do
      if ← accept .blockEntry then
        let item ← nodeUnless [.blockEntry, .key, .value, .blockEnd] true false n
        pure (item :: (← dashedItems n))
      else pure []

/-- The entries of a mapping of lines. -/
def blockEntries : Nat → Read (List (Node × Node))
  | 0 => failure
  | n + 1 => do
      if ← accept .key then
        let key ← nodeUnless [.key, .value, .blockEnd] true true n
        let value ←
          if ← accept .value then nodeUnless [.key, .value, .blockEnd] true true n
          else pure .blank
        pure ((key, value) :: (← blockEntries n))
      else if ← accept .blockEnd then pure []
      else failure

/-- The items of a list between brackets, of which none is read yet or some are. -/
def flowItems (first : Bool) : Nat → Read (List Node)
  | 0 => failure
  | n + 1 => do
      if ← accept .flowSequenceEnd then pure []
      else
        if !first then
          if !(← accept .flowEntry) then failure
        if ← accept .key then
          let entry ← pairEntry n
          pure (.record none [entry] :: (← flowItems false n))
        else if ← accept .flowSequenceEnd then pure []
        else
          let item ← node false false n
          pure (item :: (← flowItems false n))

/-- The single entry of a mapping that is an item of a list between brackets, after the mark of
its key. Where the key is missing, the next token is passed over with it. -/
def pairEntry : Nat → Read (Node × Node)
  | 0 => failure
  | n + 1 => do
      let stops := [.flowEntry, .flowSequenceEnd]
      let key ←
        if ← atOneOf (.value :: stops) then do
          skip
          pure .blank
        else node false false n
      let value ←
        if ← accept .value then nodeUnless stops false false n
        else pure .blank
      pure (key, value)

/-- The entries of a mapping between braces, of which none is read yet or some are. -/
def flowEntries (first : Bool) : Nat → Read (List (Node × Node))
  | 0 => failure
  | n + 1 => do
      if ← accept .flowMappingEnd then pure []
      else
        if !first then
          if !(← accept .flowEntry) then failure
        if ← accept .key then
          let key ← nodeUnless [.value, .flowEntry, .flowMappingEnd] false false n
          let value ←
            if ← accept .value then nodeUnless [.flowEntry, .flowMappingEnd] false false n
            else pure .blank
          pure ((key, value) :: (← flowEntries false n))
        else if ← accept .flowMappingEnd then pure []
        else
          let key ← node false false n
          pure ((key, .blank) :: (← flowEntries false n))

end

/-! ## The document -/

/-- The lines before a document: at most one version, which has to be 1.1 or 1.2, and handles, of
which no two are the same. Tells whether there are any. -/
def directives (versioned : Bool) (own : List (TagText × TagText)) : Nat → Read Bool
  | 0 => failure
  | n + 1 => do
      match ← peek with
      | .versionDirective major minor => do
          skip
          if versioned || major ≠ 1 || (minor ≠ 1 && minor ≠ 2) then failure
          directives true own n
      | .tagDirective handle first => do
          skip
          if own.any fun h => h.1 = handle then failure
          directives versioned (own ++ [(handle, first)]) n
      | _ => do
          modify fun s => { s with handles := own ++ standardHandles }
          pure (versioned || !own.isEmpty)

/-- The root of the only document, if there is one. After it comes nothing but its end. -/
def root (fuel : Nat) : Read (Option Node) := do
  if (← peek) = .streamEnd then return none
  let announced ← directives false [] fuel
  let started ← accept .documentStart
  if announced && !started then failure
  let root ←
    if started then
      match ← peek with
      | .versionDirective _ _ | .tagDirective _ _ => pure .blank
      | _ => nodeUnless [.documentStart, .documentEnd, .streamEnd] true false fuel
    else node true false fuel
  afterDocument fuel
  pure (some root)
where
  /-- Passes over the marks at the end of a document, after which the text has to end. -/
  afterDocument : Nat → Read Unit
    | 0 => failure
    | n + 1 => do
        if ← accept .documentEnd then afterDocument n
        else if (← peek) = .streamEnd then pure ()
        else failure

end Read

namespace Document

/-- The document that some tokens stand for. -/
def ofTokens? (tokens : List Token) : Option Document := do
  let (root, s) ← (Read.root (4 * tokens.length + 8)).run { tokens }
  let anchored := s.holders.filterMap fun (number, count) =>
    (s.finished.lookup count).map fun node => (number, node)
  pure { root, anchored }

/-- The document that a text writes. -/
def parse? (text : String) : Option Document := do
  ofTokens? (← tokens? text.toList)

end Document

end Scaffolder.Yaml
